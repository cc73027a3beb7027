/-
# Why words are no query

Each constructor of `ParseError` is one cause and carries what its message
quotes; the wording is in `ParseError.message` alone.
-/
import RecordQuery.Query.Listing
import RecordQuery.Record.Error

namespace RecordQuery

/-- Why words cannot be read as a query. -/
inductive ParseError where
  /-- The word has no known beginning. -/
  | unknownToken (word : String)
  /-- No expression starts with these words. -/
  | nothingFound (words : List String)
  /-- A list of expressions holds a token that is none. -/
  | unexpectedToken (token : Token)
  /-- A clause left as many words as it was given. -/
  | noProgress (words : List String)
  /-- Nothing can be made `into` this. -/
  | unknownIntoTarget (target : String)
  /-- The word is no well-formed call. -/
  | invalidFunctionExpression (word : String)
  /-- No function of this name is registered. -/
  | unknownFunction (name : String)
  /-- No clause starts with this word. -/
  | unknownExpression (word : String)

namespace ParseError

/-- The place in a query where these words stand: the first three of them. -/
def place (words : List String) : String :=
  if words.isEmpty then "end of input" else " ".intercalate (words.take 3)

/-- The wording of an error. -/
def message : ParseError → String
  | .unknownToken word => "Unknown token: " ++ word
  | .nothingFound words => "No expression found at: " ++ place words
  | .unexpectedToken token =>
      "Parser fault: unexpected token " ++ token.listing .line ++ " in column list"
  | .noProgress words => "Parser fault: no progress at '" ++ " ".intercalate words ++ "'"
  | .unknownIntoTarget target =>
      "Unknown into target: '" ++ target ++ "' (expected 'table' or 'summary')"
  | .invalidFunctionExpression word => "Invalid function expression: " ++ word
  | .unknownFunction name => "Unknown function: f." ++ name
  | .unknownExpression word => "Unknown expression: " ++ word

end ParseError

/-- Why a query has no result: its words cannot be read, or its plan cannot be run
to the end. -/
inductive QueryError where
  | parse (e : ParseError)
  | eval (e : EvalError)

/-- The wording of an error. -/
def QueryError.message : QueryError → String
  | .parse e => "Parse error: " ++ e.message
  | .eval e => "Evaluation error: " ++ e.message

end RecordQuery
