/-
# JSON

A JSON value is null, a number, a string, an array or an object.  Nil, integers, texts and
lists become the first four of these; objects are made of records.  Two layouts are written:
the compact one, without any blank, and the indented one, with one element or member a line.
-/
import RecordQuery.Value.Basic

namespace RecordQuery

/-- A JSON value whose numbers are integers.  The members of an object have names. -/
inductive Json where
  | null
  | number (n : Int64)
  | string (s : String)
  | array (items : List Json)
  | object (members : List (String × Json))

namespace Value

mutual

/-- The JSON value of a value. -/
def toJson : Value → Json
  | .text s => .string s
  | .integer n => .number n
  | .list vs => .array (toJsonEach vs)
  | .nil => .null

/-- The JSON values of values. -/
def toJsonEach : List Value → List Json
  | [] => []
  | v :: vs => v.toJson :: toJsonEach vs

end

theorem toJsonEach_eq_map (vs : List Value) : toJsonEach vs = vs.map toJson := by
  induction vs with
  | nil => rfl
  | cons v vs ih => rw [toJsonEach, ih, List.map_cons]

end Value

namespace Json

/-! ## Strings and numbers -/

/-- Two hexadecimal digits. -/
def hexPair (n : Nat) : List Char :=
  [Nat.digitChar (n / 16), Nat.digitChar (n % 16)]

/-- A character inside a JSON string.  Only the quote, the backslash and the
control characters are escaped. -/
def stringChar (c : Char) : List Char :=
  if c = '"' then ['\\', '"']
  else if c = '\\' then ['\\', '\\']
  else if c.toNat = 8 then ['\\', 'b']
  else if c = '\t' then ['\\', 't']
  else if c = '\n' then ['\\', 'n']
  else if c.toNat = 12 then ['\\', 'f']
  else if c = '\r' then ['\\', 'r']
  else if c.toNat < 32 then ['\\', 'u', '0', '0'] ++ hexPair c.toNat
  else [c]

/-- A string between its quotes. -/
def quoted (s : String) : List Char :=
  '"' :: s.toList.flatMap stringChar ++ ['"']

/-! ## The compact layout -/

mutual

/-- A value without any blank. -/
def compact : Json → List Char
  | .null => ['n', 'u', 'l', 'l']
  | .number n => Decimal.ofInt n.toInt
  | .string s => quoted s
  | .array items => '[' :: compactItems items ++ [']']
  | .object members => '\x7b' :: compactMembers members ++ ['\x7d']

/-- The items of an array with a comma between any two. -/
def compactItems : List Json → List Char
  | [] => []
  | [j] => compact j
  | j :: k :: rest => compact j ++ ',' :: compactItems (k :: rest)

/-- The members of an object with a comma between any two. -/
def compactMembers : List (String × Json) → List Char
  | [] => []
  | [(name, j)] => quoted name ++ ':' :: compact j
  | (name, j) :: m :: rest => quoted name ++ ':' :: compact j ++ ',' :: compactMembers (m :: rest)

end

/-! ## The indented layout -/

/-- A new line that starts `depth` steps in, two blanks a step. -/
def newline (depth : Nat) : List Char :=
  '\n' :: List.replicate (2 * depth) ' '

/-- Items between brackets, each on a line of its own one step further in;
without items the brackets stand together. -/
def bracketed (opening closing : Char) (depth : Nat) (items : List (List Char)) : List Char :=
  if items.isEmpty then [opening, closing]
  else opening :: newline (depth + 1)
    ++ List.intercalate (',' :: newline (depth + 1)) items
    ++ newline depth ++ [closing]

mutual

/-- A value with one element or member a line, inside `depth` brackets. -/
def indented (depth : Nat) : Json → List Char
  | .array items => bracketed '[' ']' depth (indentedItems (depth + 1) items)
  | .object members => bracketed '\x7b' '\x7d' depth (indentedMembers (depth + 1) members)
  | j => compact j

/-- The items of an array, each inside `depth` brackets. -/
def indentedItems (depth : Nat) : List Json → List (List Char)
  | [] => []
  | j :: rest => indented depth j :: indentedItems depth rest

/-- The members of an object, each inside `depth` brackets. -/
def indentedMembers (depth : Nat) : List (String × Json) → List (List Char)
  | [] => []
  | (name, j) :: rest =>
      (quoted name ++ ':' :: ' ' :: indented depth j) :: indentedMembers depth rest

end

/-! ## Members of an object -/

/-- The members of an object in ascending order of their names, no name twice. -/
abbrev Object := List (String × Json)

/-- The object with the value under the name, in place of an earlier one. -/
def Object.insert (name : String) (j : Json) : Object → Object
  | [] => [(name, j)]
  | (other, k) :: rest =>
      match Ord.compare name.toList other.toList with
      | .lt => (name, j) :: (other, k) :: rest
      | .eq => (name, j) :: rest
      | .gt => (other, k) :: Object.insert name j rest

end Json

end RecordQuery
