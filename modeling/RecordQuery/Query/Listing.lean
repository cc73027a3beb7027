/-
# Listings of tokens and plans

A listing shows every part of a tree by its name.  It is written on one line, or
indented with every part on a line of its own and a comma after it:

    Sort(                       Sort([Field("h.a")])
        [
            Field(
                "h.a",
            ),
        ],
    )
-/
import RecordQuery.Query.Plan
import RecordQuery.Query.Token
import RecordQuery.Text.Quoted

namespace RecordQuery

/-- Where a listing is written: on one line, or inside so many indented blocks. -/
inductive Margin where
  | line
  | indented (depth : Nat)

/-- The text of a part of a tree at a margin. -/
abbrev Listing := Margin → String

namespace Listing

/-- A part without parts. -/
def atom (text : String) : Listing := fun _ => text

/-- A piece of text in quotes. -/
def text (s : String) : Listing :=
  atom (Text.quoted s)

/-- The blanks at the start of a line. -/
def pad (depth : Nat) : String :=
  String.ofList (List.replicate (4 * depth) ' ')

/-- Parts between two brackets; `gap` separates them from the brackets when they
stand on one line. -/
def block (opening gap closing : String) (parts : List Listing) : Listing := fun margin =>
  if parts.isEmpty then opening ++ closing
  else
    match margin with
    | .line => opening ++ gap ++ ", ".intercalate (parts.map (· margin)) ++ gap ++ closing
    | .indented depth =>
        let line := fun (part : Listing) =>
          pad (depth + 1) ++ part (.indented (depth + 1)) ++ ",\n"
        opening ++ "\n" ++ String.join (parts.map line) ++ pad depth ++ closing

/-- A named part that holds others in order. -/
def node (name : String) (parts : List Listing) : Listing :=
  block (name ++ "(") "" ")" parts

/-- A named part that holds others under names. -/
def record (name : String) (fields : List (String × Listing)) : Listing :=
  block (name ++ " \x7b") " " "\x7d"
    (fields.map fun field margin => field.1 ++ ": " ++ field.2 margin)

/-- Parts in a list. -/
def list (parts : List Listing) : Listing :=
  block "[" "" "]" parts

end Listing

open Listing

mutual

/-- The listing of an expression. -/
def Expr.listing : Expr → Listing
  | .literal t => node "Literal" [text t]
  | .field key => node "Field" [text key]
  | .call function args =>
      record "Function" [("name", text function), ("args", list (argListings args))]

/-- The listing of each argument. -/
def argListings : List Expr → List Listing
  | [] => []
  | e :: es => e.listing :: argListings es

end

/-- The listing of a comparison. -/
def Comparison.listing : Comparison → Listing
  | .equals => atom "Equals"
  | .contains => atom "Contains"
  | .containsIgnoringCase => atom "IContains"

/-- The listing of a condition. -/
def Condition.listing : Condition → Listing
  | .not c => node "Not" [c.listing]
  | .compare op lhs rhs =>
      record "Compare" [("op", op.listing), ("lhs", lhs.listing), ("rhs", rhs.listing)]

/-- The listing of a column. -/
def Column.listing (c : Column) : Listing :=
  record "ColumnExpr" [("name", text c.name), ("expr", c.expr.listing)]

/-- The listing of a token. -/
def Token.listing : Token → Listing
  | .terminator word => node "Terminator" [text word]
  | .not => atom "Not"
  | .compare op => node "Compare" [op.listing]
  | .value e => node "Value" [e.listing]

mutual

/-- The listing of a plan. -/
def Plan.listing : Plan → Listing
  | .compound plans => node "Compound" [list (planListings plans)]
  | .filter c => node "Filter" [c.listing]
  | .table columns => node "Table" [list (columns.map Column.listing)]
  | .group columns => node "Group" [list (columns.map Column.listing)]
  | .sort keys => node "Sort" [list (keys.map Expr.listing)]

/-- The listing of each part of a compound. -/
def planListings : List Plan → List Listing
  | [] => []
  | p :: ps => p.listing :: planListings ps

end

end RecordQuery
