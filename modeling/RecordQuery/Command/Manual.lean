/-
# The manual

The texts that explain the query language: an overview, one text for each topic,
and the list of functions with their calls.  A topic answers to several names,
in any case.
-/
import RecordQuery.Query.Builtin
import RecordQuery.Text.Lowercase

namespace RecordQuery

/-- What a text of the manual is about. -/
inductive Topic where
  | fields
  | filters
  | projections
  | sorting
deriving DecidableEq

namespace Topic

/-- The names of the topics. -/
def names : List (String × Topic) :=
  [("fields", .fields), ("field", .fields), ("values", .fields),
   ("filters", .filters), ("filter", .filters), ("where", .filters),
   ("projections", .projections), ("into", .projections), ("table", .projections),
   ("summary", .projections),
   ("sorting", .sorting), ("sort", .sorting)]

/-- The topic of a name, whatever its case. -/
def ofName? (name : String) : Option Topic :=
  names.lookup (String.ofList (Text.lowercase name.toList))

/-- The text about a topic. -/
def text : Topic → String
  | .fields => "FIELDS - Values in a query

FIELD REFERENCES
  h.<name>   header.<name>
  c.<name>   column.<name>
  p.<name>   property.<name>
    The value of a field of the current record. Names are matched exactly
    first, then ignoring ASCII case.

    Example:
      Query:  into table h.name
      Output: one column called \"name\"

SIZE
  sz.   sized.
    The number of cells of a table row, or the number of member rows of a
    summary row.

LITERALS
  .<text>
    Everything after the leading dot, taken as text.

    Example:
      filter h.numberrange eq .4

FUNCTION CALLS
  f.<name>   f.<name>[arg,arg,...]
    Arguments are fields, literals or nested calls, separated by commas.
    Commas inside a nested call's brackets are not supported.

    Example:
      f.year[h.date]
      f.as[h.subject,.Topic]

COLUMN NAMES
  Projected columns are named after their expression: a field uses its name,
  a literal its text (non-letters become \"-\"), and a call joins the function
  name with its argument names, e.g. f.sum[h.size] becomes \"sum-size\".
  f.as[value,.name] names its column explicitly.
"
  | .filters => "FILTERS - Keeping matching records

CONDITIONS
  <operand> eq <operand>          Equal text
  <operand> contains <operand>    Left side contains right side
  <operand> icontains <operand>   Same, ignoring case
  not <condition>                 Negation

  Operands are field references or literals. Values are compared as text.

CHAINING
  filter h.a eq .x where h.b contains .y
    Every condition must hold. \"filter\" and \"where\" are interchangeable.

  Example:
    filter not h.agent icontains .Kmail
"
  | .projections => "PROJECTIONS - Building new rows

INTO TABLE
  into table <columns>
    One output row per record with one cell per column.

    Example:
      into table h.name f.year[h.date]

INTO SUMMARY
  into summary <columns>
    One output row per distinct combination of column values, in the order
    the combinations were first seen.

  into summary <columns> calculate <columns>
    Adds aggregate columns. Key columns stay available as c.<name>; new
    columns are evaluated against the group, so aggregates such as f.count
    and f.sum see every member row.

    Example:
      into summary h.numberrange calculate f.count f.sum[h.numberrange]
"
  | .sorting => "SORTING - Ordering records

  sort <keys>
    Orders by the first key, then by the next key where the first is equal.
    Records equal on every key keep their order.

    Example:
      into table h.name sort c.name

  Ordering between different kinds of value: nil < integer < text < list.
"

end Topic

namespace Manual

/-- The text that lists the topics. -/
def overview : String :=
  "TALLY QUERY SYNTAX

A query is a flat list of words. Clauses start with a keyword and run in
order, each one working on the result of the clause before it.

  filter <condition> [filter|where <condition>]...
  into table <columns>
  into summary <columns> [calculate <columns>]
  sort <keys>

TOPICS

  fields            Field references, literals and function calls
  filters           Conditions: eq, contains, icontains, not
  projections       into table, into summary, calculate
  sorting           Multi-key sorting

QUICK REFERENCE

  h.name            Field of the input record
  c.name            Column of a table or summary row
  .text             Literal text
  f.count           Function call
  f.sum[h.size]     Function call with arguments

Run 'tally syntax <topic>' for details.
Run 'tally functions' for the function list.
"

/-- The text with blanks up to a width. -/
def padded (width : Nat) (s : String) : String :=
  s ++ String.ofList (List.replicate (width - s.length) ' ')

/-- The line of a call. -/
def usageLine (name : String) (s : Signature) : String :=
  "  " ++ padded 24 (s.usage name) ++ s.description ++ "\n"

/-- The list of the functions of a registry. -/
def functionList (fs : Registry) : String :=
  "FUNCTIONS\n" ++ String.join (fs.sorted.map fun b =>
    "\n" ++ String.join (b.signatures.map (usageLine b.name)))

end Manual

end RecordQuery
