/-
# Keys

A key names a value of a record in a dotted namespace: the part before the
first dot is the scheme, the rest is the name.  `Lookup` says what a key asks
for; which spelling of a scheme was used no longer shows in it.

    h.name  c.name  p.name  name     the field called `name`
    sz.                              the size of the record
    sz.name                          the size of the field called `name`
-/

namespace RecordQuery

namespace Key

/-- The part before the first dot, if there is a dot, and what follows. -/
def split (key : String) : Option String × String :=
  match key.toList.dropWhile (· ≠ '.') with
  | [] => (none, key)
  | _ :: rest => (some (String.ofList (key.toList.takeWhile (· ≠ '.'))), String.ofList rest)

/-- The spellings of the scheme that names a field. -/
def fieldSchemes : List String :=
  ["h", "header", "c", "column", "p", "property"]

/-- The spellings of the scheme that names a size. -/
def sizeSchemes : List String :=
  ["sz", "sized"]

/-- The key that asks for the column of the given name. -/
def column (name : String) : String :=
  "c." ++ name

end Key

/-- What a key asks of a record. -/
inductive Lookup where
  | size
  | sizeOf (name : String)
  | field (name : String)
  | unknown
deriving DecidableEq

/-- What the key asks for; a key without a scheme names a field. -/
def Lookup.ofKey (key : String) : Lookup :=
  match Key.split key with
  | (none, name) => .field name
  | (some scheme, name) =>
      if scheme ∈ Key.sizeSchemes then
        if name = "" then .size else .sizeOf name
      else if scheme ∈ Key.fieldSchemes then .field name
      else .unknown

end RecordQuery
