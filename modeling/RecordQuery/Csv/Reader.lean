/-
# Reading comma-separated values

The reader goes over the symbols of a text once, in one of five modes.

    between      before a record: line ends are skipped
    fieldStart   before a field: a quote opens a quoted field
    plain        inside a field: quotes are like any other symbol
    quoted       inside quotes: only a quote is special
    quoteSeen    after a quote inside quotes: a second one stands for itself,
                 and anything else ends the quotes

A carriage return or a line feed ends a record.  The first record holds the
column names, and every other one must have as many fields.  The symbols are
characters, or bytes where the bytes are no UTF-8 text or the delimiter is no
character; the fields of bytes are decoded one by one.
-/
import RecordQuery.Record.Basic
import RecordQuery.Text.Utf8

namespace RecordQuery.Csv

/-! ## Records of raw fields -/

/-- The symbols that mean something to the reader. -/
structure Dialect (α : Type) where
  delimiter : α
  quote : α
  cr : α
  lf : α

/-- A place in the input: the line, from 1, and the number of bytes before it. -/
structure Position where
  line : Nat
  byte : Nat
deriving DecidableEq

/-- The fields of a record and the place where its reading began. -/
structure RawRecord (α : Type) where
  start : Position
  fields : List (List α)

/-- Where the reader is inside a record. -/
inductive Mode where
  | between
  | fieldStart
  | plain
  | quoted
  | quoteSeen
deriving DecidableEq

/-- What the reader knows: its mode, the symbols of the current field and the
fields of the current record, both latest first, where the record began, and
where the reader is. -/
structure Scan (α : Type) where
  mode : Mode
  symbols : List α
  fields : List (List α)
  start : Position
  here : Position

section

variable {α : Type} [DecidableEq α]

/-- Does the symbol end a record? -/
def Dialect.isLineEnd (d : Dialect α) (a : α) : Bool :=
  a = d.cr || a = d.lf

namespace Scan

/-- Nothing has been read, from the given place on. -/
def atStart (start here : Position) : Scan α :=
  ⟨.between, [], [], start, here⟩

/-- The fields of the record, if it ended here. -/
def closed (s : Scan α) : List (List α) :=
  (s.symbols.reverse :: s.fields).reverse

/-- The symbol belongs to the field. -/
def push (s : Scan α) (mode : Mode) (a : α) : Scan α :=
  { s with mode, symbols := a :: s.symbols }

/-- The field ends, and another one begins. -/
def endField (s : Scan α) : Scan α :=
  { s with mode := .fieldStart, symbols := [], fields := s.symbols.reverse :: s.fields }

/-- The record ends. -/
def endRecord (s : Scan α) : Scan α × Option (RawRecord α) :=
  (atStart s.here s.here, some ⟨s.start, s.closed⟩)

/-- A symbol outside quotes, other than a quote that opens a field. -/
def unquoted (d : Dialect α) (s : Scan α) (a : α) : Scan α × Option (RawRecord α) :=
  if a = d.delimiter then (s.endField, none)
  else if d.isLineEnd a then s.endRecord
  else (s.push .plain a, none)

/-- A symbol at the start of a field. -/
def opening (d : Dialect α) (s : Scan α) (a : α) : Scan α × Option (RawRecord α) :=
  if a = d.quote then ({ s with mode := .quoted }, none) else s.unquoted d a

/-- One symbol, and the record that it ends. -/
def step (d : Dialect α) (s : Scan α) (a : α) : Scan α × Option (RawRecord α) :=
  match s.mode with
  | .between => if d.isLineEnd a then (s, none) else s.opening d a
  | .fieldStart => s.opening d a
  | .plain => s.unquoted d a
  | .quoted =>
      if a = d.quote then ({ s with mode := .quoteSeen }, none) else (s.push .quoted a, none)
  | .quoteSeen => if a = d.quote then (s.push .quoted a, none) else s.unquoted d a

/-- The place after a symbol. -/
def advance (d : Dialect α) (width : α → Nat) (s : Scan α) (a : α) : Scan α :=
  { s with
    here := ⟨if a = d.lf then s.here.line + 1 else s.here.line, s.here.byte + width a⟩ }

/-- The records from here to the end of the input. -/
def records (d : Dialect α) (width : α → Nat) : Scan α → List α → List (RawRecord α)
  | s, [] => if s.mode = .between then [] else [⟨s.start, s.closed⟩]
  | s, a :: rest =>
      match (s.advance d width a).step d a with
      | (s', none) => records d width s' rest
      | (s', some r) => r :: records d width s' rest

end Scan

end

/-! ## Tables -/

/-- Why a text is no table. -/
inductive ReadError where
  /-- Record number `record`, from 0, has `found` fields instead of `expected`. -/
  | unequalLengths (record : Nat) (start : Position) (found expected : Nat)
  /-- A field of a record is no UTF-8 text after so many bytes. -/
  | invalidText (record : Nat) (start : Position) (field byte : Nat)
deriving DecidableEq

/-- The wording of an error. -/
def ReadError.message : ReadError → String
  | .unequalLengths record start found expected =>
      s!"CSV error: record {record} (line: {start.line}, byte: {start.byte}): "
        ++ s!"found record with {found} fields, but the previous record has {expected} fields"
  | .invalidText record start field byte =>
      s!"CSV parse error: record {record} (line {start.line}, field: {field}, "
        ++ s!"byte: {start.byte}): invalid utf-8: invalid UTF-8 in field {field} "
        ++ s!"near byte index {byte}"

/-- The texts of the fields from number `field` on, or the first field that is no
text with the number of bytes that are. -/
def decodeFields {α : Type} (decode : List α → Except Nat String) :
    (field : Nat) → List (List α) → Except (Nat × Nat) (List String)
  | _, [] => .ok []
  | field, f :: fs =>
      match decode f with
      | .error byte => .error (field, byte)
      | .ok text =>
          match decodeFields decode (field + 1) fs with
          | .error e => .error e
          | .ok texts => .ok (text :: texts)

/-- The texts of record number `record`, or the error that one of them is none. -/
def decodeRecord {α : Type} (decode : List α → Except Nat String) (record : Nat)
    (r : RawRecord α) : Except ReadError (List String) :=
  match decodeFields decode 0 r.fields with
  | .ok texts => .ok texts
  | .error (field, byte) => .error (.invalidText record r.start field byte)

/-- The rows under the headers, from record number `record` on. -/
def rowsFrom {α : Type} (decode : List α → Except Nat String) (headers : Headers) :
    (record : Nat) → List (RawRecord α) → Except ReadError (List Row)
  | _, [] => .ok []
  | record, r :: rs =>
      let expected := headers.names.length
      if r.fields.length ≠ expected then
        .error (.unequalLengths record r.start r.fields.length expected)
      else
        match decodeRecord decode record r with
        | .error e => .error e
        | .ok texts =>
            match rowsFrom decode headers (record + 1) rs with
            | .error e => .error e
            | .ok rows => .ok (⟨headers, texts.map .text⟩ :: rows)

/-- The rows of the records after the first, which holds the headers. -/
def tableOf {α : Type} (decode : List α → Except Nat String) :
    List (RawRecord α) → Except ReadError (List Row)
  | [] => .ok []
  | r :: rs =>
      match decodeRecord decode 0 r with
      | .error e => .error e
      | .ok names => rowsFrom decode ⟨names⟩ 1 rs

/-- The place before any input. -/
def origin : Position := ⟨1, 0⟩

/-- The mark that a text may begin with; it does not belong to the first field. -/
def byteOrderMark : Char := Char.ofNat 0xFEFF

/-- The symbols of a text whose fields are separated by `delimiter`. -/
def textDialect (delimiter : Char) : Dialect Char :=
  ⟨delimiter, '"', '\r', '\n'⟩

/-- The records of a text. -/
def textRecords (delimiter : Char) (cs : List Char) : List (RawRecord Char) :=
  let scan := fun here => Scan.records (textDialect delimiter) Char.utf8Size (.atStart origin here)
  match cs with
  | [] => []
  | c :: rest =>
      if c = byteOrderMark then scan ⟨1, c.utf8Size⟩ rest else scan origin (c :: rest)

/-- The rows of a text. -/
def readText (delimiter : Char) (cs : List Char) : Except ReadError (List Row) :=
  tableOf (fun field => .ok (String.ofList field)) (textRecords delimiter cs)

/-- The symbols of bytes whose fields are separated by `delimiter`. -/
def byteDialect (delimiter : UInt8) : Dialect UInt8 :=
  ⟨delimiter, 34, 13, 10⟩

/-- The records of bytes. -/
def byteRecords (delimiter : UInt8) (bytes : List UInt8) : List (RawRecord UInt8) :=
  let scan := fun here => Scan.records (byteDialect delimiter) (fun _ => 1) (.atStart origin here)
  match bytes with
  | 0xEF :: 0xBB :: 0xBF :: rest => scan ⟨1, 3⟩ rest
  | bytes => scan origin bytes

/-- The rows of bytes, each field of which is a text of its own; the first that is none is
the error. -/
def readRawBytes (delimiter : UInt8) (bytes : List UInt8) : Except ReadError (List Row) :=
  tableOf (fun field => (Text.Utf8.decode field).map String.ofList) (byteRecords delimiter bytes)

/-- The rows of bytes.  A delimiter that is no character by itself may stand anywhere in a
text, and then the fields are what is between such bytes. -/
def readBytes (delimiter : UInt8) (bytes : List UInt8) : Except ReadError (List Row) :=
  match Text.Utf8.decode bytes with
  | .ok cs =>
      if delimiter < 128 then readText (Char.ofUInt8 delimiter) cs
      else readRawBytes delimiter bytes
  | .error _ => readRawBytes delimiter bytes

/-- The delimiter of comma-separated values. -/
def comma : UInt8 := 44

/-- The delimiter of values that are separated by tabs. -/
def tab : UInt8 := 9

end RecordQuery.Csv
