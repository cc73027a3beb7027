/-
# The table that records make

The first record holds the names of the columns and every other one is a row under them.
A record with another number of fields is refused, so every row has a text for each of the
headers (`exists_texts_of_readBytes`), and what is read is rectangular.  Records that all
have the same number of fields, each of them a text, are never refused: `tableOf_ofList`
says which table they make.
-/
import RecordQuery.Csv.Reader
import RecordQuery.Proofs.Record.Rectangular
import RecordQuery.Proofs.Text.Utf8

namespace RecordQuery.Csv

variable {α : Type} {decode : List α → Except Nat String}

/-! ## What is read is rectangular -/

theorem length_decodeFields : ∀ {field : Nat} {fs : List (List α)} {texts : List String},
    decodeFields decode field fs = .ok texts → texts.length = fs.length
  | _, [], _, h => by
      cases h
      rfl
  | field, f :: fs, texts, h => by
      unfold decodeFields at h
      split at h
      · cases h
      · split at h
        · cases h
        · rename_i hfs
          cases h
          rw [List.length_cons, List.length_cons, length_decodeFields hfs]

theorem length_decodeRecord {record : Nat} {r : RawRecord α} {texts : List String}
    (h : decodeRecord decode record r = .ok texts) : texts.length = r.fields.length := by
  unfold decodeRecord at h
  split at h
  · rename_i hfields
    cases h
    exact length_decodeFields hfields
  · cases h

/-- Every row has a text for each of the headers. -/
theorem exists_texts_of_rowsFrom {headers : Headers} : ∀ {record : Nat}
    {rs : List (RawRecord α)} {rows : List Row}, rowsFrom decode headers record rs = .ok rows →
      ∀ row ∈ rows, ∃ texts : List String, row = ⟨headers, texts.map .text⟩
        ∧ texts.length = headers.names.length
  | _, [], _, h => by
      cases h
      exact fun _ hrow => absurd hrow List.not_mem_nil
  | record, r :: rs, rows, h => by
      unfold rowsFrom at h
      dsimp only at h
      split at h
      · cases h
      · rename_i hlength
        split at h
        · cases h
        · rename_i texts htexts
          split at h
          · cases h
          · rename_i rows' hrows
            cases h
            refine List.forall_mem_cons.mpr ⟨⟨texts, rfl, ?_⟩, exists_texts_of_rowsFrom hrows⟩
            rw [length_decodeRecord htexts]
            exact Decidable.not_not.mp hlength

/-- The rows have one list of headers, and a text for each of them. -/
theorem exists_texts_of_tableOf {rs : List (RawRecord α)} {rows : List Row}
    (h : tableOf decode rs = .ok rows) :
    ∃ headers : Headers, ∀ row ∈ rows, ∃ texts : List String,
      row = ⟨headers, texts.map .text⟩ ∧ texts.length = headers.names.length := by
  cases rs with
  | nil =>
      cases h
      exact ⟨⟨[]⟩, fun _ hrow => absurd hrow List.not_mem_nil⟩
  | cons r rs =>
      unfold tableOf at h
      dsimp only at h
      split at h
      · cases h
      · exact ⟨_, exists_texts_of_rowsFrom h⟩

theorem exists_texts_of_readBytes {delimiter : UInt8} {bytes : List UInt8} {rows : List Row}
    (h : readBytes delimiter bytes = .ok rows) :
    ∃ headers : Headers, ∀ row ∈ rows, ∃ texts : List String,
      row = ⟨headers, texts.map .text⟩ ∧ texts.length = headers.names.length := by
  unfold readBytes at h
  split at h
  · split at h
    · exact exists_texts_of_tableOf h
    · exact exists_texts_of_tableOf h
  · exact exists_texts_of_tableOf h

theorem rectangular_readBytes {delimiter : UInt8} {bytes : List UInt8} {rows : List Row}
    (h : readBytes delimiter bytes = .ok rows) : (Collection.rows rows).Rectangular := by
  obtain ⟨headers, htexts⟩ := exists_texts_of_readBytes h
  refine .under headers.names fun e he => ?_
  obtain ⟨row, hrow, rfl⟩ := List.mem_map.mp he
  obtain ⟨texts, rfl, hlength⟩ := htexts row hrow
  refine @Entry.Rectangular.row ⟨headers, texts.map .text⟩ ?_
  rw [List.length_map]
  exact hlength

/-- A row that was read has a text under every one of its headers. -/
theorem exists_text_of_readBytes {delimiter : UInt8} {bytes : List UInt8} {rows : List Row}
    (h : readBytes delimiter bytes = .ok rows) {row : Row} (hrow : row ∈ rows) {name : String}
    (hname : name ∈ row.headers.names) : ∃ text : String, row.cell? name = some (.text text) := by
  obtain ⟨headers, htexts⟩ := exists_texts_of_readBytes h
  obtain ⟨texts, rfl, hlength⟩ := htexts row hrow
  have hplace : headers.names.idxOf name < texts.length := by
    rw [hlength]
    exact List.idxOf_lt_length_of_mem hname
  refine ⟨texts[headers.names.idxOf name], ?_⟩
  rw [Row.cell?, Headers.cell?_of_mem hname, List.getElem?_map, List.getElem?_eq_getElem hplace]
  rfl

/-! ## What is rectangular is read -/

/-- The bytes of a text are read as the text, if the delimiter is a character. -/
theorem readBytes_toUTF8 {delimiter : UInt8} (h : delimiter < 128) (cs : List Char) :
    readBytes delimiter (String.ofList cs).toUTF8.toList
      = readText (Char.ofUInt8 delimiter) cs := by
  rw [readBytes, Text.Utf8.decode_toUTF8]
  exact if_pos h

/-- The field of a text is the text of its characters. -/
theorem decodeFields_ofList (field : Nat) (fs : List (List Char)) :
    decodeFields (fun f => .ok (String.ofList f)) field fs = .ok (fs.map String.ofList) := by
  induction fs generalizing field with
  | nil => rfl
  | cons f fs ih =>
      rw [decodeFields]
      dsimp only
      rw [ih]
      rfl

theorem decodeRecord_ofList (record : Nat) (r : RawRecord Char) :
    decodeRecord (fun f => .ok (String.ofList f)) record r = .ok (r.fields.map String.ofList) := by
  rw [decodeRecord, decodeFields_ofList]

theorem rowsFrom_ofList {headers : Headers} {rs : List (RawRecord Char)}
    (h : ∀ r ∈ rs, r.fields.length = headers.names.length) (record : Nat) :
    rowsFrom (fun f => .ok (String.ofList f)) headers record rs
      = .ok (rs.map fun r => ⟨headers, (r.fields.map String.ofList).map .text⟩) := by
  induction rs generalizing record with
  | nil => rfl
  | cons r rs ih =>
      obtain ⟨hr, hrs⟩ := List.forall_mem_cons.mp h
      rw [rowsFrom]
      rw [if_neg (Decidable.not_not.mpr hr), decodeRecord_ofList]
      dsimp only
      rw [ih hrs]
      rfl

/-- Records with as many fields as there are names make one row each. -/
theorem tableOf_ofList {rs : List (RawRecord Char)} {names : List (List Char)}
    {rows : List (List (List Char))} (hfields : rs.map RawRecord.fields = names :: rows)
    (hlength : ∀ fs ∈ rows, fs.length = names.length) :
    tableOf (fun f => .ok (String.ofList f)) rs
      = .ok (rows.map fun fs => ⟨⟨names.map String.ofList⟩, (fs.map String.ofList).map .text⟩) := by
  obtain ⟨r, rs', rfl, rfl, rfl⟩ := List.map_eq_cons_iff.mp hfields
  rw [tableOf, decodeRecord_ofList]
  dsimp only
  rw [rowsFrom_ofList, List.map_map]
  · rfl
  · intro r' hr'
    rw [List.length_map]
    exact hlength _ (List.mem_map_of_mem hr')

end RecordQuery.Csv
