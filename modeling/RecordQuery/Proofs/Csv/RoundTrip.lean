/-
# What is written is read back

The reader goes over what the writer has made of a record, field by field.

    the field       leads from the start of a field to where the field may end, with
                    just the characters of the field taken up
    a comma         ends the field there and starts the next
    a line feed     ends the field and the record

`exists_fieldsFrom_writeField` is the first of these, for a field in quotes and for one
without, and `fieldsFrom_line` puts the fields of a record together, by induction on them.
A record is never written as an empty line, which the reader would skip.

Where in the text a record begins is of no account for its fields (`Scan.Alike.records`),
so places are left out of everything that follows.
-/
import RecordQuery.Csv.Writer
import RecordQuery.Proofs.Csv.Table

namespace RecordQuery.Csv

/-! ## Places do not matter -/

namespace Scan

variable {α : Type}

/-- The scans differ in nothing but places. -/
structure Alike (s t : Scan α) : Prop where
  mode : s.mode = t.mode
  symbols : s.symbols = t.symbols
  fields : s.fields = t.fields

/-- The scans after a symbol differ in nothing but places, and the record that ends is
the same but for its place. -/
structure StepAlike (p q : Scan α × Option (RawRecord α)) : Prop where
  scan : Alike p.1 q.1
  record : p.2.map RawRecord.fields = q.2.map RawRecord.fields

theorem Alike.closed {s t : Scan α} (h : Alike s t) : s.closed = t.closed := by
  rw [Scan.closed, Scan.closed, h.symbols, h.fields]

theorem Alike.push {s t : Scan α} (h : Alike s t) (m : Mode) (a : α) :
    Alike (s.push m a) (t.push m a) :=
  ⟨rfl, congrArg (a :: ·) h.symbols, h.fields⟩

theorem Alike.endField {s t : Scan α} (h : Alike s t) : Alike s.endField t.endField :=
  ⟨rfl, rfl, by rw [Scan.endField, Scan.endField, h.symbols, h.fields]⟩

variable [DecidableEq α] {d : Dialect α}

theorem Alike.unquoted {s t : Scan α} (h : Alike s t) (a : α) :
    StepAlike (s.unquoted d a) (t.unquoted d a) := by
  unfold Scan.unquoted
  split
  · exact ⟨h.endField, rfl⟩
  split
  · exact ⟨⟨rfl, rfl, rfl⟩, congrArg some h.closed⟩
  · exact ⟨h.push .plain a, rfl⟩

theorem Alike.opening {s t : Scan α} (h : Alike s t) (a : α) :
    StepAlike (s.opening d a) (t.opening d a) := by
  unfold Scan.opening
  split
  · exact ⟨⟨rfl, h.symbols, h.fields⟩, rfl⟩
  · exact h.unquoted a

theorem Alike.step {s t : Scan α} (h : Alike s t) (a : α) :
    StepAlike (s.step d a) (t.step d a) := by
  unfold Scan.step
  rw [← h.mode]
  cases s.mode with
  | between =>
      dsimp only
      split
      · exact ⟨h, rfl⟩
      · exact h.opening a
  | fieldStart => exact h.opening a
  | plain => exact h.unquoted a
  | quoted =>
      dsimp only
      split
      · exact ⟨⟨rfl, h.symbols, h.fields⟩, rfl⟩
      · exact ⟨h.push .quoted a, rfl⟩
  | quoteSeen =>
      dsimp only
      split
      · exact ⟨h.push .quoted a, rfl⟩
      · exact h.unquoted a

/-- What is left of a text gives records with the same fields. -/
theorem Alike.records {width : α → Nat} {s t : Scan α} (h : Alike s t) (cs : List α) :
    (s.records d width cs).map RawRecord.fields = (t.records d width cs).map RawRecord.fields := by
  induction cs generalizing s t with
  | nil =>
      unfold Scan.records
      rw [← h.mode]
      split
      · rfl
      · rw [List.map_cons, List.map_cons, h.closed]
  | cons a cs ih =>
      have hadvance : Alike (s.advance d width a) (t.advance d width a) :=
        ⟨h.mode, h.symbols, h.fields⟩
      obtain ⟨hscan, hrecord⟩ := @Alike.step α _ d _ _ hadvance a
      unfold Scan.records
      revert hscan hrecord
      generalize (s.advance d width a).step d a = p
      generalize (t.advance d width a).step d a = q
      obtain ⟨s', r⟩ := p
      obtain ⟨t', r'⟩ := q
      intro hscan hrecord
      cases r with
      | none =>
          cases r' with
          | none => exact ih hscan
          | some r' => cases hrecord
      | some r =>
          cases r' with
          | none => cases hrecord
          | some r' =>
              rw [List.map_cons, List.map_cons, Option.some.inj hrecord, ih hscan]

end Scan

/-- The fields of the records from here on, with commas between them. -/
def fieldsFrom (m : Mode) (symbols : List Char) (fields : List (List Char)) (cs : List Char) :
    List (List (List Char)) :=
  (Scan.records (textDialect ',') Char.utf8Size ⟨m, symbols, fields, origin, origin⟩ cs).map
    RawRecord.fields

variable {m m' : Mode} {symbols symbols' : List Char} {fields fields' : List (List Char)}

/-- What a character does that ends no record, wherever it stands. -/
theorem fieldsFrom_cons_of_none {a : Char}
    (h : ∀ here : Position, Scan.step (textDialect ',') ⟨m, symbols, fields, origin, here⟩ a
      = (⟨m', symbols', fields', origin, here⟩, none)) (cs : List Char) :
    fieldsFrom m symbols fields (a :: cs) = fieldsFrom m' symbols' fields' cs := by
  rw [fieldsFrom, Scan.records, Scan.advance, h]
  refine Scan.Alike.records ?_ cs
  exact ⟨rfl, rfl, rfl⟩

theorem fieldsFrom_cons_of_some {a : Char} {fs : List (List Char)}
    (h : ∀ here : Position, Scan.step (textDialect ',') ⟨m, symbols, fields, origin, here⟩ a
      = (.atStart here here, some ⟨origin, fs⟩)) (cs : List Char) :
    fieldsFrom m symbols fields (a :: cs) = fs :: fieldsFrom .between [] [] cs := by
  rw [fieldsFrom, Scan.records, Scan.advance, h]
  refine congrArg (fs :: ·) (Scan.Alike.records ?_ cs)
  exact ⟨rfl, rfl, rfl⟩

/-! ## One character -/

/-- Inside a record and outside quotes. -/
def Mode.Outside (m : Mode) : Prop :=
  m ≠ .between ∧ m ≠ .quoted

instance (m : Mode) : Decidable m.Outside :=
  inferInstanceAs (Decidable (_ ∧ _))

theorem step_of_outside {s : Scan Char} (hs : s.mode.Outside) {a : Char} (ha : a ≠ '"') :
    s.step (textDialect ',') a = s.unquoted (textDialect ',') a := by
  have hquote : a ≠ (textDialect ',').quote := ha
  unfold Scan.step
  cases hmode : s.mode with
  | between => exact absurd hmode hs.1
  | fieldStart => exact if_neg hquote
  | plain => rfl
  | quoted => exact absurd hmode hs.2
  | quoteSeen => exact if_neg hquote

theorem needsQuotes_eq_false {c : Char} (h : needsQuotes c = false) :
    c ≠ ',' ∧ c ≠ '"' ∧ c ≠ '\r' ∧ c ≠ '\n' := by
  simpa [needsQuotes] using h

theorem not_isLineEnd {c : Char} (hcr : c ≠ '\r') (hlf : c ≠ '\n') :
    ¬ (textDialect ',').isLineEnd c = true := by
  simp [Dialect.isLineEnd, textDialect, hcr, hlf]

theorem fieldsFrom_plain (hm : m.Outside) {c : Char} (hc : needsQuotes c = false)
    (cs : List Char) :
    fieldsFrom m symbols fields (c :: cs) = fieldsFrom .plain (c :: symbols) fields cs := by
  obtain ⟨hcomma, hquote, hcr, hlf⟩ := needsQuotes_eq_false hc
  refine fieldsFrom_cons_of_none (fun here => ?_) cs
  have hdelimiter : c ≠ (textDialect ',').delimiter := hcomma
  rw [step_of_outside hm hquote, Scan.unquoted, if_neg hdelimiter, if_neg (not_isLineEnd hcr hlf)]
  rfl

theorem fieldsFrom_comma (hm : m.Outside) (cs : List Char) :
    fieldsFrom m symbols fields (',' :: cs)
      = fieldsFrom .fieldStart [] (symbols.reverse :: fields) cs := by
  refine fieldsFrom_cons_of_none (fun here => ?_) cs
  exact step_of_outside hm (by decide)

theorem fieldsFrom_lineFeed (hm : m.Outside) (cs : List Char) :
    fieldsFrom m symbols fields ('\n' :: cs)
      = (symbols.reverse :: fields).reverse :: fieldsFrom .between [] [] cs := by
  refine fieldsFrom_cons_of_some (fun here => ?_) cs
  exact step_of_outside hm (by decide)

/-- Inside quotes a character stands for itself, as it is written there. -/
theorem fieldsFrom_quotedChar (c : Char) (cs : List Char) :
    fieldsFrom .quoted symbols fields (quotedChar c ++ cs)
      = fieldsFrom .quoted (c :: symbols) fields cs := by
  unfold quotedChar
  split
  · rename_i hquote
    subst hquote
    have hseen : fieldsFrom .quoted symbols fields ('"' :: '"' :: cs)
        = fieldsFrom .quoteSeen symbols fields ('"' :: cs) :=
      fieldsFrom_cons_of_none (fun _ => rfl) _
    exact hseen.trans (fieldsFrom_cons_of_none (fun _ => rfl) cs)
  · rename_i hquote
    have hother : c ≠ (textDialect ',').quote := hquote
    refine fieldsFrom_cons_of_none (fun here => ?_) cs
    exact if_neg hother

/-! ## One field -/

/-- A field is written in quotes, or as it is. -/
theorem writeField_eq (field : List Char) :
    writeField field = '"' :: (field.flatMap quotedChar ++ ['"'])
      ∨ writeField field = field ∧ ∀ c ∈ field, needsQuotes c = false := by
  unfold writeField
  split
  · exact Or.inl rfl
  · rename_i hany
    refine Or.inr ⟨rfl, ?_⟩
    simpa using hany

theorem exists_fieldsFrom_unquoted {field : List Char} (hm : m.Outside)
    (h : ∀ c ∈ field, needsQuotes c = false) :
    ∃ m' : Mode, m'.Outside ∧ ∀ cs : List Char,
      fieldsFrom m symbols fields (field ++ cs)
        = fieldsFrom m' (field.reverse ++ symbols) fields cs := by
  induction field generalizing m symbols with
  | nil => exact ⟨m, hm, fun _ => rfl⟩
  | cons c field ih =>
      obtain ⟨hc, hfield⟩ := List.forall_mem_cons.mp h
      obtain ⟨m', hm', hread⟩ := @ih .plain (c :: symbols) (by decide) hfield
      refine ⟨m', hm', fun cs => ?_⟩
      rw [List.cons_append, fieldsFrom_plain hm hc, hread, List.reverse_cons, List.append_assoc,
        List.singleton_append]

theorem fieldsFrom_quoted (field cs : List Char) :
    fieldsFrom .quoted symbols fields (field.flatMap quotedChar ++ cs)
      = fieldsFrom .quoted (field.reverse ++ symbols) fields cs := by
  induction field generalizing symbols with
  | nil => rfl
  | cons c field ih =>
      rw [List.flatMap_cons, List.append_assoc, fieldsFrom_quotedChar, ih, List.reverse_cons,
        List.append_assoc, List.singleton_append]

/-- A field as it is written is read up to where it may end. -/
theorem exists_fieldsFrom_writeField (field : List Char) (fields : List (List Char)) :
    ∃ m : Mode, m.Outside ∧ ∀ cs : List Char,
      fieldsFrom .fieldStart [] fields (writeField field ++ cs)
        = fieldsFrom m field.reverse fields cs := by
  rcases writeField_eq field with hwrite | ⟨hwrite, hplain⟩
  · refine ⟨.quoteSeen, by decide, fun cs => ?_⟩
    calc fieldsFrom .fieldStart [] fields (writeField field ++ cs)
        = fieldsFrom .fieldStart [] fields
            ('"' :: (field.flatMap quotedChar ++ '"' :: cs)) := by
          rw [hwrite, List.cons_append, List.append_assoc, List.singleton_append]
      _ = fieldsFrom .quoted [] fields (field.flatMap quotedChar ++ '"' :: cs) :=
          fieldsFrom_cons_of_none (fun _ => rfl) _
      _ = fieldsFrom .quoted field.reverse fields ('"' :: cs) := by
          rw [fieldsFrom_quoted, List.append_nil]
      _ = fieldsFrom .quoteSeen field.reverse fields cs :=
          fieldsFrom_cons_of_none (fun _ => rfl) cs
  · obtain ⟨m, hm, hread⟩ :=
      @exists_fieldsFrom_unquoted .fieldStart [] fields _ (by decide) hplain
    refine ⟨m, hm, fun cs => ?_⟩
    rw [hwrite, hread, List.append_nil]

/-! ## One record -/

theorem intercalate_writeField (field field' : List Char) (more : List (List Char)) :
    List.intercalate [','] ((field :: field' :: more).map writeField)
      = writeField field ++ ',' :: List.intercalate [','] ((field' :: more).map writeField) := by
  rw [List.map_cons, List.map_cons, List.intercalate_cons_cons, List.append_assoc,
    List.singleton_append]

/-- The fields on a line, behind those that were read before. -/
theorem fieldsFrom_line (field : List Char) (more before : List (List Char)) (cs : List Char) :
    fieldsFrom .fieldStart [] before
        (List.intercalate [','] ((field :: more).map writeField) ++ '\n' :: cs)
      = (before.reverse ++ field :: more) :: fieldsFrom .between [] [] cs := by
  induction more generalizing field before with
  | nil =>
      obtain ⟨m, hm, hread⟩ := exists_fieldsFrom_writeField field before
      rw [List.map_singleton, List.intercalate_singleton, hread, fieldsFrom_lineFeed hm,
        List.reverse_reverse, List.reverse_cons]
  | cons field' more ih =>
      obtain ⟨m, hm, hread⟩ := exists_fieldsFrom_writeField field before
      rw [intercalate_writeField, List.append_assoc, hread, List.cons_append,
        fieldsFrom_comma hm, ih, List.reverse_reverse, List.reverse_cons, List.append_assoc,
        List.singleton_append]

theorem writeField_eq_nil {field : List Char} (h : writeField field = []) : field = [] := by
  rcases writeField_eq field with hwrite | ⟨hwrite, -⟩
  · rw [hwrite] at h
    cases h
  · rw [← hwrite, h]

/-- Only a single empty field would make an empty line. -/
theorem line_eq_nil {field : List Char} {more : List (List Char)}
    (h : List.intercalate [','] ((field :: more).map writeField) = []) :
    field = [] ∧ more = [] := by
  cases more with
  | nil =>
      rw [List.map_singleton, List.intercalate_singleton] at h
      exact ⟨writeField_eq_nil h, rfl⟩
  | cons field' more =>
      rw [intercalate_writeField] at h
      exact absurd h (List.append_ne_nil_of_right_ne_nil _ (List.cons_ne_nil _ _))

theorem exists_line_eq (field : List Char) (more : List (List Char)) :
    ∃ tail, List.intercalate [','] ((field :: more).map writeField) = writeField field ++ tail
      ∧ ∀ c ∈ tail.head?, c = ',' := by
  cases more with
  | nil =>
      refine ⟨[], ?_, fun _ hc => nomatch hc⟩
      rw [List.map_singleton, List.intercalate_singleton, List.append_nil]
  | cons field' more =>
      refine ⟨_, intercalate_writeField field field' more, ?_⟩
      intro c hc
      cases hc
      rfl

theorem head?_writeField {field : List Char} {c : Char} (h : (writeField field).head? = some c) :
    c = '"' ∨ field.head? = some c ∧ needsQuotes c = false := by
  rcases writeField_eq field with hwrite | ⟨hwrite, hplain⟩
  · rw [hwrite] at h
    cases h
    exact Or.inl rfl
  · rw [hwrite] at h
    exact Or.inr ⟨h, hplain c (List.mem_of_head? h)⟩

/-- What a record begins with as it is written. -/
theorem exists_writeRecord_cons (field : List Char) (more : List (List Char)) :
    ∃ c cs, writeRecord (field :: more) = c :: cs
      ∧ (c = '"' ∨ c = ',' ∨ field.head? = some c ∧ needsQuotes c = false) := by
  obtain ⟨tail, hline, htail⟩ := exists_line_eq field more
  unfold writeRecord
  dsimp only
  split
  · exact ⟨'"', _, rfl, Or.inl rfl⟩
  · rename_i hne
    rw [hline] at hne ⊢
    cases hfield : writeField field with
    | nil =>
        rw [hfield] at hne
        cases tail with
        | nil => exact absurd rfl hne
        | cons c tail => exact ⟨c, _, rfl, Or.inr (Or.inl (htail c rfl))⟩
    | cons c cs =>
        have hhead := @head?_writeField field c (by rw [hfield]; rfl)
        exact ⟨c, _, rfl, hhead.imp_right Or.inr⟩

/-- Nothing but a line end is skipped before a record. -/
theorem fieldsFrom_between {c : Char} (hcr : c ≠ '\r') (hlf : c ≠ '\n') (cs : List Char) :
    fieldsFrom .between [] [] (c :: cs) = fieldsFrom .fieldStart [] [] (c :: cs) := by
  have hstep : ∀ here : Position,
      Scan.step (textDialect ',') ⟨.between, [], [], origin, here⟩ c
        = Scan.step (textDialect ',') ⟨.fieldStart, [], [], origin, here⟩ c :=
    fun here => if_neg (not_isLineEnd hcr hlf)
  rw [fieldsFrom, fieldsFrom, Scan.records, Scan.records, Scan.advance, Scan.advance, hstep]

theorem fieldsFrom_writeRecord {fs : List (List Char)} (hfs : fs ≠ []) (cs : List Char) :
    fieldsFrom .between [] [] (writeRecord fs ++ cs) = fs :: fieldsFrom .between [] [] cs := by
  obtain ⟨field, more, rfl⟩ := List.exists_cons_of_ne_nil hfs
  have hstart : fieldsFrom .between [] [] (writeRecord (field :: more) ++ cs)
      = fieldsFrom .fieldStart [] [] (writeRecord (field :: more) ++ cs) := by
    obtain ⟨c, tail, htail, hc⟩ := exists_writeRecord_cons field more
    rw [htail, List.cons_append]
    obtain ⟨hcr, hlf⟩ : c ≠ '\r' ∧ c ≠ '\n' := by
      rcases hc with rfl | rfl | ⟨-, hc⟩
      · decide
      · decide
      · exact (needsQuotes_eq_false hc).2.2
    exact fieldsFrom_between hcr hlf _
  rw [hstart]
  unfold writeRecord
  dsimp only
  split
  · rename_i hline
    obtain ⟨rfl, rfl⟩ := line_eq_nil hline
    calc fieldsFrom .fieldStart [] [] ('"' :: '"' :: '\n' :: cs)
        = fieldsFrom .quoted [] [] ('"' :: '\n' :: cs) := fieldsFrom_cons_of_none (fun _ => rfl) _
      _ = fieldsFrom .quoteSeen [] [] ('\n' :: cs) := fieldsFrom_cons_of_none (fun _ => rfl) _
      _ = [[]] :: fieldsFrom .between [] [] cs := fieldsFrom_lineFeed (by decide) cs
  · rw [List.append_assoc, List.singleton_append, fieldsFrom_line]
    rfl

theorem fieldsFrom_flatMap_writeRecord {rows : List (List (List Char))}
    (h : ∀ fs ∈ rows, fs ≠ []) :
    fieldsFrom .between [] [] (rows.flatMap writeRecord) = rows := by
  induction rows with
  | nil => rfl
  | cons fs rows ih =>
      obtain ⟨hfs, hrows⟩ := List.forall_mem_cons.mp h
      rw [List.flatMap_cons, fieldsFrom_writeRecord hfs, ih hrows]

/-! ## A whole text -/

theorem map_fields_textRecords {cs : List Char} (h : cs.head? ≠ some byteOrderMark) :
    (textRecords ',' cs).map RawRecord.fields = fieldsFrom .between [] [] cs := by
  cases cs with
  | nil => rfl
  | cons c cs =>
      have hmark : c ≠ byteOrderMark := fun hc => h (congrArg some hc)
      rw [textRecords]
      dsimp only
      rw [if_neg hmark]
      rfl

variable {c : Collection} {names : List String}

/-- The fields on the lines that are written for a collection with the given columns. -/
def linesOf (names : List String) (c : Collection) : List (List (List Char)) :=
  (names :: c.entries.map Entry.cells).map fun texts => texts.map String.toList

theorem length_of_mem_linesOf (hvalues : ∀ e ∈ c.entries, e.values.length = names.length)
    {fs : List (List Char)} (h : fs ∈ linesOf names c) : fs.length = names.length := by
  obtain ⟨texts, htexts, rfl⟩ := List.mem_map.mp h
  rw [List.length_map]
  rcases List.mem_cons.mp htexts with rfl | htexts
  · rfl
  · obtain ⟨e, he, rfl⟩ := List.mem_map.mp htexts
    rw [Entry.cells, List.length_map, hvalues e he]

theorem records_eq (hentries : c.entries ≠ [])
    (hcolumns : ∀ e ∈ c.entries, e.columnNames = names) : records c = linesOf names c := by
  cases hes : c.entries with
  | nil => exact absurd hes hentries
  | cons e es =>
      have hnames : e.columnNames = names := by
        apply hcolumns
        rw [hes]
        exact List.mem_cons_self
      rw [records, linesOf, hes]
      dsimp only
      rw [hnames, List.map_cons (l := (e :: es).map Entry.cells), List.map_map]
      rfl

/-- A text begins with the mark only when its first name does. -/
theorem head?_write {name : String} {more : List String} (hentries : c.entries ≠ [])
    (hcolumns : ∀ e ∈ c.entries, e.columnNames = name :: more)
    (hmark : name.toList.head? ≠ some byteOrderMark) :
    (write c).head? ≠ some byteOrderMark := by
  obtain ⟨a, cs, hcs, ha⟩ := exists_writeRecord_cons name.toList (more.map String.toList)
  rw [write, records_eq hentries hcolumns, linesOf, List.map_cons, List.flatMap_cons, List.map_cons, hcs,
    List.cons_append, List.head?_cons]
  intro h
  cases h
  rcases ha with ha | ha | ⟨ha, -⟩
  · exact absurd ha (by decide)
  · exact absurd ha (by decide)
  · exact hmark ha

/-- A collection whose records have a cell for every column, of which there is at least one,
is read back from the bytes of the text that is written for it: the names are the same, and
every cell is the text of the value that was there. -/
theorem readBytes_write (hentries : c.entries ≠ []) (hnames : names ≠ [])
    (hcolumns : ∀ e ∈ c.entries, e.columnNames = names)
    (hvalues : ∀ e ∈ c.entries, e.values.length = names.length)
    (hmark : ∀ name ∈ names.head?, name.toList.head? ≠ some byteOrderMark) :
    readBytes comma (String.ofList (write c)).toUTF8.toList
      = .ok (c.entries.map fun e => ⟨⟨names⟩, e.values.map fun v => .text v.display⟩) := by
  have hlength : ∀ fs ∈ linesOf names c, fs.length = names.length :=
    fun fs => length_of_mem_linesOf hvalues
  have hsome : ∀ fs ∈ linesOf names c, fs ≠ [] := by
    rintro fs hfs rfl
    exact hnames (List.length_eq_zero_iff.mp (hlength [] hfs).symm)
  have hhead : (write c).head? ≠ some byteOrderMark := by
    obtain ⟨name, more, rfl⟩ := List.exists_cons_of_ne_nil hnames
    exact head?_write hentries hcolumns (hmark name rfl)
  have hfields : (textRecords ',' (write c)).map RawRecord.fields = linesOf names c := by
    rw [map_fields_textRecords hhead, write, records_eq hentries hcolumns,
      fieldsFrom_flatMap_writeRecord hsome]
  have hwidths : ∀ fs ∈ (c.entries.map Entry.cells).map fun texts => texts.map String.toList,
      fs.length = (names.map String.toList).length := by
    intro fs hfs
    rw [List.length_map]
    exact hlength fs (List.mem_cons_of_mem _ hfs)
  rw [readBytes_toUTF8 (by decide)]
  refine (tableOf_ofList hfields hwidths).trans ?_
  simp [Entry.cells]

/-- One column without a name, and cells that are empty, written in quotes, or no text. -/
def oneColumn : Collection :=
  .rows ([.text "", .text "a,b", .text "so \"said\"\r\n", .integer 7].map fun v => ⟨⟨[""]⟩, [v]⟩)

theorem readBytes_write_oneColumn :
    write oneColumn = "\"\"\n\"\"\n\"a,b\"\n\"so \"\"said\"\"\r\n\"\n7\n".toList
      ∧ readBytes comma (String.ofList (write oneColumn)).toUTF8.toList
        = .ok (["", "a,b", "so \"said\"\r\n", "7"].map fun text => ⟨⟨[""]⟩, [.text text]⟩) := by
  refine ⟨by decide, ?_⟩
  have hrows : ∀ e ∈ oneColumn.entries, e.columnNames = [""] ∧ e.values.length = 1 := by
    simp [oneColumn, Collection.entries, Entry.columnNames, Entry.values]
  exact @readBytes_write oneColumn [""] (List.cons_ne_nil _ _) (List.cons_ne_nil _ _)
    (fun e he => (hrows e he).1) (fun e he => (hrows e he).2) (by decide)

end RecordQuery.Csv
