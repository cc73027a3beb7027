/-
# The names of the columns of a table

A column is named after its expression, and the name keeps Alphabetic characters and puts a
hyphen for every other one (`Text.IsNameChar`).  So a field of such a name has the same name
again (`columnName_column`), and a second table may ask for the columns of the first one by
their names:

    into table value …   into table c.name …

If no two columns have one name, each name is found at its own column: it is looked up
exactly before it is looked up with case ignored.  Then the second table is the first one
(`Collection.project_passedOn`).

Two kinds of names are outside of this.  A call of `as` gives its column a name of any
characters, and of an empty name nothing is left in the key: `c.` names its column `c`.
-/
import RecordQuery.Proofs.Plan.Pushdown
import RecordQuery.Proofs.Query.Aggregate
import RecordQuery.Proofs.Query.Parse
import RecordQuery.Proofs.Query.Spelling
import RecordQuery.Query

namespace RecordQuery

open Grammar

/-! ## The characters of a name -/

namespace Text

/-- A character that a name keeps. -/
def IsNameChar (c : Char) : Prop :=
  isAlphabetic c = true ∨ c = '-'

theorem isNameChar_of_mem_lettersOnly {s : String} : ∀ c ∈ (lettersOnly s).toList, IsNameChar c := by
  intro c hc
  rw [lettersOnly, String.toList_ofList] at hc
  obtain ⟨d, -, rfl⟩ := List.mem_map.mp hc
  split
  · rename_i hd
    exact Or.inl hd
  · exact Or.inr rfl

/-- Nothing is left to replace in a name. -/
theorem lettersOnly_eq_self {s : String} (h : ∀ c ∈ s.toList, IsNameChar c) : lettersOnly s = s := by
  have hkept : s.toList.map (fun c => if isAlphabetic c then c else '-') = s.toList := by
    refine (List.map_congr_left fun c hc => ?_).trans (List.map_id _)
    rcases h c hc with halphabetic | rfl
    · exact if_pos halphabetic
    · exact ite_self '-'
  rw [lettersOnly, hkept, String.ofList_toList]

theorem isNameChar_intercalate {parts : List String}
    (h : ∀ part ∈ parts, ∀ c ∈ part.toList, IsNameChar c) :
    ∀ c ∈ ("-".intercalate parts).toList, IsNameChar c := by
  rw [String.toList_intercalate]
  refine Word.forall_mem_intercalate (List.forall_mem_singleton.mpr (Or.inr rfl)) ?_
  exact List.forall_mem_map.mpr h

end Text

open Text (IsNameChar)

theorem Builtin.isNameChar_name (b : Builtin) : ∀ c ∈ b.name.toList, IsNameChar c := by
  have halphabetic : b.name.toList.all Text.isAlphabetic = true := by
    cases b <;> decide
  exact fun c hc => Or.inl (List.all_eq_true.mp halphabetic c hc)

section

variable {bs : List Builtin}

/-- No function of the language but `as` names its column itself. -/
theorem overridingName_eq_none {function : String} (h : function ≠ "as") (args : List Expr)
    (names : List String) : overridingName (.ofBuiltins bs) function args names = none := by
  unfold overridingName
  cases hfind : (Registry.ofBuiltins bs).find? function with
  | none => rfl
  | some f =>
      obtain ⟨b, rfl, rfl⟩ := Registry.exists_of_find?_ofBuiltins hfind
      cases b with
      | rename => exact absurd rfl h
      | count | month | sum | year => rfl

theorem isNameChar_of_knows {function : String}
    (h : (Registry.ofBuiltins bs).knows function = true) :
    ∀ c ∈ function.toList, IsNameChar c := by
  obtain ⟨f, hf⟩ := Option.isSome_iff_exists.mp h
  obtain ⟨b, rfl, -⟩ := Registry.exists_of_find?_ofBuiltins hf
  exact b.isNameChar_name

mutual

/-- The name of an expression keeps Alphabetic characters and hyphens only, when the functions
called in it are registered and none of them is `as`. -/
theorem isNameChar_columnName : ∀ {e : Expr},
    (∀ name ∈ e.called, (Registry.ofBuiltins bs).knows name = true) → "as" ∉ e.called →
      ∀ c ∈ (e.columnName (.ofBuiltins bs)).toList, IsNameChar c
  | .literal text, _, _ => Text.isNameChar_of_mem_lettersOnly
  | .field key, _, _ => by
      rw [Expr.columnName]
      split
      · exact Text.isNameChar_of_mem_lettersOnly
      · exact Text.isNameChar_of_mem_lettersOnly
  -- The parts of a call are joined by hyphens, which a name keeps.
  | .call function args, hknown, has => by
      rw [Expr.called] at hknown has
      obtain ⟨hfunction, hargs⟩ := List.forall_mem_cons.mp hknown
      obtain ⟨hne, hasargs⟩ := not_or.mp (mt List.mem_cons.mpr has)
      rw [Expr.columnName, overridingName_eq_none (Ne.symm hne)]
      refine Text.isNameChar_intercalate (List.forall_mem_cons.mpr ⟨?_, ?_⟩)
      · exact isNameChar_of_knows hfunction
      · exact isNameChar_argNames hargs hasargs

theorem isNameChar_argNames : ∀ {args : List Expr},
    (∀ name ∈ calledByArgs args, (Registry.ofBuiltins bs).knows name = true) →
      "as" ∉ calledByArgs args →
      ∀ name ∈ argNames (.ofBuiltins bs) args, ∀ c ∈ name.toList, IsNameChar c
  | [], _, _ => fun _ hname => absurd hname List.not_mem_nil
  | arg :: args, hknown, has => by
      rw [calledByArgs] at hknown has
      obtain ⟨harg, hargs⟩ := List.forall_mem_append.mp hknown
      obtain ⟨hasarg, hasargs⟩ := not_or.mp (mt List.mem_append.mpr has)
      rw [argNames]
      exact List.forall_mem_cons.mpr
        ⟨isNameChar_columnName harg hasarg, isNameChar_argNames hargs hasargs⟩

end

end

/-- A field that is asked for by such a name has the name again. -/
theorem columnName_column (fs : Registry) {name : String} (hname : name ≠ "")
    (hchars : ∀ c ∈ name.toList, IsNameChar c) :
    (Expr.field (Key.column name)).columnName fs = name := by
  have hscheme : (Expr.field (Key.column name)).columnName fs = Text.lettersOnly name :=
    @columnName_scheme fs "c" name (by decide) hname
  rw [hscheme, Text.lettersOnly_eq_self hchars]

/-! ## Columns by their names -/

section Columns

variable {fs : Registry} {columns : List Column}

/-- Asked by name for every column in turn, a row gives all its values. -/
theorem evalColumns_passedOn (hnames : (columns.map Column.name).Nodup) {e : Entry}
    {values : List Value} (h : evalColumns fs columns e = .ok values) :
    evalColumns fs (columns.map Parser.passedOn) (.row (rowUnder columns values)) = .ok values := by
  have heach := (List.forall₂_and_left _ _).mpr
    ⟨fun column hcolumn => hcolumn, Outcome.mapM_eq_ok_iff.mp h⟩
  refine Outcome.mapM_eq_ok_iff.mpr (List.forall₂_map_left_iff.mpr (heach.imp ?_))
  rintro column v ⟨hcolumn, hv⟩
  obtain ⟨n, hn⟩ := List.getElem?_of_mem hcolumn
  obtain ⟨v', hv', heval⟩ := (Expr.NamedBy.column (FirstOfName.of_nodup hnames hn)).eval h
  rw [hv] at hv'
  cases hv'
  exact heval

/-- A table with distinct names, made into a table of the columns of these names, is the same
table. -/
theorem Collection.project_passedOn (hnames : (columns.map Column.name).Nodup)
    {c table : Collection} (h : c.project fs columns = .ok table) :
    table.project fs (columns.map Parser.passedOn) = .ok table := by
  obtain ⟨values, hvalues, h⟩ := Outcome.bind_eq_ok_iff.mp h
  cases h
  -- The second table asks the rows of the first one, and makes the same headers for them.
  have hheaders : headersOf (columns.map Parser.passedOn) = headersOf columns := by
    rw [headersOf, List.map_map]
    rfl
  have hagain : (Collection.rows (values.map (rowUnder columns))).entries.mapM
      (evalColumns fs (columns.map Parser.passedOn)) = .ok values := by
    rw [entries, Outcome.mapM_eq_ok_iff, List.map_map, List.forall₂_map_left_iff, List.forall₂_same]
    intro vs hvs
    obtain ⟨e, -, he⟩ := Outcome.exists_of_mem_right (Outcome.mapM_eq_ok_iff.mp hvalues) hvs
    exact evalColumns_passedOn hnames he
  refine Outcome.bind_eq_ok_iff.mpr ⟨values, hagain, ?_⟩
  rw [hheaders]

theorem Collection.columnNames_of_project {c table : Collection}
    (h : c.project fs columns = .ok table) :
    ∀ e ∈ table.entries, e.columnNames = columns.map Column.name := by
  obtain ⟨values, -, h⟩ := Outcome.bind_eq_ok_iff.mp h
  cases h
  intro e he
  rw [entries, List.map_map] at he
  obtain ⟨vs, -, rfl⟩ := List.mem_map.mp he
  rfl

end Columns

/-! ## The two tables -/

/-- The names of the columns of a table of these expressions. -/
def derivedNames (fs : Registry) (es : List Expr) : List String :=
  es.map (Expr.columnName fs)

theorem map_name_column (fs : Registry) (es : List Expr) :
    (es.map (Expr.column fs)).map Column.name = derivedNames fs es := by
  rw [List.map_map]
  rfl

/-- Columns that are asked for by names which name them again are the columns passed on. -/
theorem map_column_names {fs : Registry} {es : List Expr}
    (h : ∀ name ∈ derivedNames fs es, (Expr.field (Key.column name)).columnName fs = name) :
    ((derivedNames fs es).map fun name => Expr.field (Key.column name)).map (Expr.column fs)
      = (es.map (Expr.column fs)).map Parser.passedOn := by
  rw [derivedNames, List.map_map, List.map_map, List.map_map]
  refine List.map_congr_left fun e he => ?_
  show Column.mk ((Expr.field (Key.column (e.columnName fs))).columnName fs) _ = Column.mk _ _
  rw [h _ (List.mem_map_of_mem he)]
  rfl

/-- The words for columns by their names are fields, whatever the names are. -/
theorem someValueWords_names (fs : Registry) {names : List String} (h : names ≠ []) :
    SomeValueWords fs (names.map Key.column) (names.map fun name => .field (Key.column name)) where
  each := by
    rw [List.forall₂_map_left_iff, List.forall₂_map_right_iff, List.forall₂_same]
    intro name _
    exact ⟨@Word.classify_key "c" (by decide) Word.call name,
      fun _ hname => absurd hname List.not_mem_nil⟩
  nonempty hnil := h (List.map_eq_nil_iff.mp hnil)

/-- The values of a table that can be read call registered functions only. -/
theorem someValueWords_table_of_parse {fs : Registry} {ws : List String} {es : List Expr} {p : Plan}
    (hws : List.Forall₂ (fun w e => Word.identify w = .ok (.value e)) ws es)
    (h : Plan.parse fs ("into" :: "table" :: ws) = .ok p) : SomeValueWords fs ws es := by
  obtain ⟨qs, hqs, -⟩ := Outcome.map_eq_ok_iff.mp h
  obtain ⟨found, hfound⟩ := Parser.clause_of_clauses hqs
  have htable : Parser.table fs ws = .ok found := hfound
  obtain ⟨⟨es', rest⟩, hvalues, -⟩ := Outcome.bind_eq_ok_iff.mp htable
  -- Every word is a value and none ends the list, so the list is all of the words.
  have hinside : ∀ w ∈ ws, Parser.InsideList w := by
    intro w hw
    obtain ⟨e, -, he⟩ := Outcome.exists_of_mem_right hws.flip hw
    exact Parser.insideList_of_identified he
  have hsome := Parser.someValueWords_of_someValues hinside hvalues
  have hsame : es' = es := by
    refine List.right_unique_forall₂' ?_ (hsome.each.imp fun _ _ => ValueWord.identified) hws
    intro w e e' he he'
    rw [he] at he'
    cases he'
    rfl
  exact hsame ▸ hsome

/-- The names of a table name its columns again. -/
theorem columnName_of_mem_derivedNames {bs : List Builtin} {es : List Expr}
    (hknown : ∀ e ∈ es, ∀ function ∈ e.called, (Registry.ofBuiltins bs).knows function = true)
    (has : ∀ e ∈ es, "as" ∉ e.called) (hsome : "" ∉ derivedNames (.ofBuiltins bs) es) :
    ∀ name ∈ derivedNames (.ofBuiltins bs) es, (Expr.field (Key.column name)).columnName (.ofBuiltins bs) = name := by
  intro name hname
  obtain ⟨e, he, rfl⟩ := List.mem_map.mp hname
  exact columnName_column (.ofBuiltins bs) (fun hempty => hsome (hempty ▸ hname))
    (isNameChar_columnName (hknown e he) (has e he))

/-- Distinct names are found at their own places, also where two differ in case alone. -/
theorem position_derivedNames {fs : Registry} {es : List Expr} (h : (derivedNames fs es).Nodup)
    {n : Nat} {name : String} (hn : (derivedNames fs es)[n]? = some name) :
    (Headers.mk (derivedNames fs es)).position name = some n := by
  rw [derivedNames, List.getElem?_map] at hn
  obtain ⟨e, he, rfl⟩ := Option.map_eq_some_iff.mp hn
  have hcolumn : (es.map (Expr.column fs))[n]? = some (e.column fs) := by
    rw [List.getElem?_map, he, Option.map_some]
  have hplace := (FirstOfName.of_nodup ((map_name_column fs es).symm ▸ h) hcolumn).position
  rwa [Collection.headersOf, map_name_column] at hplace

/-- A query for a table names its columns so that the names can be asked for.  Where no
function `as` is called and the names are there and distinct, they name the same columns
again, each is found at its own place, and one more table of the columns of these names
leaves the result as it is. -/
theorem query_table_by_names {ws : List String} {es : List Expr} {c result : Collection}
    (hws : List.Forall₂ (fun w e => Word.identify w = .ok (.value e)) ws es)
    (has : ∀ e ∈ es, "as" ∉ e.called) (hsome : "" ∉ derivedNames Registry.full es)
    (hnodup : (derivedNames Registry.full es).Nodup)
    (h : query ("into" :: "table" :: ws) c = .ok result) :
    query ("into" :: "table" :: ws
        ++ "into" :: "table" :: (derivedNames Registry.full es).map Key.column) c = .ok result
      ∧ (∀ e ∈ result.entries, e.columnNames = derivedNames Registry.full es)
      ∧ (∀ name ∈ derivedNames Registry.full es,
        (Expr.field (Key.column name)).columnName Registry.full = name)
      ∧ ∀ (n : Nat) (name : String), (derivedNames Registry.full es)[n]? = some name →
        (Headers.mk (derivedNames Registry.full es)).position name = some n := by
  obtain ⟨p, hp, hrun⟩ := query_eq_ok_iff.mp h
  have hvalues := someValueWords_table_of_parse hws hp
  rw [Parser.parse_table hvalues] at hp
  cases hp
  have htable : c.project Registry.full (es.map (Expr.column Registry.full)) = .ok result := by
    rwa [Plan.run] at hrun
  have hknown : ∀ e ∈ es, ∀ function ∈ e.called, Registry.full.knows function = true := by
    intro e he
    obtain ⟨w, -, hw⟩ := Outcome.exists_of_mem_right hvalues.each he
    exact hw.registered
  have hnames : ∀ name ∈ derivedNames Registry.full es,
      (Expr.field (Key.column name)).columnName Registry.full = name :=
    @columnName_of_mem_derivedNames Builtin.all es hknown has hsome
  refine ⟨?_, ?_, hnames, fun n name => position_derivedNames hnodup⟩
  · have hagain : derivedNames Registry.full es ≠ [] :=
      fun hnil => hvalues.nonempty (List.map_eq_nil_iff.mp hnil)
    refine query_eq_ok_iff.mpr
      ⟨_, Parser.parse_table_table hvalues (someValueWords_names Registry.full hagain), ?_⟩
    rw [map_column_names hnames, run_pair hrun, Plan.run]
    exact Collection.project_passedOn ((map_name_column _ es).symm ▸ hnodup) htable
  · rw [← map_name_column]
    exact Collection.columnNames_of_project htable

/-- Words for two columns with names that differ in case alone, and for a call. -/
def casedWords : List String :=
  ["h.A", "h.a", "f.count[.x]"]

/-- The values that these words are. -/
def casedValues : List Expr :=
  [.field "h.A", .field "h.a", .call "count" [.literal "x"]]

theorem someValueWords_cased : SomeValueWords Registry.full casedWords casedValues := by
  refine ⟨.cons ⟨rfl, ?_⟩ (.cons ⟨rfl, ?_⟩ (.cons ⟨rfl, ?_⟩ .nil)), List.cons_ne_nil _ _⟩ <;>
    decide

/-- One row, with the columns the other way round, becomes a table and the same table again. -/
theorem query_table_by_names_cased :
    query ["into", "table", "h.A", "h.a", "f.count[.x]", "into", "table", "c.A", "c.a", "c.count-x"]
        (.rows [⟨⟨["a", "A"]⟩, [.text "x", .text "y"]⟩])
      = .ok (.rows [⟨⟨["A", "a", "count-x"]⟩, [.text "y", .text "x", .integer 1]⟩]) := by
  have hnames : derivedNames Registry.full casedValues = ["A", "a", "count-x"] := by
    decide +kernel
  have hrun : query ("into" :: "table" :: casedWords)
      (.rows [⟨⟨["a", "A"]⟩, [.text "x", .text "y"]⟩])
        = .ok (.rows [⟨⟨["A", "a", "count-x"]⟩, [.text "y", .text "x", .integer 1]⟩]) :=
    query_eq_ok_iff.mpr ⟨_, Parser.parse_table someValueWords_cased, rfl⟩
  have hws := someValueWords_cased.each.imp fun _ _ => ValueWord.identified
  obtain ⟨h, -⟩ := query_table_by_names hws (by decide) (by rw [hnames]; decide)
    (by rw [hnames]; decide) hrun
  rwa [hnames] at h

end RecordQuery
