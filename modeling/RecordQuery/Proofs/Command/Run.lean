/-
# A run writes at its end or not at all

A run goes through five stages, and each of them can be the last:

    words     are no query
    reading   the input cannot be opened, or not be read, or is no table
    query     cannot be run to its end on the table
    output    cannot be opened
    writing   the result is rendered

What a stage does to the world is not undone by a later one that fails.  The output is
emptied when it is opened, so it matters that it is opened last but one (the input has been
read by then, even if it is the same file) and that the last stage does not fail
(`render_on`): the writer of comma-separated values is flexible, and it refuses no record
however many fields there are.

`RunOptions.Stops` says of an error at which stage it arises and what went well before, and
`Collection.Rendered` which text is written in each format:

    csv       nothing for no record; else a line with the names of the first record, and a
              line with the texts of each record
    table     the grid, with its cells limited to the width
    json      the indented document, and a line end
    count     the number of the records, and a line end
-/
import RecordQuery.Command.Directory
import RecordQuery.Command.Execute
import RecordQuery.Command.World
import RecordQuery.Proofs.Csv.Table
import RecordQuery.Proofs.Query.Parse
import RecordQuery.Proofs.Query.Word

namespace RecordQuery

/-! ## Actions in a world -/

namespace Attempt

variable {ε α β : Type}

/-- What an action comes to in a world, and the world afterwards. -/
def on (x : Attempt (StateM World) α) (w : World) : Except CommandError α × World :=
  (ExceptT.run x).run w

variable {x : Attempt (StateM World) α} {f : α → Attempt (StateM World) β} {w w' : World}

theorem on_bind_of_ok {a : α} (h : x.on w = (.ok a, w')) : (x >>= f).on w = (f a).on w' := by
  unfold on at h ⊢
  rw [ExceptT.run_bind, StateT.run_bind, h]
  rfl

theorem on_bind_of_error {e : CommandError} (h : x.on w = (.error e, w')) :
    (x >>= f).on w = (.error e, w') := by
  unfold on at h ⊢
  rw [ExceptT.run_bind, StateT.run_bind, h]
  rfl

theorem on_settled_ok (error : ε → CommandError) (a : α) (w : World) :
    (settled error (.ok a) : Attempt (StateM World) α).on w = (.ok a, w) :=
  rfl

theorem on_settled_error (error : ε → CommandError) (e : ε) (w : World) :
    (settled error (.error e) : Attempt (StateM World) α).on w = (.error (error e), w) :=
  rfl

theorem on_tried_ok {step : StateM World (Except FileFault α)} {a : α}
    (error : FileFault → CommandError) (h : step.run w = (.ok a, w')) :
    (tried error step).on w = (.ok a, w') := by
  rw [tried, on, ExceptT.run_mk, StateT.run_map, h]
  rfl

theorem on_tried_error {step : StateM World (Except FileFault α)} {fault : FileFault}
    (error : FileFault → CommandError) (h : step.run w = (.error fault, w')) :
    (tried error step).on w = (.error (error fault), w') := by
  rw [tried, on, ExceptT.run_mk, StateT.run_map, h]
  rfl

end Attempt

open Attempt

/-! ## Writing -/

namespace World

/-- The world in which a sink has been opened and a text written to it. -/
def holding (w : World) (text : List Char) : Sink → World
  | .standard => { w with output := w.output ++ text }
  | .file place => { w with files := w.files.put place (String.ofList text).toUTF8 }

/-- What has become of a world once a text has been written to a stream: the standard output
is longer by the text, or the file at the place that the path leads to holds the text and
every other file what it held before. -/
inductive Written (w : World) (text : List Char) : Stream → World → Prop
  | standard : Written w text .standard { w with output := w.output ++ text }
  | file {path place : String} : w.system.toWrite w.files path = .ok place →
      Written w text (.file path)
        { w with files := w.files.put place (String.ofList text).toUTF8 }

variable {w : World}

theorem encode_append (front back : List Char) :
    encode (front ++ back) = encode front ++ encode back := by
  unfold encode
  rw [String.ofList_append]
  exact String.toByteArray_append

theorem write_holding (front back : List Char) (s : Sink) :
    (w.holding front s).write back s = w.holding (front ++ back) s := by
  cases s with
  | standard =>
      rw [holding, write, holding, List.append_assoc]
  | file place =>
      have hcontents : (w.holding front (.file place)).contents place = encode front := by
        rw [contents, holding]
        dsimp only
        rw [Files.put_self]
        rfl
      rw [write, hcontents, ← encode_append, holding]
      dsimp only
      rw [Files.put_put]
      rfl

/-- A stream is opened as a sink that holds nothing yet, or it cannot be opened. -/
theorem openSink_cases (w : World) (stream : Stream) :
    (∃ s : Sink, (tried .file (Host.openSink (n := StateM World) stream)).on w
          = (.ok s, w.holding [] s)
        ∧ ∀ text, w.Written text stream (w.holding text s))
      ∨ ∃ path fault, stream = .file path ∧ w.system.toWrite w.files path = .error fault
        ∧ (tried .file (Host.openSink (n := StateM World) stream)).on w
          = (.error (.file fault), w) := by
  have hopen : (tried .file (Host.openSink (n := StateM World) stream)).on w
      = ((w.sink stream).1.mapError .file, (w.sink stream).2) := rfl
  cases stream with
  | standard =>
      refine Or.inl ⟨.standard, hopen.trans ?_, fun text => .standard⟩
      rw [holding, List.append_nil]
      rfl
  | file path =>
      rw [sink] at hopen
      cases hplace : w.system.toWrite w.files path with
      | ok place =>
          rw [hplace] at hopen
          exact Or.inl ⟨.file place, hopen, fun text => .file hplace⟩
      | error fault =>
          rw [hplace] at hopen
          exact Or.inr ⟨path, fault, rfl, hplace, hopen⟩

end World

/-! ## Rendering -/

/-- The text of a collection in a format. -/
inductive Collection.Rendered (c : Collection) (width : Option Nat) :
    Format → List Char → Prop
  | none : c.entries = [] → Rendered c width .csv []
  | csv {e : Entry} {es : List Entry} : c.entries = e :: es →
      Rendered c width .csv (Csv.writeRecord (e.columnNames.map String.toList)
        ++ (e :: es).flatMap fun e => Csv.writeRecord (e.cells.map String.toList))
  | table : Rendered c width .table (Grid.ofCollection width c)
  | json : Rendered c width .json (c.toDocument.indented 0 ++ ['\n'])
  | count : Rendered c width .count (Decimal.ofNat c.size ++ ['\n'])

section

variable {w : World} (s : World.Sink)

theorem put_on (before text : List Char) :
    (Host.Sink.put (n := StateM World) s text).on (w.holding before s)
      = (.ok (), w.holding (before ++ text) s) := by
  rw [← World.write_holding]
  exact on_tried_ok .file rfl

/-- A flexible writer refuses no record. -/
theorem putRecords_on (before : List Char) (rs : List (List (List Char))) :
    (Host.Sink.putRecords (n := StateM World) s { flexible := true } rs).on (w.holding before s)
      = (.ok (), w.holding (before ++ rs.flatMap Csv.writeRecord) s) := by
  induction rs generalizing before with
  | nil =>
      rw [List.flatMap_nil, List.append_nil]
      rfl
  | cons fields rs ih =>
      rw [List.flatMap_cons, ← List.append_assoc, ← ih, ← World.write_holding]
      rw [Host.Sink.putRecords]
      exact (on_bind_of_ok (on_settled_ok _ _ _)).trans (on_bind_of_ok (on_tried_ok _ rfl))

theorem rendered_write (c : Collection) (width : Option Nat) :
    c.Rendered width .csv (Csv.write c) := by
  rw [Csv.write, Csv.records]
  cases hes : c.entries with
  | nil => exact .none hes
  | cons e es =>
      dsimp only
      rw [List.flatMap_cons, List.flatMap_map]
      exact .csv hes

/-- To render a collection takes no step that fails. -/
theorem render_on (c : Collection) (width : Option Nat) (format : Format) :
    ∃ text, c.Rendered width format text
      ∧ (c.render (n := StateM World) width s format).on (w.holding [] s)
        = (.ok (), w.holding text s) := by
  cases format with
  | csv => exact ⟨_, rendered_write c width, on_bind_of_ok (putRecords_on s [] (Csv.records c))⟩
  | table => exact ⟨_, .table, put_on s [] _⟩
  | json => exact ⟨_, .json, put_on s [] _⟩
  | count => exact ⟨_, .count, put_on s [] _⟩

end

/-! ## The stages of a run -/

namespace RunOptions

/-- A file holds rows. -/
def Holds (o : RunOptions) (w : World) (source : String) (rows : List Row) : Prop :=
  ∃ place bytes, w.system.toRead w.files source = .ok (.file place)
    ∧ w.files place = some bytes ∧ Csv.readBytes o.inputType.delimiter bytes.toList = .ok rows

/-- The input is not read: nothing is there to be opened, what is there is a directory, or what
was read is no table. -/
inductive Unread (o : RunOptions) (w : World) (source : String) : CommandError → Prop
  | unopened {fault : FileFault} : w.system.toRead w.files source = .error fault →
      Unread o w source (.file fault)
  | directory : w.system.toRead w.files source = .ok .directory →
      Unread o w source (.values .isDirectory)
  | table {place : String} {bytes : ByteArray} {err : Csv.ReadError} :
      w.system.toRead w.files source = .ok (.file place) → w.files place = some bytes →
      Csv.readBytes o.inputType.delimiter bytes.toList = .error err →
      Unread o w source (.table err)

/-- The run of a file stops with an error at the stage where it arises, all stages before
having gone well. -/
inductive Stops (o : RunOptions) (w : World) (source : String) : CommandError → Prop
  | words {err : ParseError} : Plan.parse Registry.full o.words = .error err →
      Stops o w source (.parse err)
  | reading {p : Plan} {e : CommandError} : Plan.parse Registry.full o.words = .ok p →
      o.Unread w source e → Stops o w source e
  | query {rows : List Row} {err : EvalError} : o.Holds w source rows →
      query o.words (.rows rows) = .error (.eval err) → Stops o w source (.eval err)
  | output {rows : List Row} {result : Collection} {path : String} {fault : FileFault} :
      o.Holds w source rows → query o.words (.rows rows) = .ok result →
      o.output = .file path → w.system.toWrite w.files path = .error fault →
      Stops o w source (.file fault)

variable {o : RunOptions} {source : String} {w : World}

/-- To read a file changes nothing, whatever comes of it. -/
theorem readTable_on (hinput : o.input = .file source) :
    (∃ rows, o.Holds w source rows ∧ o.readTable.on w = (.ok (.rows rows), w))
      ∨ ∃ e, o.Unread w source e ∧ o.readTable.on w = (.error e, w) := by
  have hopen : (tried .file (Host.openSource (n := StateM World) (.file source))).on w
      = (((w.system.toRead w.files source).map World.Source.found).mapError .file, w) := rfl
  rw [readTable, hinput]
  cases hfound : w.system.toRead w.files source with
  | error fault =>
      rw [hfound] at hopen
      exact Or.inr ⟨_, .unopened hfound, on_bind_of_error hopen⟩
  | ok found =>
      rw [hfound] at hopen
      rw [on_bind_of_ok hopen]
      cases found with
      | directory => exact Or.inr ⟨_, .directory hfound, on_bind_of_error (on_tried_error _ rfl)⟩
      | file place =>
          obtain ⟨bytes, hbytes⟩ := Option.isSome_iff_exists.mp (w.system.isSome_of_found hfound)
          have hcontents : w.contents place = bytes := by
            rw [World.contents, hbytes]
            rfl
          have hread : (tried .values (Host.readAll (n := StateM World)
              (World.Source.found (.file place)))).on w = (.ok (w.contents place), w) := rfl
          rw [on_bind_of_ok hread, hcontents]
          cases hrows : Csv.readBytes o.inputType.delimiter bytes.toList with
          | error err =>
              refine Or.inr ⟨_, .table hfound hbytes hrows, ?_⟩
              exact on_bind_of_error (on_settled_error _ _ _)
          | ok rows =>
              refine Or.inl ⟨rows, ⟨place, bytes, hfound, hbytes, hrows⟩, ?_⟩
              exact on_bind_of_ok (on_settled_ok _ _ _)

/-- A run fails at one of its stages and leaves the world as it was, or it succeeds and has
written a rendering of the result. -/
theorem execute_on (hinput : o.input = .file source) :
    (∃ e, o.Stops w source e ∧ o.execute.on w = (.error e, w))
      ∨ ∃ rows result text w', o.Holds w source rows ∧ query o.words (.rows rows) = .ok result
        ∧ result.Rendered o.maxWidth o.format text ∧ w.Written text o.output w'
        ∧ o.execute.on w = (.ok (), w') := by
  rw [execute]
  cases hparse : Plan.parse Registry.full o.words with
  | error err => exact Or.inl ⟨_, .words hparse, on_bind_of_error (on_settled_error _ _ _)⟩
  | ok p =>
      rw [on_bind_of_ok (on_settled_ok _ _ _)]
      obtain ⟨rows, hrows, htable⟩ | ⟨e, he, htable⟩ := readTable_on hinput (w := w)
      · rw [on_bind_of_ok htable]
        cases hrun : p.run Registry.full (.rows rows) with
        | error err =>
            have hquery := query_eq_eval_error_iff.mpr ⟨p, hparse, hrun⟩
            exact Or.inl ⟨_, .query hrows hquery, on_bind_of_error (on_settled_error _ _ _)⟩
        | ok result =>
            have hquery := query_eq_ok_iff.mpr ⟨p, hparse, hrun⟩
            rw [on_bind_of_ok (on_settled_ok _ _ _)]
            obtain ⟨s, hsink, hwritten⟩ | ⟨path, fault, houtput, hfault, hsink⟩ :=
              World.openSink_cases w o.output
            · obtain ⟨text, htext, hrender⟩ := render_on s result o.maxWidth o.format (w := w)
              refine Or.inr ⟨rows, result, text, _, hrows, hquery, htext, hwritten text, ?_⟩
              rw [on_bind_of_ok hsink, on_bind_of_ok hrender]
              exact on_tried_ok _ rfl
            · exact Or.inl ⟨_, .output hrows hquery houtput hfault, on_bind_of_error hsink⟩
      · exact Or.inl ⟨e, .reading hparse he, on_bind_of_error htable⟩

end RunOptions

namespace Request

/-- What a request comes to in a world, and the world afterwards. -/
def on (r : Request) (w : World) : Status × World :=
  (r.execute : StateM World Status).run w

variable {r : Request} {w w' : World}

theorem on_of_perform_ok (h : r.perform.on w = (.ok (), w')) : r.on w = (.success, w') := by
  unfold Attempt.on at h
  rw [on, execute, StateT.run_bind, h]
  rfl

theorem on_of_perform_error {e : CommandError} (h : r.perform.on w = (.error e, w')) :
    r.on w = (.failure, { w' with errors := w'.errors ++ (e.message.toList ++ ['\n']) }) := by
  unfold Attempt.on at h
  rw [on, execute, StateT.run_bind, h]
  rfl

end Request

/-- A run of a file with the same file as its output, under another path. -/
def tableInPlace : RunOptions where
  words := ["into", "table", "h.b"]
  input := .file "t.csv"
  inputType := .csv
  format := .csv
  output := .file "./t.csv"
  maxWidth := none

/-- Two files with the same contents. -/
def twoFiles : World where
  system := .directory
  files := fun name =>
    if name = "t.csv" ∨ name = "u.csv" then some (String.ofList "a,b\n1,2\n".toList).toUTF8
    else none
  input := .empty
  output := []
  errors := []

theorem parse_tableInPlace : Plan.parse Registry.full tableInPlace.words
    = .ok (.table [⟨"b", .field "h.b"⟩]) := by
  have hvalues : Grammar.SomeValueWords Registry.full ["h.b"] [.field "h.b"] :=
    Word.someValueWords_header Registry.full "b"
  exact Parser.parse_of_queryWords (.making (.table .once hvalues) .nil)

theorem readBytes_twoFiles :
    Csv.readBytes Csv.comma (String.ofList "a,b\n1,2\n".toList).toUTF8.toList
      = .ok [⟨⟨["a", "b"]⟩, [.text "1", .text "2"]⟩] := by
  rw [Csv.readBytes_toUTF8 (by decide)]
  rfl

theorem query_tableInPlace :
    query tableInPlace.words (.rows [⟨⟨["a", "b"]⟩, [.text "1", .text "2"]⟩])
      = .ok (.rows [⟨⟨["b"]⟩, [.text "2"]⟩]) := by
  rw [query_eq_of_parse parse_tableInPlace]
  rfl

theorem toRead_twoFiles :
    twoFiles.system.toRead twoFiles.files "t.csv" = .ok (.file "t.csv") := by
  decide

theorem toWrite_twoFiles : twoFiles.system.toWrite twoFiles.files "./t.csv" = .ok "t.csv" := by
  decide

theorem rows_of_holds {rows : List Row} (h : tableInPlace.Holds twoFiles "t.csv" rows) :
    rows = [⟨⟨["a", "b"]⟩, [.text "1", .text "2"]⟩] := by
  obtain ⟨place, bytes, hfound, hbytes, hrows⟩ := h
  cases toRead_twoFiles.symm.trans hfound
  cases hbytes
  cases readBytes_twoFiles.symm.trans hrows
  rfl

theorem not_stops_tableInPlace {e : CommandError} : ¬ tableInPlace.Stops twoFiles "t.csv" e := by
  intro h
  cases h with
  | words hparse => cases parse_tableInPlace.symm.trans hparse
  | reading hparse hunread =>
      cases hunread with
      | unopened hfound => cases toRead_twoFiles.symm.trans hfound
      | directory hfound => cases toRead_twoFiles.symm.trans hfound
      | table hfound hbytes hrows =>
          cases toRead_twoFiles.symm.trans hfound
          cases hbytes
          cases readBytes_twoFiles.symm.trans hrows
  | query hrows hquery =>
      cases rows_of_holds hrows
      cases query_tableInPlace.symm.trans hquery
  | output hrows hquery houtput hfault =>
      cases houtput
      cases toWrite_twoFiles.symm.trans hfault

end RecordQuery
