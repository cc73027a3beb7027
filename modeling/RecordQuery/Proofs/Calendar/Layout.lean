/-
# Layouts that fit and layouts that do not

A layout that reads the fields of a date or a moment gives this date or moment
(`date?_of_read`, `moment?_of_read`).  Every layout in front of it must not read the text.

A reader never puts anything in front of what it leaves, so a layout fails on a text without one
of its marks (`read_eq_none`).  What that does not settle is settled at the front of the text:

    digits      a layout with words reads two of them and finds no name
    letters     a layout with numbers finds no number
    long month  a layout with short names finds the rest of the name

`Misses` collects the layouts that do not read a text for one of these reasons.
-/
import RecordQuery.Proofs.Calendar.Blocks

namespace RecordQuery.Calendar

/-! ## Characters that a layout needs -/

theorem cons_of_char {c : Char} {cs rest : List Char} (h : char c cs = some rest) :
    cs = c :: rest := by
  cases cs with
  | nil => cases h
  | cons d cs =>
      rw [char] at h
      split at h
      · rename_i heq
        cases h
        rw [heq]
      · cases h

theorem suffix_number {least most n : Nat} {cs rest : List Char}
    (h : number least most cs = some (n, rest)) : rest <:+ cs := by
  simp only [number, digitsOf, Option.ite_none_right_eq_some, Option.some.injEq,
    Prod.mk.injEq] at h
  obtain ⟨-, -, rfl⟩ := h
  exact List.drop_suffix _ _

theorem suffix_longNumber {least n : Nat} {cs rest : List Char}
    (h : longNumber least cs = some (n, rest)) : rest <:+ cs := by
  simp only [longNumber, digitsOf, Option.ite_none_right_eq_some, Option.some.injEq,
    Prod.mk.injEq] at h
  obtain ⟨-, -, rfl⟩ := h
  exact List.dropWhile_suffix _

theorem suffix_trimStart (cs : List Char) : Text.trimStart cs <:+ cs :=
  List.dropWhile_suffix _

theorem suffix_shortNumber {n : Nat} {cs rest : List Char}
    (h : shortNumber cs = some (n, rest)) : rest <:+ cs :=
  (suffix_number h).trans (suffix_trimStart cs)

theorem suffix_yearNumber {y : Int} {cs rest : List Char}
    (h : yearNumber cs = some (y, rest)) : rest <:+ cs := by
  refine List.IsSuffix.trans ?_ (suffix_trimStart cs)
  unfold yearNumber at h
  split at h
  · rename_i signed htrim
    obtain ⟨⟨n, after⟩, hread, hn⟩ := Option.map_eq_some_iff.mp h
    cases hn
    rw [htrim]
    exact (suffix_longNumber hread).trans (List.suffix_cons _ _)
  · rename_i signed htrim
    obtain ⟨⟨n, after⟩, hread, hn⟩ := Option.map_eq_some_iff.mp h
    cases hn
    rw [htrim]
    exact (suffix_longNumber hread).trans (List.suffix_cons _ _)
  · obtain ⟨⟨n, after⟩, hread, hn⟩ := Option.map_eq_some_iff.mp h
    cases hn
    exact suffix_number hread

theorem suffix_letters {name cs rest : List Char} (h : letters name cs = some rest) :
    rest <:+ cs := by
  induction name generalizing cs with
  | nil =>
      cases h
      exact List.suffix_rfl
  | cons l ls ih =>
      cases cs with
      | nil => cases h
      | cons c cs =>
          rw [letters] at h
          split at h
          · exact (ih h).trans (List.suffix_cons _ _)
          · cases h

theorem suffix_oneOf {α : Type} {table : List (String × α)} {x : α} {cs rest : List Char}
    (h : oneOf table cs = some (x, rest)) : rest <:+ cs := by
  induction table with
  | nil => cases h
  | cons entry table ih =>
      rw [oneOf] at h
      split at h
      · rename_i hletters
        cases h
        exact suffix_letters hletters
      · exact ih h

theorem suffix_monthName {month : Nat} {cs rest : List Char}
    (h : monthName cs = some (month, rest)) : rest <:+ cs := by
  unfold monthName at h
  split at h
  · cases h
  · rename_i hshort
    split at h
    · rename_i hending
      cases h
      exact (suffix_letters hending).trans (suffix_oneOf hshort)
    · cases h
      exact suffix_oneOf hshort

/-- An item leaves the end of the text that it reads. -/
theorem suffix_read {f f' : Fields} {item : Item} {cs cs' : List Char}
    (h : item.read f cs = some (f', cs')) : cs' <:+ cs := by
  cases item with
  | char c =>
      obtain ⟨rest, hread, hrest⟩ := Option.map_eq_some_iff.mp h
      cases hrest
      rw [cons_of_char hread]
      exact List.suffix_cons _ _
  | space =>
      cases h
      exact suffix_trimStart cs
  | year =>
      obtain ⟨⟨y, rest⟩, hread, hrest⟩ := Option.map_eq_some_iff.mp h
      cases hrest
      exact suffix_yearNumber hread
  | weekday | shortMonth =>
      obtain ⟨⟨x, rest⟩, hread, hrest⟩ := Option.map_eq_some_iff.mp h
      cases hrest
      exact suffix_oneOf hread
  | longMonth =>
      obtain ⟨⟨month, rest⟩, hread, hrest⟩ := Option.map_eq_some_iff.mp h
      cases hrest
      exact suffix_monthName hread
  | month | day | hour | minute | second =>
      obtain ⟨⟨n, rest⟩, hread, hrest⟩ := Option.map_eq_some_iff.mp h
      cases hrest
      exact suffix_shortNumber hread

/-- A layout reads no text that lacks one of its characters. -/
theorem read_eq_none {c : Char} {layout : Layout} (hc : Item.char c ∈ layout) {f : Fields}
    {cs : List Char} (hcs : c ∉ cs) : Layout.read f layout cs = none := by
  induction layout generalizing f cs with
  | nil => cases hc
  | cons item layout ih =>
      rw [Layout.read]
      split
      · rename_i f' cs' hread
        rcases List.mem_cons.mp hc with rfl | hc
        · obtain ⟨rest, hchar, -⟩ := Option.map_eq_some_iff.mp hread
          rw [cons_of_char hchar] at hcs
          exact absurd List.mem_cons_self hcs
        · exact ih hc fun hmem => hcs ((suffix_read hread).subset hmem)
      · rfl

/-! ## Marks of a text -/

/-- The characters that some layout asks for. -/
def layoutMarks : List Char :=
  [',', ':', '-', '/', 'T']

/-- Of the marks a text has no others than some. -/
def OnlyMarks (present cs : List Char) : Prop :=
  ∀ c ∈ cs, c ∈ layoutMarks → c ∈ present

section Marks

variable {present cs cs' : List Char}

theorem OnlyMarks.nil (present : List Char) : OnlyMarks present [] :=
  List.forall_mem_nil _

theorem OnlyMarks.append (h : OnlyMarks present cs) (h' : OnlyMarks present cs') :
    OnlyMarks present (cs ++ cs') := by
  intro c hc
  rcases List.mem_append.mp hc with hc | hc
  · exact h c hc
  · exact h' c hc

theorem OnlyMarks.mark {c : Char} (hc : c ∈ present) (h : OnlyMarks present cs) :
    OnlyMarks present (c :: cs) := by
  intro d hd hmark
  rcases List.mem_cons.mp hd with rfl | hd
  · exact hc
  · exact h d hd hmark

theorem OnlyMarks.other {c : Char} (hc : c ∉ layoutMarks) (h : OnlyMarks present cs) :
    OnlyMarks present (c :: cs) := by
  intro d hd hmark
  rcases List.mem_cons.mp hd with rfl | hd
  · exact absurd hmark hc
  · exact h d hd hmark

theorem OnlyMarks.space (h : OnlyMarks present cs) : OnlyMarks present (' ' :: cs) :=
  h.other (by decide)

variable (present)

theorem onlyMarks_padded (width n : Nat) : OnlyMarks present (padded width n) := by
  have hdigits : layoutMarks.all (fun c => !c.isDigit) = true := rfl
  intro c hc hmark
  have hdigit := List.all_eq_true.mp hdigits c hmark
  rw [isDigit_of_mem_padded hc] at hdigit
  cases hdigit

theorem onlyMarks_month (style : MonthStyle) (month : Nat) :
    OnlyMarks present (style.text month) := by
  have hnames : ∀ c ∈ layoutMarks, ∀ name ∈ monthTexts, c ∉ name.toList := by
    simp only [layoutMarks, List.forall_mem_cons]
    exact ⟨by decide, by decide, by decide, by decide, by decide, List.forall_mem_nil _⟩
  intro c hc hmark
  exact absurd hc (not_mem_month (hnames c hmark) style month)

theorem onlyMarks_compactText (d : Date) : OnlyMarks present (compactText d) :=
  (onlyMarks_padded present _ _).append
    ((onlyMarks_padded present _ _).append (onlyMarks_padded present _ _))

theorem onlyMarks_compactClock (m : Moment) : OnlyMarks present (compactClock m) :=
  (onlyMarks_padded present _ _).append
    ((onlyMarks_padded present _ _).append (onlyMarks_padded present _ _))

theorem onlyMarks_wordText (style : MonthStyle) (d : Date) : OnlyMarks present (wordText style d) :=
  (onlyMarks_padded present _ _).append (OnlyMarks.space
    ((onlyMarks_month present style _).append (OnlyMarks.space (onlyMarks_padded present _ _))))

theorem onlyMarks_dayText (style : DayStyle) (day : Nat) : OnlyMarks present (style.text day) := by
  rcases style.text_cases day with htext | ⟨-, htext | htext⟩
  · rw [htext]
    exact onlyMarks_padded present _ _
  · rw [htext]
    exact onlyMarks_padded present _ _
  · rw [htext]
    exact (onlyMarks_padded present _ _).space

variable {present}

/-- Tuesday and Thursday begin with the letter that may stand between date and time. -/
theorem onlyMarks_weekday (hletter : 'T' ∈ present) (w : Weekday) : OnlyMarks present w.text := by
  have hmarks : w.text.filter (· ∈ layoutMarks) = [] ∨ w.text.filter (· ∈ layoutMarks) = ['T'] := by
    cases w <;> first | exact Or.inl rfl | exact Or.inr rfl
  intro c hc hmark
  have hmem : c ∈ w.text.filter (· ∈ layoutMarks) :=
    List.mem_filter.mpr ⟨hc, decide_eq_true hmark⟩
  rcases hmarks with hnone | hone
  · rw [hnone] at hmem
    cases hmem
  · rw [hone] at hmem
    rw [List.mem_singleton.mp hmem]
    exact hletter

theorem onlyMarks_numericText {c : Char} (hc : c ∈ present) (d : Date) :
    OnlyMarks present (numericText c d) :=
  (onlyMarks_padded present _ _).append (OnlyMarks.mark hc
    ((onlyMarks_padded present _ _).append (OnlyMarks.mark hc (onlyMarks_padded present _ _))))

theorem onlyMarks_weekdayText (hletter : 'T' ∈ present) (hcomma : ',' ∈ present) (d : Date) :
    OnlyMarks present (weekdayText d) :=
  (onlyMarks_weekday hletter _).append
    (OnlyMarks.mark hcomma (OnlyMarks.space (onlyMarks_wordText present .short d)))

theorem onlyMarks_commaText (hcomma : ',' ∈ present) (style : MonthStyle) (d : Date) :
    OnlyMarks present (commaText style d) :=
  (onlyMarks_month present style _).append (OnlyMarks.space
    ((onlyMarks_padded present _ _).append
      (OnlyMarks.mark hcomma (OnlyMarks.space (onlyMarks_padded present _ _)))))

theorem onlyMarks_clockText (hcolon : ':' ∈ present) (m : Moment) :
    OnlyMarks present (clockText m) :=
  (onlyMarks_padded present _ _).append (OnlyMarks.mark hcolon
    ((onlyMarks_padded present _ _).append (OnlyMarks.mark hcolon (onlyMarks_padded present _ _))))

theorem onlyMarks_ctimeText (hletter : 'T' ∈ present) (hcolon : ':' ∈ present) (style : DayStyle)
    (m : Moment) : OnlyMarks present (ctimeText style m) :=
  (onlyMarks_weekday hletter _).append (OnlyMarks.space
    ((onlyMarks_month present .short _).append (OnlyMarks.space
      ((onlyMarks_dayText present style _).append (OnlyMarks.space
        ((onlyMarks_clockText hcolon m).append
          (OnlyMarks.space (onlyMarks_padded present _ _))))))))

end Marks

/-! ## Fields of a date and of a moment -/

/-- The fields are those of a date.  The weekday may be missing. -/
structure Fields.OfDate (f : Fields) (d : Date) : Prop where
  year : f.year = some d.year
  month : f.month = some d.month
  day : f.day = some d.day
  weekday : ∀ w ∈ f.weekday, w = d.weekday

/-- The fields are those of a moment of whole seconds. -/
structure Fields.OfMoment (f : Fields) (m : Moment) : Prop extends f.OfDate m.date where
  hour : f.hour = some m.hour
  minute : f.minute = some m.minute
  second : f.second = some m.second
  nanosecond : f.nanosecond = none

theorem Fields.ofDate_parts (d : Date) :
    Fields.OfDate { year := some d.year, month := some d.month, day := some d.day } d := by
  refine ⟨rfl, rfl, rfl, ?_⟩
  rintro w ⟨⟩

theorem Fields.ofDate_weekday (d : Date) :
    Fields.OfDate { year := some d.year, month := some d.month, day := some d.day,
                    weekday := some d.weekday } d := by
  refine ⟨rfl, rfl, rfl, ?_⟩
  rintro w ⟨⟩
  rfl

theorem Fields.OfDate.timed {f : Fields} {m : Moment} (hf : f.OfDate m.date)
    (hwhole : f.nanosecond = none) :
    Fields.OfMoment
      { f with hour := some m.hour, minute := some m.minute, second := some m.second } m :=
  ⟨⟨hf.year, hf.month, hf.day, hf.weekday⟩, rfl, rfl, rfl, hwhole⟩

theorem Fields.OfDate.date?_eq {f : Fields} {d : Date} (hf : f.OfDate d) (hd : d.IsValid) :
    f.date? = some d := by
  have hof : Date.of? d.year d.month d.day = some d := if_pos hd
  cases hweekday : f.weekday with
  | none => simp [Fields.date?, hf.year, hf.month, hf.day, hof, hweekday]
  | some w =>
      have hw := hf.weekday w hweekday
      simp [Fields.date?, hf.year, hf.month, hf.day, hof, hweekday, hw]

theorem Fields.OfMoment.moment?_eq {f : Fields} {m : Moment} (hf : f.OfMoment m)
    (hm : m.IsSecond) (hd : m.date.IsValid) : f.moment? = some m := by
  obtain ⟨-, hhour, hminute, hsecond, hwhole⟩ := hm
  have hleap : m.second ≠ 60 := by omega
  have hrange : m.hour ≤ 23 ∧ m.minute ≤ 59 ∧ m.second ≤ 60 := ⟨hhour, hminute, by omega⟩
  obtain ⟨date, hour, minute, second, nanosecond⟩ := m
  cases hwhole
  simp only [Fields.moment?, hf.toOfDate.date?_eq hd, hf.hour, hf.minute, hf.second,
    hf.nanosecond, Option.getD_some, Option.getD_none]
  simp [hrange, hleap]

section Read

variable {layout : Layout} {cs : List Char} {f : Fields}

/-- The last block of a layout, at the end of the text. -/
theorem read_last {g : Fields} (h : Layout.read g (layout ++ []) (cs ++ []) = Layout.read f [] []) :
    Layout.read g layout cs = some f := by
  rwa [List.append_nil, List.append_nil, Layout.read] at h

theorem read_last_none (h : Layout.read f (layout ++ []) (cs ++ []) = none) :
    Layout.read f layout cs = none := by
  rwa [List.append_nil, List.append_nil] at h

theorem date?_of_read {d : Date} (hread : layout.read {} cs = some f) (hf : f.OfDate d)
    (hd : d.IsValid) : layout.date? cs = some d := by
  rw [Layout.date?, hread, Option.bind_some, hf.date?_eq hd]

theorem moment?_of_read {m : Moment} (hread : layout.read {} cs = some f) (hf : f.OfMoment m)
    (hm : m.IsSecond) (hd : m.date.IsValid) : layout.moment? cs = some m := by
  rw [Layout.moment?, hread, Option.bind_some, hf.moment?_eq hm hd]

end Read

/-! ## Layouts that do not fit -/

/-- The items that stand for a number. -/
def numberItems : List Item :=
  [.year, .month, .day, .hour, .minute, .second]

theorem yearNumber_cons {c : Char} (hblank : Text.isBlank c = false) (hdigit : c.isDigit = false)
    (hminus : c ≠ '-') (hplus : c ≠ '+') (rest : List Char) : yearNumber (c :: rest) = none := by
  have hnone : number 1 4 (c :: rest) = none :=
    number_eq_none (by decide) (by decide) (endsDigits_cons hdigit rest)
  rw [yearNumber, Text.trimStart_cons hblank]
  split
  · rename_i heq
    exact absurd (List.cons.inj heq).1 hminus
  · rename_i heq
    exact absurd (List.cons.inj heq).1 hplus
  · rw [hnone, Option.map_none]

/-- No number begins with a letter. -/
theorem read_number_eq_none {f : Fields} {item : Item} (hitem : item ∈ numberItems) {c : Char}
    (hc : c.isAlpha = true) (rest : List Char) : item.read f (c :: rest) = none := by
  obtain ⟨-, hblank, hdigit⟩ := isAlpha_spec hc
  have hshort := shortNumber_cons hblank hdigit rest
  have hyear : yearNumber (c :: rest) = none := by
    refine yearNumber_cons hblank hdigit ?_ ?_ rest
    · rintro rfl
      exact absurd hc (by decide)
    · rintro rfl
      exact absurd hc (by decide)
  simp only [numberItems, List.mem_cons, List.not_mem_nil, or_false] at hitem
  rcases hitem with rfl | rfl | rfl | rfl | rfl | rfl
  · rw [Item.read, hyear, Option.map_none]
  all_goals rw [Item.read, hshort, Option.map_none]

section Misfits

variable {f : Fields} (layout : Layout) (rest : List Char)

/-- A text that begins with a weekday is none that begins with a number. -/
theorem read_number_weekday {item : Item} (hitem : item ∈ numberItems) (w : Weekday) :
    Layout.read f (item :: layout) (w.text ++ rest) = none := by
  obtain ⟨c, cs, hcons, hc⟩ := exists_weekday_cons w
  rw [hcons, List.cons_append, Layout.read, read_number_eq_none hitem hc]

variable {d : Date} (hd : d.FourDigits)

include hd

/-- Nor is one that begins with a month. -/
theorem read_number_month {item : Item} (hitem : item ∈ numberItems) (style : MonthStyle) :
    Layout.read f (item :: layout) (style.text d.month ++ rest) = none := by
  obtain ⟨c, cs, hcons, hc⟩ := exists_month_cons hd.month_pos hd.month_le style
  rw [hcons, List.cons_append, Layout.read, read_number_eq_none hitem hc]

theorem read_weekday_month (style : MonthStyle) :
    Layout.read f (.weekday :: layout) (style.text d.month ++ rest) = none := by
  rw [Layout.read, Item.read, weekdayName_month hd.month_pos hd.month_le, Option.map_none]

/-- Two digits of the year are taken for the day, and the other two are no name. -/
theorem read_wordDate_year {name : Item} (hname : name ∈ nameItems) :
    Layout.read f (wordDate name ++ layout) (padded 4 d.year.toNat ++ rest) = none := by
  have hyear := hd.year_lt
  have hcentury : d.year.toNat / 100 < 100 := by omega
  have hday : Item.day.read f (padded 2 (d.year.toNat / 100) ++ (padded 2 d.year.toNat ++ rest))
      = some ({ f with day := some (d.year.toNat / 100) }, padded 2 d.year.toNat ++ rest) := by
    rw [Item.read, shortNumber_padded hcentury, Option.map_some]
  have hspace : ∀ g : Fields, Item.space.read g (padded 2 d.year.toNat ++ rest)
      = some (g, padded 2 d.year.toNat ++ rest) := by
    intro g
    rw [Item.read, trimStart_padded]
  have hnone : ∀ g : Fields, name.read g (padded 2 d.year.toNat ++ rest) = none := by
    intro g
    obtain ⟨c, cs, hcons, hc⟩ := exists_padded_cons 1 d.year.toNat
    rw [hcons, List.cons_append, read_name_eq_none hname (isLower_toLower_of_isDigit hc)]
  have hhalves : padded 4 d.year.toNat
      = padded 2 (d.year.toNat / 100) ++ padded 2 d.year.toNat := padded_add 2 2 _
  rw [hhalves, List.append_assoc]
  simp only [wordDate, List.cons_append, Layout.read, hday, hspace, hnone]

/-- A short name is read off the front of the long one, which goes on with a letter. -/
theorem read_shortMonth_long (hmay : d.month ≠ 5) {item : Item} (hitem : item ∈ numberItems) :
    Layout.read f (.shortMonth :: .space :: item :: layout)
      (MonthStyle.long.text d.month ++ rest) = none := by
  obtain ⟨c, cs, hc, hread⟩ := shortMonthName_long hd.month_pos hd.month_le hmay rest
  have hspace : Text.trimStart (c :: cs) = c :: cs := Text.trimStart_cons (isAlpha_spec hc).2.1 cs
  have hshort : Item.shortMonth.read f (MonthStyle.long.text d.month ++ rest)
      = some ({ f with month := some d.month }, c :: cs) := by
    rw [Item.read, hread, Option.map_some]
  simp only [Layout.read, hshort]
  rw [Item.read, hspace]
  simp only [read_number_eq_none hitem hc]

theorem read_wordDate_long (hmay : d.month ≠ 5) :
    Layout.read f (wordDate .shortMonth ++ layout) (wordText .long d ++ rest) = none := by
  have hlong : Layout.read { f with day := some d.day } (.shortMonth :: .space :: .year :: layout)
      (MonthStyle.long.text d.month ++ (' ' :: padded 4 d.year.toNat ++ rest)) = none :=
    read_shortMonth_long layout _ hd hmay (by decide)
  simp only [wordDate, wordText, List.append_assoc, List.cons_append, List.nil_append,
    Layout.read, read_day hd, read_space, trimStart_month hd] at hlong ⊢
  exact hlong

end Misfits

/-! ## The first layout that fits -/

/-- Layouts that do not read a text: those that need a mark that the text does not have, and some
others. -/
structure Misses (cs present : List Char) (others : List Layout) : Prop where
  marks : OnlyMarks present cs
  misfits : ∀ layout ∈ others, Layout.read {} layout cs = none

/-- The layout is one of these. -/
def RuledOut (present : List Char) (others : List Layout) (layout : Layout) : Prop :=
  (∃ item ∈ layout, item ∈ (layoutMarks.filter (· ∉ present)).map Item.char) ∨ layout ∈ others

instance (present : List Char) (others : List Layout) (layout : Layout) :
    Decidable (RuledOut present others layout) := by
  unfold RuledOut
  infer_instance

section FirstFit

variable {cs present : List Char} {others : List Layout} {layout : Layout} {f : Fields}

theorem Misses.read_eq_none (h : Misses cs present others)
    (hruled : RuledOut present others layout) : Layout.read {} layout cs = none := by
  rcases hruled with ⟨item, hlayout, hitem⟩ | hothers
  · obtain ⟨c, hc, rfl⟩ := List.mem_map.mp hitem
    obtain ⟨hmark, habsent⟩ := List.mem_filter.mp hc
    exact Calendar.read_eq_none hlayout fun hmem =>
      of_decide_eq_true habsent (h.marks c hmem hmark)
  · exact h.misfits layout hothers

theorem Misses.moment?_eq_none (h : Misses cs present others)
    (hruled : RuledOut present others layout) : layout.moment? cs = none := by
  rw [Layout.moment?, h.read_eq_none hruled, Option.bind_none]

theorem Misses.date?_eq_none (h : Misses cs present others)
    (hruled : RuledOut present others layout) : layout.date? cs = none := by
  rw [Layout.date?, h.read_eq_none hruled, Option.bind_none]

/-- The first of a row that is not passed over is the answer. -/
theorem findSome?_eq_of_take {α β : Type} {xs : List α} {x : α} {g : α → Option β} {b : β}
    (place : Nat) (hplace : xs[place]? = some x) (hbefore : ∀ a ∈ xs.take place, g a = none)
    (hx : g x = some b) : xs.findSome? g = some b := by
  obtain ⟨hlt, rfl⟩ := List.getElem?_eq_some_iff.mp hplace
  refine List.findSome?_eq_some_iff.mpr
    ⟨xs.take place, xs[place], xs.drop (place + 1), ?_, hx, hbefore⟩
  rw [← List.drop_eq_getElem_cons hlt, List.take_append_drop]

/-- The layout at some place of the table gives the moment when those in front of it miss the
text. -/
theorem layouts_of_moment (place : Nat) {m : Moment} (hm : m.IsSecond) (hd : m.date.FourDigits)
    (hmisses : Misses cs present others) (hplace : momentLayouts[place]? = some layout)
    (hruled : ∀ earlier ∈ momentLayouts.take place, RuledOut present others earlier)
    (hread : Layout.read {} layout cs = some f) (hf : f.OfMoment m) :
    (momentLayouts.findSome? (·.moment? cs)
      <|> (dateLayouts.findSome? (·.date? cs)).map Moment.midnight) = some m := by
  have hbefore : ∀ earlier ∈ momentLayouts.take place, Layout.moment? earlier cs = none :=
    fun earlier hearlier => hmisses.moment?_eq_none (hruled earlier hearlier)
  rw [findSome?_eq_of_take place hplace hbefore (moment?_of_read hread hf hm hd.isValid)]
  rfl

/-- The same for a date alone, which all layouts with a time have to miss. -/
theorem layouts_of_date (place : Nat) {d : Date} (hd : d.FourDigits)
    (hmisses : Misses cs present others) (hplace : dateLayouts[place]? = some layout)
    (hruled : ∀ earlier ∈ momentLayouts ++ dateLayouts.take place,
      RuledOut present others earlier)
    (hread : Layout.read {} layout cs = some f) (hf : f.OfDate d) :
    (momentLayouts.findSome? (·.moment? cs)
      <|> (dateLayouts.findSome? (·.date? cs)).map Moment.midnight)
      = some (Moment.midnight d) := by
  have htimed : momentLayouts.findSome? (·.moment? cs) = none := by
    rw [List.findSome?_eq_none_iff]
    exact fun timed htimed => hmisses.moment?_eq_none (hruled timed (List.mem_append_left _ htimed))
  have hbefore : ∀ earlier ∈ dateLayouts.take place, Layout.date? earlier cs = none :=
    fun earlier hearlier =>
      hmisses.date?_eq_none (hruled earlier (List.mem_append_right _ hearlier))
  rw [htimed, findSome?_eq_of_take place hplace hbefore (date?_of_read hread hf hd.isValid)]
  rfl

end FirstFit

end RecordQuery.Calendar
