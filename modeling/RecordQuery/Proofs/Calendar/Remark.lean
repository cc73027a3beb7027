/-
# Dates with something behind them

What is written behind a date, such as the offset of its zone or a comment, is cut off
before the layouts are tried, from the first character on that no date contains.

    8 Feb 2023 19:00:46 +1100 (AEDT)
                       ^ cut here, and the blank in front goes too

A `Remark` is what can be cut off like that.  Blanks at its end are trimmed before anything
is read, and what is left is a remark again (`Remark.trimEnd`); so a date text comes to the
layouts as it is, whatever is behind it (`resolve_append`).  The dates of
mail messages and the timestamps are read to their end and come before the layouts.  What
they make of the text with its remark has to agree (`parseMoment?_append`).
-/
import RecordQuery.Calendar.Resolve
import RecordQuery.Proofs.Calendar.Digits

namespace RecordQuery.Calendar

/-! ## Remarks -/

/-- No date contains the character. -/
structure EndsDate (c : Char) : Prop where
  not_alphabetic : Text.isAlphabetic c = false
  not_numeric : Text.isNumeric c = false
  not_blank : Text.isBlank c = false
  not_mark : c ∉ [',', ':', '-', '/', '.']

theorem EndsDate.isDateChar_eq {c : Char} (h : EndsDate c) : isDateChar c = false := by
  rw [isDateChar, h.not_alphabetic, h.not_numeric, h.not_blank, decide_eq_false h.not_mark]
  rfl

theorem EndsDate.isDigit_eq {c : Char} (h : EndsDate c) : c.isDigit = false := by
  rw [← Bool.not_eq_true]
  intro hdigit
  have hnumeric := Text.isNumeric_of_isDigit hdigit
  rw [h.not_numeric] at hnumeric
  cases hnumeric

/-- Nothing, or blanks and then any text that starts with a character of no date. -/
inductive Remark : List Char → Prop
  | none : Remark []
  | cut {blanks : List Char} {c : Char} (rest : List Char) :
      (∀ b ∈ blanks, Text.isBlank b = true) → EndsDate c → Remark (blanks ++ c :: rest)

theorem Remark.trimEnd {behind : List Char} (h : Remark behind) :
    Remark (Text.trimEnd behind) := by
  cases h with
  | none => exact .none
  | cut rest hblanks hc =>
      rw [Text.trimEnd_append_cons hc.not_blank]
      exact .cut _ hblanks hc

/-- Behind its blanks a remark is empty, or starts with a character of no date. -/
theorem Remark.trimStart {behind : List Char} (h : Remark behind) :
    Text.trimStart behind = [] ∨ ∃ c rest, Text.trimStart behind = c :: rest ∧ EndsDate c := by
  cases h with
  | none => exact Or.inl rfl
  | @cut blanks c rest hblanks hc =>
      right
      refine ⟨c, rest, ?_, hc⟩
      rw [Text.trimStart, List.dropWhile_append_of_pos hblanks]
      exact Text.trimStart_cons hc.not_blank rest

/-- What a remark starts with is a blank in front of a remark, or no part of a date. -/
theorem Remark.head {c : Char} {rest : List Char} (h : Remark (c :: rest)) :
    (Text.isBlank c = true ∧ Remark rest) ∨ EndsDate c := by
  generalize hbehind : c :: rest = behind at h
  cases h with
  | none => cases hbehind
  | @cut blanks d tail hblanks hd =>
      cases blanks with
      | nil =>
          cases hbehind
          exact Or.inr hd
      | cons b bs =>
          cases hbehind
          exact Or.inl ⟨hblanks _ List.mem_cons_self,
            .cut tail (fun b hb => hblanks b (List.mem_cons_of_mem _ hb)) hd⟩

theorem Remark.endsDigits {behind : List Char} (h : Remark behind) : EndsDigits behind := by
  intro c rest hbehind
  rw [hbehind] at h
  rcases h.head with ⟨hblank, -⟩ | hc
  · rw [← Bool.not_eq_true]
    intro hdigit
    rw [Text.isBlank_of_isDigit hdigit] at hblank
    cases hblank
  · exact hc.isDigit_eq

theorem Remark.endsDigits_trimStart {behind : List Char} (h : Remark behind) :
    EndsDigits (Text.trimStart behind) := by
  intro d rest hbehind
  rcases h.trimStart with hnil | ⟨c, tail, hcons, hc⟩
  · rw [hnil] at hbehind
    cases hbehind
  · rw [hcons] at hbehind
    cases hbehind
    exact hc.isDigit_eq

/-- In front of the first character that no date contains there are only blanks. -/
theorem Remark.takeWhile_isBlank {behind : List Char} (h : Remark behind) :
    ∀ b ∈ behind.takeWhile isDateChar, Text.isBlank b = true := by
  cases h with
  | none =>
      intro b hb
      cases hb
  | @cut blanks c rest hblanks hc =>
      have hdate : ∀ b ∈ blanks, isDateChar b = true := by
        intro b hb
        rw [isDateChar, hblanks b hb, Bool.or_true, Bool.true_or]
      rw [List.takeWhile_append_of_pos hdate, List.takeWhile_cons_of_neg, List.append_nil]
      · exact hblanks
      · rw [hc.isDateChar_eq]
        exact Bool.false_ne_true

/-! ## Texts of dates -/

/-- A piece of a date: characters of dates, and no blank at either end. -/
structure IsPart (cs : List Char) : Prop where
  chars : ∀ c ∈ cs, isDateChar c = true
  first : ∃ c rest, cs = c :: rest ∧ Text.isBlank c = false
  last : ∃ front c, cs = front ++ [c] ∧ Text.isBlank c = false

/-- The text of a date: a piece of a date that is no number of seconds. -/
structure IsDateText (cs : List Char) : Prop extends IsPart cs where
  not_digits : cs.length < 9 ∨ ∃ c ∈ cs, c.isDigit = false

theorem isDateChar_of_isDigit {c : Char} (h : c.isDigit = true) : isDateChar c = true := by
  rw [isDateChar, Text.isNumeric_of_isDigit h, Bool.or_true, Bool.true_or, Bool.true_or]

namespace IsPart

variable {cs cs' : List Char}

/-- Between two pieces there may be any characters of dates, blanks too. -/
theorem join (h : IsPart cs) (between : List Char) (hbetween : between.all isDateChar = true)
    (h' : IsPart cs') : IsPart (cs ++ (between ++ cs')) where
  chars := by
    intro c hc
    rcases List.mem_append.mp hc with hc | hc
    · exact h.chars c hc
    · rcases List.mem_append.mp hc with hc | hc
      · exact List.all_eq_true.mp hbetween c hc
      · exact h'.chars c hc
  first := by
    obtain ⟨c, rest, rfl, hc⟩ := h.first
    exact ⟨c, rest ++ (between ++ cs'), rfl, hc⟩
  last := by
    obtain ⟨front, c, rfl, hc⟩ := h'.last
    exact ⟨cs ++ (between ++ front), c, by simp only [List.append_assoc], hc⟩

theorem append (h : IsPart cs) (h' : IsPart cs') : IsPart (cs ++ cs') :=
  h.join [] rfl h'

/-- A text without blanks is a piece. -/
theorem of_not_blank (hne : cs ≠ [])
    (h : ∀ c ∈ cs, isDateChar c = true ∧ Text.isBlank c = false) : IsPart cs where
  chars := fun c hc => (h c hc).1
  first := by
    obtain ⟨c, rest, rfl⟩ := List.exists_cons_of_ne_nil hne
    exact ⟨c, rest, rfl, (h c List.mem_cons_self).2⟩
  last :=
    ⟨cs.dropLast, cs.getLast hne, (List.dropLast_concat_getLast hne).symm,
      (h _ (List.getLast_mem hne)).2⟩

end IsPart

theorem isPart_padded (width n : Nat) : IsPart (padded (width + 1) n) := by
  refine .of_not_blank ?_ ?_
  · obtain ⟨c, cs, hcons, -⟩ := exists_padded_cons width n
    rw [hcons]
    exact List.cons_ne_nil _ _
  · intro c hc
    have hdigit := isDigit_of_mem_padded hc
    exact ⟨isDateChar_of_isDigit hdigit, Text.isBlank_of_isDigit hdigit⟩

namespace IsDateText

variable {cs behind : List Char}

theorem trimEnd_append (h : IsDateText cs) (behind : List Char) :
    Text.trimEnd (cs ++ behind) = cs ++ Text.trimEnd behind := by
  obtain ⟨front, c, rfl, hc⟩ := h.last
  rw [List.append_assoc, List.singleton_append, Text.trimEnd_append_cons hc,
    List.append_assoc, List.singleton_append]

theorem trim_append (h : IsDateText cs) (behind : List Char) :
    Text.trim (cs ++ behind) = cs ++ Text.trimEnd behind := by
  have hstart : Text.trimStart (cs ++ behind) = cs ++ behind := by
    obtain ⟨c, rest, rfl, hc⟩ := h.first
    rw [List.cons_append, Text.trimStart_cons hc]
  rw [Text.trim, hstart, h.trimEnd_append]

/-- The remark is cut off, and with it the blanks in front of it. -/
theorem strip_append (h : IsDateText cs) (hbehind : Remark behind) :
    stripAnnotation (cs ++ behind) = cs := by
  unfold stripAnnotation
  rw [List.takeWhile_append_of_pos h.chars, h.trimEnd_append,
    Text.trimEnd_of_blank hbehind.takeWhile_isBlank, List.append_nil]

theorem isSeconds_append (h : IsDateText cs) (hbehind : Remark behind) :
    isSeconds (cs ++ behind) = false := by
  have hnot : ∀ c ∈ cs ++ behind, c.isDigit = false → isSeconds (cs ++ behind) = false := by
    intro c hc hdigit
    rw [isSeconds, Bool.and_eq_false_iff]
    right
    rw [List.all_eq_false]
    exact ⟨c, hc, by rw [hdigit]; exact Bool.false_ne_true⟩
  rcases h.not_digits with hshort | ⟨c, hc, hdigit⟩
  · cases hbehind with
    | none =>
        rw [List.append_nil, isSeconds, decide_eq_false (Nat.not_le.mpr hshort), Bool.false_and]
    | cut rest _ hc =>
        exact hnot _ (List.mem_append_right _ (List.mem_append_right _ List.mem_cons_self))
          hc.isDigit_eq
  · exact hnot c (List.mem_append_left _ hc) hdigit

/-- The layouts are tried on the text of the date alone.  It does not matter which reader is
the first to accept the text with its remark, as long as none that comes before the layouts
makes anything else of it. -/
theorem parseMoment?_append (h : IsDateText cs) (hbehind : Remark behind) {m : Moment}
    (hmail : ∀ m' ∈ Mail.moment? (cs ++ behind), m' = m)
    (htimestamp : ∀ m' ∈ Timestamp.moment? (cs ++ behind), m' = m)
    (hlayouts : (momentLayouts.findSome? (·.moment? cs)
      <|> (dateLayouts.findSome? (·.date? cs)).map Moment.midnight) = some m) :
    parseMoment? (cs ++ behind) = some m := by
  simp only [parseMoment?, h.strip_append hbehind, hlayouts]
  cases hread : Mail.moment? (cs ++ behind) with
  | some m' => exact congrArg some (hmail m' hread)
  | none =>
      cases hread' : Timestamp.moment? (cs ++ behind) with
      | some m' => exact congrArg some (htimestamp m' hread')
      | none => rfl

/-- What a date text is read as with every remark is what it stands for. -/
theorem resolve_append (h : IsDateText cs) (hbehind : Remark behind) {m : Moment}
    (hread : ∀ behind, Remark behind → parseMoment? (cs ++ behind) = some m)
    (function : String) :
    resolve function (.text (String.ofList (cs ++ behind))) = .ok (some m) := by
  have hne : cs ++ Text.trimEnd behind ≠ [] := by
    obtain ⟨c, rest, rfl, -⟩ := h.first
    exact List.cons_ne_nil _ _
  simp only [resolve, String.toList_ofList, h.trim_append, hne, if_false,
    h.isSeconds_append hbehind.trimEnd, Bool.false_eq_true, hread _ hbehind.trimEnd]

end IsDateText

end RecordQuery.Calendar
