/-
# Compact JSON text tells values apart

Two values with the same compact JSON text are the same value.  Values stand inside one
another, so what is proved is that a text in front of another text says where it
ends:

    compact (toJson v) ++ r = compact (toJson w) ++ s   implies   v = w and r = s

A string ends at its first bare quote, a list at its bracket.  Only a number has no
end of its own: what comes after it must not start with a digit, and in a list it
starts with a comma or a bracket.
-/
import RecordQuery.Value.Json
import Mathlib.Data.List.TakeWhile

namespace RecordQuery

namespace Json

/-! ## Strings -/

/-- The value of a hexadecimal digit. -/
def hexValue (c : Char) : Nat :=
  if c.isDigit then c.toNat - '0'.toNat else c.toNat - 'a'.toNat + 10

/-- The first character of a string, and what is left. -/
def readChar : List Char → Option (Char × List Char)
  | '\\' :: '"' :: r => some ('"', r)
  | '\\' :: '\\' :: r => some ('\\', r)
  | '\\' :: 'b' :: r => some (Char.ofNat 8, r)
  | '\\' :: 't' :: r => some ('\t', r)
  | '\\' :: 'n' :: r => some ('\n', r)
  | '\\' :: 'f' :: r => some (Char.ofNat 12, r)
  | '\\' :: 'r' :: r => some ('\r', r)
  | '\\' :: 'u' :: '0' :: '0' :: h :: l :: r =>
      some (Char.ofNat (16 * hexValue h + hexValue l), r)
  | c :: r => some (c, r)
  | [] => none

theorem hexValue_digitChar : ∀ n < 16, hexValue (Nat.digitChar n) = n := by
  decide

theorem readChar_stringChar (c : Char) (r : List Char) :
    readChar (stringChar c ++ r) = some (c, r) := by
  unfold stringChar
  split
  · rename_i h
    rw [h]
    rfl
  split
  · rename_i h
    rw [h]
    rfl
  split
  · rename_i h
    have hc : Char.ofNat 8 = c := by rw [← h, Char.ofNat_toNat]
    rw [← hc]
    rfl
  split
  · rename_i h
    rw [h]
    rfl
  split
  · rename_i h
    rw [h]
    rfl
  split
  · rename_i h
    have hc : Char.ofNat 12 = c := by rw [← h, Char.ofNat_toNat]
    rw [← hc]
    rfl
  split
  · rename_i h
    rw [h]
    rfl
  split
  · rename_i h
    have hhigh := hexValue_digitChar (c.toNat / 16) (by omega)
    have hlow := hexValue_digitChar (c.toNat % 16) (by omega)
    show some (Char.ofNat (16 * hexValue (Nat.digitChar (c.toNat / 16))
      + hexValue (Nat.digitChar (c.toNat % 16))), r) = some (c, r)
    rw [hhigh, hlow, Nat.div_add_mod, Char.ofNat_toNat]
  · rename_i hbackslash _ _ _ _ _ _
    rw [List.singleton_append]
    unfold readChar
    split <;> simp_all

theorem stringChar_append_inj {c d : Char} {r s : List Char}
    (h : stringChar c ++ r = stringChar d ++ s) : c = d ∧ r = s := by
  have hread := readChar_stringChar c r
  rw [h, readChar_stringChar] at hread
  obtain ⟨hd, hs⟩ := Prod.mk.inj (Option.some.inj hread)
  exact ⟨hd.symm, hs.symm⟩

/-- No character is written with a bare quote in front, so the quote ends a string. -/
theorem stringChar_append_ne_quote (c : Char) (r s : List Char) :
    stringChar c ++ r ≠ '"' :: s := by
  intro h
  have hread := readChar_stringChar c r
  rw [h] at hread
  have hc : '"' = c := (Prod.mk.inj (Option.some.inj hread)).1
  rw [← hc] at h
  have hslash : '\\' = '"' := (List.cons.inj h).1
  exact absurd hslash (by decide)

theorem chars_append_inj : ∀ {cs ds r s : List Char},
    cs.flatMap stringChar ++ '"' :: r = ds.flatMap stringChar ++ '"' :: s → cs = ds ∧ r = s
  | [], [], r, s, h => ⟨rfl, (List.cons.inj h).2⟩
  | [], d :: ds, r, s, h => by
      rw [List.flatMap_cons, List.append_assoc] at h
      exact absurd h.symm (stringChar_append_ne_quote d _ r)
  | c :: cs, [], r, s, h => by
      rw [List.flatMap_cons, List.append_assoc] at h
      exact absurd h (stringChar_append_ne_quote c _ s)
  | c :: cs, d :: ds, r, s, h => by
      rw [List.flatMap_cons, List.flatMap_cons, List.append_assoc, List.append_assoc] at h
      obtain ⟨rfl, hrest⟩ := stringChar_append_inj h
      obtain ⟨rfl, hrs⟩ := chars_append_inj hrest
      exact ⟨rfl, hrs⟩

theorem quoted_append_inj {a b : String} {r s : List Char}
    (h : quoted a ++ r = quoted b ++ s) : a = b ∧ r = s := by
  rw [quoted, quoted, List.append_assoc, List.append_assoc] at h
  obtain ⟨hchars, hrs⟩ := chars_append_inj (List.cons.inj h).2
  exact ⟨String.toList_injective hchars, hrs⟩

/-! ## Numbers -/

/-- Can the character stand in a number? -/
def inNumber (c : Char) : Bool :=
  c == '-' || c.isDigit

/-- The text does not go on as a number. -/
def EndsNumber (r : List Char) : Prop :=
  ∀ c s, r = c :: s → inNumber c = false

theorem endsNumber_cons {c : Char} (h : inNumber c = false) (r : List Char) :
    EndsNumber (c :: r) := by
  intro d s hcons
  rwa [← (List.cons.inj hcons).1]

theorem inNumber_of_mem_ofInt {n : Int} {c : Char} (h : c ∈ Decimal.ofInt n) :
    inNumber c = true := by
  cases n with
  | ofNat n => rw [inNumber, Decimal.isDigit_of_mem_ofNat h, Bool.or_true]
  | negSucc n =>
      rcases List.mem_cons.mp h with rfl | h
      · rfl
      · rw [inNumber, Decimal.isDigit_of_mem_ofNat h, Bool.or_true]

theorem takeWhile_ofInt_append (n : Int) {r : List Char} (hr : EndsNumber r) :
    (Decimal.ofInt n ++ r).takeWhile inNumber = Decimal.ofInt n := by
  rw [List.takeWhile_append_of_pos fun _ hc => inNumber_of_mem_ofInt hc]
  cases r with
  | nil => rw [List.takeWhile_nil, List.append_nil]
  | cons c r =>
      rw [List.takeWhile_cons_of_neg (by rw [hr c r rfl]; exact Bool.false_ne_true),
        List.append_nil]

theorem ofInt_append_inj {m n : Int64} {r s : List Char} (hr : EndsNumber r) (hs : EndsNumber s)
    (h : Decimal.ofInt m.toInt ++ r = Decimal.ofInt n.toInt ++ s) : m = n ∧ r = s := by
  have hdigits : Decimal.ofInt m.toInt = Decimal.ofInt n.toInt := by
    rw [← takeWhile_ofInt_append m.toInt hr, h, takeWhile_ofInt_append n.toInt hs]
  have hread := Decimal.int64?_ofInt m
  rw [hdigits, Decimal.int64?_ofInt] at hread
  rw [hdigits] at h
  exact ⟨(Option.some.inj hread).symm, List.append_cancel_left h⟩

/-! ## Values -/

/-- The shape of the value whose text starts with the character.  None starts with
the bracket that ends a list. -/
def shapeOf : Char → String
  | '"' => "string"
  | '[' => "array"
  | 'n' => "nil"
  | ']' => ""
  | _ => "integer"

theorem shapeOf_of_inNumber {c : Char} (h : inNumber c = true) : shapeOf c = "integer" := by
  unfold shapeOf
  split
  · exact absurd h (by decide)
  · exact absurd h (by decide)
  · exact absurd h (by decide)
  · exact absurd h (by decide)
  · rfl

/-- The first character of a text gives away the shape of the value. -/
theorem compact_eq_cons (v : Value) :
    ∃ c t, compact v.toJson = c :: t ∧ shapeOf c = v.typeName := by
  cases v with
  | text s => exact ⟨_, _, rfl, rfl⟩
  | integer n =>
      cases hdigits : Decimal.ofInt n.toInt with
      | nil =>
          have hread := Decimal.int?_ofInt n.toInt
          rw [hdigits] at hread
          cases hread
      | cons c t =>
          have hc : c ∈ Decimal.ofInt n.toInt := by
            rw [hdigits]
            exact List.mem_cons_self
          exact ⟨c, t, hdigits, shapeOf_of_inNumber (inNumber_of_mem_ofInt hc)⟩
  | list vs => exact ⟨_, _, rfl, rfl⟩
  | nil => exact ⟨_, _, rfl, rfl⟩

theorem typeName_eq_of_compact {v w : Value} {r s : List Char}
    (h : compact v.toJson ++ r = compact w.toJson ++ s) : v.typeName = w.typeName := by
  obtain ⟨c, t, hv, hc⟩ := compact_eq_cons v
  obtain ⟨d, u, hw, hd⟩ := compact_eq_cons w
  rw [hv, hw] at h
  rw [← hc, ← hd, (List.cons.inj h).1]

/-- What stands in an array behind an item: the other items and the bracket. -/
def behindItem : List Json → List Char → List Char
  | [], r => ']' :: r
  | j :: js, r => ',' :: (compactItems (j :: js) ++ ']' :: r)

theorem compactItems_cons_append (j : Json) (js : List Json) (r : List Char) :
    compactItems (j :: js) ++ ']' :: r = compact j ++ behindItem js r := by
  cases js with
  | nil => rfl
  | cons k js =>
      rw [compactItems, List.append_assoc]
      rfl

theorem endsNumber_behindItem (js : List Json) (r : List Char) :
    EndsNumber (behindItem js r) := by
  cases js with
  | nil => exact endsNumber_cons rfl r
  | cons j js => exact endsNumber_cons rfl _

theorem compactItems_cons_ne_bracket (v : Value) (js : List Json) (r s : List Char) :
    compactItems (v.toJson :: js) ++ ']' :: r ≠ ']' :: s := by
  intro h
  obtain ⟨c, t, hv, hc⟩ := compact_eq_cons v
  rw [compactItems_cons_append, hv] at h
  have hbracket : c = ']' := (List.cons.inj h).1
  rw [hbracket] at hc
  cases v <;> exact absurd hc (by simp [shapeOf, Value.typeName])

mutual

/-- A text in front of another says where it ends and which value it is. -/
theorem compact_append_inj : ∀ {v w : Value} {r s : List Char}, EndsNumber r → EndsNumber s →
    compact v.toJson ++ r = compact w.toJson ++ s → v = w ∧ r = s
  | .text a, .text b, _, _, _, _, h => by
      obtain ⟨rfl, hrs⟩ := quoted_append_inj h
      exact ⟨rfl, hrs⟩
  | .integer m, .integer n, _, _, hr, hs, h => by
      obtain ⟨rfl, hrs⟩ := ofInt_append_inj hr hs h
      exact ⟨rfl, hrs⟩
  | .list vs, .list ws, r, s, _, _, h => by
      rw [Value.toJson, Value.toJson, compact, compact, List.append_assoc, List.append_assoc] at h
      obtain ⟨rfl, hrs⟩ := compactItems_append_inj (List.cons.inj h).2
      exact ⟨rfl, hrs⟩
  | .nil, .nil, _, _, _, _, h => ⟨rfl, List.append_cancel_left h⟩
  | .text _, .integer _, _, _, _, _, h | .text _, .list _, _, _, _, _, h
  | .text _, .nil, _, _, _, _, h | .integer _, .text _, _, _, _, _, h
  | .integer _, .list _, _, _, _, _, h | .integer _, .nil, _, _, _, _, h
  | .list _, .text _, _, _, _, _, h | .list _, .integer _, _, _, _, _, h
  | .list _, .nil, _, _, _, _, h | .nil, .text _, _, _, _, _, h
  | .nil, .integer _, _, _, _, _, h | .nil, .list _, _, _, _, _, h =>
      absurd (typeName_eq_of_compact h) (by simp [Value.typeName])

theorem compactItems_append_inj : ∀ {vs ws : List Value} {r s : List Char},
    compactItems (Value.toJsonEach vs) ++ ']' :: r
      = compactItems (Value.toJsonEach ws) ++ ']' :: s → vs = ws ∧ r = s
  | [], [], _, _, h => ⟨rfl, (List.cons.inj h).2⟩
  | [], w :: ws, r, s, h => absurd h.symm (compactItems_cons_ne_bracket w _ s r)
  | v :: vs, [], r, s, h => absurd h (compactItems_cons_ne_bracket v _ r s)
  | v :: vs, w :: ws, r, s, h => by
      rw [Value.toJsonEach, Value.toJsonEach, compactItems_cons_append,
        compactItems_cons_append] at h
      obtain ⟨rfl, hbehind⟩ :=
        compact_append_inj (endsNumber_behindItem _ r) (endsNumber_behindItem _ s) h
      cases vs with
      | nil =>
          cases ws with
          | nil => exact ⟨rfl, (List.cons.inj hbehind).2⟩
          | cons w ws => exact absurd (List.cons.inj hbehind).1 (by decide)
      | cons v vs =>
          cases ws with
          | nil => exact absurd (List.cons.inj hbehind).1 (by decide)
          | cons w ws =>
              have hitems : compactItems (Value.toJsonEach (v :: vs)) ++ ']' :: r
                  = compactItems (Value.toJsonEach (w :: ws)) ++ ']' :: s :=
                (List.cons.inj hbehind).2
              obtain ⟨hvs, hrs⟩ := compactItems_append_inj hitems
              rw [hvs]
              exact ⟨rfl, hrs⟩

end

end Json

end RecordQuery
