/-
# Lower case and what stands around

Every character has one lower case, but for the capital sigma: its lower case is `ς` at the
end of a word and `σ` elsewhere, so a text may get another lower case inside a longer one.

    ΑΣ      ας       the sigma ends the word
    ΑΣΒ     ασβ      and here a letter follows
    ΑΣ Β    ας β     a blank ends the word too

`lowercaseBetween` is the lower case of a text between neighbours, and the lower case of a
whole is put together from such pieces (`lowercase_append_append`).  Neighbours matter to a
sigma only if it is *exposed*:

    nothing but ignored characters in front, and no letter next behind it
    a letter next in front of it, and nothing but ignored characters behind

A text without an exposed sigma has one lower case wherever it stands
(`keepsSigmas_of_settled`).  For one with an exposed sigma there is a longer text in whose
lower case its own is nowhere found (`HasExposedSigma.exists_lost`).  One more letter does it:
it changes how many sigmas there are of either form.
-/
import RecordQuery.Text.Lowercase
import Mathlib.Data.List.Forall2
import Mathlib.Data.List.TakeWhile

namespace RecordQuery.Text

/-! ## The first character that is not ignored -/

/-- Case ignores every one of the characters. -/
def Ignored (cs : List Char) : Prop :=
  ∀ c ∈ cs, isCaseIgnorable c = true

theorem Ignored.startsCased_append {cs : List Char} (h : Ignored cs) (behind : List Char) :
    startsCased (cs ++ behind) = startsCased behind := by
  rw [startsCased, startsCased, List.dropWhile_append_of_pos h]

theorem Ignored.startsCased {cs : List Char} (h : Ignored cs) : startsCased cs = false := by
  rw [Text.startsCased, List.dropWhile_eq_nil_iff.mpr h]

/-- Behind a character that is not ignored nothing matters any more. -/
theorem startsCased_append {cs : List Char} (h : ¬ Ignored cs) (behind : List Char) :
    startsCased (cs ++ behind) = startsCased cs := by
  have hdrop : cs.dropWhile isCaseIgnorable ≠ [] :=
    fun hnil => h (List.dropWhile_eq_nil_iff.mp hnil)
  obtain ⟨c, rest, hrest⟩ := List.exists_cons_of_ne_nil hdrop
  simp [startsCased, List.dropWhile_append, hrest]

theorem not_ignored_of_startsCased {cs : List Char} (h : startsCased cs = true) : ¬ Ignored cs := by
  intro hignored
  rw [hignored.startsCased] at h
  exact Bool.false_ne_true h

/-! ## The form of a sigma -/

/-- Is a capital sigma between the characters in front, nearest first, and those behind the
last letter of a word? -/
def endsWord (before behind : List Char) : Bool :=
  startsCased before && !startsCased behind

/-- The lower case of a capital sigma between the characters in front, nearest first, and
those behind. -/
def sigma (before behind : List Char) : Char :=
  if endsWord before behind then 'ς' else 'σ'

/-- Other neighbours may give the sigma another form.  Ignored characters apart it stands at
the beginning of the text with no letter behind it, or at the end with a letter in front. -/
def Exposed (before behind : List Char) : Prop :=
  (Ignored before ∧ startsCased behind = false) ∨ (startsCased before = true ∧ Ignored behind)

instance (cs : List Char) : Decidable (Ignored cs) :=
  decidable_of_iff (cs.all isCaseIgnorable = true) List.all_eq_true

instance (before behind : List Char) : Decidable (Exposed before behind) :=
  inferInstanceAs (Decidable (_ ∨ _))

theorem endsWord_append {before behind : List Char} (h : ¬ Exposed before behind)
    (front back : List Char) :
    endsWord (before ++ front) (behind ++ back) = endsWord before behind := by
  by_cases hbefore : Ignored before
  · -- The sigma is the first letter, and not exposed because of the letter behind it.
    have hbehind : startsCased behind = true := by
      cases hcased : startsCased behind with
      | true => rfl
      | false => exact absurd (Or.inl ⟨hbefore, hcased⟩) h
    rw [endsWord, endsWord, startsCased_append (not_ignored_of_startsCased hbehind), hbehind,
      Bool.not_true, Bool.and_false, Bool.and_false]
  · rw [endsWord, endsWord, startsCased_append hbefore]
    cases hcased : startsCased before with
    | false => rw [Bool.false_and, Bool.false_and]
    | true =>
        have hbehind : ¬ Ignored behind := fun hignored => h (Or.inr ⟨hcased, hignored⟩)
        rw [startsCased_append hbehind]

/-- Characters in front give a sigma that had none a letter before it, and take none away. -/
theorem endsWord_append_front {before behind front : List Char}
    (h : endsWord (before ++ front) behind = false) : endsWord before behind = false := by
  cases hcased : startsCased before with
  | false => rw [endsWord, hcased, Bool.false_and]
  | true => rwa [endsWord, startsCased_append (not_ignored_of_startsCased hcased)] at h

theorem endsWord_of_append_behind {before behind back : List Char}
    (h : endsWord before (behind ++ back) = true) : endsWord before behind = true := by
  cases hcased : startsCased behind with
  | false =>
      rw [endsWord, Bool.and_eq_true] at h
      rw [endsWord, h.1, hcased]
      rfl
  | true => rwa [endsWord, startsCased_append (not_ignored_of_startsCased hcased)] at h

theorem sigma_eq_inner {before behind : List Char} :
    sigma before behind = 'σ' ↔ endsWord before behind = false := by
  cases h : endsWord before behind <;> simp [sigma, h]

theorem sigma_eq_final {before behind : List Char} :
    sigma before behind = 'ς' ↔ endsWord before behind = true := by
  cases h : endsWord before behind <;> simp [sigma, h]

/-! ## Lower case between neighbours -/

/-- The lower case of a text between the characters in front, nearest first, and those
behind. -/
def lowercaseBetween (before : List Char) : List Char → List Char → List Char
  | [], _ => []
  | c :: rest, behind =>
      (if c = 'Σ' then [sigma before (rest ++ behind)] else lowerChar c)
        ++ lowercaseBetween (c :: before) rest behind

theorem lowercaseBetween_append (before xs ys behind : List Char) :
    lowercaseBetween before (xs ++ ys) behind
      = lowercaseBetween before xs (ys ++ behind)
        ++ lowercaseBetween (xs.reverse ++ before) ys behind := by
  induction xs generalizing before with
  | nil => rfl
  | cons x xs ih =>
      rw [List.cons_append, lowercaseBetween, lowercaseBetween, ih, List.append_assoc,
        List.append_assoc, List.reverse_cons, List.append_assoc]
      rfl

theorem lowercaseAfter_eq (before cs : List Char) :
    lowercaseAfter before cs = lowercaseBetween before cs [] := by
  induction cs generalizing before with
  | nil => rfl
  | cons c cs ih =>
      rw [lowercaseAfter, lowercaseBetween, ih, List.append_nil]
      rfl

theorem lowercase_eq (cs : List Char) : lowercase cs = lowercaseBetween [] cs [] :=
  lowercaseAfter_eq [] cs

/-- The lower case of a text in three parts: each is lowered between the other two. -/
theorem lowercase_append_append (front part back : List Char) :
    lowercase (front ++ part ++ back)
      = lowercaseBetween [] front (part ++ back) ++ lowercaseBetween front.reverse part back
        ++ lowercaseBetween (part.reverse ++ front.reverse) back [] := by
  rw [lowercase_eq, lowercaseBetween_append, lowercaseBetween_append, List.reverse_append]
  simp only [List.append_nil]

/-- Between other neighbours a text has a lower case of the same length, and only the forms of
its sigmas may differ: where they are related, so are the lower cases, character by
character. -/
theorem forall₂_lowercaseBetween {R : Char → Char → Prop} (hrefl : ∀ c, R c c)
    {before before' xs behind behind' : List Char}
    (h : ∀ l r, xs = l ++ 'Σ' :: r →
      R (sigma (l.reverse ++ before) (r ++ behind)) (sigma (l.reverse ++ before') (r ++ behind'))) :
    List.Forall₂ R (lowercaseBetween before xs behind) (lowercaseBetween before' xs behind') := by
  induction xs generalizing before before' with
  | nil => exact .nil
  | cons x xs ih =>
      rw [lowercaseBetween, lowercaseBetween]
      refine List.rel_append ?_ (ih fun l r hxs => ?_)
      · by_cases hx : x = 'Σ'
        · rw [if_pos hx, if_pos hx]
          exact .cons (h [] xs (by rw [hx, List.nil_append])) .nil
        · rw [if_neg hx, if_neg hx]
          exact List.forall₂_same.mpr fun c _ => hrefl c
      · have hplace := h (x :: l) r (by rw [hxs, List.cons_append])
        simpa only [List.reverse_cons, List.append_assoc, List.singleton_append] using hplace

/-- Neighbours that leave every sigma its form leave the whole lower case as it is. -/
theorem lowercaseBetween_congr {before before' xs behind behind' : List Char}
    (h : ∀ l r, xs = l ++ 'Σ' :: r →
      endsWord (l.reverse ++ before) (r ++ behind)
        = endsWord (l.reverse ++ before') (r ++ behind')) :
    lowercaseBetween before xs behind = lowercaseBetween before' xs behind' := by
  rw [← List.forall₂_eq_eq_eq]
  refine forall₂_lowercaseBetween (fun _ => rfl) fun l r hxs => ?_
  rw [sigma, sigma, h l r hxs]

/-! ## Texts in which every sigma is settled -/

/-- One of the capital sigmas of the text is exposed. -/
def HasExposedSigma (cs : List Char) : Prop :=
  ∃ l r, cs = l ++ 'Σ' :: r ∧ Exposed l.reverse r

/-- The capital sigmas of a text have the same form on their own and between what is in front
and behind. -/
def KeepsSigmas (front part back : List Char) : Prop :=
  ∀ l r, part = l ++ 'Σ' :: r →
    endsWord (l.reverse ++ front.reverse) (r ++ back) = endsWord l.reverse r

/-- Is there an exposed sigma in a text, behind given characters? -/
def hasExposedSigmaFrom (before : List Char) : List Char → Bool
  | [] => false
  | c :: rest =>
      decide (c = 'Σ' ∧ Exposed before rest) || hasExposedSigmaFrom (c :: before) rest

theorem hasExposedSigmaFrom_iff {before cs : List Char} :
    hasExposedSigmaFrom before cs = true
      ↔ ∃ l r, cs = l ++ 'Σ' :: r ∧ Exposed (l.reverse ++ before) r := by
  induction cs generalizing before with
  | nil => simp [hasExposedSigmaFrom]
  | cons c rest ih =>
      rw [hasExposedSigmaFrom, Bool.or_eq_true, decide_eq_true_eq, ih]
      constructor
      · rintro (⟨rfl, hexposed⟩ | ⟨l, r, rfl, hexposed⟩)
        · exact ⟨[], rest, rfl, hexposed⟩
        · refine ⟨c :: l, r, rfl, ?_⟩
          simpa using hexposed
      · rintro ⟨l, r, hcs, hexposed⟩
        cases l with
        | nil =>
            obtain ⟨rfl, rfl⟩ := List.cons.inj hcs
            exact Or.inl ⟨rfl, hexposed⟩
        | cons d l =>
            obtain ⟨rfl, rfl⟩ := List.cons.inj hcs
            refine Or.inr ⟨l, r, rfl, ?_⟩
            simpa using hexposed

instance (cs : List Char) : Decidable (HasExposedSigma cs) :=
  decidable_of_iff (hasExposedSigmaFrom [] cs = true) (by
    rw [hasExposedSigmaFrom_iff, HasExposedSigma]
    simp only [List.append_nil])

example : HasExposedSigma "ΑΣ.".toList := by decide

example : ¬ HasExposedSigma "ΑΣ Α".toList := by decide

theorem keepsSigmas_of_settled {part : List Char} (h : ¬ HasExposedSigma part)
    (front back : List Char) : KeepsSigmas front part back := by
  intro l r hpart
  exact endsWord_append (fun hexposed => h ⟨l, r, hpart, hexposed⟩) _ _

/-- The lower case of the text stands where the text stands. -/
theorem KeepsSigmas.lowercase_occurs {front part back : List Char}
    (h : KeepsSigmas front part back) : lowercase part <:+: lowercase (front ++ part ++ back) := by
  have hpart : lowercaseBetween front.reverse part back = lowercase part := by
    rw [lowercase_eq]
    refine lowercaseBetween_congr fun l r hlr => ?_
    rw [h l r hlr, List.append_nil, List.append_nil]
  rw [lowercase_append_append, hpart]
  exact ⟨_, _, rfl⟩

/-! ## Letters that take a lower case away -/

theorem count_le_of_forall₂ {s : Char} {as bs : List Char}
    (h : List.Forall₂ (fun a b => a = s → b = s) as bs) : as.count s ≤ bs.count s := by
  induction h with
  | nil => exact Nat.le_refl _
  | @cons a b as bs hab _ ih =>
      rw [List.count_cons, List.count_cons]
      by_cases ha : a = s
      · rw [ha, hab ha]
        exact Nat.add_le_add_right ih _
      · rw [if_neg (by simpa using ha)]
        exact Nat.le_add_right_of_le ih

/-- A form of the sigma that other neighbours do not take away at any place is there at least
as often. -/
theorem count_lowercaseBetween_le {s : Char} {before before' xs behind behind' : List Char}
    (h : ∀ l r, xs = l ++ 'Σ' :: r → sigma (l.reverse ++ before) (r ++ behind) = s →
      sigma (l.reverse ++ before') (r ++ behind') = s) :
    (lowercaseBetween before xs behind).count s ≤ (lowercaseBetween before' xs behind').count s :=
  count_le_of_forall₂ (forall₂_lowercaseBetween (fun _ => id) h)

/-- And more often, if they give that form to a sigma which did not have it. -/
theorem count_lowercaseBetween_lt {s : Char} {before before' behind behind' l r : List Char}
    (h : ∀ l' r', l ++ 'Σ' :: r = l' ++ 'Σ' :: r' →
      sigma (l'.reverse ++ before) (r' ++ behind) = s →
        sigma (l'.reverse ++ before') (r' ++ behind') = s)
    (hlost : sigma (l.reverse ++ before) (r ++ behind) ≠ s)
    (hhere : sigma (l.reverse ++ before') (r ++ behind') = s) :
    (lowercaseBetween before (l ++ 'Σ' :: r) behind).count s
      < (lowercaseBetween before' (l ++ 'Σ' :: r) behind').count s := by
  have hleft : (lowercaseBetween before l ('Σ' :: r ++ behind)).count s
      ≤ (lowercaseBetween before' l ('Σ' :: r ++ behind')).count s := by
    refine count_lowercaseBetween_le fun l' r' hl => ?_
    have hplace := h l' (r' ++ 'Σ' :: r) (by rw [hl, List.append_assoc, List.cons_append])
    simpa only [List.append_assoc] using hplace
  have hright : (lowercaseBetween ('Σ' :: (l.reverse ++ before)) r behind).count s
      ≤ (lowercaseBetween ('Σ' :: (l.reverse ++ before')) r behind').count s := by
    refine count_lowercaseBetween_le fun l' r' hr => ?_
    have hplace := h (l ++ 'Σ' :: l') r' (by rw [hr, List.append_assoc, List.cons_append])
    simpa only [List.reverse_append, List.reverse_cons, List.append_assoc, List.cons_append,
      List.nil_append] using hplace
  rw [lowercaseBetween_append, lowercaseBetween_append, lowercaseBetween, lowercaseBetween,
    if_pos rfl, if_pos rfl, hhere]
  simp only [List.count_append, List.count_singleton, beq_self_eq_true, if_true, beq_iff_eq,
    if_neg hlost]
  omega

/-- A letter in front makes more sigmas end a word, and no fewer. -/
theorem count_inner_lt {front l r : List Char} (hfront : startsCased front = true)
    (hl : Ignored l.reverse) (hr : startsCased r = false) :
    (lowercaseBetween front (l ++ 'Σ' :: r) []).count 'σ'
      < (lowercase (l ++ 'Σ' :: r)).count 'σ' := by
  rw [lowercase_eq]
  refine count_lowercaseBetween_lt (fun l' r' _ hinner => ?_) ?_ ?_
  · simp only [List.append_nil, sigma_eq_inner] at hinner ⊢
    exact endsWord_append_front hinner
  · rw [List.append_nil, Ne, sigma_eq_inner, endsWord, hl.startsCased_append, hfront, hr]
    exact Bool.noConfusion
  · rw [List.append_nil, List.append_nil, sigma_eq_inner, endsWord, hl.startsCased, Bool.false_and]

/-- A letter behind makes fewer sigmas end a word, and no more. -/
theorem count_final_lt {back l r : List Char} (hback : startsCased back = true)
    (hl : startsCased l.reverse = true) (hr : Ignored r) :
    (lowercaseBetween [] (l ++ 'Σ' :: r) back).count 'ς'
      < (lowercase (l ++ 'Σ' :: r)).count 'ς' := by
  rw [lowercase_eq]
  refine count_lowercaseBetween_lt (fun l' r' _ hfinal => ?_) ?_ ?_
  · simp only [List.append_nil, sigma_eq_final] at hfinal ⊢
    exact endsWord_of_append_behind hfinal
  · rw [List.append_nil, Ne, sigma_eq_final, endsWord, hr.startsCased_append, hback, Bool.not_true,
      Bool.and_false]
    exact Bool.noConfusion
  · rw [List.append_nil, List.append_nil, sigma_eq_final, endsWord, hl, hr.startsCased]
    rfl

/-- For a text with an exposed sigma there is a longer one in whose lower case its own does
not occur: a letter in front is too much for the sigma at the beginning, and a letter behind
for the one at the end. -/
theorem HasExposedSigma.exists_lost {part : List Char} (h : HasExposedSigma part) :
    ∃ whole, part <:+: whole ∧ ¬ lowercase part <:+: lowercase whole := by
  obtain ⟨l, r, rfl, ⟨hl, hr⟩ | ⟨hl, hr⟩⟩ := h
  · refine ⟨'a' :: (l ++ 'Σ' :: r), (List.suffix_cons _ _).isInfix, fun hfound => ?_⟩
    have hwhole : lowercase ('a' :: (l ++ 'Σ' :: r))
        = 'a' :: lowercaseBetween ['a'] (l ++ 'Σ' :: r) [] := by
      rw [lowercase_eq, lowercaseBetween]
      rfl
    have hcount := hfound.sublist.count_le 'σ'
    have hfewer : (lowercaseBetween ['a'] (l ++ 'Σ' :: r) []).count 'σ' < _ :=
      count_inner_lt (by decide) hl hr
    rw [hwhole, List.count_cons_of_ne (by decide)] at hcount
    omega
  · refine ⟨(l ++ 'Σ' :: r) ++ ['a'], (List.prefix_append _ _).isInfix, fun hfound => ?_⟩
    have hwhole : lowercase ((l ++ 'Σ' :: r) ++ ['a'])
        = lowercaseBetween [] (l ++ 'Σ' :: r) ['a'] ++ ['a'] := by
      rw [lowercase_eq, lowercaseBetween_append]
      rfl
    have hcount := hfound.sublist.count_le 'ς'
    have hfewer : (lowercaseBetween [] (l ++ 'Σ' :: r) ['a']).count 'ς' < _ :=
      count_final_lt (by decide) hl hr
    rw [hwhole, List.count_append] at hcount
    have hletter : ['a'].count 'ς' = 0 := by decide
    omega

end RecordQuery.Text
