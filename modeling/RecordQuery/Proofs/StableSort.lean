/-
# What a stable sort is

A stable sort of a list under a total preorder `le` is a list in which nothing
stands before what it should follow, and in which the elements that tie with any
given one are those of the list, in its order.  Nothing else is needed: there is
one such list at most (`IsStableSort.unique`), and merge sort makes it.

Uniqueness turns every law of sorting into a check of those two clauses:

    filter      taking elements out commutes with sorting
    lex         sorting by one order and then by another sorts by the second
                first, and by the first where the second ties

Seen from the places of the list, a sort is a rearrangement of them: by the order of
what stands there, and places that tie from left to right (`exists_places_mergeSort`).
-/
import Mathlib.Data.List.Basic

namespace RecordQuery

variable {α : Type}

/-- Any two elements are in order one way or the other, and order is passed on. -/
structure TotalPreorder (le : α → α → Bool) : Prop where
  trans : ∀ a b c, le a b = true → le b c = true → le a c = true
  total : ∀ a b, (le a b || le b a) = true

/-- Each of the two may stand before the other. -/
def tied (le : α → α → Bool) (a b : α) : Bool :=
  le a b && le b a

/-- The list `r` holds the elements of `l` in order, and ties in the order of `l`. -/
structure IsStableSort (le : α → α → Bool) (l r : List α) : Prop where
  sorted : r.Pairwise fun a b => le a b = true
  ties : ∀ a, r.filter (tied le a) = l.filter (tied le a)

namespace TotalPreorder

variable {le : α → α → Bool}

theorem refl (h : TotalPreorder le) (a : α) : le a a = true := by
  have htotal := h.total a a
  rwa [Bool.or_self] at htotal

theorem tied_self (h : TotalPreorder le) (a : α) : tied le a a = true := by
  rw [tied, h.refl a, Bool.and_self]

/-- The elements that tie with one are in order as they stand. -/
theorem pairwise_filter_tied (h : TotalPreorder le) (a : α) (l : List α) :
    (l.filter (tied le a)).Pairwise fun b c => le b c = true := by
  refine List.pairwise_of_forall_mem_list fun b hb c hc => ?_
  have hb' : le a b = true ∧ le b a = true := by
    simpa [tied] using (List.mem_filter.mp hb).2
  have hc' : le a c = true ∧ le c a = true := by
    simpa [tied] using (List.mem_filter.mp hc).2
  exact h.trans b a c hb'.2 hc'.1

/-- Merge sort is a stable sort: what ties is a sublist in order, and so it is
still one afterwards, and there is no more of it. -/
theorem isStableSort_mergeSort (h : TotalPreorder le) (l : List α) :
    IsStableSort le l (l.mergeSort le) where
  sorted := List.pairwise_mergeSort h.trans h.total l
  ties a := by
    have hsublist : (l.filter (tied le a)).Sublist (l.mergeSort le) :=
      List.sublist_mergeSort h.trans h.total (h.pairwise_filter_tied a l) List.filter_sublist
    have hfiltered : (l.filter (tied le a)).Sublist ((l.mergeSort le).filter (tied le a)) := by
      have hboth := hsublist.filter (tied le a)
      simpa only [List.filter_filter, Bool.and_self] using hboth
    exact (hfiltered.eq_of_length
      ((List.mergeSort_perm l le).filter (tied le a)).length_eq.symm).symm

end TotalPreorder

namespace IsStableSort

variable {le : α → α → Bool}

/-- Two lists in order that agree on what ties with each element are equal. -/
theorem eq_of_ties (h : TotalPreorder le) : ∀ {r r' : List α},
    r.Pairwise (fun a b => le a b = true) → r'.Pairwise (fun a b => le a b = true) →
      (∀ a, r.filter (tied le a) = r'.filter (tied le a)) → r = r'
  | [], [], _, _, _ => rfl
  | [], b :: r', _, _, hties => by
      have hb := hties b
      rw [List.filter_cons_of_pos (h.tied_self b)] at hb
      cases hb
  | a :: r, [], _, _, hties => by
      have ha := hties a
      rw [List.filter_cons_of_pos (h.tied_self a)] at ha
      cases ha
  | a :: r, b :: r', hr, hr', hties => by
      have hmem : a ∈ b :: r' := by
        have ha : a ∈ (a :: r).filter (tied le a) :=
          List.mem_filter.mpr ⟨List.mem_cons_self, h.tied_self a⟩
        rw [hties a] at ha
        exact (List.mem_filter.mp ha).1
      have hmem' : b ∈ a :: r := by
        have hb : b ∈ (b :: r').filter (tied le b) :=
          List.mem_filter.mpr ⟨List.mem_cons_self, h.tied_self b⟩
        rw [← hties b] at hb
        exact (List.mem_filter.mp hb).1
      -- Each head is the least of its list, and each list holds both heads.
      have hab : le a b = true := by
        rcases List.mem_cons.mp hmem' with rfl | hb
        · exact h.refl b
        · exact (List.pairwise_cons.mp hr).1 b hb
      have hba : le b a = true := by
        rcases List.mem_cons.mp hmem with rfl | ha
        · exact h.refl a
        · exact (List.pairwise_cons.mp hr').1 a ha
      have htied : tied le a b = true := by rw [tied, hab, hba, Bool.and_self]
      have hheads := hties a
      rw [List.filter_cons_of_pos (h.tied_self a), List.filter_cons_of_pos htied] at hheads
      obtain ⟨rfl, -⟩ := List.cons.inj hheads
      have htails : r = r' := by
        refine eq_of_ties h (List.pairwise_cons.mp hr).2 (List.pairwise_cons.mp hr').2 fun c => ?_
        have hc := hties c
        by_cases hca : tied le c a = true
        · rw [List.filter_cons_of_pos hca, List.filter_cons_of_pos hca] at hc
          exact (List.cons.inj hc).2
        · rwa [List.filter_cons_of_neg hca, List.filter_cons_of_neg hca] at hc
      rw [htails]

theorem unique (h : TotalPreorder le) {l r r' : List α} (hr : IsStableSort le l r)
    (hr' : IsStableSort le l r') : r = r' :=
  eq_of_ties h hr.sorted hr'.sorted fun a => (hr.ties a).trans (hr'.ties a).symm

theorem filter {l r : List α} (hr : IsStableSort le l r) (p : α → Bool) :
    IsStableSort le (l.filter p) (r.filter p) where
  sorted := hr.sorted.filter p
  ties a := by rw [List.filter_comm, hr.ties a, List.filter_comm]

end IsStableSort

/-! ## The laws of sorting -/

/-- The first order decides, and the second where the first ties. -/
def lex (first second : α → α → Bool) (a b : α) : Bool :=
  first a b && (!first b a || second a b)

theorem tied_lex (first second : α → α → Bool) (a : α) :
    tied (lex first second) a = fun b => tied second a b && tied first a b := by
  funext b
  unfold tied lex
  cases first a b <;> cases first b a <;> cases second a b <;> cases second b a <;> rfl

/-- Where the first order ties, the list is in the second one. -/
theorem pairwise_lex {first second : α → α → Bool} (h : TotalPreorder first) : ∀ {l : List α},
    l.Pairwise (fun a b => first a b = true) →
      (∀ a, (l.filter (tied first a)).Pairwise fun b c => second b c = true) →
        l.Pairwise fun a b => lex first second a b = true
  | [], _, _ => .nil
  | a :: l, hl, hties => by
      obtain ⟨hhead, htail⟩ := List.pairwise_cons.mp hl
      refine List.pairwise_cons.mpr ⟨fun b hb => ?_, pairwise_lex h htail fun c => ?_⟩
      · have hab : first a b = true := hhead b hb
        cases hba : first b a with
        | false => rw [lex, hab, hba]; rfl
        | true =>
            have htied : tied first a b = true := by rw [tied, hab, hba, Bool.and_self]
            have ha := hties a
            rw [List.filter_cons_of_pos (h.tied_self a)] at ha
            have hsecond : second a b = true :=
              (List.pairwise_cons.mp ha).1 b (List.mem_filter.mpr ⟨hb, htied⟩)
            rw [lex, hab, hba, hsecond]
            rfl
      · exact (hties c).sublist ((List.sublist_cons_self a l).filter _)

theorem IsStableSort.lex {first second : α → α → Bool} (h : TotalPreorder first)
    {l r r' : List α} (hr : IsStableSort second l r) (hr' : IsStableSort first r r') :
    IsStableSort (lex first second) l r' where
  sorted := pairwise_lex h hr'.sorted fun a => by
    rw [hr'.ties a]
    exact hr.sorted.filter _
  ties a := by
    rw [tied_lex, ← List.filter_filter, ← List.filter_filter, hr'.ties a, List.filter_comm,
      hr.ties a, List.filter_comm]

variable {le first second : α → α → Bool}

/-- Taking elements out before or after sorting makes no difference. -/
theorem filter_mergeSort (h : TotalPreorder le) (l : List α) (p : α → Bool) :
    (l.mergeSort le).filter p = (l.filter p).mergeSort le :=
  IsStableSort.unique h ((h.isStableSort_mergeSort l).filter p) (h.isStableSort_mergeSort _)

/-- Sorting again leaves the earlier order where the later one ties. -/
theorem mergeSort_mergeSort (h₁ : TotalPreorder first) (h₂ : TotalPreorder second)
    (hlex : TotalPreorder (lex first second)) (l : List α) :
    (l.mergeSort second).mergeSort first = l.mergeSort (lex first second) :=
  IsStableSort.unique hlex
    (IsStableSort.lex h₁ (h₂.isStableSort_mergeSort l) (h₁.isStableSort_mergeSort _))
    (hlex.isStableSort_mergeSort l)

/-! ## Where the elements come from -/

/-- The second place may follow the first: what stands there is in order, and where it
ties the first place is further to the left. -/
def PlacesInOrder (le : α → α → Bool) (l : List α) (m n : Nat) : Prop :=
  ∀ a b, l[m]? = some a → l[n]? = some b →
    le a b = true ∧ (tied le a b = true → m < n)

/-- Elements with their places, sorted by the elements and then by the places. -/
theorem placesInOrder_of_zipIdxLE {l : List α} {p q : α × Nat} (hp : p ∈ l.zipIdx)
    (hq : q ∈ l.zipIdx) (hle : List.zipIdxLE le p q = true) (hne : p.2 ≠ q.2) :
    PlacesInOrder le l p.2 q.2 := by
  intro a b ha hb
  rw [List.mem_zipIdx_iff_getElem?.mp hp] at ha
  rw [List.mem_zipIdx_iff_getElem?.mp hq] at hb
  cases ha
  cases hb
  unfold List.zipIdxLE at hle
  by_cases hpq : le p.1 q.1 = true
  · refine ⟨hpq, ?_⟩
    intro htied
    have hqp : le q.1 p.1 = true := by
      rw [tied, Bool.and_eq_true] at htied
      exact htied.2
    rw [if_pos hpq, if_pos hqp] at hle
    have hplaces : p.2 ≤ q.2 := of_decide_eq_true hle
    omega
  · rw [if_neg hpq] at hle
    cases hle

/-- Merge sort rearranges the places of the list. -/
theorem exists_places_mergeSort (h : TotalPreorder le) (l : List α) :
    ∃ places : List Nat, places.Perm (List.range l.length)
      ∧ (l.mergeSort le).map some = places.map (fun n => l[n]?)
      ∧ places.Pairwise (PlacesInOrder le l) := by
  have hperm : (l.zipIdx.mergeSort (List.zipIdxLE le)).Perm l.zipIdx := List.mergeSort_perm _ _
  have hplaces : ((l.zipIdx.mergeSort (List.zipIdxLE le)).map Prod.snd).Perm
      (List.range l.length) := by
    rw [List.range_eq_range', ← List.zipIdx_map_snd 0 l]
    exact hperm.map Prod.snd
  refine ⟨_, hplaces, ?_, ?_⟩
  · rw [← List.mergeSort_zipIdx, List.map_map, List.map_map]
    refine List.map_congr_left ?_
    intro p hp
    exact (List.mem_zipIdx_iff_getElem?.mp (hperm.mem_iff.mp hp)).symm
  · have hsorted := List.pairwise_mergeSort (List.zipIdxLE_trans h.trans)
      (List.zipIdxLE_total h.total) l.zipIdx
    have hdistinct := List.pairwise_map.mp (hplaces.nodup_iff.mpr List.nodup_range)
    rw [List.pairwise_map]
    refine (hsorted.and hdistinct).imp_of_mem ?_
    rintro p q hp hq ⟨hle, hne⟩
    exact placesInOrder_of_zipIdxLE (hperm.mem_iff.mp hp) (hperm.mem_iff.mp hq) hle hne

end RecordQuery
