/-
# Chains of steps that can fail

What a chain of `Except` steps gives when it gives something: every step has
succeeded, each on what the one before it gave.  A step taken for every element of
a list is one relation between two lists, element by element.

A chain that gives nothing has the error of one of its steps, and no error of its own.

Two chains are `Alike` when both give something or neither does, with results that
correspond in the one way or errors that correspond in another.  Chains of steps that are
alike are alike.
-/
import Mathlib.Data.List.Forall2

namespace RecordQuery.Outcome

variable {ε α β : Type}

theorem bind_eq_ok_iff {x : Except ε α} {f : α → Except ε β} {b : β} :
    (x >>= f) = .ok b ↔ ∃ a, x = .ok a ∧ f a = .ok b := by
  cases x with
  | error err =>
      constructor
      · intro h; cases h
      · rintro ⟨a, h, -⟩; cases h
  | ok a =>
      constructor
      · exact fun h => ⟨a, rfl, h⟩
      · rintro ⟨a', h, hb⟩
        cases h
        exact hb

theorem map_eq_ok_iff {x : Except ε α} {f : α → β} {b : β} :
    x.map f = .ok b ↔ ∃ a, x = .ok a ∧ f a = b := by
  cases x with
  | error err =>
      constructor
      · intro h; cases h
      · rintro ⟨a, h, -⟩; cases h
  | ok a =>
      constructor
      · exact fun h => ⟨a, rfl, Except.ok.inj h⟩
      · rintro ⟨a', h, rfl⟩
        cases h
        rfl

theorem bind_eq_error_iff {x : Except ε α} {f : α → Except ε β} {err : ε} :
    (x >>= f) = .error err ↔ x = .error err ∨ ∃ a, x = .ok a ∧ f a = .error err := by
  cases x with
  | error err' =>
      constructor
      · intro h
        cases h
        exact Or.inl rfl
      · rintro (h | ⟨a, h, -⟩)
        · cases h
          rfl
        · cases h
  | ok a =>
      constructor
      · exact fun h => Or.inr ⟨a, rfl, h⟩
      · rintro (h | ⟨a', h, herr⟩)
        · cases h
        · cases h
          exact herr

theorem map_eq_error_iff {x : Except ε α} {f : α → β} {err : ε} :
    x.map f = .error err ↔ x = .error err := by
  cases x with
  | error err' =>
      constructor
      · intro h
        cases h
        rfl
      · intro h
        cases h
        rfl
  | ok a =>
      constructor
      · intro h
        cases h
      · intro h
        cases h

/-- A step for every element succeeds when it does on each. -/
theorem mapM_eq_ok_iff {f : α → Except ε β} : ∀ {xs : List α} {ys : List β},
    xs.mapM f = .ok ys ↔ List.Forall₂ (fun x y => f x = .ok y) xs ys
  | [], ys => by
      rw [List.mapM_nil, List.forall₂_nil_left_iff]
      exact ⟨fun h => (Except.ok.inj h).symm, fun h => h ▸ rfl⟩
  | x :: xs, ys => by
      rw [List.mapM_cons, bind_eq_ok_iff, List.forall₂_cons_left_iff]
      constructor
      · rintro ⟨y, hy, h⟩
        obtain ⟨zs, hzs, h⟩ := bind_eq_ok_iff.mp h
        cases h
        exact ⟨y, zs, hy, mapM_eq_ok_iff.mp hzs, rfl⟩
      · rintro ⟨y, zs, hy, hzs, rfl⟩
        exact ⟨y, hy, bind_eq_ok_iff.mpr ⟨zs, mapM_eq_ok_iff.mpr hzs, rfl⟩⟩

/-- Where the results are known one by one, so is the list of them. -/
theorem mapM_of_ok {f : α → Except ε β} {g : α → β} {xs : List α}
    (h : ∀ x ∈ xs, f x = .ok (g x)) : xs.mapM f = .ok (xs.map g) := by
  rw [mapM_eq_ok_iff, List.forall₂_map_right_iff, List.forall₂_same]
  exact h

/-- The error of a list of steps is the error of one of them. -/
theorem exists_of_mapM_error {f : α → Except ε β} {err : ε} : ∀ {xs : List α},
    xs.mapM f = .error err → ∃ x ∈ xs, f x = .error err
  | [], h => nomatch h
  | x :: xs, h => by
      rw [List.mapM_cons, bind_eq_error_iff] at h
      rcases h with h | ⟨y, -, h⟩
      · exact ⟨x, List.mem_cons_self, h⟩
      · rcases bind_eq_error_iff.mp h with h | ⟨ys, -, h⟩
        · obtain ⟨x', hx', herr⟩ := exists_of_mapM_error h
          exact ⟨x', List.mem_cons_of_mem x hx', herr⟩
        · cases h

theorem exists_ok_of_mem {f : α → Except ε β} {x : α} : ∀ {xs : List α} {ys : List β},
    List.Forall₂ (fun x y => f x = .ok y) xs ys → x ∈ xs → ∃ y, f x = .ok y
  | [], _, _, hx => absurd hx List.not_mem_nil
  | z :: xs, y :: ys, .cons hz hxs, hx => by
      rcases List.mem_cons.mp hx with rfl | hx
      · exact ⟨y, hz⟩
      · exact exists_ok_of_mem hxs hx

/-- Where there is a list of results, one function gives them. -/
theorem exists_results [Inhabited β] {f : α → Except ε β} {xs : List α} {ys : List β}
    (h : xs.mapM f = .ok ys) : ∃ g : α → β, ∀ x ∈ xs, f x = .ok (g x) := by
  refine ⟨fun x => (f x).toOption.getD default, fun x hx => ?_⟩
  obtain ⟨y, hy⟩ := exists_ok_of_mem (mapM_eq_ok_iff.mp h) hx
  simp only [hy, Except.toOption, Option.getD_some]

theorem exists_of_mem_right {R : α → β → Prop} {y : β} : ∀ {xs : List α} {ys : List β},
    List.Forall₂ R xs ys → y ∈ ys → ∃ x ∈ xs, R x y
  | _, [], _, hy => absurd hy List.not_mem_nil
  | x :: xs, z :: ys, .cons hx hxs, hy => by
      rcases List.mem_cons.mp hy with rfl | hy
      · exact ⟨x, List.mem_cons_self, hx⟩
      · obtain ⟨x', hx', hrel⟩ := exists_of_mem_right hxs hy
        exact ⟨x', List.mem_cons_of_mem x hx', hrel⟩

theorem exists_ok_of_getElem? {f : α → Except ε β} {x : α} : ∀ {xs : List α} {ys : List β}
    {n : Nat}, List.Forall₂ (fun x y => f x = .ok y) xs ys → xs[n]? = some x →
      ∃ y, ys[n]? = some y ∧ f x = .ok y
  | [], _, _, _, hx => nomatch hx
  | _ :: _, y :: _, 0, .cons hz _, hx => by
      cases hx
      exact ⟨y, rfl, hz⟩
  | _ :: xs, _ :: ys, n + 1, .cons _ hxs, hx => @exists_ok_of_getElem? f x xs ys n hxs hx

theorem length_of_mapM {f : α → Except ε β} {xs : List α} {ys : List β}
    (h : xs.mapM f = .ok ys) : ys.length = xs.length :=
  (mapM_eq_ok_iff.mp h).length_eq.symm

/-! ## Chains that end alike -/

/-- Both have results that correspond, or both have errors that do. -/
inductive Alike (E : ε → ε → Prop) (V : α → β → Prop) : Except ε α → Except ε β → Prop
  | ok {a : α} {b : β} : V a b → Alike E V (.ok a) (.ok b)
  | error {err err' : ε} : E err err' → Alike E V (.error err) (.error err')

namespace Alike

variable {γ δ : Type} {E : ε → ε → Prop} {V : α → β → Prop} {W : γ → δ → Prop}
  {x : Except ε α} {y : Except ε β}

theorem refl (hE : ∀ err, E err err) : ∀ x : Except ε α, Alike E Eq x x
  | .ok _ => .ok rfl
  | .error err => .error (hE err)

theorem eq_of_eq {y : Except ε α} (h : Alike Eq Eq x y) : x = y := by
  cases h with
  | ok h => rw [h]
  | error h => rw [h]

theorem mono {V' : α → β → Prop} (h : Alike E V x y) (hV : ∀ a b, V a b → V' a b) :
    Alike E V' x y := by
  cases h with
  | ok h => exact .ok (hV _ _ h)
  | error h => exact .error h

theorem bind (h : Alike E V x y) {f : α → Except ε γ} {g : β → Except ε δ}
    (hstep : ∀ a b, V a b → Alike E W (f a) (g b)) : Alike E W (x >>= f) (y >>= g) := by
  cases h with
  | ok h => exact hstep _ _ h
  | error h => exact .error h

theorem map (h : Alike E V x y) {f : α → γ} {g : β → δ} (hstep : ∀ a b, V a b → W (f a) (g b)) :
    Alike E W (x.map f) (y.map g) := by
  cases h with
  | ok h => exact .ok (hstep _ _ h)
  | error h => exact .error h

/-- Steps that are alike on elements that correspond are alike on lists of them. -/
theorem mapM {R : α → β → Prop} {f : α → Except ε γ} {g : β → Except ε δ} {xs : List α}
    {ys : List β} (h : List.Forall₂ R xs ys) (hstep : ∀ a b, R a b → Alike E W (f a) (g b)) :
    Alike E (List.Forall₂ W) (xs.mapM f) (ys.mapM g) := by
  induction h with
  | nil => exact .ok .nil
  | cons hhead _ ih =>
      rw [List.mapM_cons, List.mapM_cons]
      exact (hstep _ _ hhead).bind fun _ _ hfirst =>
        ih.bind fun _ _ hrest => .ok (.cons hfirst hrest)

/-- Where results correspond by being equal, the results of a list of steps are equal. -/
theorem mapM_eq {R : α → β → Prop} {f : α → Except ε γ} {g : β → Except ε γ} {xs : List α}
    {ys : List β} (h : List.Forall₂ R xs ys) (hstep : ∀ a b, R a b → Alike E Eq (f a) (g b)) :
    Alike E Eq (xs.mapM f) (ys.mapM g) := by
  refine (mapM h hstep).mono fun _ _ hresults => ?_
  rwa [List.forall₂_eq_eq_eq] at hresults

theorem toOption_eq {y : Except ε α} (h : Alike E Eq x y) : x.toOption = y.toOption := by
  cases h with
  | ok h => rw [h]
  | error h => rfl

end Alike

end RecordQuery.Outcome
