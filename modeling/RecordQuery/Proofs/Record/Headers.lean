/-
# Looking up a column by name

The column that a name refers to, said without the index:

    1. the first column of exactly this name, if there is one;
    2. else the first whose name differs from it in the case of ASCII letters only;
    3. else none.

The index answers the first question.  `lookup_enter` is what one name does to it: a place
that is there is never overwritten, and a new one shadows nothing.  So after all the names
each has the place at which it came first (`lookup_enterAll`).
-/
import RecordQuery.Record.Headers
import Mathlib.Data.List.Forall2

namespace RecordQuery

/-! ## The case of ASCII letters -/

/-- One character, or one ASCII letter in its two cases. -/
inductive SameLetter (c d : Char) : Prop
  | same : c = d → SameLetter c d
  | capital : 65 ≤ c.toNat → c.toNat ≤ 90 → d.toNat = c.toNat + 32 → SameLetter c d
  | small : 65 ≤ d.toNat → d.toNat ≤ 90 → c.toNat = d.toNat + 32 → SameLetter c d

/-- One name, up to the case of its ASCII letters. -/
def SameName (s t : String) : Prop :=
  List.Forall₂ SameLetter s.toList t.toList

theorem toNat_toLower (c : Char) :
    c.toLower.toNat = if 65 ≤ c.toNat ∧ c.toNat ≤ 90 then c.toNat + 32 else c.toNat := by
  have hcapital : (c.val ≥ 'A'.val ∧ c.val ≤ 'Z'.val) ↔ 65 ≤ c.toNat ∧ c.toNat ≤ 90 := Iff.rfl
  unfold Char.toLower
  by_cases h : c.val ≥ 'A'.val ∧ c.val ≤ 'Z'.val
  · rw [dif_pos h, if_pos (hcapital.mp h)]
    have hbound : c.toNat ≤ 90 := (hcapital.mp h).2
    show (c.val + ('a'.val - 'A'.val)).toNat = c.toNat + 32
    rw [UInt32.toNat_add]
    exact Nat.mod_eq_of_lt (by show c.toNat + 32 < 2 ^ 32; omega)
  · rw [dif_neg h, if_neg fun hrange => h (hcapital.mpr hrange)]

theorem toLower_eq_iff (c d : Char) : c.toLower = d.toLower ↔ SameLetter c d := by
  rw [← Char.toNat_inj, toNat_toLower, toNat_toLower]
  constructor
  · intro h
    split_ifs at h with hc hd hd
    · exact .same (Char.toNat_inj.mp (by omega))
    · exact .capital hc.1 hc.2 h.symm
    · exact .small hd.1 hd.2 h
    · exact .same (Char.toNat_inj.mp h)
  · intro h
    cases h with
    | same h => rw [h]
    | capital hlow hhigh hd =>
        have hsmall : ¬ (65 ≤ d.toNat ∧ d.toNat ≤ 90) := by omega
        rw [if_pos ⟨hlow, hhigh⟩, if_neg hsmall, hd]
    | small hlow hhigh hc =>
        have hsmall : ¬ (65 ≤ c.toNat ∧ c.toNat ≤ 90) := by omega
        rw [if_neg hsmall, if_pos ⟨hlow, hhigh⟩, hc]

theorem sameIgnoringCase_iff (s t : String) : sameIgnoringCase s t = true ↔ SameName s t := by
  rw [sameIgnoringCase, beq_iff_eq, ← List.forall₂_eq_eq_eq, List.forall₂_map_left_iff,
    List.forall₂_map_right_iff]
  simp only [toLower_eq_iff]
  exact Iff.rfl

theorem SameName.refl (s : String) : SameName s s :=
  List.forall₂_same.mpr fun _ _ => .same rfl

/-- Beyond ASCII a letter has one case only. -/
theorem SameLetter.eq_of_beyond {c d : Char} (h : SameLetter c d)
    (hbeyond : 128 ≤ c.toNat ∨ 128 ≤ d.toNat) : c = d := by
  cases h with
  | same h => exact h
  | capital _ hhigh hd => omega
  | small _ hhigh hc => omega

theorem SameName.getElem?_beyond {s t : String} (h : SameName s t) {c : Char}
    (hbeyond : 128 ≤ c.toNat) (k : Nat) : s.toList[k]? = some c ↔ t.toList[k]? = some c := by
  unfold SameName at h
  generalize s.toList = cs at h ⊢
  generalize t.toList = ds at h ⊢
  induction h generalizing k with
  | nil => exact Iff.rfl
  | @cons a b cs ds hfirst _ ih =>
      cases k with
      | succ k => exact ih k
      | zero =>
          rw [List.getElem?_cons_zero, List.getElem?_cons_zero, Option.some.injEq,
            Option.some.injEq]
          constructor
          · intro ha
            subst ha
            exact (hfirst.eq_of_beyond (Or.inl hbeyond)).symm
          · intro hb
            subst hb
            exact hfirst.eq_of_beyond (Or.inr hbeyond)

namespace Headers

/-! ## What the index holds -/

/-- The step: one more name. -/
theorem lookup_enter (index : List (String × Nat)) (entered name : String) (place : Nat) :
    (enter index entered place).lookup name
      = (index.lookup name).or (if entered = name then some place else none) := by
  unfold enter
  split
  · rename_i there hthere
    by_cases h : entered = name
    · subst h
      rw [hthere, Option.some_or]
    · rw [if_neg h, Option.or_none]
  · rw [List.lookup_append]
    by_cases h : entered = name
    · subst h
      simp
    · have hne : (name == entered) = false := beq_false_of_ne fun heq => h heq.symm
      simp [h, List.lookup_cons, hne]

/-- The run: all the names, where `index` holds what came before them. -/
theorem lookup_enterAll (name : String) : ∀ (names : List String) (place : Nat)
    (index : List (String × Nat)), (enterAll index place names).lookup name
      = (index.lookup name).or ((names.findIdx? (· == name)).map (· + place))
  | [], place, index => by simp [enterAll]
  | first :: names, place, index => by
      rw [enterAll, lookup_enterAll name names, lookup_enter, Option.or_assoc]
      congr 1
      rw [List.findIdx?_cons]
      by_cases h : first = name
      · simp [h]
      · simp only [if_neg h, Option.none_or, beq_iff_eq, Option.map_map]
        congr 1
        funext i
        simp only [Function.comp_apply]
        omega

theorem lookup_index (h : Headers) (name : String) :
    h.index.lookup name = h.names.findIdx? (· == name) := by
  simp [index, lookup_enterAll]

theorem position_eq (h : Headers) (name : String) :
    h.position name
      = (h.names.findIdx? (· == name)).or (h.names.findIdx? (sameIgnoringCase · name)) := by
  rw [position, lookup_index]
  cases h.names.findIdx? (· == name) with
  | none => rfl
  | some i => rfl

/-! ## What a name refers to -/

/-- The first place at which something holds. -/
structure FirstAt (p : String → Prop) (names : List String) (i : Nat) : Prop where
  here : ∃ n, names[i]? = some n ∧ p n
  before : ∀ j < i, ∀ n, names[j]? = some n → ¬ p n

theorem findIdx?_eq_some_iff {names : List String} {test : String → Bool} {p : String → Prop}
    (hp : ∀ n, test n = true ↔ p n) {i : Nat} :
    names.findIdx? test = some i ↔ FirstAt p names i := by
  rw [List.findIdx?_eq_some_iff_getElem]
  constructor
  · rintro ⟨hi, hhere, hbefore⟩
    refine ⟨⟨names[i], List.getElem?_eq_getElem hi, (hp _).mp hhere⟩, fun j hj n hn hpn => ?_⟩
    obtain ⟨_, rfl⟩ := List.getElem?_eq_some_iff.mp hn
    exact hbefore j hj ((hp _).mpr hpn)
  · rintro ⟨⟨n, hn, hpn⟩, hbefore⟩
    obtain ⟨hi, rfl⟩ := List.getElem?_eq_some_iff.mp hn
    refine ⟨hi, (hp _).mpr hpn, fun j hj htest => ?_⟩
    exact hbefore j hj _ (List.getElem?_eq_getElem (Nat.lt_trans hj hi)) ((hp _).mp htest)

theorem findIdx?_name (h : Headers) (name : String) (i : Nat) :
    h.names.findIdx? (· == name) = some i ↔ FirstAt (· = name) h.names i :=
  findIdx?_eq_some_iff fun _ => beq_iff_eq

theorem findIdx?_sameName (h : Headers) (name : String) (i : Nat) :
    h.names.findIdx? (sameIgnoringCase · name) = some i ↔ FirstAt (SameName · name) h.names i :=
  findIdx?_eq_some_iff fun n => sameIgnoringCase_iff n name

theorem findIdx?_name_eq_none (h : Headers) (name : String) :
    h.names.findIdx? (· == name) = none ↔ name ∉ h.names := by
  rw [List.findIdx?_eq_none_iff]
  constructor
  · intro hnone hmem
    exact absurd (hnone name hmem) (by simp)
  · intro hmem n hn
    exact beq_false_of_ne fun heq => hmem (heq ▸ hn)

theorem position_eq_some_iff (h : Headers) (name : String) (i : Nat) :
    h.position name = some i ↔
      FirstAt (· = name) h.names i ∨ name ∉ h.names ∧ FirstAt (SameName · name) h.names i := by
  rw [position_eq, Option.or_eq_some_iff, findIdx?_name, findIdx?_name_eq_none, findIdx?_sameName]

theorem position_eq_none_iff (h : Headers) (name : String) :
    h.position name = none ↔ ∀ n ∈ h.names, ¬ SameName n name := by
  rw [position_eq, Option.or_eq_none_iff, findIdx?_name_eq_none, List.findIdx?_eq_none_iff]
  constructor
  · rintro ⟨-, hnone⟩ n hn hsame
    have hfound := (sameIgnoringCase_iff n name).mpr hsame
    rw [hnone n hn] at hfound
    cases hfound
  · intro hnone
    refine ⟨fun hmem => hnone name hmem (.refl name), fun n hn => ?_⟩
    exact Bool.eq_false_iff.mpr fun hfound => hnone n hn ((sameIgnoringCase_iff n name).mp hfound)

/-- A name of the headers is found, at its own first place. -/
theorem exists_position_of_getElem? {h : Headers} {name : String} {j : Nat}
    (hj : h.names[j]? = some name) :
    ∃ i ≤ j, h.position name = some i ∧ FirstAt (· = name) h.names i := by
  cases hfind : h.names.findIdx? (· == name) with
  | none =>
      exact absurd (List.mem_of_getElem? hj) ((findIdx?_name_eq_none h name).mp hfind)
  | some i =>
      have hfirst : FirstAt (· = name) h.names i := (findIdx?_name h name i).mp hfind
      refine ⟨i, ?_, (position_eq_some_iff h name i).mpr (Or.inl hfirst), hfirst⟩
      exact Nat.le_of_not_lt fun hlt => hfirst.before j hlt name hj rfl

/-- A name that is found is the one asked for, up to the case of ASCII letters. -/
theorem sameName_of_position {h : Headers} {name n : String} {i : Nat}
    (hi : h.position name = some i) (hn : h.names[i]? = some n) : SameName n name := by
  rcases (position_eq_some_iff h name i).mp hi with hfirst | ⟨-, hfirst⟩
  · obtain ⟨n', hn', rfl⟩ := hfirst.here
    rw [hn] at hn'
    cases hn'
    exact .refl _
  · obtain ⟨n', hn', hsame⟩ := hfirst.here
    rw [hn] at hn'
    cases hn'
    exact hsame

/-- With its index, `position` gives the first place of exactly the name; where the name is not
there, the first place of the name up to the case of ASCII letters; and nothing where there is
neither.  So every name of the headers is found at its own first place, and a name that is found
has the same characters beyond ASCII at the same places as the one asked for. -/
theorem position_first_exact_then_cased (h : Headers) (name : String) :
    (∀ i : Nat, h.position name = some i ↔
        FirstAt (· = name) h.names i ∨ name ∉ h.names ∧ FirstAt (SameName · name) h.names i)
      ∧ (h.position name = none ↔ ∀ n ∈ h.names, ¬ SameName n name)
      ∧ (∀ j : Nat, h.names[j]? = some name →
          ∃ i ≤ j, h.position name = some i ∧ FirstAt (· = name) h.names i)
      ∧ ∀ (i : Nat) (n : String), h.position name = some i → h.names[i]? = some n →
          ∀ (k : Nat) (c : Char), 128 ≤ c.toNat →
            (n.toList[k]? = some c ↔ name.toList[k]? = some c) := by
  refine ⟨position_eq_some_iff h name, position_eq_none_iff h name,
    fun j hj => exists_position_of_getElem? hj, ?_⟩
  intro i n hi hn k c hbeyond
  exact (sameName_of_position hi hn).getElem?_beyond hbeyond k

/-- Of two columns `b` the first one is found, behind the capital in front of both; and `éB`
is found as `éb`, which has its `é`, and not as `Éb`. -/
theorem position_first_ofAlike :
    (let h : Headers := ⟨["É", "é", "B", "b", "b"]⟩
     h.names[4]? = some "b"
      ∧ ∃ i ≤ 4, h.position "b" = some i ∧ FirstAt (· = "b") h.names i)
    ∧ (let h : Headers := ⟨["Éb", "éb"]⟩
       h.position "éB" = some 1 ∧ h.names[1]? = some "éb"
        ∧ ("éb".toList[0]? = some 'é' ↔ "éB".toList[0]? = some 'é')) := by
  obtain ⟨-, -, hfirst, -⟩ := position_first_exact_then_cased ⟨["É", "é", "B", "b", "b"]⟩ "b"
  obtain ⟨-, -, -, hbeyond⟩ := position_first_exact_then_cased ⟨["Éb", "éb"]⟩ "éB"
  exact ⟨⟨rfl, hfirst 4 rfl⟩, by decide, rfl, hbeyond 1 "éb" (by decide) rfl 0 'é' (by decide)⟩

end Headers

end RecordQuery
