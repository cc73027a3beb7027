/-
# Occurrences

A text occurs in another when its characters stand there side by side, anywhere
(`occursIn_iff`); the empty text occurs in every one.
-/

namespace RecordQuery.Text

/-- Does the first text occur in the second? -/
def occursIn (part : List Char) : List Char → Bool
  | [] => part.isEmpty
  | c :: cs => part.isPrefixOf (c :: cs) || occursIn part cs

theorem occursIn_iff {part : List Char} : ∀ {cs : List Char}, occursIn part cs ↔ part <:+: cs
  | [] => by simp [occursIn]
  | c :: cs => by
      rw [occursIn, Bool.or_eq_true, List.isPrefixOf_iff_prefix, occursIn_iff,
        List.infix_cons_iff]

end RecordQuery.Text
