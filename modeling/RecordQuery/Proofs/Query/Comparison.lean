/-
# Matches that ignore case

A text that contains another should contain it all the more when case is ignored.  Both
sides are put into lower case as wholes, and there the capital sigma gets in the way:

    contains               ΑΣΒ    ΑΣ
    containsIgnoringCase   ασβ    ας     not found

The match is kept where the sigmas of the part have the form in the whole that they have on
their own.  Whether that can be told from the part alone is `Text.HasExposedSigma`: parts
without an exposed sigma, and only they, are never lost.
-/
import RecordQuery.Proofs.Text.Lowercase
import RecordQuery.Query.Expr

namespace RecordQuery

namespace Comparison

theorem contains_iff {lhs rhs : Value} :
    Comparison.contains.holds lhs rhs = true ↔ rhs.display.toList <:+: lhs.display.toList :=
  Text.occursIn_iff

theorem containsIgnoringCase_iff {lhs rhs : Value} :
    Comparison.containsIgnoringCase.holds lhs rhs = true
      ↔ Text.lowercase rhs.display.toList <:+: Text.lowercase lhs.display.toList :=
  Text.occursIn_iff

end Comparison

open Comparison

/-- A match is kept when case is ignored, wherever the capital sigmas of the part keep their
form; and the values whose matches are always kept are those without an exposed sigma. -/
theorem ignoringCase_of_contains_iff (rhs : Value) :
    (∀ (lhs : Value) (front back : List Char),
        lhs.display.toList = front ++ rhs.display.toList ++ back →
          Text.KeepsSigmas front rhs.display.toList back →
            containsIgnoringCase.holds lhs rhs = true)
      ∧ ((∀ lhs : Value, contains.holds lhs rhs = true → containsIgnoringCase.holds lhs rhs = true)
        ↔ ¬ Text.HasExposedSigma rhs.display.toList) := by
  have hkept : ∀ (lhs : Value) (front back : List Char),
      lhs.display.toList = front ++ rhs.display.toList ++ back →
        Text.KeepsSigmas front rhs.display.toList back →
          containsIgnoringCase.holds lhs rhs = true := by
    intro lhs front back hlhs hkeeps
    rw [containsIgnoringCase_iff, hlhs]
    exact hkeeps.lowercase_occurs
  refine ⟨hkept, ?_, ?_⟩
  · intro hall hexposed
    obtain ⟨whole, hpart, hlost⟩ := hexposed.exists_lost
    have hwhole : (Value.text (String.ofList whole)).display.toList = whole := String.toList_ofList
    refine hlost ?_
    have hfound := hall (.text (String.ofList whole))
    rw [contains_iff, containsIgnoringCase_iff, hwhole] at hfound
    exact hfound hpart
  · intro hsettled lhs hcontains
    obtain ⟨front, back, hlhs⟩ := contains_iff.mp hcontains
    exact hkept lhs front back hlhs.symm (Text.keepsSigmas_of_settled hsettled front back)

/-- Inside of a word a sigma is not exposed, so a match of such a part is kept. -/
theorem ignoringCase_insideWord :
    ¬ Text.HasExposedSigma (Value.text "ΑΣΑ").display.toList
      ∧ contains.holds (.text "ΠΑΣΑ") (.text "ΑΣΑ") = true
      ∧ containsIgnoringCase.holds (.text "ΠΑΣΑ") (.text "ΑΣΑ") = true := by
  have hsettled : ¬ Text.HasExposedSigma (Value.text "ΑΣΑ").display.toList := by decide
  have hcontains : contains.holds (.text "ΠΑΣΑ") (.text "ΑΣΑ") = true := by decide
  exact ⟨hsettled, hcontains,
    (ignoringCase_of_contains_iff (.text "ΑΣΑ")).2.mpr hsettled _ hcontains⟩

/-- The sigma ends the part but not the word that the part is found in, and the match is
lost. -/
theorem ignoringCase_losesMatch :
    contains.holds (.text "ΑΣΒ") (.text "ΑΣ") = true
      ∧ containsIgnoringCase.holds (.text "ΑΣΒ") (.text "ΑΣ") = false := by
  decide

end RecordQuery
