import Mathlib.Data.List.Infix
import SocketWatch.Proofs.Filter.CaseFolding
import SocketWatch.Proofs.Filter.LeftToRight

namespace SocketWatch

theorem Join.combine_mono (join : Join) {verdict verdict' answer answer' : Bool}
    (hverdict : verdict → verdict') (hanswer : answer → answer') :
    join.combine verdict answer → join.combine verdict' answer' := by
  cases join with
  | and =>
    simp only [combine, Bool.and_eq_true]
    exact And.imp hverdict hanswer
  | or =>
    simp only [combine, Bool.or_eq_true]
    exact Or.imp hverdict hanswer

mutual

def Operand.isPositive : Operand → Bool
  | .literal negated _ => !negated
  | .group negated inner => !negated && inner.isPositive

def Filter.isPositive : Filter → Bool
  | .empty => true
  | .chain first rest => first.isPositive && rest.isPositive

def Joined.isPositive : Joined → Bool
  | .done => true
  | .next _ operand rest => operand.isPositive && rest.isPositive

end

section

variable {occurs occurs' : String → Bool}

mutual

theorem Operand.value_mono (h : ∀ literal, occurs literal → occurs' literal) :
    ∀ operand : Operand, operand.isPositive → operand.value occurs → operand.value occurs'
  | .literal negated text, hpositive, hvalue => by
    rw [Operand.isPositive, Bool.not_eq_true'] at hpositive
    rw [Operand.value, hpositive, Bool.bne_false] at hvalue ⊢
    exact h text hvalue
  | .group negated inner, hpositive, hvalue => by
    rw [Operand.isPositive, Bool.and_eq_true, Bool.not_eq_true'] at hpositive
    rw [Operand.value, hpositive.1, Bool.bne_false] at hvalue ⊢
    exact Filter.value_mono h inner hpositive.2 hvalue

theorem Filter.value_mono (h : ∀ literal, occurs literal → occurs' literal) :
    ∀ f : Filter, f.isPositive → f.value occurs → f.value occurs'
  | .empty, _, _ => rfl
  | .chain first rest, hpositive, hvalue => by
    rw [Filter.isPositive, Bool.and_eq_true] at hpositive
    exact Joined.values_mono h rest hpositive.2 (Operand.value_mono h first hpositive.1) hvalue

theorem Joined.values_mono (h : ∀ literal, occurs literal → occurs' literal) :
    ∀ (joined : Joined) {verdict verdict' : Bool}, joined.isPositive → (verdict → verdict') →
      Join.combineAll verdict (joined.values occurs) →
        Join.combineAll verdict' (joined.values occurs')
  | .done, _, _, _, hverdict, hfold => hverdict hfold
  | .next join operand rest, _, _, hpositive, hverdict, hfold => by
    rw [Joined.isPositive, Bool.and_eq_true] at hpositive
    exact Joined.values_mono h rest hpositive.2
      (join.combine_mono hverdict (Operand.value_mono h operand hpositive.1)) hfold

end

end

theorem Filter.exists_caseFolded_iff {f : Filter} :
    (∃ folded, f.caseFolded = .ok folded) ↔ f.All Text.Foldable := by
  constructor
  · rintro ⟨folded, h⟩
    exact Filter.all_foldable h
  · intro h
    exact ⟨_, Filter.caseFolded_eq h⟩

theorem Text.foldChar_toLower (c : Char) : foldChar c.toLower = foldChar c := by
  by_cases h : c.toNat < 128
  · apply of_ascii _ h
    decide +kernel
  · rw [toLower_of_le (Nat.not_lt.mp h)]

theorem Text.flatMap_foldChar_toLower (cs : List Char) :
    (cs.map Char.toLower).flatMap foldChar = cs.flatMap foldChar := by
  rw [List.flatMap_map]
  simp only [foldChar_toLower]

theorem CaseMode.occurs_ignoringAscii {text literal : String} (h : exact.occurs text literal) :
    ignoringAscii.occurs text literal := by
  rw [occurs_exact_iff] at h
  exact occurs_iff.mpr (h.map Char.toLower)

theorem CaseMode.occurs_caseFold {text literal : String} (h : ignoringAscii.occurs text literal) :
    exact.occurs (Text.caseFold text) (Text.caseFold literal) := by
  have hfold := (occurs_iff.mp h).flatMap Text.foldChar
  rw [occurs_exact_iff, Text.toList_caseFold, Text.toList_caseFold]
  simpa only [letter, Text.flatMap_foldChar_toLower] using hfold

/-- Without negations, a looser mode passes all that a stricter one does. The folded tree is there
unless the folding of a literal is above the limit. -/
theorem Filter.passes_more_of_looser (f : Filter) (hpositive : f.isPositive) (candidate : String) :
    (f.passes candidate .exact → f.passes candidate .ignoringAscii) ∧
      ((∃ folded, f.caseFolded = .ok folded) ↔ f.All Text.Foldable) ∧
        ∀ folded, f.caseFolded = .ok folded → f.passes candidate .ignoringAscii →
          folded.passes (Text.caseFold candidate) .exact := by
  refine ⟨?_, exists_caseFolded_iff, ?_⟩
  · rw [passes_eq_value, passes_eq_value]
    exact value_mono (fun _ => CaseMode.occurs_ignoringAscii) f hpositive
  · intro folded hfolded hpasses
    rw [passes, holds_caseFolded _ hfolded, holds_eq_value]
    rw [passes_eq_value] at hpasses
    exact value_mono (fun _ => CaseMode.occurs_caseFold) f hpositive hpasses

theorem Filter.passes_more_of_sharp_s :
    let f : Filter := .chain
      (.group false (.chain (.literal false "") (.next .and (.literal false "LISTEN") .done)))
      (.next .or (.literal false "straße") .done)
    let candidate := "tcp 80 STRAße"
    f.isPositive ∧ f.passes candidate .ignoringAscii ∧
      ∃ folded, f.caseFolded = .ok folded ∧ folded.passes "tcp 80 strasse" .exact := by
  intro f candidate
  have hpositive : f.isPositive := by decide
  have hpasses : f.passes candidate .ignoringAscii := by decide +kernel
  have hcandidate : Text.caseFold candidate = "tcp 80 strasse" :=
    Text.caseFold_eq (by decide +kernel)
  have hempty : Text.caseFold "" = "" := Text.caseFold_eq (by decide +kernel)
  have hlisten : Text.caseFold "LISTEN" = "listen" := Text.caseFold_eq (by decide +kernel)
  have hstrasse : Text.caseFold "straße" = "strasse" := Text.caseFold_eq (by decide +kernel)
  have hall : f.All Text.Foldable := by
    simp only [f, All, Operand.All, Joined.All, Text.Foldable, hempty, hlisten, hstrasse]
    decide +kernel
  obtain ⟨-, hfoldable, hfolded⟩ := passes_more_of_looser f hpositive candidate
  obtain ⟨folded, hfold⟩ := hfoldable.mpr hall
  exact ⟨hpositive, hpasses, folded, hfold, hcandidate ▸ hfolded folded hfold hpasses⟩

end SocketWatch
