import Mathlib.Data.List.Infix
import SocketWatch.Proofs.Filter.Literals

namespace SocketWatch

def Join.combine : Join → Bool → Bool → Bool
  | .and, verdict, answer => verdict && answer
  | .or, verdict, answer => verdict || answer

theorem Join.combine_of_settledBy {join : Join} {verdict : Bool} (h : join.settledBy verdict)
    (answer : Bool) : join.combine verdict answer = verdict := by
  cases join with
  | and => simp_all [settledBy, combine]
  | or => simp_all [settledBy, combine]

theorem Join.combine_of_not_settledBy {join : Join} {verdict : Bool}
    (h : ¬ join.settledBy verdict) (answer : Bool) : join.combine verdict answer = answer := by
  cases join with
  | and => simp_all [settledBy, combine]
  | or => simp_all [settledBy, combine]

section

variable (occurs : String → Bool)

theorem Joined.holds_ofList (verdict : Bool) (operands : List (Join × Operand)) :
    (Joined.ofList operands).holds occurs verdict =
      operands.foldl (fun v o => o.1.combine v (o.2.holds occurs)) verdict := by
  induction operands generalizing verdict with
  | nil => rfl
  | cons o operands ih =>
    rw [Joined.ofList, Joined.holds, List.foldl_cons]
    split
    · next h => rw [ih, Join.combine_of_settledBy h]
    · next h => rw [ih, Join.combine_of_not_settledBy h]

theorem Joined.holds_eq_foldl (verdict : Bool) (joined : Joined) :
    joined.holds occurs verdict =
      joined.toList.foldl (fun v o => o.1.combine v (o.2.holds occurs)) verdict := by
  rw [← Joined.holds_ofList, Joined.ofList_toList]

theorem Filter.holds_eq_foldl (f : Filter) :
    f.holds occurs = f.toList.foldl (fun v o => o.1.combine v (o.2.holds occurs)) true := by
  cases f with
  | empty => simp [Filter.holds, Filter.toList]
  | chain first rest =>
    simp [Filter.holds, Filter.toList, Joined.holds_eq_foldl, Join.combine]

theorem Filter.holds_push (f : Filter) (join : Join) (operand : Operand) :
    (f.push join operand).holds occurs =
      if f.isEmpty then operand.holds occurs
      else join.combine (f.holds occurs) (operand.holds occurs) := by
  rw [Filter.holds_eq_foldl, Filter.toList_push]
  split
  · simp [Join.combine]
  · rw [List.foldl_append, ← Filter.holds_eq_foldl]
    rfl

theorem Filter.holds_push_and (f : Filter) (operand : Operand) :
    (f.push .and operand).holds occurs = (f.holds occurs && operand.holds occurs) := by
  rw [Filter.holds_push]
  cases f <;> simp [Filter.isEmpty, Filter.holds, Join.combine]

end

theorem Filter.holds_caseFolded (occurs : String → Bool) {f folded : Filter}
    (h : f.caseFolded = .ok folded) :
    folded.holds occurs = f.holds fun text => occurs (Text.caseFold text) := by
  obtain ⟨-, rfl⟩ := caseFolded_eq_ok_iff.mp h
  exact holds_mapTexts occurs Text.caseFold f

namespace LiveFilter

def finds (live : LiveFilter) (candidate literal : String) : Bool :=
  if live.caseSensitive then CaseMode.exact.occurs candidate literal
  else CaseMode.exact.occurs (Text.caseFold candidate) (Text.caseFold literal)

theorem finds_eq (live : LiveFilter) (candidate : String) :
    live.finds candidate = fun literal =>
      if live.caseSensitive then decide (literal.toList <:+: candidate.toList)
      else decide (literal.toList.flatMap Text.foldChar <:+:
        candidate.toList.flatMap Text.foldChar) := by
  funext literal
  rw [finds]
  split
  · rw [Bool.eq_iff_iff, CaseMode.occurs_exact_iff, decide_eq_true_iff]
  · rw [Bool.eq_iff_iff, CaseMode.occurs_exact_iff, decide_eq_true_iff, Text.toList_caseFold,
      Text.toList_caseFold]

theorem finds_of_infix (live : LiveFilter) {candidate literal : String}
    (h : literal.toList <:+: candidate.toList) : live.finds candidate literal = true := by
  rw [finds]
  split
  · exact CaseMode.occurs_exact_iff.mpr h
  · obtain ⟨before, after, h⟩ := h
    apply CaseMode.occurs_exact_iff.mpr
    refine ⟨before.flatMap Text.foldChar, after.flatMap Text.foldChar, ?_⟩
    rw [Text.toList_caseFold, Text.toList_caseFold, ← h, List.flatMap_append, List.flatMap_append]

def FoldedInStep (live : LiveFilter) : Prop :=
  if live.caseSensitive then live.folded = none
  else ∃ folded, live.tree.caseFolded = .ok folded ∧ live.folded = some folded

theorem passes_eq {live : LiveFilter} (h : live.FoldedInStep) (candidate : String) :
    live.passes candidate = (!live.enabled || live.tree.holds (live.finds candidate)) := by
  have hpasses : live.enabled = true →
      live.passes candidate = live.tree.holds (live.finds candidate) := by
    intro henabled
    rw [FoldedInStep] at h
    rw [passes, if_pos henabled]
    split at h
    · next hcase =>
      have hfinds : live.finds candidate = CaseMode.exact.occurs candidate := by
        funext literal
        rw [finds, if_pos hcase]
      rw [h, hfinds]
      rfl
    · next hcase =>
      obtain ⟨folded, hfold, hfolded⟩ := h
      have hfinds : live.finds candidate = fun literal =>
          CaseMode.exact.occurs (Text.caseFold candidate) (Text.caseFold literal) := by
        funext literal
        rw [finds, if_neg hcase]
      rw [hfolded, hfinds, ← Filter.holds_caseFolded _ hfold]
      rfl
  cases henabled : live.enabled with
  | true => simpa using hpasses henabled
  | false => simp [passes, henabled]

end LiveFilter

end SocketWatch
