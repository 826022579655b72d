import Mathlib.Data.List.Dedup
import SocketWatch.Proofs.Filter.Edits
import SocketWatch.Tracking.Visible

namespace SocketWatch

namespace Connection

theorem columnText_infix_filterText (c : Connection) {columns : List Column} {column : Column}
    (h : column ∈ columns) : (c.columnText column).toList <:+: (c.filterText columns).toList := by
  have hcell : (c.columnText column ++ padding).toList <:+:
      columns.flatMap fun column => (c.columnText column ++ padding).toList :=
    List.infix_of_mem_flatten (List.mem_map_of_mem h)
  have htext : (c.columnText column).toList <:+: (c.columnText column ++ padding).toList := by
    rw [String.toList_append]
    exact (List.prefix_append _ _).isInfix
  rw [toList_filterText]
  exact htext.trans (hcell.trans (List.suffix_append _ _).isInfix)

end Connection

namespace LiveFilter

/-- What a filter becomes when the values of a column are added to it. Nothing is asked of the
filter before: its tree need not come from its text. Of equal values `dedup` keeps the last. -/
structure Narrowed (live : LiveFilter) (values : List String) (negate : Bool)
    (new : LiveFilter) : Prop where
  tree : new.tree = live.tree.narrowed negate (values.filter (· ≠ "")).dedup
  text : new.text = new.tree.print
  parse : Filter.parseWithMask new.text = .ok (new.tree, new.mask)
  enabled : new.enabled = true
  operators : new.operators = true
  caseSensitive : new.caseSensitive = live.caseSensitive
  passes : ∀ candidate, new.passes candidate ↔
    live.tree.holds (live.finds candidate) ∧
      ((∃ value ∈ values, value ≠ "") →
        ((∃ value ∈ values, value ≠ "" ∧ live.finds candidate value) ↔ negate = false))

theorem narrowed_of_addColumnValues (live : LiveFilter) (values : List String) (negate : Bool)
    (h : (live.addColumnValues values negate).failure = none) :
    live.Narrowed values negate (live.addColumnValues values negate).live := by
  obtain ⟨mask, folded, hparse, hlive, hfolded⟩ := of_addColumnValues h
  rw [hlive] at hfolded ⊢
  exact
    { tree := by rw [← distinctValues_eq]
      text := rfl
      parse := hparse
      enabled := rfl
      operators := rfl
      caseSensitive := rfl
      passes := by
        intro candidate
        rw [passes_eq hfolded, ← Filter.holds_narrowed_iff]
        rfl }

theorem Narrowed.passes_eq_of_iff {live new new' : LiveFilter} {values values' : List String}
    {negate : Bool} (h : live.Narrowed values negate new) (h' : live.Narrowed values' negate new')
    (hmem : ∀ value, value ≠ "" → (value ∈ values' ↔ value ∈ values)) (candidate : String) :
    new'.passes candidate = new.passes candidate := by
  have hsome (p : String → Prop) :
      (∃ value ∈ values', value ≠ "" ∧ p value) ↔ ∃ value ∈ values, value ≠ "" ∧ p value := by
    apply exists_congr
    intro value
    by_cases hne : value = ""
    · simp [hne]
    · rw [hmem value hne]
  have hne := hsome fun _ => True
  simp only [and_true] at hne
  rw [Bool.eq_iff_iff, h.passes, h'.passes, hne, hsome]

theorem Narrowed.passes_filterText {live new : LiveFilter} {values : List String} {negate : Bool}
    (h : live.Narrowed values negate new) {c : Connection} {columns : List Column}
    {column : Column} (hcolumn : column ∈ columns) (hne : c.columnText column ≠ "")
    (hmem : c.columnText column ∈ values) :
    new.passes (c.filterText columns) =
      (live.tree.holds (live.finds (c.filterText columns)) && !negate) := by
  have hfound := live.finds_of_infix (c.columnText_infix_filterText hcolumn)
  have hsome : ∃ value ∈ values, value ≠ "" := ⟨_, hmem, hne⟩
  have hsomeFound : ∃ value ∈ values, value ≠ "" ∧ live.finds (c.filterText columns) value :=
    ⟨_, hmem, hne, hfound⟩
  rw [Bool.eq_iff_iff, h.passes]
  simp only [hsome, hsomeFound, true_iff, forall_const, Bool.and_eq_true, Bool.not_eq_true']

theorem addColumnValues_narrows (live : LiveFilter) (values : List String) (negate : Bool)
    (h : (live.addColumnValues values negate).failure = none) :
    let new := (live.addColumnValues values negate).live
    live.Narrowed values negate new ∧
      (∀ values', (∀ value, value ≠ "" → (value ∈ values' ↔ value ∈ values)) →
        (live.addColumnValues values' negate).failure = none →
        ∀ candidate, (live.addColumnValues values' negate).live.passes candidate =
          new.passes candidate) ∧
      ∀ (c : Connection) (columns : List Column) (column : Column), column ∈ columns →
        c.columnText column ≠ "" → c.columnText column ∈ values →
        new.passes (c.filterText columns) =
            (live.tree.holds (live.finds (c.filterText columns)) && !negate) ∧
          (negate = true → ∀ showUnestablished,
            c.isVisible showUnestablished new columns = false) := by
  intro new
  have hnew := narrowed_of_addColumnValues live values negate h
  refine ⟨hnew, ?_, ?_⟩
  · intro values' hmem h' candidate
    exact hnew.passes_eq_of_iff (narrowed_of_addColumnValues live values' negate h') hmem candidate
  · intro c columns column hcolumn hne hmem
    have hpasses := hnew.passes_filterText hcolumn hne hmem
    refine ⟨hpasses, ?_⟩
    rintro rfl showUnestablished
    simp [Connection.isVisible, new, hpasses]

theorem addColumnValues_narrows_quoted :
    let live : LiveFilter := {
      text := "OR \"", enabled := true, caseSensitive := false
      tree := .chain (.literal false "OR") (.next .and (.literal false "\"") .done)
      folded := some (.chain (.literal false "or") (.next .and (.literal false "\"") .done)) }
    let values := ["tcp", "", "say \"or\"", "tcp"]
    let new := (live.addColumnValues values true).live
    let c : Connection := { program := { name := some "say \"or\"" } }
    LiveFilter.new "OR \"" false false = .ok live ∧
      (live.addColumnValues values true).failure = none ∧ live.Narrowed values true new ∧
      c.isVisible true live [.programName] = true ∧
      c.isVisible true new [.programName] = false := by
  intro live values new c
  have hor : Text.caseFold "OR" = "or" := Text.caseFold_eq (by decide)
  have hquote : Text.caseFold "\"" = "\"" := Text.caseFold_eq (by decide)
  have hfold : live.tree.All Text.Foldable :=
    ⟨Text.foldable_iff.mpr (by decide), Text.foldable_iff.mpr (by decide), trivial⟩
  have hfolded : live.tree.mapTexts Text.caseFold = (Filter.chain (.literal false "or")
      (.next .and (.literal false "\"") .done)) := by
    simp [live, Filter.mapTexts, Operand.mapTexts, Joined.mapTexts, hor, hquote]
  have hlive : LiveFilter.new "OR \"" false false = .ok live := by
    have hread : read { text := "OR \"", enabled := true, caseSensitive := false } =
        .ok (live.tree, []) := read_of_words ["OR", "\""] rfl (by decide) (by decide)
    rw [new_of_read hread hfold, hfolded]
  have hok : (live.addColumnValues values true).failure = none := by
    apply (live.addColumnValues_failure_eq_none_iff values true).mpr
    refine ⟨by decide, ?_, fun _ => ?_⟩
    · rw [Filter.utf8ByteSize_print]
      decide
    · refine ⟨hfold.1, hfold.2.1, ⟨?_, ?_, trivial⟩, trivial⟩
      · exact Text.foldable_iff.mpr (by decide)
      · exact Text.foldable_iff.mpr (by decide)
  obtain ⟨hnew, -, hrows⟩ := addColumnValues_narrows live values true hok
  have hrow := hrows c [.programName] .programName (by simp) (by decide) (by decide)
  refine ⟨hlive, hok, hnew, ?_, hrow.2 rfl true⟩
  have hstep : live.FoldedInStep := ⟨_, Filter.caseFolded_eq hfold, by rw [hfolded]⟩
  rw [Connection.isVisible, passes_eq hstep, finds_eq]
  decide

end LiveFilter

end SocketWatch
