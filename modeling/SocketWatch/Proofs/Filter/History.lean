import SocketWatch.Proofs.Filter.Edits

namespace SocketWatch.LiveFilter

inductive Call where
  | edit (e : Edit)
  | enabled (on : Bool)

def call (live : LiveFilter) : Call → LiveFilter
  | .edit e => (live.edit e).live
  | .enabled on => live.setEnabled on

def run (live : LiveFilter) (calls : List Call) : LiveFilter := calls.foldl call live

def Fresh (live : LiveFilter) : Prop :=
  new live.text live.caseSensitive live.operators = .ok (live.setEnabled true)

theorem new_eq (live : LiveFilter) :
    new live.text live.caseSensitive live.operators =
      match live.rebuild.failure with
      | none => .ok (live.rebuild.live.setEnabled true)
      | some failure => .error failure := by
  obtain ⟨text, enabled, caseSensitive, operators, tree, folded, mask⟩ := live
  have hread : read { text, enabled := true, caseSensitive, operators } =
      read { text, enabled, caseSensitive, operators, tree, folded, mask } := rfl
  simp only [new, rebuild, hread]
  cases read { text, enabled, caseSensitive, operators, tree, folded, mask } with
  | error failure => rfl
  | ok derived =>
    cases caseSensitive with
    | true => rfl
    | false =>
      simp only [Bool.false_eq_true, if_false]
      cases derived.1.caseFolded with
      | error failure => rfl
      | ok folded => rfl

theorem rebuild_keeps (live : LiveFilter) :
    live.rebuild.live.text = live.text ∧ live.rebuild.live.caseSensitive = live.caseSensitive ∧
      live.rebuild.live.operators = live.operators := by
  have hrebuilt := live.rebuilt
  generalize live.rebuild = edited at hrebuilt
  cases hrebuilt with
  | _ => exact ⟨rfl, rfl, rfl⟩

theorem new_rebuild (live : LiveFilter) :
    new live.rebuild.live.text live.rebuild.live.caseSensitive live.rebuild.live.operators =
      match live.rebuild.failure with
      | none => .ok (live.rebuild.live.setEnabled true)
      | some failure => .error failure := by
  obtain ⟨htext, hcase, hoperators⟩ := live.rebuild_keeps
  rw [htext, hcase, hoperators, new_eq]

theorem fresh_rebuild {live : LiveFilter} (h : live.rebuild.failure = none) :
    live.rebuild.live.Fresh := by
  rw [Fresh, new_rebuild, h]

theorem Fresh.read {live : LiveFilter} (h : live.Fresh) :
    live.read = .ok (live.tree, live.mask) ∧ live.FoldedInStep := by
  rw [Fresh, new_eq] at h
  cases hfailure : live.rebuild.failure with
  | some failure => simp [hfailure] at h
  | none =>
    obtain ⟨tree, mask, folded, hread, hlive, hfolded⟩ := of_rebuild hfailure
    rw [hlive] at hfolded
    simp only [hfailure, hlive, setEnabled, Except.ok.injEq, LiveFilter.mk.injEq, true_and] at h
    obtain ⟨rfl, rfl, rfl⟩ := h
    exact ⟨hread, hfolded⟩

theorem Fresh.run_enabled {live : LiveFilter} (h : live.Fresh) (switches : List Bool) :
    (live.run (switches.map .enabled)).Fresh := by
  induction switches generalizing live with
  | nil => exact h
  | cons on switches ih =>
    have hset : (live.setEnabled on).Fresh := h
    exact ih hset

theorem edit_failure_eq_none_iff (live : LiveFilter) (e : Edit) :
    (live.edit e).failure = none ↔ ¬ e.Oversized ∧
      ∃ built, new (live.edit e).live.text (live.edit e).live.caseSensitive
        (live.edit e).live.operators = .ok built := by
  rw [edit_eq, ← prepare_error_iff live e]
  cases hprepare : live.prepare e with
  | error failure => simp
  | ok prepared =>
    have hnew := prepared.new_rebuild
    cases hfailure : prepared.rebuild.failure with
    | none =>
      rw [hfailure] at hnew
      simp [hnew]
    | some failure =>
      rw [hfailure] at hnew
      simp [hnew]

theorem fresh_edit {live : LiveFilter} {e : Edit} (h : (live.edit e).failure = none) :
    (live.edit e).live.Fresh := by
  rw [edit_eq] at h ⊢
  cases hprepare : live.prepare e with
  | error failure => simp [hprepare] at h
  | ok prepared =>
    rw [hprepare] at h
    exact fresh_rebuild h

theorem passes_eq_enabled (live : LiveFilter) (candidate : String) :
    live.passes candidate = (!live.enabled || (live.setEnabled true).passes candidate) := by
  cases henabled : live.enabled with
  | true => simp [passes, setEnabled, henabled]
  | false => simp [passes, henabled]

/-- What an edit is made of is the text and the switches that it leaves, and where the filter can be
built from these, the edit has built it. Enabling keeps this. -/
theorem edit_forgets_history (start : LiveFilter) (history : List Call) (e : Edit) :
    let edited := (start.run history).edit e
    (edited.failure = none ↔ ¬ e.Oversized ∧
      ∃ built, new edited.live.text edited.live.caseSensitive edited.live.operators =
        .ok built) ∧
    (edited.failure = none → ∀ switches : List Bool,
      let live := edited.live.run (switches.map .enabled)
      ∃ built, new live.text live.caseSensitive live.operators = .ok built ∧
        live = built.setEnabled live.enabled ∧
        (live.operators = true → Filter.parseWithMask live.text = .ok (live.tree, live.mask)) ∧
        (live.operators = false → Filter.parseWords live.text = .ok live.tree ∧ live.mask = []) ∧
        live.FoldedInStep ∧
        ∀ candidate, live.passes candidate = (!live.enabled || built.passes candidate)) := by
  intro edited
  refine ⟨edit_failure_eq_none_iff _ e, ?_⟩
  intro hok switches live
  have hfresh : live.Fresh := (fresh_edit hok).run_enabled switches
  obtain ⟨hread, hfolded⟩ := hfresh.read
  refine ⟨live.setEnabled true, hfresh, rfl, ?_, ?_, hfolded, live.passes_eq_enabled⟩
  · intro hoperators
    rwa [LiveFilter.read, if_pos hoperators] at hread
  · intro hoperators
    rw [LiveFilter.read, if_neg (by simp [hoperators])] at hread
    cases hwords : Filter.parseWords live.text with
    | error failure => simp [hwords, Except.map] at hread
    | ok tree =>
      simp only [hwords, Except.map, Except.ok.injEq, Prod.mk.injEq] at hread
      exact ⟨congrArg _ hread.1, hread.2.symm⟩

theorem run_refused {text : String} (hsize : Filter.maxBytes < text.utf8ByteSize) :
    ({} : LiveFilter).run [.edit (.text text), .edit (.caseSensitive false), .enabled true] =
      { text, enabled := true, caseSensitive := false } := by
  have htext := setText_of_too_long {} hsize
  have hcase := setText_of_too_long { caseSensitive := false } hsize
  simp only [setText] at hcase
  simp [run, call, edit, htext, setCaseSensitive, hcase, setEnabled]

theorem edit_forgets_refused_text :
    let history : List Call := [.edit (.text overlong), .edit (.caseSensitive false), .enabled true]
    let edited := (({} : LiveFilter).run history).edit (.columnValues ["E", "", "b"] true)
    let live := edited.live.run ([false].map .enabled)
    edited.failure = none ∧ edited.live.passes "web" = false ∧
      ∃ built, new live.text live.caseSensitive live.operators = .ok built ∧
        live = built.setEnabled live.enabled := by
  have hsize := maxBytes_lt_overlong_size
  -- The text is replaced whatever it was, and nothing may look into so long a one.
  generalize overlong = text at hsize ⊢
  have hforgets := (edit_forgets_history {}
    [.edit (.text text), .edit (.caseSensitive false), .enabled true]
    (.columnValues ["E", "", "b"] true)).2
  simp only [run_refused hsize] at hforgets ⊢
  let start : LiveFilter := { text, enabled := true, caseSensitive := false }
  let tree : Filter := Filter.empty.narrowed true ["E", "b"]
  have hok : (start.addColumnValues ["E", "", "b"] true).failure = none := by
    apply (start.addColumnValues_failure_eq_none_iff _ true).mpr
    refine ⟨by decide, ?_, fun _ => ⟨⟨?_, ?_, trivial⟩, trivial⟩⟩
    · change tree.print.utf8ByteSize ≤ Filter.maxBytes
      rw [Filter.utf8ByteSize_print]
      decide
    · exact Text.foldable_iff.mpr (by decide)
    · exact Text.foldable_iff.mpr (by decide)
  obtain ⟨built, hbuilt, hlive, -⟩ := hforgets hok [false]
  refine ⟨hok, ?_, built, hbuilt, hlive⟩
  obtain ⟨mask, folded, -, hedited, hfolded⟩ := of_addColumnValues hok
  rw [edit, passes_eq hfolded, hedited, finds_eq]
  change tree.holds (fun literal => decide (literal.toList.flatMap Text.foldChar <:+:
    "web".toList.flatMap Text.foldChar)) = false
  decide

end SocketWatch.LiveFilter
