import SocketWatch.Proofs.Filter.RoundTrip
import SocketWatch.Proofs.Filter.Narrowing

namespace SocketWatch

namespace Filter

theorem ofMask_print (f : Filter) : ofMask f.print.toList (Mask.ofChars f.print.toList) = f := by
  have hread := (Grammar.Expr.canonical f).ofMask_written
  rwa [Grammar.Expr.written_canonical, Grammar.Expr.filter_canonical] at hread

theorem parseWithMask_eq (text : String) :
    parseWithMask text =
      if text.utf8ByteSize ≤ maxBytes then
        .ok (ofMask text.toList (Mask.ofChars text.toList), Mask.ofChars text.toList)
      else .error (.tooLong text.utf8ByteSize) := by
  rw [parseWithMask, mask, checkSize]
  split
  · rfl
  · rfl

theorem parseWithMask_print {f g : Filter} {mask : Mask}
    (h : parseWithMask f.print = .ok (g, mask)) : g = f := by
  rw [parseWithMask_eq, ofMask_print] at h
  split at h
  · cases h
    rfl
  · cases h

end Filter

inductive Edit where
  | text (text : String)
  | caseSensitive (on : Bool)
  | operators (on : Bool)
  | columnValues (values : List String) (negate : Bool)

def Edit.Oversized : Edit → Prop
  | .columnValues values _ => ∃ value ∈ values, Filter.maxBytes < value.utf8ByteSize
  | _ => False

namespace LiveFilter

def edit (live : LiveFilter) : Edit → Edited
  | .text text => live.setText text
  | .caseSensitive on => live.setCaseSensitive on
  | .operators on => live.setOperators on
  | .columnValues values negate => live.addColumnValues values negate

def prepare (live : LiveFilter) : Edit → Except FilterError LiveFilter
  | .text text => .ok { live with text }
  | .caseSensitive caseSensitive => .ok { live with caseSensitive }
  | .operators operators => .ok { live with operators }
  | .columnValues values negate =>
    (addValues live.tree negate (distinctValues values)).map fun tree =>
      { live with tree, enabled := true, operators := true, text := tree.print }

theorem edit_eq (live : LiveFilter) (e : Edit) :
    live.edit e =
      match live.prepare e with
      | .error failure => { live, failure }
      | .ok prepared => prepared.rebuild := by
  cases e with
  | columnValues values negate =>
    rw [edit, prepare, addColumnValues]
    cases addValues live.tree negate (distinctValues values) with
    | error failure => rfl
    | ok tree => rfl
  | _ => rfl

theorem map_fst_read (live : LiveFilter) :
    live.read.map Prod.fst =
      if live.operators then Filter.parse live.text else Filter.parseWords live.text := by
  rw [read]
  split
  · rfl
  · cases Filter.parseWords live.text with
    | error failure => rfl
    | ok tree => rfl

theorem exists_read (live : LiveFilter) (hsize : live.text.utf8ByteSize ≤ Filter.maxBytes) :
    ∃ tree mask, live.read = .ok (tree, mask) := by
  have hread := live.map_fst_read
  rw [Filter.parse_of_le hsize, Filter.parseWords_of_le hsize] at hread
  cases h : live.read with
  | ok read => exact ⟨read.1, read.2, rfl⟩
  | error failure =>
    rw [h] at hread
    split at hread <;> cases hread

theorem read_of_words {live : LiveFilter} (words : List String) (hoperators : live.operators = false)
    (hsize : live.text.utf8ByteSize ≤ Filter.maxBytes)
    (hwords : (live.text.toList.splitOnP Mask.isGap).filter (· ≠ []) = words.map String.toList) :
    live.read = .ok (Filter.ofList (words.map fun word => (.and, .literal false word)), []) := by
  rw [← Filter.toList_words] at hwords
  have hwords : Filter.words live.text = words :=
    List.map_injective_iff.mpr (fun _ _ => String.toList_injective) hwords
  rw [read, if_neg (by simp [hoperators]), Filter.parseWords_of_le hsize, hwords]
  rfl

theorem new_of_read {text : String} {operators : Bool} {tree : Filter} {mask : Mask}
    (hread : read { text, enabled := true, caseSensitive := false, operators } = .ok (tree, mask))
    (hfold : tree.All Text.Foldable) :
    new text false operators =
      .ok { text, enabled := true, caseSensitive := false, operators, tree, mask
            folded := some (tree.mapTexts Text.caseFold) } := by
  rw [new, rebuild, hread]
  simp [Filter.caseFolded_eq hfold]

theorem eq_parsed {live : LiveFilter} {tree : Filter} {mask : Mask}
    (h : live.read = .ok (tree, mask)) :
    (if live.operators then Filter.parse live.text else Filter.parseWords live.text) =
      .ok tree := by
  rw [← map_fst_read, h]
  rfl

inductive Rebuilt (live : LiveFilter) : Edited → Prop where
  | unread {failure : FilterError} (hread : live.read = .error failure) :
    Rebuilt live { live, failure }
  | exact {tree : Filter} {mask : Mask} (hread : live.read = .ok (tree, mask))
    (hcase : live.caseSensitive = true) :
    Rebuilt live { live := { live with tree, mask, folded := none } }
  | folded {tree folded : Filter} {mask : Mask} (hread : live.read = .ok (tree, mask))
    (hcase : live.caseSensitive = false) (hfold : tree.caseFolded = .ok folded) :
    Rebuilt live { live := { live with tree, mask, folded := some folded } }
  | unfolded {tree : Filter} {mask : Mask} {failure : FilterError}
    (hread : live.read = .ok (tree, mask)) (hcase : live.caseSensitive = false)
    (hfold : tree.caseFolded = .error failure) :
    Rebuilt live { live := { live with tree, mask }, failure }

theorem rebuilt (live : LiveFilter) : live.Rebuilt live.rebuild := by
  rw [rebuild]
  split
  · next failure hread => exact .unread hread
  · next tree mask hread =>
    dsimp only
    split
    · next hcase => exact .exact hread hcase
    · next hcase =>
      have hcase : live.caseSensitive = false := by simpa using hcase
      split
      · next folded hfold => exact .folded hread hcase hfold
      · next failure hfold => exact .unfolded hread hcase hfold

theorem of_rebuild {live : LiveFilter} (h : live.rebuild.failure = none) :
    ∃ tree mask folded, live.read = .ok (tree, mask) ∧
      live.rebuild.live = { live with tree, mask, folded } ∧ live.rebuild.live.FoldedInStep := by
  have hrebuilt := live.rebuilt
  generalize live.rebuild = edited at h hrebuilt
  cases hrebuilt with
  | unread => cases h
  | unfolded => cases h
  | @exact tree mask hread hcase =>
    refine ⟨tree, mask, none, hread, rfl, ?_⟩
    rw [FoldedInStep, if_pos hcase]
  | @folded tree folded mask hread hcase hfold =>
    refine ⟨tree, mask, some folded, hread, rfl, ?_⟩
    rw [FoldedInStep, if_neg (by simp [hcase])]
    exact ⟨folded, hfold, rfl⟩

def Current (live : LiveFilter) : Prop :=
  ∀ tree mask, live.read = .ok (tree, mask) → live.tree = tree ∧ live.mask = mask

theorem prepare_columnValues (live : LiveFilter) (values : List String) (negate : Bool) :
    live.prepare (.columnValues values negate) =
      match Filter.refusal? (distinctValues values) with
      | some failure => .error failure
      | none =>
        let tree := live.tree.narrowed negate (distinctValues values)
        .ok { live with tree, enabled := true, operators := true, text := tree.print } := by
  rw [prepare, addValues_eq]
  cases Filter.refusal? (distinctValues values) with
  | none => rfl
  | some failure => rfl

theorem prepare_error_iff (live : LiveFilter) (e : Edit) :
    (∃ failure, live.prepare e = .error failure) ↔ e.Oversized := by
  cases e with
  | columnValues values negate =>
    rw [prepare_columnValues, Edit.Oversized]
    cases hrefused : Filter.refusal? (distinctValues values) with
    | none =>
      have hsize := Filter.refusal?_distinctValues_eq_none_iff.mp hrefused
      simpa using hsize
    | some failure =>
      have hne : Filter.refusal? (distinctValues values) ≠ none := by simp [hrefused]
      have hsize := mt Filter.refusal?_distinctValues_eq_none_iff.mpr hne
      simpa using hsize
  | _ => simp [prepare, Edit.Oversized]

theorem of_prepare {live prepared : LiveFilter} {e : Edit}
    (h : live.prepare e = .ok prepared) :
    prepared.mask = live.mask ∧ prepared.folded = live.folded ∧
      (prepared.tree = live.tree ∨
        prepared.operators = true ∧ prepared.text = prepared.tree.print) := by
  cases e with
  | columnValues values negate =>
    rw [prepare_columnValues] at h
    split at h
    · cases h
    · cases h
      exact ⟨rfl, rfl, .inr ⟨rfl, rfl⟩⟩
  | _ =>
    cases h
    exact ⟨rfl, rfl, .inl rfl⟩

theorem read_of_print {live : LiveFilter} {tree : Filter} {mask : Mask}
    (hoperators : live.operators = true) (htext : live.text = live.tree.print)
    (hread : live.read = .ok (tree, mask)) : tree = live.tree := by
  rw [read, if_pos hoperators, htext] at hread
  exact Filter.parseWithMask_print hread

theorem rebuild_failure_eq_none_iff {live : LiveFilter} {tree : Filter} {mask : Mask}
    (hread : live.read = .ok (tree, mask)) :
    live.rebuild.failure = none ↔ (live.caseSensitive = false → tree.All Text.Foldable) := by
  constructor
  · intro h hcase
    obtain ⟨tree', mask', folded, hread', hlive, hfolded⟩ := of_rebuild h
    rw [hread] at hread'
    cases hread'
    rw [hlive, FoldedInStep, if_neg (by simp [hcase])] at hfolded
    obtain ⟨folded, hfold, -⟩ := hfolded
    exact Filter.all_foldable hfold
  · intro hfold
    rw [rebuild, hread]
    cases hcase : live.caseSensitive with
    | true => simp
    | false => simp [Filter.caseFolded_eq (hfold hcase)]

theorem addColumnValues_eq (live : LiveFilter) (values : List String) (negate : Bool) :
    live.addColumnValues values negate =
      match Filter.refusal? (distinctValues values) with
      | some failure => { live, failure }
      | none =>
        let tree := live.tree.narrowed negate (distinctValues values)
        rebuild { live with tree, enabled := true, operators := true, text := tree.print } := by
  have hedit : live.addColumnValues values negate = live.edit (.columnValues values negate) := rfl
  rw [hedit, edit_eq, prepare_columnValues]
  cases Filter.refusal? (distinctValues values) with
  | none => rfl
  | some failure => rfl

theorem addColumnValues_failure_eq_none_iff (live : LiveFilter) (values : List String)
    (negate : Bool) :
    let tree := live.tree.narrowed negate (distinctValues values)
    (live.addColumnValues values negate).failure = none ↔
      (∀ value ∈ values, value.utf8ByteSize ≤ Filter.maxBytes) ∧
        tree.print.utf8ByteSize ≤ Filter.maxBytes ∧
        (live.caseSensitive = false → tree.All Text.Foldable) := by
  intro tree
  rw [addColumnValues_eq, ← Filter.refusal?_distinctValues_eq_none_iff]
  cases hrefused : Filter.refusal? (distinctValues values) with
  | some failure => simp
  | none =>
    let prepared : LiveFilter :=
      { live with tree, enabled := true, operators := true, text := tree.print }
    have hread : prepared.read = _ := (if_pos rfl).trans (Filter.parseWithMask_eq tree.print)
    by_cases hsize : tree.print.utf8ByteSize ≤ Filter.maxBytes
    · rw [if_pos hsize, Filter.ofMask_print] at hread
      simpa [hsize] using rebuild_failure_eq_none_iff hread
    · rw [if_neg hsize] at hread
      have hfailure : prepared.rebuild.failure ≠ none := by
        rw [rebuild, hread]
        exact Option.some_ne_none _
      simpa [hsize] using hfailure

theorem of_addColumnValues {live : LiveFilter} {values : List String} {negate : Bool}
    (h : (live.addColumnValues values negate).failure = none) :
    let tree := live.tree.narrowed negate (distinctValues values)
    ∃ mask folded, Filter.parseWithMask tree.print = .ok (tree, mask) ∧
      (live.addColumnValues values negate).live =
        { live with text := tree.print, enabled := true, operators := true, tree, folded, mask } ∧
      (live.addColumnValues values negate).live.FoldedInStep := by
  intro tree
  rw [addColumnValues_eq] at h ⊢
  cases hrefused : Filter.refusal? (distinctValues values) with
  | some failure => simp [hrefused] at h
  | none =>
    simp only [hrefused] at h ⊢
    obtain ⟨read, mask, folded, hread, hlive, hfolded⟩ := of_rebuild h
    obtain rfl := read_of_print rfl rfl hread
    exact ⟨mask, folded, hread, hlive, hfolded⟩

theorem folded_of_rebuild_failed {live : LiveFilter} (h : live.rebuild.failure ≠ none) :
    live.rebuild.live.folded = live.folded := by
  have hrebuilt := live.rebuilt
  generalize live.rebuild = edited at h hrebuilt
  cases hrebuilt with
  | unread => rfl
  | unfolded => rfl
  | exact => exact absurd rfl h
  | folded => exact absurd rfl h

theorem rebuild_failed_iff {live prepared : LiveFilter} (h : prepared.rebuild.failure ≠ none)
    (hmask : prepared.mask = live.mask)
    (htree : prepared.tree = live.tree ∨
      prepared.operators = true ∧ prepared.text = prepared.tree.print) :
    prepared.rebuild.live = live ↔ prepared = live ∧ live.Current := by
  have hrebuilt := prepared.rebuilt
  generalize prepared.rebuild = edited at h hrebuilt
  cases hrebuilt with
  | exact => exact absurd rfl h
  | folded => exact absurd rfl h
  | unread hread =>
    constructor
    · rintro rfl
      refine ⟨rfl, ?_⟩
      intro tree mask hread'
      rw [hread] at hread'
      cases hread'
    · exact fun h => h.1
  | @unfolded tree mask failure hread =>
    constructor
    · intro hlive
      have hmask' : prepared.mask = mask := by
        rw [hmask, ← hlive]
      have htree' : prepared.tree = tree := by
        rcases htree with htree | ⟨hoperators, htext⟩
        · rw [htree, ← hlive]
        -- The tree was set before its text, so only the round trip tells that it is read again.
        · exact (read_of_print hoperators htext hread).symm
      subst hmask' htree'
      obtain rfl : prepared = live := hlive
      refine ⟨rfl, ?_⟩
      intro tree mask hread'
      rw [hread] at hread'
      cases hread'
      exact ⟨rfl, rfl⟩
    · rintro ⟨rfl, hcurrent⟩
      obtain ⟨rfl, rfl⟩ := hcurrent tree mask hread
      rfl

/-- Only a value that is too long is refused before anything is set. Any other failure leaves a
filter as it was only where reading its text again would have failed as well. -/
theorem failed_edit_unchanged_iff (live : LiveFilter) (e : Edit)
    (h : (live.edit e).failure ≠ none) :
    (live.edit e).live.folded = live.folded ∧
      ((live.edit e).live = live ↔
        e.Oversized ∨ (live.prepare e = .ok live ∧ live.Current)) ∧
      (live.rebuild.failure = none → ((live.edit e).live = live ↔ e.Oversized)) := by
  rw [edit_eq] at h ⊢
  rw [← prepare_error_iff live e]
  cases hprepare : live.prepare e with
  | error failure => simp
  | ok prepared =>
    rw [hprepare] at h
    obtain ⟨hmask, hfolded, htree⟩ := of_prepare hprepare
    have hkept := rebuild_failed_iff h hmask htree
    refine ⟨(folded_of_rebuild_failed h).trans hfolded, ?_, ?_⟩
    · simpa using hkept
    · intro hlive
      have hchanged : prepared.rebuild.live ≠ live := by
        intro hsame
        obtain ⟨rfl, -⟩ := hkept.mp hsame
        exact h hlive
      simpa using hchanged

theorem failure_of_oversized (live : LiveFilter) {e : Edit} (h : e.Oversized) :
    (live.edit e).failure ≠ none := by
  obtain ⟨failure, hprepare⟩ := (live.prepare_error_iff e).mpr h
  rw [edit_eq, hprepare]
  simp

theorem setText_of_too_long (live : LiveFilter) {text : String}
    (h : Filter.maxBytes < text.utf8ByteSize) :
    live.setText text =
      { live := { live with text }, failure := some (.tooLong text.utf8ByteSize) } := by
  have hsize : ¬ text.utf8ByteSize ≤ Filter.maxBytes := Nat.not_le.mpr h
  have hread : ({ live with text } : LiveFilter).read = .error (.tooLong text.utf8ByteSize) := by
    rw [read]
    split
    · simp [Filter.parseWithMask_eq, hsize]
    · simp [Filter.parseWords, Filter.checkSize, hsize]
      rfl
  rw [setText, rebuild, hread]

theorem utf8ByteSize_replicate (n : Nat) (c : Char) :
    (String.ofList (List.replicate n c)).utf8ByteSize = n * c.utf8Size := by
  induction n with
  | zero => simp
  | succ n ih =>
    rw [List.replicate_succ, String.ofList_cons, String.utf8ByteSize_append, ih,
      String.utf8ByteSize_singleton, Nat.succ_mul, Nat.add_comm]

@[irreducible] def overlong : String := String.ofList (List.replicate (Filter.maxBytes + 1) 'x')

theorem overlong_size : overlong.utf8ByteSize = Filter.maxBytes + 1 := by
  unfold overlong
  rw [utf8ByteSize_replicate]
  exact Nat.mul_one _

theorem maxBytes_lt_overlong_size : Filter.maxBytes < overlong.utf8ByteSize := by
  rw [overlong_size]
  exact Nat.lt_succ_self _

theorem failed_edit_unchanged_of_overlong_value :
    let live : LiveFilter := { text := "a", tree := .chain (.literal false "a") .done }
    let e : Edit := .columnValues ["b", overlong] true
    (live.edit e).failure ≠ none ∧ (live.edit e).live = live := by
  intro live e
  have hoversized : e.Oversized := ⟨overlong, by simp, maxBytes_lt_overlong_size⟩
  have hfailure := live.failure_of_oversized hoversized
  exact ⟨hfailure, (failed_edit_unchanged_iff live e hfailure).2.1.mpr (.inl hoversized)⟩

theorem failed_edit_changes_overlong_text :
    let live : LiveFilter :=
      { text := "a", enabled := true, tree := .chain (.literal false "a") .done }
    (live.edit (.text overlong)).failure = some (.tooLong 100100101) ∧
      (live.edit (.text overlong)).live.text = overlong ∧
      (live.edit (.text overlong)).live ≠ live := by
  intro live
  have hedit : live.edit (.text overlong) =
      { live := { live with text := overlong }
        failure := some (.tooLong (Filter.maxBytes + 1)) } := by
    rw [← overlong_size]
    exact live.setText_of_too_long maxBytes_lt_overlong_size
  rw [hedit]
  refine ⟨rfl, rfl, ?_⟩
  intro hlive
  have htext := congrArg (fun l : LiveFilter => l.text.utf8ByteSize) hlive
  dsimp only at htext
  rw [overlong_size] at htext
  exact absurd htext (by decide)

end LiveFilter

end SocketWatch
