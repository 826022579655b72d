import Mathlib.Data.List.Infix
import SocketWatch.Proofs.Filter.CaseFolding
import SocketWatch.Proofs.Filter.History
import SocketWatch.Proofs.Filter.PlainText

namespace SocketWatch

namespace Filter

theorem holds_words (occurs : String → Bool) (words : List String) :
    (ofList (words.map fun word => (.and, .literal false word))).holds occurs =
      words.all occurs := by
  have hfold : ∀ (words : List String) (verdict : Bool),
      (Joined.ofList (words.map fun word => (.and, .literal false word))).holds occurs verdict =
        (verdict && words.all occurs) := by
    intro words verdict
    rw [Joined.holds_ofList, List.foldl_map]
    induction words generalizing verdict with
    | nil => simp
    | cons word words ih =>
      rw [List.foldl_cons, ih]
      simp [Join.combine, Operand.holds, Bool.and_assoc]
  cases words with
  | nil => rfl
  | cons word words => simp [ofList, holds, hfold, Operand.holds]

end Filter

namespace LiveFilter

open SocketWatch.Filter (maxBytes IsWord Plain)

def UpToDate (live : LiveFilter) : Prop :=
  live.text.utf8ByteSize ≤ maxBytes →
    live.read = .ok (live.tree, live.mask) ∧
      if live.caseSensitive then live.folded = none
      else ∀ folded, live.tree.caseFolded = .ok folded → live.folded = some folded

theorem upToDate_rebuild (live : LiveFilter) : live.rebuild.live.UpToDate := by
  have hrebuilt := live.rebuilt
  generalize live.rebuild = edited at hrebuilt
  intro hsize
  cases hrebuilt with
  | unread hread =>
    obtain ⟨tree, mask, hok⟩ := live.exists_read hsize
    rw [hread] at hok
    cases hok
  | exact hread hcase => exact ⟨hread, by simp [hcase]⟩
  | folded hread hcase hfold =>
    refine ⟨hread, ?_⟩
    rw [if_neg (by simp [hcase])]
    intro folded hok
    rw [hfold] at hok
    exact congrArg some (Except.ok.inj hok)
  | unfolded hread hcase hfold =>
    refine ⟨hread, ?_⟩
    rw [if_neg (by simp [hcase])]
    intro folded hok
    rw [hfold] at hok
    cases hok

theorem UpToDate.edit {live : LiveFilter} (h : live.UpToDate) (e : Edit) :
    (live.edit e).live.UpToDate := by
  rw [edit_eq]
  cases live.prepare e with
  | error failure => exact h
  | ok prepared => exact upToDate_rebuild prepared

theorem UpToDate.run {live : LiveFilter} (h : live.UpToDate) (calls : List Call) :
    (live.run calls).UpToDate := by
  induction calls generalizing live with
  | nil => exact h
  | cons call calls ih =>
    cases call with
    | edit e => exact ih (h.edit e)
    | enabled on =>
      have hset : (live.setEnabled on).UpToDate := h
      exact ih hset

def Reached (live : LiveFilter) : Prop :=
  ∃ (start : LiveFilter) (calls : List Call), live = start.run calls ∧
    (start = {} ∨ ∃ text caseSensitive operators, new text caseSensitive operators = .ok start)

theorem Reached.upToDate {live : LiveFilter} (h : live.Reached) : live.UpToDate := by
  obtain ⟨start, calls, rfl, hstart⟩ := h
  apply UpToDate.run
  rcases hstart with rfl | ⟨text, caseSensitive, operators, hnew⟩
  · have hread : ({} : LiveFilter).read = .ok (.empty, []) := read_of_words [] rfl (by decide) rfl
    exact fun _ => ⟨hread, rfl⟩
  · rw [new_eq { text, caseSensitive, operators }] at hnew
    split at hnew
    · cases hnew
      exact upToDate_rebuild { text, caseSensitive, operators }
    · cases hnew

theorem tree_of_plain {live : LiveFilter} (hplain : Plain live.text) {tree : Filter} {mask : Mask}
    (h : live.read = .ok (tree, mask)) : Filter.parseWords live.text = .ok tree := by
  have hparsed := eq_parsed h
  rwa [Filter.parse_of_plain hplain, ite_self] at hparsed

theorem tree_of_words {live : LiveFilter} (hsize : live.text.utf8ByteSize ≤ maxBytes)
    (hoperators : live.operators = false) {tree : Filter} {mask : Mask}
    (h : live.read = .ok (tree, mask)) :
    Filter.ofList ((Filter.words live.text).map fun word => (.and, .literal false word)) =
      tree := by
  have hparsed := eq_parsed h
  rw [if_neg (by simp [hoperators]), Filter.parseWords_of_le hsize] at hparsed
  exact Except.ok.inj hparsed

theorem UpToDate.passes_setOperators {live : LiveFilter} (h : live.UpToDate)
    (hsize : live.text.utf8ByteSize ≤ maxBytes) (hplain : Plain live.text) (on : Bool)
    (candidate : String) :
    (live.setOperators on).live.passes candidate = live.passes candidate := by
  obtain ⟨hread, hfolded⟩ := h hsize
  have hsame : ∀ tree mask, read { live with operators := on } = .ok (tree, mask) →
      tree = live.tree := by
    intro tree mask hother
    have hwords := tree_of_plain hplain hread
    have hwords' := @tree_of_plain { live with operators := on } hplain _ _ hother
    exact Except.ok.inj (hwords'.symm.trans hwords)
  have hrebuilt := rebuilt { live with operators := on }
  rw [setOperators]
  generalize rebuild { live with operators := on } = edited at hrebuilt
  cases hrebuilt with
  | unread => rfl
  | exact hother hcase =>
    obtain rfl := hsame _ _ hother
    rw [if_pos hcase] at hfolded
    simp [passes, hfolded]
  | folded hother hcase hfold =>
    obtain rfl := hsame _ _ hother
    rw [if_neg (by simpa using hcase)] at hfolded
    simp [passes, hfolded _ hfold]
  | unfolded hother =>
    obtain rfl := hsame _ _ hother
    rfl

def WordsFold (text : String) (caseSensitive : Bool) : Prop :=
  caseSensitive = false → ∀ word, IsWord text word → Text.Foldable word

theorem all_foldable_iff {text : String} :
    (Filter.ofList ((Filter.words text).map fun word => (.and, .literal false word))).All
      Text.Foldable ↔ ∀ word, IsWord text word → Text.Foldable word := by
  simp [Filter.all_ofList, Operand.All, ← Filter.mem_words_iff]

theorem UpToDate.passes_iff {live : LiveFilter} (h : live.UpToDate)
    (hsize : live.text.utf8ByteSize ≤ maxBytes) (hoperators : live.operators = false)
    (hfold : WordsFold live.text live.caseSensitive) (henabled : live.enabled = true)
    (candidate : String) :
    live.passes candidate ↔ ∀ word, IsWord live.text word → live.finds candidate word := by
  obtain ⟨hread, hfolded⟩ := h hsize
  have htree := tree_of_words hsize hoperators hread
  have hstep : live.FoldedInStep := by
    rw [FoldedInStep]
    split at hfolded
    · next hcase => rwa [if_pos hcase]
    · next hcase =>
      have hall := all_foldable_iff.mpr (hfold (by simpa using hcase))
      rw [htree] at hall
      rw [if_neg hcase]
      exact ⟨_, Filter.caseFolded_eq hall, hfolded _ (Filter.caseFolded_eq hall)⟩
  rw [passes_eq hstep, henabled, ← htree, Filter.holds_words]
  simp [Filter.mem_words_iff]

theorem exists_new_iff {text : String} (hsize : text.utf8ByteSize ≤ maxBytes)
    (caseSensitive : Bool) :
    (∃ built, new text caseSensitive false = .ok built) ↔ WordsFold text caseSensitive := by
  let start : LiveFilter := { text, caseSensitive }
  have hrebuilt := start.rebuilt
  rw [new_eq start]
  generalize start.rebuild = edited at hrebuilt
  cases hrebuilt with
  | unread hread =>
    obtain ⟨tree, mask, hok⟩ := start.exists_read hsize
    rw [hread] at hok
    cases hok
  | exact hread hcase =>
    obtain rfl : caseSensitive = true := hcase
    simp [WordsFold]
  | folded hread hcase hfold =>
    obtain rfl : caseSensitive = false := hcase
    obtain rfl := @tree_of_words start hsize rfl _ _ hread
    simpa [WordsFold] using all_foldable_iff.mp (Filter.all_foldable hfold)
  | unfolded hread hcase hfold =>
    obtain rfl : caseSensitive = false := hcase
    obtain rfl := @tree_of_words start hsize rfl _ _ hread
    have hnot : ¬ ∀ word, IsWord text word → Text.Foldable word := by
      intro hall
      rw [Filter.caseFolded_eq (all_foldable_iff.mpr hall)] at hfold
      cases hfold
    simpa [WordsFold] using hnot

theorem of_new {text : String} {caseSensitive operators : Bool} {live : LiveFilter}
    (h : new text caseSensitive operators = .ok live) :
    live.Reached ∧ live.text = text ∧ live.caseSensitive = caseSensitive ∧
      live.operators = operators ∧ live.enabled = true := by
  have hreached : live.Reached := ⟨live, [], rfl, .inr ⟨_, _, _, h⟩⟩
  rw [new_eq { text, caseSensitive, operators }] at h
  split at h
  · cases h
    obtain ⟨htext, hcase, hoperators⟩ := rebuild_keeps { text, caseSensitive, operators }
    exact ⟨hreached, htext, hcase, hoperators, rfl⟩
  · cases h

/-- A plain text is read as the same filter with operators and without, and no switch of them
changes an answer. Without operators every word of a text has to occur, in each filter that can be
built anew: where the folding of a word is refused, an edit has failed, and what it left behind may
still answer by an earlier text. -/
theorem words_decide {text : String} (hsize : text.utf8ByteSize ≤ maxBytes) :
    (Plain text → ∃ tree, Filter.parse text = .ok tree ∧ Filter.parseWords text = .ok tree) ∧
      (∀ caseSensitive, (∃ built, new text caseSensitive false = .ok built) ↔
        WordsFold text caseSensitive) ∧
      ∀ live : LiveFilter, live.Reached → live.text = text →
        (Plain text → ∀ on candidate,
          (live.setOperators on).live.passes candidate = live.passes candidate) ∧
        (live.operators = false → live.enabled = true → WordsFold text live.caseSensitive →
          ∀ candidate, live.passes candidate ↔
            ∀ word, IsWord text word → live.finds candidate word) := by
  refine ⟨?_, exists_new_iff hsize, ?_⟩
  · intro hplain
    have hwords := Filter.parseWords_of_le hsize
    exact ⟨_, (Filter.parse_of_plain hplain).trans hwords, hwords⟩
  · rintro live hreached rfl
    refine ⟨hreached.upToDate.passes_setOperators hsize, ?_⟩
    intro hoperators henabled hfold
    exact hreached.upToDate.passes_iff hsize hoperators hfold henabled

theorem utf8ByteSize_caseFold_replicate (n : Nat) (c : Char) :
    (Text.caseFold (String.ofList (List.replicate n c))).utf8ByteSize =
      n * (String.ofList (Text.foldChar c)).utf8ByteSize := by
  rw [Text.caseFold_ofList]
  induction n with
  | zero => simp
  | succ n ih =>
    rw [List.replicate_succ, List.flatMap_cons, String.ofList_append, String.utf8ByteSize_append,
      ih, Nat.succ_mul, Nat.add_comm]

theorem words_decide_of_prefix_or :
    let text := "Oracle\t tcp"
    let candidate := "TCP 1521 oracle"
    ∃ live tree, new text false false = .ok live ∧ Filter.parse text = .ok tree ∧
      Filter.parseWords text = .ok tree ∧ live.passes candidate = true ∧
      (live.setOperators true).live.passes candidate = true := by
  intro text candidate
  have hwords : Filter.words text = ["Oracle", "tcp"] := by
    apply List.map_injective_iff.mpr fun _ _ => String.toList_injective
    rw [Filter.map_toList_words]
    decide
  have hmem : ∀ word, IsWord text word → word = "Oracle" ∨ word = "tcp" := by
    intro word hword
    rw [← Filter.mem_words_iff, hwords] at hword
    simpa using hword
  have hplain : Plain text := by
    refine ⟨by simp [text, Grammar.Unmarked], ?_⟩
    intro word hword
    rw [ne_eq, ← String.toList_inj, Text.toList_small]
    rcases hmem word hword with rfl | rfl
    · decide
    · decide
  have horacle : Text.caseFold "Oracle" = "oracle" := Text.caseFold_eq (by decide)
  have htcp : Text.caseFold "tcp" = "tcp" := Text.caseFold_eq (by decide)
  have hcandidate : Text.caseFold candidate = "tcp 1521 oracle" := Text.caseFold_eq (by decide)
  have hfold : WordsFold text false := by
    intro _ word hword
    rcases hmem word hword with rfl | rfl
    · rw [Text.Foldable, horacle]
      decide
    · rw [Text.Foldable, htcp]
      decide
  have hsize : text.utf8ByteSize ≤ maxBytes := by decide
  obtain ⟨hsame, hnew, hreached⟩ := words_decide hsize
  obtain ⟨live, hlive⟩ := (hnew false).mpr hfold
  obtain ⟨tree, hparse, hparseWords⟩ := hsame hplain
  obtain ⟨hlive', htext, hcase, hoperators, henabled⟩ := of_new hlive
  obtain ⟨hswitch, hanswer⟩ := hreached live hlive' htext
  have hpasses : live.passes candidate = true := by
    apply (hanswer hoperators henabled (hcase ▸ hfold) candidate).mpr
    intro word hword
    rw [finds, if_neg (by simp [hcase]), hcandidate, CaseMode.occurs_exact_iff]
    rcases hmem word hword with rfl | rfl
    · rw [horacle]
      decide
    · rw [htcp]
      decide
  exact ⟨live, tree, hlive, hparse, hparseWords, hpasses,
    (hswitch hplain true candidate).trans hpasses⟩

theorem setText_of_not_wordsFold (live : LiveFilter) {text : String}
    (hsize : text.utf8ByteSize ≤ maxBytes) (hoperators : live.operators = false)
    (hcase : live.caseSensitive = false) (hfold : ¬ WordsFold text false) :
    ∃ tree mask, (live.setText text).live = { live with text, tree, mask } := by
  have hrebuilt := rebuilt { live with text }
  rw [setText]
  generalize rebuild { live with text } = edited at hrebuilt
  cases hrebuilt with
  | unread => exact ⟨_, _, rfl⟩
  | exact _ hexact => simp [hcase] at hexact
  | unfolded => exact ⟨_, _, rfl⟩
  | @folded tree folded mask hread _ hok =>
    have htree := @tree_of_words { live with text } hsize hoperators _ _ hread
    have hall := Filter.all_foldable hok
    rw [← htree] at hall
    exact absurd (fun _ => all_foldable_iff.mp hall) hfold

def lettersA : LiveFilter where
  text := "a"
  enabled := true
  caseSensitive := false
  tree := .chain (.literal false "a") .done
  folded := some (.chain (.literal false "a") .done)

theorem caseFold_a : Text.caseFold "a" = "a" := Text.caseFold_eq (by decide)

theorem new_lettersA : new "a" false false = .ok lettersA := by
  have hread : read { text := "a", enabled := true, caseSensitive := false } =
      .ok (lettersA.tree, []) := read_of_words ["a"] rfl (by decide) (by decide)
  have hfolded : lettersA.tree.mapTexts Text.caseFold = lettersA.tree := by
    simp [lettersA, Filter.mapTexts, Operand.mapTexts, Joined.mapTexts, caseFold_a]
  rw [new_of_read hread ⟨Text.foldable_iff.mpr (by decide), trivial⟩, hfolded]
  rfl

theorem passes_of_refused_word {text : String} (hsize : text.utf8ByteSize ≤ maxBytes)
    (hword : IsWord text text) (hfold : maxBytes < (Text.caseFold text).utf8ByteSize) :
    let live := (lettersA.edit (.text text)).live
    live.Reached ∧ live.text = text ∧ live.operators = false ∧ live.enabled = true ∧
      live.passes "a" = true ∧ live.finds "a" text = false := by
  intro live
  have hreached : live.Reached :=
    ⟨lettersA, [.edit (.text text)], rfl, .inr ⟨_, _, _, new_lettersA⟩⟩
  have hrefused : ¬ WordsFold text false := fun h => Nat.not_lt.mpr (h rfl text hword) hfold
  have hlonger : (Text.caseFold "a").utf8ByteSize < (Text.caseFold text).utf8ByteSize := by
    rw [caseFold_a]
    exact Nat.lt_trans (by decide) hfold
  obtain ⟨tree, mask, hlive⟩ := lettersA.setText_of_not_wordsFold hsize rfl rfl hrefused
  have hedited : live = { lettersA with text, tree, mask } := hlive
  refine ⟨hreached, ?_⟩
  rw [hedited]
  refine ⟨rfl, rfl, rfl, ?_, CaseMode.occurs_of_longer .exact hlonger⟩
  have hfound : CaseMode.exact.occurs "a" "a" = true :=
    CaseMode.occurs_exact_iff.mpr (List.infix_refl _)
  simp [passes, lettersA, Filter.passes, Filter.holds, Operand.holds, Joined.holds, caseFold_a,
    hfound]

@[irreducible] def unfoldable : String := String.ofList (List.replicate 16683351 'ΐ')

theorem unfoldable_size : unfoldable.utf8ByteSize = 33366702 := by
  have hchar : 'ΐ'.utf8Size = 2 := by decide
  unfold unfoldable
  rw [utf8ByteSize_replicate, hchar]

theorem caseFold_unfoldable_size : (Text.caseFold unfoldable).utf8ByteSize = 100100106 := by
  have hfold : Text.foldChar 'ΐ' = ['ι', '\u0308', '\u0301'] := by decide +kernel
  have hsize : (String.ofList ['ι', '\u0308', '\u0301']).utf8ByteSize = 6 := by decide
  unfold unfoldable
  rw [utf8ByteSize_caseFold_replicate, hfold, hsize]

theorem isWord_unfoldable : IsWord unfoldable unfoldable := by
  have hgap : ∀ n, ∀ c ∈ (String.ofList (List.replicate n 'ΐ')).toList, Mask.isGap c = false := by
    intro n c hc
    rw [String.toList_ofList] at hc
    rw [List.eq_of_mem_replicate hc]
    decide
  apply Filter.isWord_self
  · intro h
    have hsize := unfoldable_size
    rw [h] at hsize
    exact absurd hsize (by decide)
  · unfold unfoldable
    exact hgap 16683351

theorem stale_after_refused_folding :
    let live := (lettersA.edit (.text unfoldable)).live
    live.Reached ∧ live.text = unfoldable ∧ unfoldable.utf8ByteSize ≤ maxBytes ∧
      live.operators = false ∧ live.enabled = true ∧
      ¬ (live.passes "a" ↔ ∀ word, IsWord live.text word → live.finds "a" word) := by
  intro live
  have hsize : unfoldable.utf8ByteSize ≤ maxBytes := by
    rw [unfoldable_size]
    decide
  have hfold : maxBytes < (Text.caseFold unfoldable).utf8ByteSize := by
    rw [caseFold_unfoldable_size]
    decide
  obtain ⟨hreached, htext, hoperators, henabled, hpasses, hfinds⟩ :=
    passes_of_refused_word hsize isWord_unfoldable hfold
  refine ⟨hreached, htext, hsize, hoperators, henabled, ?_⟩
  intro hiff
  have hfound := hiff.mp hpasses unfoldable (htext ▸ isWord_unfoldable)
  rw [hfinds] at hfound
  cases hfound

end LiveFilter

end SocketWatch
