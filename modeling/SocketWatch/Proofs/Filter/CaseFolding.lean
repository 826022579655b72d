import Mathlib.Data.List.Basic
import SocketWatch.Proofs.Filter.FoldedText
import SocketWatch.Proofs.Filter.Literals
import SocketWatch.Proofs.Filter.Edits

namespace SocketWatch

open Text (foldChar caseFold foldChar_of_mark foldChar_ne_nil isGap_of_mem_foldChar
  quote_notMem_foldChar)
open Mask (Spelled foldMarked foldMarked_cons foldMarked_mark head_foldChar_ne_quote)

theorem utf8ByteSize_le_of_sublist {s t : List Char} (h : s.Sublist t) :
    (String.ofList s).utf8ByteSize ≤ (String.ofList t).utf8ByteSize := by
  induction h with
  | slnil => exact le_rfl
  | cons c _ ih =>
    rw [String.ofList_cons, String.utf8ByteSize_append]
    omega
  | cons_cons c _ ih =>
    rw [String.ofList_cons, String.ofList_cons, String.utf8ByteSize_append,
      String.utf8ByteSize_append]
    omega

namespace Token

open Grammar (ofMask_run)

theorem undouble_append {cs : List Char} (h : '"' ∉ cs) (u : List Char) :
    undouble (cs ++ u) = cs ++ undouble u := by
  induction cs with
  | nil => rfl
  | cons c cs ih =>
    have hc : c ≠ '"' := by
      rintro rfl
      exact h (by simp)
    have hcs : '"' ∉ cs := fun hmem => h (by simp [hmem])
    simp [undouble, hc, ih hcs]

theorem undouble_quote {u : List Char} (h : u.head? ≠ some '"') :
    undouble ('"' :: u) = '"' :: undouble u := by
  cases u with
  | nil => rfl
  | cons c u =>
    have hc : c ≠ '"' := by simpa using h
    simp [undouble, hc]

theorem undouble_fold (written : List Char) :
    undouble (written.flatMap foldChar) = (undouble written).flatMap foldChar := by
  have hquote : foldChar '"' = ['"'] := foldChar_of_mark rfl
  fun_induction undouble written with
  | case1 rest ih => simp [hquote, undouble, ih]
  | case2 c rest hrest ih =>
    by_cases hc : c = '"'
    · subst hc
      have hhead : rest.head? ≠ some '"' := by
        intro hhead
        obtain ⟨more, rfl⟩ := List.head?_eq_some_iff.mp hhead
        exact hrest more rfl rfl
      rw [List.flatMap_cons, hquote, List.singleton_append,
        undouble_quote (head_foldChar_ne_quote hhead), ih, List.flatMap_cons, hquote]
      rfl
    · rw [List.flatMap_cons, undouble_append (quote_notMem_foldChar hc), ih, List.flatMap_cons]
  | case3 => rfl

theorem undouble_sublist (written : List Char) : (undouble written).Sublist written := by
  fun_induction undouble written with
  | case1 rest ih => exact (ih.cons_cons _).cons _
  | case2 c rest hc ih => exact ih.cons_cons _
  | case3 => exact .slnil

theorem mem_extend {a written : List Char} {tokens : List Token}
    (h : .literal written ∈ extend a tokens) : .literal written ∈ tokens ∨
      ∃ more, written = a ++ more ∧ (more = [] ∨ .literal more ∈ tokens) := by
  match tokens with
  | .literal more :: rest =>
    rcases List.mem_cons.mp h with heq | h
    · cases heq
      exact .inr ⟨more, rfl, .inr (by simp)⟩
    · exact .inl (by simp [h])
  | [] | .gap :: _ | .or :: _ | .not :: _ | .opening :: _ | .closing :: _ =>
    rcases List.mem_cons.mp h with heq | h
    · cases heq
      exact .inr ⟨[], by simp, .inl rfl⟩
    · exact .inl h

theorem sublist_of_mem_ofMask {w : List (Char × Role)} {written : List Char}
    (h : .literal written ∈ ofMask w) : written.Sublist (w.map Prod.fst) := by
  induction w generalizing written with
  | nil => simp [ofMask] at h
  | cons p w ih =>
    obtain ⟨c, role⟩ := p
    have hextend : ∀ a : List Char, a.Sublist [c] → .literal written ∈ extend a (ofMask w) →
        written.Sublist (c :: w.map Prod.fst) := by
      intro a ha hmem
      obtain hmem | ⟨more, rfl, hmore⟩ := mem_extend hmem
      · exact (ih hmem).cons c
      · have hrest : more.Sublist (w.map Prod.fst) := by
          rcases hmore with rfl | hmore
          · exact List.nil_sublist _
          · exact ih hmore
        exact ha.append hrest
    cases role with
    | word => exact hextend [c] (.refl _) h
    | quoted => exact hextend [c] (.refl _) h
    | quote => exact hextend [] (List.nil_sublist _) h
    | ignored => exact (ih h).cons c
    | _ =>
      have hmem : .literal written ∈ ofMask w := by simpa [ofMask] using h
      exact (ih hmem).cons c

theorem map_extend_fold (a : List Char) (tokens : List Token) :
    (extend a tokens).map (mapWritten (·.flatMap foldChar)) =
      extend (a.flatMap foldChar) (tokens.map (mapWritten (·.flatMap foldChar))) := by
  match tokens with
  | .literal more :: rest => simp [extend, mapWritten]
  | [] | .gap :: _ | .or :: _ | .not :: _ | .opening :: _ | .closing :: _ =>
    simp [extend, mapWritten]

theorem ofMask_ignored (cs : List Char) (w : List (Char × Role)) :
    ofMask (cs.map (·, .ignored) ++ w) = ofMask w := by
  induction cs with
  | nil => rfl
  | cons c cs ih => exact ih

theorem ofMask_foldMarked {w : List (Char × Role)} (h : Spelled w) :
    ofMask (foldMarked w) = (ofMask w).map (mapWritten (·.flatMap foldChar)) := by
  induction h with
  | nil => rfl
  | or h _ ih =>
    obtain ⟨c', d', hc, hd⟩ := Mask.foldsTo_of_spellsOr h
    simp [foldMarked_cons, hc.eq, hd.eq, ofMask, ih, mapWritten]
  | @cons c role w h _ ih =>
    have hne := foldChar_ne_nil c
    cases role with
    | or => cases h
    | ignored => rw [foldMarked_cons, ofMask_ignored, ih, ofMask]
    | word => rw [foldMarked_cons, ofMask_run (.inl rfl) hne, ih, ofMask, map_extend_fold]; simp
    | quoted => rw [foldMarked_cons, ofMask_run (.inr rfl) hne, ih, ofMask, map_extend_fold]; simp
    | quote =>
      obtain rfl : c = '"' := by simpa [Role.fits] using h
      rw [foldMarked_mark rfl, ofMask, ih, ofMask, map_extend_fold]
      rfl
    | gap =>
      have hgap : Mask.isGap c := h
      rw [foldMarked_mark (by simp [Grammar.isFree, hgap])]
      simp [ofMask, ih, mapWritten]
    | not =>
      obtain rfl : c = '!' := by simpa [Role.fits] using h
      rw [foldMarked_mark rfl]
      simp [ofMask, ih, mapWritten]
    | opening =>
      obtain rfl : c = '(' := by simpa [Role.fits] using h
      rw [foldMarked_mark rfl]
      simp [ofMask, ih, mapWritten]
    | closing =>
      obtain rfl : c = ')' := by simpa [Role.fits] using h
      rw [foldMarked_mark rfl]
      simp [ofMask, ih, mapWritten]

end Token

namespace Filter

theorem ofMask_fold (text : List Char) :
    ofMask (text.flatMap foldChar) (Mask.ofChars (text.flatMap foldChar)) =
      (ofMask text (Mask.ofChars text)).mapTexts caseFold := by
  obtain ⟨w, rfl, hspelled, hmask, hfold⟩ := Mask.exists_marked text
  have hzip (w : List (Char × Role)) : (w.map Prod.fst).zip (w.map Prod.snd) = w := by
    rw [← List.unzip_fst, ← List.unzip_snd, List.zip_unzip]
  have hwritten (written : List Char) :
      String.ofList (Token.undouble (written.flatMap foldChar)) =
        caseFold (String.ofList (Token.undouble written)) := by
    rw [Token.undouble_fold, Text.caseFold_ofList]
  rw [ofMask, ofMask, ← hfold, ← hmask, ← Mask.map_fst_foldMarked, hzip, hzip,
    Token.ofMask_foldMarked hspelled, ofTokens_mapWritten hwritten]

theorem map_fst_zip_sublist (text : List Char) (mask : Mask) :
    ((text.zip mask).map Prod.fst).Sublist text := by
  induction text generalizing mask with
  | nil => simp
  | cons c text ih =>
    cases mask with
    | nil => simp
    | cons role mask => exact (ih mask).cons_cons c

theorem all_ofMask (text : List Char) (mask : Mask) {bytes : Nat}
    (h : (String.ofList text).utf8ByteSize ≤ bytes) :
    (ofMask text mask).All (·.utf8ByteSize ≤ bytes) := by
  apply all_ofTokens
  intro written hmem
  have hmarked := (Token.sublist_of_mem_ofMask hmem).trans (map_fst_zip_sublist text mask)
  have hsublist := (Token.undouble_sublist written).trans hmarked
  exact (utf8ByteSize_le_of_sublist hsublist).trans h

theorem splitOnP_append {p : Char → Bool} {cs : List Char} (h : ∀ c ∈ cs, p c = false)
    (u : List Char) : (cs ++ u).splitOnP p = (u.splitOnP p).modifyHead (cs ++ ·) := by
  induction cs with
  | nil =>
    have hid : (fun word : List Char => [] ++ word) = id := rfl
    rw [hid, List.modifyHead_id, List.nil_append, id]
  | cons c cs ih =>
    have hc : p c = false := h c (by simp)
    have hcs : ∀ x ∈ cs, p x = false := by
      intro x hx
      exact h x (by simp [hx])
    simp [List.splitOnP_cons_eq_if_modifyHead, hc, ih hcs, Function.comp_def]

theorem splitOnP_fold (text : List Char) :
    (text.flatMap foldChar).splitOnP Mask.isGap =
      (text.splitOnP Mask.isGap).map (·.flatMap foldChar) := by
  induction text with
  | nil => rfl
  | cons c text ih =>
    cases hgap : Mask.isGap c with
    | true =>
      have hmark : Grammar.isFree c = false := by simp [Grammar.isFree, hgap]
      rw [List.flatMap_cons, foldChar_of_mark hmark, List.singleton_append]
      simp [List.splitOnP_cons_eq_if_modifyHead, hgap, ih]
    | false =>
      have hfolded : ∀ x ∈ foldChar c, Mask.isGap x = false := by
        intro x hx
        rw [isGap_of_mem_foldChar hx, hgap]
      obtain ⟨word, words, hwords⟩ :=
        List.exists_cons_of_ne_nil (List.splitOnP_ne_nil Mask.isGap text)
      rw [List.flatMap_cons, splitOnP_append hfolded, ih]
      simp [List.splitOnP_cons_eq_if_modifyHead, hgap, hwords]

theorem sublist_of_mem_splitOnP {p : Char → Bool} {text word : List Char}
    (h : word ∈ text.splitOnP p) : word.Sublist text := by
  induction text generalizing word with
  | nil => simp_all
  | cons c text ih =>
    rw [List.splitOnP_cons_eq_if_modifyHead] at h
    split at h
    · rcases List.mem_cons.mp h with rfl | h
      · exact List.nil_sublist _
      · exact (ih h).cons c
    · obtain ⟨first, words, hwords⟩ := List.exists_cons_of_ne_nil (List.splitOnP_ne_nil p text)
      rw [hwords] at h ih
      rcases List.mem_cons.mp h with rfl | h
      · exact (ih (by simp)).cons_cons c
      · exact (ih (by simp [h])).cons c

theorem words_caseFold (text : String) : words (caseFold text) = (words text).map caseFold := by
  have hinjective : Function.Injective String.toList := fun _ _ => String.toList_injective
  apply List.map_injective_iff.mpr hinjective
  have hne : ((fun word : List Char => decide (word ≠ [])) ∘ (·.flatMap foldChar)) =
      fun word => decide (word ≠ []) := by
    funext word
    cases word with
    | nil => rfl
    | cons c word => simp [foldChar_ne_nil]
  have htoList : String.toList ∘ caseFold = (·.flatMap foldChar) ∘ String.toList := by
    funext word
    exact Text.toList_caseFold word
  rw [toList_words, Text.toList_caseFold, splitOnP_fold, List.filter_map, hne, ← toList_words,
    List.map_map, List.map_map, htoList]

theorem utf8ByteSize_le_of_mem_words {text word : String} (h : word ∈ words text) :
    word.utf8ByteSize ≤ text.utf8ByteSize := by
  have hmem : word.toList ∈ (words text).map String.toList := List.mem_map_of_mem h
  rw [toList_words] at hmem
  have hsublist := sublist_of_mem_splitOnP (List.mem_filter.mp hmem).1
  simpa using utf8ByteSize_le_of_sublist hsublist

theorem parse_foldable {text : String} (hsize : text.utf8ByteSize ≤ maxBytes)
    (hfold : Text.Foldable text) :
    ∃ tree, parse text = .ok tree ∧ tree.All Text.Foldable ∧
      parse (caseFold text) = .ok (tree.mapTexts caseFold) := by
  have hofMask := ofMask_fold text.toList
  rw [← Text.toList_caseFold] at hofMask
  refine ⟨_, parse_of_le hsize, ?_, ?_⟩
  · have hbytes : (String.ofList (caseFold text).toList).utf8ByteSize ≤ maxBytes := by
      rwa [String.ofList_toList]
    have hall := all_ofMask _ (Mask.ofChars (caseFold text).toList) hbytes
    rwa [hofMask, all_mapTexts] at hall
  · rw [parse_of_le hfold, hofMask]

theorem parseWords_foldable {text : String} (hsize : text.utf8ByteSize ≤ maxBytes)
    (hfold : Text.Foldable text) :
    ∃ tree, parseWords text = .ok tree ∧ tree.All Text.Foldable ∧
      parseWords (caseFold text) = .ok (tree.mapTexts caseFold) := by
  refine ⟨_, parseWords_of_le hsize, ?_, ?_⟩
  · rw [all_ofList]
    intro o ho
    obtain ⟨word, hword, rfl⟩ := List.mem_map.mp ho
    have hfolded : caseFold word ∈ words (caseFold text) := by
      rw [words_caseFold]
      exact List.mem_map_of_mem hword
    exact (utf8ByteSize_le_of_mem_words hfolded).trans hfold
  · rw [parseWords_of_le hfold, words_caseFold, mapTexts_ofList, List.map_map, List.map_map]
    rfl

end Filter

namespace LiveFilter

open SocketWatch.Filter (maxBytes parse parseWords)

theorem read_foldable {live : LiveFilter} (hsize : live.text.utf8ByteSize ≤ maxBytes)
    (hfold : Text.Foldable live.text) :
    ∃ tree mask, live.read = .ok (tree, mask) ∧ tree.All Text.Foldable ∧
      (if live.operators then parse (caseFold live.text) else parseWords (caseFold live.text)) =
        .ok (tree.mapTexts caseFold) := by
  obtain ⟨tree, mask, hread⟩ := live.exists_read hsize
  have hparsed := eq_parsed hread
  refine ⟨tree, mask, hread, ?_⟩
  split
  · next hoperators =>
    obtain ⟨read, hparse, hall, hfolded⟩ := Filter.parse_foldable hsize hfold
    rw [if_pos hoperators, hparse] at hparsed
    cases hparsed
    exact ⟨hall, hfolded⟩
  · next hoperators =>
    obtain ⟨read, hparse, hall, hfolded⟩ := Filter.parseWords_foldable hsize hfold
    rw [if_neg hoperators, hparse] at hparsed
    cases hparsed
    exact ⟨hall, hfolded⟩

theorem new_foldable {text : String} (operators : Bool) (hsize : text.utf8ByteSize ≤ maxBytes)
    (hfold : Text.Foldable text) :
    ∃ live folded, new text false operators = .ok live ∧ live.enabled = true ∧
      (if operators then parse (caseFold text) else parseWords (caseFold text)) = .ok folded ∧
      ∀ candidate, live.passes candidate = folded.passes (caseFold candidate) .exact := by
  let start : LiveFilter := { text, enabled := true, caseSensitive := false, operators }
  obtain ⟨tree, mask, hread, hall, hfolded⟩ := @read_foldable start hsize hfold
  have hrebuild : start.rebuild =
      { live := { start with tree, mask, folded := some (tree.mapTexts caseFold) } } := by
    rw [rebuild, hread]
    simp only [start, Bool.false_eq_true, if_false, Filter.caseFolded_eq hall]
  refine ⟨{ start with tree, mask, folded := some (tree.mapTexts caseFold) }, _, ?_, rfl,
    hfolded, ?_⟩
  · rw [new, hrebuild]
  · intro candidate
    rfl

/-- Folding a text before it is read is folding what is read from it. So of texts with one folding,
the filters that take no notice of letter case give one answer to candidates with one folding. -/
theorem new_of_same_folding :
    (∀ text : String, text.utf8ByteSize ≤ maxBytes → (caseFold text).utf8ByteSize ≤ maxBytes →
      (∃ tree folded, parse text = .ok tree ∧ tree.caseFolded = .ok folded ∧
        parse (caseFold text) = .ok folded) ∧
      ∃ tree folded, parseWords text = .ok tree ∧ tree.caseFolded = .ok folded ∧
        parseWords (caseFold text) = .ok folded) ∧
    ∀ (text text' candidate candidate' : String) (operators : Bool),
      text.utf8ByteSize ≤ maxBytes → (caseFold text).utf8ByteSize ≤ maxBytes →
      text'.utf8ByteSize ≤ maxBytes → (caseFold text').utf8ByteSize ≤ maxBytes →
      caseFold text = caseFold text' → caseFold candidate = caseFold candidate' →
      ∃ live live', new text false operators = .ok live ∧ new text' false operators = .ok live' ∧
        live.enabled = true ∧ live'.enabled = true ∧
        live.passes candidate = live'.passes candidate' := by
  constructor
  · intro text hsize hfold
    constructor
    · obtain ⟨tree, htree, hall, hfolded⟩ := Filter.parse_foldable hsize hfold
      exact ⟨tree, _, htree, Filter.caseFolded_eq hall, hfolded⟩
    · obtain ⟨tree, htree, hall, hfolded⟩ := Filter.parseWords_foldable hsize hfold
      exact ⟨tree, _, htree, Filter.caseFolded_eq hall, hfolded⟩
  · intro text text' candidate candidate' operators hsize hfold hsize' hfold' htext hcandidate
    obtain ⟨live, folded, hlive, henabled, hread, hpasses⟩ := new_foldable operators hsize hfold
    obtain ⟨live', folded', hlive', henabled', hread', hpasses'⟩ :=
      new_foldable operators hsize' hfold'
    have hsame : folded = folded' := by
      rw [← htext] at hread'
      exact Except.ok.inj (hread.symm.trans hread')
    refine ⟨live, live', hlive, hlive', henabled, henabled', ?_⟩
    rw [hpasses, hpasses', hsame, hcandidate]

theorem new_of_same_folding_sharp_s :
    let text := "STRASSE or !\"Ö"
    let text' := "straße OR !\"ö"
    (∃ live live', new text false true = .ok live ∧ new text' false true = .ok live' ∧
        live.enabled = true ∧ live'.enabled = true ∧
        live.passes "Große Straße" = live'.passes "GROSSE STRASSE") ∧
      ∃ tree folded, parse text' = .ok tree ∧ tree.caseFolded = .ok folded ∧
        parse (caseFold text') = .ok folded := by
  intro text text'
  have htext : caseFold text = "strasse or !\"ö" := Text.caseFold_eq (by decide +kernel)
  have htext' : caseFold text' = "strasse or !\"ö" := Text.caseFold_eq (by decide +kernel)
  have hcandidate : caseFold "Große Straße" = "grosse strasse" :=
    Text.caseFold_eq (by decide +kernel)
  have hcandidate' : caseFold "GROSSE STRASSE" = "grosse strasse" :=
    Text.caseFold_eq (by decide +kernel)
  have hfolded : "strasse or !\"ö".utf8ByteSize ≤ maxBytes := by decide +kernel
  have hsize' : text'.utf8ByteSize ≤ maxBytes := by decide +kernel
  refine ⟨?_, ?_⟩
  · exact new_of_same_folding.2 text text' _ _ true (by decide +kernel) (htext ▸ hfolded) hsize'
      (htext' ▸ hfolded) (htext.trans htext'.symm) (hcandidate.trans hcandidate'.symm)
  · exact (new_of_same_folding.1 text' hsize' (htext' ▸ hfolded)).1

end LiveFilter

end SocketWatch
