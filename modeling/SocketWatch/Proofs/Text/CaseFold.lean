import SocketWatch.Proofs.Filter.Scanning
import SocketWatch.Text.CaseFold

namespace SocketWatch.Text

open Grammar (isFree isFree_iff)

def startsOr (c : Char) : Bool := c == 'o' || c == 'O'

def endsOr (c : Char) : Bool := c == 'r' || c == 'R'

theorem spellsOr_eq (c d : Char) : Mask.spellsOr c d = (startsOr c && endsOr d) := rfl

def isPlain (c : Char) : Bool := isFree c && !startsOr c && !endsOr c

theorem isPlain_iff {c : Char} :
    isPlain c ↔ isFree c ∧ startsOr c = false ∧ endsOr c = false := by
  simp [isPlain, and_assoc]

theorem isPlain_of_le {c : Char} (h : 128 ≤ c.toNat) : isPlain c := by
  have hne : ∀ d : Char, d.toNat < 128 → c ≠ d := by
    rintro d hd rfl
    omega
  simp [isPlain, isFree, Mask.isGap, startsOr, endsOr, hne]

theorem isPlain_ofNat_of_le {n : Nat} (h : 128 ≤ n) : isPlain (Char.ofNat n) := by
  by_cases hvalid : n.isValidChar
  · rw [Char.ofNat, dif_pos hvalid]
    exact isPlain_of_le h
  · rw [Char.ofNat, dif_neg hvalid]
    decide

theorem target_plain : ∀ range ∈ foldRanges.toList, range.last < 128 ∨
    range.target ≠ [] ∧ ∀ t ∈ range.target,
      128 ≤ t ∨ range.first = range.last ∧ isPlain (Char.ofNat t) := by
  -- The ASCII targets are letters of ligatures, of accented letters and of the Kelvin sign.
  decide +kernel

theorem foldChar_plain {c : Char} (h : 128 ≤ c.toNat) :
    foldChar c ≠ [] ∧ ∀ x ∈ foldChar c, isPlain x := by
  have hself : [c] ≠ [] ∧ ∀ x ∈ [c], isPlain x := by simp [isPlain_of_le h]
  rw [foldChar, if_neg (by omega)]
  split
  · next range hrange =>
    rw [FoldRange.fold?]
    split
    · next hmem =>
      obtain ⟨hfirst, hlast, -⟩ := hmem
      have hrange : range ∈ foldRanges.toList :=
        Array.mem_toList_iff.mpr (Array.mem_of_getElem? hrange)
      obtain hascii | ⟨hne, htarget⟩ := target_plain range hrange
      · omega
      · refine ⟨by simpa using hne, ?_⟩
        intro x hx
        obtain ⟨t, ht, rfl⟩ := List.mem_map.mp hx
        rcases htarget t ht with hle | ⟨hone, hplain⟩
        · exact isPlain_ofNat_of_le (by omega)
        · have hoffset : c.toNat - range.first = 0 := by omega
          simpa [hoffset] using hplain
    · exact hself
  · exact hself

structure FoldsTo (c first : Char) (more : List Char) : Prop where
  eq : foldChar c = first :: more
  free : isFree first = isFree c
  starts : startsOr first = startsOr c
  ends : endsOr first = endsOr c
  mark : isFree c = false → first = c
  alone : isPlain c = false → more = []
  plain : ∀ x ∈ more, isPlain x

theorem foldChar_ascii : ∀ n ∈ List.range 128, let c := Char.ofNat n
    let first := (foldChar c).headD c
    foldChar c = [first] ∧ isFree first = isFree c ∧ startsOr first = startsOr c ∧
      endsOr first = endsOr c ∧ (isFree c = false → first = c) := by
  decide +kernel

theorem exists_foldsTo (c : Char) : ∃ first more, FoldsTo c first more := by
  by_cases h : c.toNat < 128
  · have hascii := foldChar_ascii c.toNat (List.mem_range.mpr h)
    simp only [Char.ofNat_toNat] at hascii
    obtain ⟨heq, hfree, hstarts, hends, hmark⟩ := hascii
    exact ⟨_, [], heq, hfree, hstarts, hends, hmark, fun _ => rfl, by simp⟩
  · obtain ⟨hne, hplain⟩ := foldChar_plain (Nat.not_lt.mp h)
    obtain ⟨first, more, heq⟩ := List.exists_cons_of_ne_nil hne
    have hself := isPlain_iff.mp (isPlain_of_le (Nat.not_lt.mp h))
    have hfirst := isPlain_iff.mp (hplain first (by simp [heq]))
    refine ⟨first, more, heq, ?_, ?_, ?_, ?_, ?_, ?_⟩
    · rw [hfirst.1, hself.1]
    · rw [hfirst.2.1, hself.2.1]
    · rw [hfirst.2.2, hself.2.2]
    · simp [hself.1]
    · simp [isPlain_iff.mpr hself]
    · intro x hx
      exact hplain x (by simp [heq, hx])

theorem FoldsTo.eq_iff {c first d : Char} {more : List Char} (h : FoldsTo c first more)
    (hd : isFree d = false) : first = d ↔ c = d := by
  constructor
  · rintro rfl
    exact (h.mark (h.free ▸ hd)).symm
  · rintro rfl
    exact h.mark hd

theorem FoldsTo.isGap_eq {c first : Char} {more : List Char} (h : FoldsTo c first more) :
    Mask.isGap first = Mask.isGap c := by
  cases hc : isFree c with
  | false => rw [h.mark hc]
  | true =>
    have hfirst : isFree first := h.free.trans hc
    rw [(isFree_iff.mp hfirst).1, (isFree_iff.mp hc).1]

theorem foldChar_of_mark {c : Char} (h : isFree c = false) : foldChar c = [c] := by
  obtain ⟨first, more, hfold⟩ := exists_foldsTo c
  have hplain : isPlain c = false := by simp [isPlain, h]
  rw [hfold.eq, hfold.mark h, hfold.alone hplain]

theorem foldChar_ne_nil (c : Char) : foldChar c ≠ [] := by
  obtain ⟨first, more, hfold⟩ := exists_foldsTo c
  simp [hfold.eq]

theorem isGap_of_mem_foldChar {c x : Char} (h : x ∈ foldChar c) :
    Mask.isGap x = Mask.isGap c := by
  obtain ⟨first, more, hfold⟩ := exists_foldsTo c
  cases hplain : isPlain c with
  | false =>
    rw [hfold.eq, hfold.alone hplain, List.mem_singleton] at h
    rw [h, hfold.isGap_eq]
  | true =>
    have hc := (isFree_iff.mp (isPlain_iff.mp hplain).1).1
    rw [hfold.eq] at h
    rcases List.mem_cons.mp h with rfl | hmore
    · exact hfold.isGap_eq
    · rw [hc, (isFree_iff.mp (isPlain_iff.mp (hfold.plain x hmore)).1).1]

theorem quote_notMem_foldChar {c : Char} (h : c ≠ '"') : '"' ∉ foldChar c := by
  obtain ⟨first, more, hfold⟩ := exists_foldsTo c
  have hmore : '"' ∉ more := fun hmem => absurd (hfold.plain _ hmem) (by decide)
  have hfirst : first ≠ '"' := by
    have hmark : isFree '"' = false := rfl
    simpa [hfold.eq_iff hmark] using h
  simp [hfold.eq, hfirst.symm, hmore]

end SocketWatch.Text
