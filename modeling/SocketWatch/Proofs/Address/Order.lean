import Mathlib.Data.Set.Operations
import Mathlib.Data.String.Basic
import Mathlib.Order.Compare
import SocketWatch.Connection.Order
import SocketWatch.Proofs.Text.Numeral

/-!
The orders of host names and addresses. That of host names sorts any names. That of addresses
compares short texts in one way and longer ones in another, and sorts a set of texts just when the
two ways agree on it.
-/

namespace SocketWatch

instance Host.instTransCmpCompare : Std.TransCmp Host.compare :=
  inferInstanceAs (Std.TransCmp (compareOn Host.labels))

namespace Address

variable {a b c : String}

def IsShort (a : String) : Prop := a.utf8ByteSize ≤ 1

instance (a : String) : Decidable (IsShort a) := inferInstanceAs (Decidable (_ ≤ _))

def number (a : String) : Nat := if a.contains ':' then v6Value a else v4Value a

def compareNumbers : String → String → Ordering :=
  compareLex (compareOn fun a => a.contains ':') (compareOn number)

instance : Std.TransCmp compareNumbers :=
  inferInstanceAs (Std.TransCmp (compareLex _ _))

theorem compare_of_short (h : IsShort a ∨ IsShort b) : compare a b = Ord.compare a b := by
  apply if_pos
  simpa [IsShort] using h

theorem compare_of_long (ha : ¬IsShort a) (hb : ¬IsShort b) :
    compare a b = compareNumbers a b := by
  have hlong : ¬(a.utf8ByteSize ≤ 1 || b.utf8ByteSize ≤ 1) := by
    simpa [IsShort] using And.intro ha hb
  rw [compare, if_neg hlong, compareNumbers, compareLex, compareOn, compareOn, number, number]
  cases a.contains ':' <;> cases b.contains ':' <;> rfl

instance : Std.OrientedCmp compare where
  eq_swap {a b} := by
    by_cases hshort : IsShort a ∨ IsShort b
    · rw [compare_of_short hshort, compare_of_short hshort.symm]
      exact Std.OrientedCmp.eq_swap
    · obtain ⟨ha, hb⟩ := not_or.mp hshort
      rw [compare_of_long ha hb, compare_of_long hb ha]
      exact Std.OrientedCmp.eq_swap

/-- No short text stands between two longer ones, as text, that are ordered the other way. -/
def Coherent (A : Set String) : Prop := ∀ s ∈ A, ∀ x ∈ A, ∀ y ∈ A,
  IsShort s → ¬IsShort x → ¬IsShort y → (compare x y).isLE → y < s → x < s

theorem isLE_of_short (h : IsShort a ∨ IsShort b) : (compare a b).isLE ↔ a ≤ b := by
  rw [compare_of_short h, Ordering.isLE_iff_ne_gt]
  exact compare_le_iff_le

theorem isLE_total (h : ¬(compare a b).isLE) : (compare b a).isLE := by
  have hgt : compare a b = .gt := by simpa using h
  exact Ordering.isLE_of_eq_lt (Std.OrientedCmp.lt_of_gt hgt)

theorem ne_of_short (ha : IsShort a) (hb : ¬IsShort b) : a ≠ b := by
  rintro rfl
  exact hb ha

section Coherent

variable {A : Set String}

theorem Coherent.isLE_trans (hA : Coherent A) (ha : a ∈ A) (hb : b ∈ A) (hc : c ∈ A)
    (hab : (compare a b).isLE) (hbc : (compare b c).isLE) : (compare a c).isLE := by
  -- Only where two of the three are long and the third is short do both ways of comparing meet.
  by_cases hsb : IsShort b
  · have hab := (isLE_of_short (.inr hsb)).mp hab
    have hbc := (isLE_of_short (.inl hsb)).mp hbc
    by_cases hac : IsShort a ∨ IsShort c
    · exact (isLE_of_short hac).mpr (hab.trans hbc)
    · obtain ⟨hsa, hsc⟩ := not_or.mp hac
      by_contra hgt
      have hlt : a < b := lt_of_le_of_ne hab (ne_of_short hsb hsa).symm
      have hcb := hA b hb c hc a ha hsb hsc hsa (isLE_total hgt) hlt
      exact absurd hbc (not_le.mpr hcb)
  · by_cases hsa : IsShort a
    · have hab := (isLE_of_short (.inl hsa)).mp hab
      apply (isLE_of_short (.inl hsa)).mpr
      by_cases hsc : IsShort c
      · exact hab.trans ((isLE_of_short (.inr hsc)).mp hbc)
      · by_contra hca
        have hba := hA a ha b hb c hc hsa hsb hsc hbc (not_le.mp hca)
        exact absurd hab (not_le.mpr hba)
    · by_cases hsc : IsShort c
      · have hbc := (isLE_of_short (.inr hsc)).mp hbc
        have hlt : b < c := lt_of_le_of_ne hbc (ne_of_short hsc hsb).symm
        exact (isLE_of_short (.inr hsc)).mpr (hA c hc a ha b hb hsc hsa hsb hab hlt).le
      · rw [compare_of_long hsa hsb] at hab
        rw [compare_of_long hsb hsc] at hbc
        rw [compare_of_long hsa hsc]
        exact Std.TransCmp.isLE_trans hab hbc

def compareIn (A : Set String) (a b : A) : Ordering := compare a b

theorem Coherent.transCmp (hA : Coherent A) : Std.TransCmp (compareIn A) where
  eq_swap := Std.OrientedCmp.eq_swap (α := String)
  isLE_trans {a b c} := hA.isLE_trans a.2 b.2 c.2

theorem coherent_of_isLE_trans (h : ∀ a ∈ A, ∀ b ∈ A, ∀ c ∈ A, (compare a b).isLE →
    (compare b c).isLE → (compare a c).isLE) : Coherent A := by
  intro s hs x hx y hy hshort hlong _ hxy hys
  have hle := h x hx y hy s hs hxy ((isLE_of_short (.inr hshort)).mpr hys.le)
  exact lt_of_le_of_ne ((isLE_of_short (.inr hshort)).mp hle) (ne_of_short hshort hlong).symm

end Coherent

def Regular (a : String) : Prop := a = "" ∨ a = "*" ∨ ¬IsShort a ∧ "*" ≤ a

instance (a : String) : Decidable (Regular a) := inferInstanceAs (Decidable (_ ∨ _ ∨ _))

theorem coherent_of_regular {A : Set String} (h : ∀ a ∈ A, Regular a) : Coherent A := by
  intro s hs x _ y hy hshort _ hlong _ hys
  rcases h s hs with rfl | rfl | ⟨hs, -⟩
  · exact absurd (String.lt_iff_toList_lt.mp hys) (List.not_lt_nil _)
  · rcases h y hy with rfl | rfl | ⟨-, hy⟩
    · exact absurd (by decide) hlong
    · exact absurd (by decide) hlong
    · exact absurd hys (not_lt.mpr hy)
  · exact absurd hshort hs

section Regular

theorem regular_of_toList {c d : Char} {text : List Char} (h : a.toList = c :: d :: text)
    (hc : '*' < c) : Regular a := by
  have ha : a = String.ofList (c :: d :: text) := by rw [← h, String.ofList_toList]
  refine .inr (.inr ⟨?_, ?_⟩)
  · have hc := c.utf8Size_pos
    have hd := d.utf8Size_pos
    rw [ha, IsShort, String.ofList_cons, String.ofList_cons, String.utf8ByteSize_append,
      String.utf8ByteSize_append, String.utf8ByteSize_singleton, String.utf8ByteSize_singleton]
    omega
  · rw [← not_lt, String.lt_iff_toList_lt, h]
    intro hlt
    rcases List.cons_lt_cons_iff.mp hlt with hlt | ⟨-, hlt⟩
    · exact absurd hlt (not_lt.mpr hc.le)
    · exact absurd hlt (List.not_lt_nil _)

theorem star_lt_of_isHexDigit {c : Char} (h : Text.isHexDigit c) : '*' < c := by
  by_contra hle
  have h0 : ¬ '0' ≤ c := fun h => hle (lt_of_lt_of_le (by decide) h)
  have ha : ¬ 'a' ≤ c := fun h => hle (lt_of_lt_of_le (by decide) h)
  have hA : ¬ 'A' ≤ c := fun h => hle (lt_of_lt_of_le (by decide) h)
  simp [Text.isHexDigit, Text.digit?, h0, ha, hA] at h

theorem V4.exists_of_octet? {text rest : List Char} {v : UInt8}
    (h : V4.octet? text = some (v, rest)) :
    ∃ c more, text = c :: more ++ rest ∧ Text.isDigit c := by
  have hsplit := List.takeWhile_append_dropWhile (p := Text.isDigit) (l := text)
  have hdigits : ∀ c ∈ text.takeWhile Text.isDigit, Text.isDigit c :=
    List.all_eq_true.mp List.all_takeWhile
  simp only [octet?] at h
  split at h
  · cases h
  · next hread =>
    simp only [Option.some.injEq, Prod.mk.injEq] at h
    cases htake : text.takeWhile Text.isDigit with
    | nil => simp [htake] at hread
    | cons c more =>
      refine ⟨c, more, ?_, hdigits c (by simp [htake])⟩
      rw [← h.2, ← htake, hsplit]

theorem V4.ne_nil_of_dotted? {text rest : List Char} {v : UInt8}
    (h : V4.dotted? text = some (v, rest)) : text ≠ [] := by
  rintro rfl
  cases h

theorem V4.exists_of_read? {text rest : List Char} {v : V4} (h : V4.read? text = some (v, rest)) :
    ∃ c d more, text = c :: d :: more ∧ Text.isDigit c := by
  simp only [read?, Option.bind_eq_bind, Option.bind_eq_some_iff, Prod.exists] at h
  obtain ⟨_, tail, hoctet, _, _, hdotted, -⟩ := h
  obtain ⟨c, more, rfl, hc⟩ := exists_of_octet? hoctet
  obtain ⟨d, tail, htail⟩ := List.exists_cons_of_ne_nil (List.append_ne_nil_of_right_ne_nil more
    (ne_nil_of_dotted? hdotted))
  exact ⟨c, d, tail, by rw [List.cons_append, htail], hc⟩

theorem V6.group?_eq_none {c : Char} {text : List Char} (h : Text.isHexDigit c = false) :
    group? (c :: text) = none := by
  simp [group?, h]

theorem V6.readGroups_eq_nil {c : Char} {text : List Char} (h : Text.isHexDigit c = false) :
    readGroups true (c :: text) 8 = { rest := c :: text } := by
  have hdotted : V4.read? (c :: text) = none := by
    apply Option.eq_none_iff_forall_ne_some.mpr
    rintro ⟨v, rest⟩ hread
    obtain ⟨d, _, _, heq, hd⟩ := V4.exists_of_read? hread
    obtain ⟨rfl, -⟩ := List.cons.inj heq
    simp [Text.isHexDigit_of_isDigit hd] at h
  simp [readGroups, hdotted, group?_eq_none h]

theorem V6.exists_of_parse? {text : List Char} (h : (V6.parse? text).isSome) :
    ∃ c d more, text = c :: d :: more ∧ (c = ':' ∨ Text.isHexDigit c) := by
  match text, h with
  | [], h => cases h
  | [c], h =>
    have hdotted : V4.read? [c] = none := by
      apply Option.eq_none_iff_forall_ne_some.mpr
      rintro ⟨v, rest⟩ hread
      obtain ⟨_, _, _, heq, -⟩ := V4.exists_of_read? hread
      cases heq
    by_cases hc : Text.isHexDigit c
    · simp [parse?, readGroups, hdotted, group?, hc] at h
    · rw [parse?, readGroups_eq_nil (by simpa using hc)] at h
      simp at h
  | c :: d :: more, h =>
    refine ⟨c, d, more, rfl, ?_⟩
    by_contra hc
    obtain ⟨hcolon, hhex⟩ := not_or.mp hc
    rw [parse?, readGroups_eq_nil (by simpa using hhex)] at h
    simp [hcolon] at h

theorem regular_of_parse? (h : (V4.parse? a.toList).isSome ∨ (V6.parse? a.toList).isSome) :
    Regular a := by
  rcases h with h | h
  · cases hread : V4.read? a.toList with
    | none => simp [V4.parse?, hread] at h
    | some read =>
      obtain ⟨c, d, text, hlist, hc⟩ := V4.exists_of_read? hread
      exact regular_of_toList hlist (star_lt_of_isHexDigit (Text.isHexDigit_of_isDigit hc))
  · obtain ⟨c, d, text, hlist, hc⟩ := V6.exists_of_parse? h
    apply regular_of_toList hlist
    rcases hc with rfl | hc
    · decide
    · exact star_lt_of_isHexDigit hc

end Regular

end Address

end SocketWatch
