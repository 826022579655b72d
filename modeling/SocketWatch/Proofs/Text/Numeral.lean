import Mathlib.Algebra.Group.Nat.Defs
import Mathlib.Data.List.Induction
import SocketWatch.Text.Basic

namespace SocketWatch.Text

theorem digit?_digitChar : ∀ radix ≤ 16, ∀ d < radix, digit? radix d.digitChar = some d := by
  decide

theorem valueOf_concat (radix : Nat) (digits : List Char) (c : Char) :
    valueOf radix (digits ++ [c]) = valueOf radix digits * radix + (digit? radix c).getD 0 := by
  simp [valueOf]

theorem valueOf_toDigits {radix : Nat} (h1 : 1 < radix) (h16 : radix ≤ 16) (n : Nat) :
    valueOf radix (Nat.toDigits radix n) = n := by
  induction n using Nat.base_induction radix h1 with
  | single d hd =>
    rw [Nat.toDigits_of_lt_base hd]
    simp [valueOf, digit?_digitChar radix h16 d hd]
  | digit m k hk hm ih =>
    rw [← Nat.toDigits_append_toDigits h1 hm hk, Nat.toDigits_of_lt_base hk, valueOf_concat, ih,
      digit?_digitChar radix h16 k hk, Option.getD_some, Nat.mul_comm]

theorem valueOf_lt {radix : Nat} (h : 0 < radix) (digits : List Char) :
    valueOf radix digits < radix ^ digits.length := by
  induction digits using List.reverseRecOn with
  | nil => simp [valueOf]
  | append_singleton digits c ih =>
    have hdigit : (digit? radix c).getD 0 < radix := by
      cases hc : digit? radix c with
      | none => exact h
      | some d =>
        have hd := (Option.filter_eq_some_iff.mp hc).2
        exact of_decide_eq_true hd
    calc valueOf radix (digits ++ [c])
        = valueOf radix digits * radix + (digit? radix c).getD 0 := valueOf_concat ..
      _ < (valueOf radix digits + 1) * radix := by rw [Nat.add_mul, Nat.one_mul]; omega
      _ ≤ radix ^ digits.length * radix := Nat.mul_le_mul_right radix ih
      _ = radix ^ (digits ++ [c]).length := by
        rw [List.length_append, List.length_singleton, pow_succ]

theorem isHexDigit_of_isDigit {c : Char} (h : isDigit c) : isHexDigit c := by
  obtain ⟨h0, h9⟩ : '0' ≤ c ∧ c ≤ '9' := by simpa [isDigit] using h
  have hvalue : c.toNat ≤ 57 := UInt32.le_iff_toNat_le.mp h9
  have hlt : c.toNat - 48 < 16 := by omega
  simp [isHexDigit, digit?, h0, h9, hlt]

theorem toNat_of_isHexDigit {c : Char} (h : isHexDigit c) : 48 ≤ c.toNat ∧ c.toNat ≤ 102 := by
  have hrange : '0' ≤ c ∧ c ≤ 'f' := by
    rw [isHexDigit, digit?] at h
    split at h
    · next hc => exact ⟨hc.1, Char.le_trans hc.2 (by decide)⟩
    · split at h
      · next hc => exact ⟨Char.le_trans (by decide) hc.1, hc.2⟩
      · split at h
        · next hc => exact ⟨Char.le_trans (by decide) hc.1, Char.le_trans hc.2 (by decide)⟩
        · cases h
  exact ⟨UInt32.le_iff_toNat_le.mp hrange.1, UInt32.le_iff_toNat_le.mp hrange.2⟩

theorem isDecimalDigit_of_isDigit {c : Char} (h : isDigit c) : isDecimalDigit c := by
  obtain ⟨h0, h9⟩ : '0' ≤ c ∧ c ≤ '9' := by simpa [isDigit] using h
  have hlow : 48 ≤ c.toNat := UInt32.le_iff_toNat_le.mp h0
  have hhigh : c.toNat ≤ 57 := UInt32.le_iff_toNat_le.mp h9
  refine List.any_eq_true.mpr ⟨0x30, by decide, ?_⟩
  simp
  omega

theorem isHexDigit_of_mem_hexText {n : Nat} {c : Char} (h : c ∈ hexText n) : isHexDigit c := by
  have hchar (d : Nat) (hd : d < 16) : isHexDigit d.digitChar := by
    rw [isHexDigit, digit?_digitChar 16 (Nat.le_refl 16) d hd, Option.isSome_some]
  rw [hexText] at h
  induction n using Nat.base_induction 16 (by decide) with
  | single d hd =>
    rw [Nat.toDigits_of_lt_base hd, List.mem_singleton] at h
    exact h ▸ hchar d hd
  | digit m k hk hm ih =>
    rw [← Nat.toDigits_append_toDigits (by decide) hm hk, Nat.toDigits_of_lt_base hk] at h
    rcases List.mem_append.mp h with h | h
    · exact ih h
    · exact List.mem_singleton.mp h ▸ hchar k hk

theorem isDigit_of_mem_toDigits {n : Nat} {c : Char} (h : c ∈ Nat.toDigits 10 n) : isDigit c := by
  exact Nat.isDigit_of_mem_toDigits (by decide) (by decide) h

theorem head?_toDigits_ne_zero {n : Nat} (h : n ≠ 0) : (Nat.toDigits 10 n).head? ≠ some '0' := by
  induction n using Nat.base_induction 10 (by decide) with
  | single d hd =>
    rw [Nat.toDigits_of_lt_base hd]
    revert d
    decide
  | digit m k hk hm ih =>
    obtain ⟨c, digits, hdigits⟩ := List.exists_cons_of_ne_nil (Nat.toDigits_ne_nil (n := m) (b := 10))
    rw [← Nat.toDigits_append_toDigits (by decide) hm hk, hdigits]
    rw [hdigits] at ih
    exact ih (by omega)

theorem numeral?_eq_some_iff {bound n : Nat} {text : List Char} (h : text.head? ≠ some '+') :
    numeral? bound text = some n ↔
      (text ≠ [] ∧ (∀ c ∈ text, isDigit c) ∧ valueOf 10 text < bound) ∧
        valueOf 10 text = n := by
  rw [numeral?.eq_def]
  split
  · exact absurd rfl h
  · simp [and_assoc]

def IsNumeral (numeral : List Char) (n : Nat) : Prop :=
  ∃ digits, (numeral = digits ∨ numeral = '+' :: digits) ∧ digits ≠ [] ∧
    (∀ c ∈ digits, isDigit c) ∧ valueOf 10 digits = n

theorem head?_ne_plus {digits : List Char} (h : ∀ c ∈ digits, isDigit c) :
    digits.head? ≠ some '+' := by
  intro hplus
  exact absurd (h '+' (List.mem_of_mem_head? hplus)) (by decide)

theorem numeral?_plus {bound n : Nat} {digits : List Char} :
    numeral? bound ('+' :: digits) = some n ↔
      (digits ≠ [] ∧ (∀ c ∈ digits, isDigit c) ∧ valueOf 10 digits < bound) ∧
        valueOf 10 digits = n := by
  simp [numeral?, and_assoc]

theorem numeral?_eq_some_iff_isNumeral {bound n : Nat} {text : List Char} :
    numeral? bound text = some n ↔ IsNumeral text n ∧ n < bound := by
  constructor
  · intro h
    by_cases hplus : text.head? = some '+'
    · obtain ⟨digits, rfl⟩ := List.head?_eq_some_iff.mp hplus
      obtain ⟨⟨hne, hdigits, hbound⟩, rfl⟩ := numeral?_plus.mp h
      exact ⟨⟨digits, .inr rfl, hne, hdigits, rfl⟩, hbound⟩
    · obtain ⟨⟨hne, hdigits, hbound⟩, rfl⟩ := (numeral?_eq_some_iff hplus).mp h
      exact ⟨⟨text, .inl rfl, hne, hdigits, rfl⟩, hbound⟩
  · rintro ⟨⟨digits, rfl | rfl, hne, hdigits, rfl⟩, hbound⟩
    · exact (numeral?_eq_some_iff (head?_ne_plus hdigits)).mpr ⟨⟨hne, hdigits, hbound⟩, rfl⟩
    · exact numeral?_plus.mpr ⟨⟨hne, hdigits, hbound⟩, rfl⟩

section Stop

variable {p : Char → Bool} {digits rest : List Char}

theorem takeWhile_append_of_stop (hdigits : ∀ c ∈ digits, p c)
    (hrest : ∀ c ∈ rest.head?, p c = false) : (digits ++ rest).takeWhile p = digits := by
  have hnone : rest.takeWhile p = [] := by
    cases rest with
    | nil => rfl
    | cons c rest => simp [hrest c rfl]
  rw [List.takeWhile_append_of_pos hdigits, hnone, List.append_nil]

theorem dropWhile_append_of_stop (hdigits : ∀ c ∈ digits, p c)
    (hrest : ∀ c ∈ rest.head?, p c = false) : (digits ++ rest).dropWhile p = rest := by
  rw [List.dropWhile_append_of_pos hdigits]
  cases rest with
  | nil => rfl
  | cons c rest => simp [hrest c rfl]

theorem stop_dropWhile (p : Char → Bool) (text : List Char) :
    ∀ c ∈ (text.dropWhile p).head?, p c = false := by
  intro c hc
  have hstop := List.head?_dropWhile_not p text
  rw [Option.mem_def.mp hc] at hstop
  simpa using hstop

end Stop

end SocketWatch.Text
