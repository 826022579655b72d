import Mathlib.Algebra.Order.Field.Rat
import Mathlib.Algebra.Order.Field.Basic
import Mathlib.Tactic.FieldSimp
import Mathlib.Tactic.Linarith
import Mathlib.Tactic.Positivity
import SocketWatch.Traffic.ByteCount

/-!
Rounding to the nearest, as the whole numbers of the library do it: a quotient is nearest to the
fraction, and a double is the nearest multiple of its last digit. Both are monotone.
-/

namespace SocketWatch.Rounding

def IsNearest (x : ℚ) (n : Nat) : Prop :=
  |x - n| ≤ 1 / 2 ∧ (|x - n| = 1 / 2 → Even n)

namespace IsNearest

variable {x y : ℚ} {m n : Nat}

theorem self (n : Nat) : IsNearest n n := by
  simp [IsNearest]

theorem le (hx : IsNearest x m) (h : x ≤ y) (hy : IsNearest y n) : m ≤ n := by
  by_contra hlt
  have hsucc : (n : ℚ) + 1 ≤ m := by exact_mod_cast Nat.lt_of_not_le hlt
  have hx' := abs_le.mp hx.1
  have hy' := abs_le.mp hy.1
  -- Both are halves, and of two numbers in a row one is odd.
  have hm : x - m = -(1 / 2) := by linarith
  have hn : y - n = 1 / 2 := by linarith
  have hmn : (m : ℚ) = n + 1 := by linarith
  have heven : Even m := hx.2 (by rw [hm, abs_neg, abs_of_pos one_half_pos])
  have heven' : Even n := hy.2 (by rw [hn, abs_of_pos one_half_pos])
  have hsucc : m = n + 1 := by exact_mod_cast hmn
  rw [hsucc, Nat.even_add_one] at heven
  exact heven heven'

theorem eq (hm : IsNearest x m) (hn : IsNearest x n) : m = n :=
  Nat.le_antisymm (hm.le (le_refl x) hn) (hn.le (le_refl x) hm)

theorem le_of_le (hx : IsNearest x m) (h : x ≤ n) : m ≤ n := hx.le h (self n)

theorem le_of_ge (hx : IsNearest x m) (h : n ≤ x) : n ≤ m := (self n).le h hx

theorem lt_iff_of_even (hn : Even n) (hx : IsNearest x m) : m < n ↔ x < n - 1 / 2 := by
  constructor
  · intro hlt
    by_contra hle
    have hhalf : IsNearest (n - 1 / 2) n := by
      refine ⟨?_, fun _ => hn⟩
      rw [sub_sub_cancel_left, abs_neg, abs_of_pos one_half_pos]
    exact absurd (hhalf.le (le_of_not_gt hle) hx) (Nat.not_le_of_lt hlt)
  · intro hlt
    have hbelow := (abs_le.mp hx.1).1
    exact_mod_cast (by linarith : (m : ℚ) < n)

theorem of_lt (h : |x - n| < 1 / 2) : IsNearest x n := ⟨h.le, fun hhalf => absurd hhalf h.ne⟩

theorem pow_le {base k e : Nat} (hbase : 0 < base) (h : base ^ (k + e) ≤ n)
    (hm : IsNearest (n / base ^ e) m) : base ^ (k + e) ≤ m * base ^ e := by
  have hcast : (0 : ℚ) < base ^ e := pow_pos (by exact_mod_cast hbase) e
  have hle : base ^ k ≤ m := by
    apply hm.le_of_ge
    rw [le_div_iff₀ hcast]
    exact_mod_cast Nat.pow_add base k e ▸ h
  rw [Nat.pow_add]
  exact Nat.mul_le_mul_right _ hle

theorem le_pow {base k e : Nat} (hbase : 0 < base) (h : n ≤ base ^ (k + e))
    (hm : IsNearest (n / base ^ e) m) : m * base ^ e ≤ base ^ (k + e) := by
  have hcast : (0 : ℚ) < base ^ e := pow_pos (by exact_mod_cast hbase) e
  have hle : m ≤ base ^ k := by
    apply hm.le_of_le
    rw [div_le_iff₀ hcast]
    exact_mod_cast Nat.pow_add base k e ▸ h
  rw [Nat.pow_add]
  exact Nat.mul_le_mul_right _ hle

end IsNearest

theorem div_eq_add_fract (num : Nat) {den : Nat} (h : 0 < den) :
    (num : ℚ) / den = (num / den : Nat) + (num % den : Nat) / (den : ℚ) := by
  have hden : (den : ℚ) ≠ 0 := by exact_mod_cast h.ne'
  rw [div_eq_iff hden, add_mul, div_mul_cancel₀ _ hden]
  exact_mod_cast (Nat.div_add_mod' num den).symm

theorem isNearest_quotient (num : Nat) {den : Nat} (h : 0 < den) :
    IsNearest (num / den) (quotient num den) := by
  have hden : (0 : ℚ) < den := by exact_mod_cast h
  have hsplit := div_eq_add_fract num h
  have hrest : (0 : ℚ) ≤ (num % den : Nat) := Nat.cast_nonneg _
  simp only [quotient]
  split_ifs with hlow hhigh heven
  · have hlt : ((num % den : Nat) : ℚ) / den < 1 / 2 := by
      rw [div_lt_div_iff₀ hden two_pos]
      exact_mod_cast (by omega : num % den * 2 < 1 * den)
    apply IsNearest.of_lt
    rw [hsplit, add_sub_cancel_left, abs_of_nonneg (div_nonneg hrest hden.le)]
    exact hlt
  · have hlt : 1 / 2 < ((num % den : Nat) : ℚ) / den := by
      rw [div_lt_div_iff₀ two_pos hden]
      exact_mod_cast (by omega : 1 * den < num % den * 2)
    have hle : ((num % den : Nat) : ℚ) / den ≤ 1 := by
      rw [div_le_one hden]
      exact_mod_cast (Nat.mod_lt num h).le
    apply IsNearest.of_lt
    rw [hsplit, abs_lt]
    push_cast
    constructor <;> linarith
  all_goals
    have hhalf : ((num % den : Nat) : ℚ) / den = 1 / 2 := by
      rw [div_eq_div_iff hden.ne' two_ne_zero]
      exact_mod_cast (by omega : num % den * 2 = 1 * den)
  · rw [hsplit, hhalf]
    exact ⟨by rw [add_sub_cancel_left, abs_of_pos one_half_pos], fun _ => Nat.even_iff.mpr heven⟩
  · rw [hsplit, hhalf]
    refine ⟨?_, fun _ => Nat.even_add_one.mpr (mt Nat.even_iff.mp heven)⟩
    push_cast
    rw [abs_le]
    constructor <;> linarith

/-- A double for a whole number: a mantissa of 53 binary digits, or fewer where there is nothing to
round, at the exponent that the number has. -/
def IsDouble (n value : Nat) : Prop :=
  ∃ exponent mantissa, (exponent = 0 ∨ 2 ^ (52 + exponent) ≤ n) ∧ n < 2 ^ (53 + exponent) ∧
    IsNearest (n / 2 ^ exponent) mantissa ∧ value = mantissa * 2 ^ exponent

theorem isDouble_toDouble (n : Nat) : IsDouble n (toDouble n) := by
  rw [toDouble]
  split
  · next hlt => exact ⟨0, n, .inl rfl, hlt, by simpa using IsNearest.self n, by simp⟩
  · next hle =>
    have hne : n ≠ 0 := by
      rintro rfl
      simp at hle
    have hlog : 53 ≤ n.log2 := (Nat.le_log2 hne).mpr (Nat.le_of_not_lt hle)
    refine ⟨n.log2 - 52, quotient n (2 ^ (n.log2 - 52)), .inr ?_, ?_, ?_, rfl⟩
    · rw [Nat.add_sub_cancel' (by omega)]
      exact Nat.log2_self_le hne
    · rw [show 53 + (n.log2 - 52) = n.log2 + 1 by omega]
      exact Nat.lt_log2_self
    · simpa using isNearest_quotient n (Nat.two_pow_pos (n.log2 - 52))

namespace IsDouble

variable {n m value other : Nat}

theorem eq_of_lt (h : IsDouble n value) (hlt : n < 2 ^ 53) : value = n := by
  obtain ⟨exponent, mantissa, hlow, -, hnearest, rfl⟩ := h
  have hexponent : exponent = 0 := by
    refine hlow.elim id fun hle => ?_
    have hpow : 52 + exponent < 53 := (Nat.pow_lt_pow_iff_right (by decide)).mp (hle.trans_lt hlt)
    omega
  subst hexponent
  rw [pow_zero, div_one] at hnearest
  rw [hnearest.eq (.self n), pow_zero, Nat.mul_one]

theorem le_of_ge (h : IsDouble n value) (hle : 2 ^ 53 ≤ n) : 2 ^ 53 ≤ value := by
  obtain ⟨exponent, mantissa, hlow, hhigh, hnearest, rfl⟩ := h
  have hpos : exponent ≠ 0 := by
    rintro rfl
    exact absurd hle (Nat.not_le_of_lt hhigh)
  calc 2 ^ 53 ≤ 2 ^ (52 + exponent) := Nat.pow_le_pow_right (by decide) (by omega)
    _ ≤ mantissa * 2 ^ exponent := by
      exact_mod_cast hnearest.pow_le two_pos (hlow.resolve_left hpos)

theorem eq_of_value_lt (h : IsDouble n value) (hlt : value < 2 ^ 53) : value = n := by
  apply h.eq_of_lt
  by_contra hle
  exact absurd (h.le_of_ge (Nat.le_of_not_lt hle)) (Nat.not_le_of_lt hlt)

theorem le (hle : n ≤ m) (hn : IsDouble n value) (hm : IsDouble m other) : value ≤ other := by
  obtain ⟨e, a, hlow, hhigh, hnearest, rfl⟩ := hn
  obtain ⟨f, b, hlow', hhigh', hnearest', rfl⟩ := hm
  rcases Nat.lt_trichotomy e f with hlt | rfl | hgt
  · -- A power of two stands between them.
    calc a * 2 ^ e ≤ 2 ^ (53 + e) := by exact_mod_cast hnearest.le_pow two_pos hhigh.le
      _ ≤ 2 ^ (52 + f) := Nat.pow_le_pow_right (by decide) (by omega)
      _ ≤ b * 2 ^ f := by
        exact_mod_cast hnearest'.pow_le two_pos (hlow'.resolve_left (Nat.ne_zero_of_lt hlt))
  · have hdiv : (n : ℚ) / 2 ^ e ≤ m / 2 ^ e :=
      div_le_div_of_nonneg_right (by exact_mod_cast hle) (by positivity)
    exact Nat.mul_le_mul_right _ (hnearest.le hdiv hnearest')
  · have hpow : 2 ^ (52 + e) < 2 ^ (53 + f) :=
      ((hlow.resolve_left (Nat.ne_zero_of_lt hgt)).trans hle).trans_lt hhigh'
    have hexponents : 52 + e < 53 + f := (Nat.pow_lt_pow_iff_right (by decide)).mp hpow
    omega

end IsDouble

end SocketWatch.Rounding
