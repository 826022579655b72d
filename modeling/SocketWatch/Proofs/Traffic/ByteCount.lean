import SocketWatch.Proofs.Text.Columns
import SocketWatch.Proofs.Traffic.Rounding
import SocketWatch.Traffic.ByteCount

namespace SocketWatch

open Rounding

namespace ByteCount

structure Quantity where
  number : ℚ
  unit : Nat
deriving DecidableEq

def Quantity.value (q : Quantity) : ℚ := q.number * 1024 ^ q.unit

def digits? (text : List Char) : Option Nat :=
  if !text.isEmpty && text.all Text.isDigit then some (Text.valueOf 10 text) else none

def decimal? (text : List Char) : Option ℚ :=
  match Text.cut? '.' text with
  | none => (digits? text).map (↑)
  | some (whole, places) => do
    let whole ← digits? whole
    let rest ← digits? places
    return whole + rest / 10 ^ places.length

def read? (text : String) : Option Quantity := do
  let (number, name) ← Text.cut? ' ' text.toList
  let number ← decimal? number
  let unit ← ("B" :: units).idxOf? (String.ofList name)
  return { number, unit }

/-- What a count is to be printed as. The double of a count is told in the largest of five units
that it comes to, and the tenth of a unit that is nearest. -/
inductive Tells (bytes : Nat) : Quantity → Prop
  | whole (h : bytes < 1024) : Tells bytes { number := bytes, unit := 0 }
  | tenths {double tenths unit : Nat} (hdouble : IsDouble bytes double) (hpos : 0 < unit)
    (hunit : unit ≤ 5) (hlow : 1024 ^ unit ≤ double) (hhigh : double < 1024 ^ (unit + 1) ∨ unit = 5)
    (hnearest : IsNearest (10 * (double / 1024 ^ unit)) tenths) :
    Tells bytes { number := tenths / 10, unit }

section Reading

theorem digits?_toDigits (n : Nat) : digits? (Nat.toDigits 10 n) = some n := by
  have hne : (Nat.toDigits 10 n).isEmpty = false := List.isEmpty_eq_false_iff.mpr Nat.toDigits_ne_nil
  have hall : (Nat.toDigits 10 n).all Text.isDigit = true :=
    List.all_eq_true.mpr fun c => Text.isDigit_of_mem_toDigits
  rw [digits?, hne, hall, Text.valueOf_toDigits (by decide) (by decide)]
  rfl

theorem notMem_toDigits {c : Char} (h : Text.isDigit c = false) (n : Nat) :
    c ∉ Nat.toDigits 10 n := by
  intro hmem
  rw [Text.isDigit_of_mem_toDigits hmem] at h
  cases h

theorem decimal?_whole (n : Nat) : decimal? (Nat.toDigits 10 n) = some (n : ℚ) := by
  have hcut : Text.cut? '.' (Nat.toDigits 10 n) = none := by
    rw [Option.eq_none_iff_forall_ne_some]
    rintro ⟨left, right⟩ hcut
    obtain ⟨htext, -⟩ := Text.cut?_eq_some_iff.mp hcut
    exact notMem_toDigits (by decide) n (htext ▸ List.mem_append_right left (List.mem_cons_self ..))
  simp [decimal?, hcut, digits?_toDigits]

theorem decimal?_tenths (n : Nat) :
    decimal? (Nat.toDigits 10 (n / 10) ++ '.' :: Nat.toDigits 10 (n % 10)) = some (n / 10 : ℚ) := by
  have hcut : Text.cut? '.' (Nat.toDigits 10 (n / 10) ++ '.' :: Nat.toDigits 10 (n % 10)) =
      some (Nat.toDigits 10 (n / 10), Nat.toDigits 10 (n % 10)) :=
    Text.cut?_eq_some_iff.mpr ⟨rfl, notMem_toDigits (by decide) _⟩
  have hlength : (Nat.toDigits 10 (n % 10)).length = 1 := by
    rw [Nat.toDigits_of_lt_base (Nat.mod_lt n (by decide)), List.length_singleton]
  have hsplit : (n : ℚ) / 10 = (n / 10 : Nat) + (n % 10 : Nat) / 10 := by
    exact_mod_cast div_eq_add_fract n (by decide : 0 < 10)
  rw [hsplit]
  simp [decimal?, hcut, digits?_toDigits, hlength]

theorem read?_eq {text : String} {number : List Char} {n : ℚ} {unit : Nat} {name : String}
    (htext : text.toList = number ++ ' ' :: name.toList) (hblank : ' ' ∉ number)
    (hnumber : decimal? number = some n) (hunit : ("B" :: units).idxOf? name = some unit) :
    read? text = some { number := n, unit } := by
  have hcut := Text.cut?_eq_some_iff.mpr ⟨htext, hblank⟩
  simp [read?, hcut, hnumber, hunit]

theorem read?_print_of_lt {bytes : Nat} (h : bytes < 1024) :
    read? (print bytes) = some { number := bytes, unit := 0 } := by
  have htext : (print bytes).toList = Nat.toDigits 10 bytes ++ ' ' :: "B".toList := by
    rw [print, if_pos h, String.toList_append, Nat.toString_eq_repr, Nat.toList_repr]
    rfl
  exact read?_eq htext (notMem_toDigits (by decide) _) (decimal?_whole bytes) rfl

theorem idxOf?_unit {unit : Nat} (hpos : 0 < unit) (hunit : unit ≤ 5) :
    ("B" :: units).idxOf? (units.getD (unit - 1) "") = some unit := by
  obtain ⟨index, rfl⟩ : ∃ index, unit = index + 1 := ⟨unit - 1, by omega⟩
  have hindex : index < 5 := by omega
  clear hpos hunit
  revert index
  decide

theorem power_bounds (double : Nat) : 0 < power double ∧ power double ≤ 5 := by
  simp only [power]
  split_ifs <;> decide

theorem power_low {double : Nat} (h : 1024 ≤ double) : 1024 ^ power double ≤ double := by
  simp only [power]
  split_ifs with h2 h3 h4 h5
  · exact h
  · exact Nat.le_of_not_lt h2
  · exact Nat.le_of_not_lt h3
  · exact Nat.le_of_not_lt h4
  · exact Nat.le_of_not_lt h5

theorem power_high (double : Nat) : double < 1024 ^ (power double + 1) ∨ power double = 5 := by
  simp only [power]
  split_ifs with h1 h2 h3 h4
  · exact .inl h1
  · exact .inl h2
  · exact .inl h3
  · exact .inl h4
  · exact .inr rfl

theorem read?_print_of_le {bytes : Nat} (h : 1024 ≤ bytes) : read? (print bytes) =
    some { number := (scale bytes).tenths / 10, unit := (scale bytes).unit } := by
  have htext : (print bytes).toList =
      (Nat.toDigits 10 ((scale bytes).tenths / 10) ++ '.' ::
        Nat.toDigits 10 ((scale bytes).tenths % 10)) ++
      ' ' :: (units.getD ((scale bytes).unit - 1) "").toList := by
    rw [print, if_neg (Nat.not_lt_of_le h)]
    simp only [String.toList_append, Nat.toString_eq_repr, Nat.toList_repr, List.append_assoc]
    rfl
  have hblank : ' ' ∉ Nat.toDigits 10 ((scale bytes).tenths / 10) ++ '.' ::
      Nat.toDigits 10 ((scale bytes).tenths % 10) := by
    simp [notMem_toDigits (by decide : Text.isDigit ' ' = false)]
  obtain ⟨hpos, hunit⟩ := power_bounds (toDouble bytes)
  exact read?_eq htext hblank (decimal?_tenths _) (idxOf?_unit hpos hunit)

end Reading

section Bounds

variable {bytes double unit tenths : Nat}

theorem le_double (h : IsDouble bytes double) (hle : 1024 ≤ bytes) : 1024 ≤ double := by
  have hdouble := isDouble_toDouble 1024
  rw [hdouble.eq_of_lt (by decide)] at hdouble
  exact hdouble.le hle h

theorem exists_tells (bytes : Nat) : ∃ q, read? (print bytes) = some q ∧ Tells bytes q := by
  by_cases h : bytes < 1024
  · exact ⟨_, read?_print_of_lt h, .whole h⟩
  · have hle : 1024 ≤ bytes := Nat.le_of_not_lt h
    have hdouble := isDouble_toDouble bytes
    obtain ⟨hpos, hunit⟩ := power_bounds (toDouble bytes)
    have hlow := power_low (le_double hdouble hle)
    have hnearest := isNearest_quotient (10 * toDouble bytes)
      (Nat.pow_pos (by decide) : 0 < 1024 ^ power (toDouble bytes))
    push_cast at hnearest
    rw [mul_div_assoc] at hnearest
    exact ⟨_, read?_print_of_le hle, .tenths hdouble hpos hunit hlow (power_high _) hnearest⟩

theorem one_le_number (hlow : 1024 ^ unit ≤ double)
    (hnearest : IsNearest (10 * (double / 1024 ^ unit)) tenths) : 1 ≤ (tenths / 10 : ℚ) := by
  have hone : (1 : ℚ) ≤ double / 1024 ^ unit := by
    rw [one_le_div (by positivity)]
    exact_mod_cast hlow
  have hten : 10 ≤ tenths := by
    apply hnearest.le_of_ge
    push_cast
    linarith
  rw [one_le_div (by decide)]
  exact_mod_cast hten

theorem number_le (hhigh : double < 1024 ^ (unit + 1))
    (hnearest : IsNearest (10 * (double / 1024 ^ unit)) tenths) : (tenths / 10 : ℚ) ≤ 1024 := by
  have hone : (double : ℚ) / 1024 ^ unit ≤ 1024 := by
    rw [div_le_iff₀ (by positivity)]
    exact_mod_cast Nat.pow_succ' ▸ hhigh.le
  have htenths : tenths ≤ 10240 := by
    apply hnearest.le_of_le
    push_cast
    linarith
  rw [div_le_iff₀ (by decide)]
  exact_mod_cast htenths

theorem number_lt_iff (hnearest : IsNearest (10 * (double / 1024 ^ unit)) tenths) :
    (tenths / 10 : ℚ) < 1024 ↔ 20 * double < 20479 * 1024 ^ unit := by
  -- Half a tenth below 1024, the tie goes to 1024, which is an even number of tenths.
  have hpow : (0 : ℚ) < 1024 ^ unit := by positivity
  have hdouble : (double : ℚ) = double / 1024 ^ unit * 1024 ^ unit :=
    (div_mul_cancel₀ _ hpow.ne').symm
  calc (tenths / 10 : ℚ) < 1024 ↔ tenths < 10240 := by
        rw [div_lt_iff₀ (by decide)]
        norm_num
    _ ↔ (10 * (double / 1024 ^ unit) : ℚ) < 20479 / 2 := by
        rw [hnearest.lt_iff_of_even (by decide)]
        norm_num
    _ ↔ (20 * (double / 1024 ^ unit * 1024 ^ unit) : ℚ) < 20479 * 1024 ^ unit := by
        rw [← mul_assoc, mul_lt_mul_iff_of_pos_right hpow]
        constructor <;> intro hlt <;> linarith
    _ ↔ 20 * double < 20479 * 1024 ^ unit := by
        rw [← hdouble]
        exact_mod_cast Iff.rfl

theorem pow_le_value (hlow : 1024 ^ unit ≤ double)
    (hnearest : IsNearest (10 * (double / 1024 ^ unit)) tenths) :
    1024 ^ unit ≤ Quantity.value ⟨tenths / 10, unit⟩ :=
  le_mul_of_one_le_left (by positivity) (one_le_number hlow hnearest)

theorem value_le_pow (hhigh : double < 1024 ^ (unit + 1))
    (hnearest : IsNearest (10 * (double / 1024 ^ unit)) tenths) :
    Quantity.value ⟨tenths / 10, unit⟩ ≤ 1024 ^ (unit + 1) := by
  rw [pow_succ']
  exact mul_le_mul_of_nonneg_right (number_le hhigh hnearest) (by positivity)

end Bounds

namespace Tells

variable {a b : Nat} {p q : Quantity}

theorem le (hle : a ≤ b) (hp : Tells a p) (hq : Tells b q) : p.value ≤ q.value := by
  cases hp with
  | whole ha =>
    cases hq with
    | whole hb => simpa [Quantity.value] using hle
    | @tenths double tenths unit hdouble hpos hunit hlow hhigh hnearest =>
      calc Quantity.value ⟨a, 0⟩ = a := by simp [Quantity.value]
        _ ≤ 1024 := by exact_mod_cast ha.le
        _ ≤ 1024 ^ unit := le_self_pow₀ (by norm_num) hpos.ne'
        _ ≤ Quantity.value ⟨tenths / 10, unit⟩ := pow_le_value hlow hnearest
  | @tenths double tenths unit hdouble hpos hunit hlow hhigh hnearest =>
    cases hq with
    | whole hb =>
      have ha : a < 1024 := hle.trans_lt hb
      rw [hdouble.eq_of_lt (ha.trans (by decide))] at hlow
      have hpow : 1024 ≤ 1024 ^ unit := Nat.le_self_pow hpos.ne' 1024
      omega
    | @tenths double' tenths' unit' hdouble' hpos' hunit' hlow' hhigh' hnearest' =>
      have hdoubles : double ≤ double' := hdouble.le hle hdouble'
      rcases Nat.lt_trichotomy unit unit' with hlt | rfl | hgt
      · -- A full unit stands between them.
        calc Quantity.value ⟨tenths / 10, unit⟩ ≤ 1024 ^ (unit + 1) :=
              value_le_pow (hhigh.resolve_right (by omega)) hnearest
          _ ≤ 1024 ^ unit' := pow_le_pow_right₀ (by norm_num) hlt
          _ ≤ Quantity.value ⟨tenths' / 10, unit'⟩ := pow_le_value hlow' hnearest'
      · -- In one unit, the tenths are in order because the doubles are.
        have htenths : tenths ≤ tenths' := by
          refine hnearest.le ?_ hnearest'
          gcongr
        simp only [Quantity.value]
        gcongr
      · have hhigh' : double' < 1024 ^ (unit' + 1) := hhigh'.resolve_right (by omega)
        have hpow : 1024 ^ (unit' + 1) ≤ 1024 ^ unit := Nat.pow_le_pow_right (by decide) hgt
        omega

end Tells

section Units

variable {bytes double unit tenths : Nat}

theorem double_eq_of_lt (hdouble : IsDouble bytes double) (h : double < 1024 ^ (unit + 1))
    (hunit : unit < 5) : double = bytes := by
  apply hdouble.eq_of_value_lt
  calc double < 1024 ^ (unit + 1) := h
    _ ≤ 1024 ^ 5 := Nat.pow_le_pow_right (by decide) hunit
    _ < 2 ^ 53 := by decide

theorem pow_le_bytes (hdouble : IsDouble bytes double) (hunit : unit ≤ 5)
    (hlow : 1024 ^ unit ≤ double) : 1024 ^ unit ≤ bytes := by
  by_contra hlt
  have hpow : 1024 ^ unit ≤ 1024 ^ 5 := Nat.pow_le_pow_right (by decide) hunit
  have hexact : double = bytes := hdouble.eq_of_lt (by omega)
  omega

theorem number_lt_or_full (hhigh : double < 1024 ^ (unit + 1))
    (hnearest : IsNearest (10 * (double / 1024 ^ unit)) tenths) :
    ((tenths / 10 : ℚ) < 1024 ∧ 20 * double < 20479 * 1024 ^ unit) ∨
      ((tenths / 10 : ℚ) = 1024 ∧ 20479 * 1024 ^ unit ≤ 20 * double) := by
  rcases lt_or_eq_of_le (number_le hhigh hnearest) with hlt | hfull
  · exact .inl ⟨hlt, (number_lt_iff hnearest).mp hlt⟩
  · refine .inr ⟨hfull, Nat.le_of_not_lt fun hlt => ?_⟩
    exact absurd hfull ((number_lt_iff hnearest).mpr hlt).ne

end Units

theorem print_monotone {a b : Nat} (h : a ≤ b) : ∃ p q,
    (read? (print a) = some p ∧ Tells a p) ∧ (read? (print b) = some q ∧ Tells b q) ∧
      p.value ≤ q.value := by
  obtain ⟨p, hreadp, hp⟩ := exists_tells a
  obtain ⟨q, hreadq, hq⟩ := exists_tells b
  exact ⟨p, q, ⟨hreadp, hp⟩, ⟨hreadq, hq⟩, hp.le h hq⟩

theorem print_monotone_of_full_unit : 1048575 ≤ 1048576 ∧ print 1048575 = "1024.0 KiB" ∧
    print 1048576 = "1.0 MiB" ∧ ∃ p q,
      (read? (print 1048575) = some p ∧ Tells 1048575 p) ∧
        (read? (print 1048576) = some q ∧ Tells 1048576 q) ∧ p.value ≤ q.value :=
  ⟨by decide, by decide, by decide, print_monotone (by decide)⟩

/-- The unit is the largest one that the count comes to. The number of it is one or more, unless it
counts bytes, and less than 1024, unless there is no larger unit or the count lacks at most half a
tenth of a unit to 1024, where it is rounded up. -/
theorem print_fits_unit (bytes : Nat) : ∃ q, read? (print bytes) = some q ∧ q.unit ≤ 5 ∧
    (1024 ^ q.unit ≤ bytes ∨ q.unit = 0) ∧ (bytes < 1024 ^ (q.unit + 1) ∨ q.unit = 5) ∧
    (1 ≤ q.number ∨ q.unit = 0) ∧
    ((q.number < 1024 ∧ 20 * bytes < 20479 * 1024 ^ q.unit) ∨
      (q.number = 1024 ∧ 20479 * 1024 ^ q.unit ≤ 20 * bytes) ∨ q.unit = 5) := by
  obtain ⟨q, hread, htells⟩ := exists_tells bytes
  refine ⟨q, hread, ?_⟩
  cases htells with
  | whole h =>
    have hnumber : (bytes : ℚ) < 1024 := by exact_mod_cast h
    have hbelow : 20 * bytes < 20479 * 1024 ^ 0 := by omega
    exact ⟨Nat.zero_le 5, .inr rfl, .inl (by simpa using h), .inr rfl, .inl ⟨hnumber, hbelow⟩⟩
  | @tenths double tenths unit hdouble hpos hunit hlow hhigh hnearest =>
    refine ⟨hunit, .inl (pow_le_bytes hdouble hunit hlow), ?_, .inl (one_le_number hlow hnearest), ?_⟩
    -- Below the last unit the double has not been rounded, so the bounds are those of the count.
    all_goals
      rcases Nat.lt_or_eq_of_le hunit with hlt | hlast
    · have hhigh := hhigh.resolve_right hlt.ne
      exact .inl (double_eq_of_lt hdouble hhigh hlt ▸ hhigh)
    · exact .inr hlast
    · have hhigh := hhigh.resolve_right hlt.ne
      have hexact := double_eq_of_lt hdouble hhigh hlt
      rw [← hexact, ← or_assoc]
      exact .inl (number_lt_or_full hhigh hnearest)
    · exact .inr (.inr hlast)

theorem print_rounds_up_to_full_unit : ¬∀ bytes < UInt64.size, ∀ q, read? (print bytes) = some q →
    (q.number < 1024 ∨ q.unit = 5) ∧ (1 ≤ q.number ∨ q.unit = 0) := by
  intro h
  have hscale : scale 1048575 = { tenths := 10240, unit := 1 } := by decide
  have hread := read?_print_of_le (by decide : 1024 ≤ 1048575)
  rw [hscale] at hread
  obtain ⟨hfits, -⟩ := h 1048575 (by decide) _ hread
  norm_num at hfits

end ByteCount

end SocketWatch
