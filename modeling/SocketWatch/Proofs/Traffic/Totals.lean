import Mathlib.Data.Nat.Find
import SocketWatch.Traffic.Meter

namespace SocketWatch

def Counters.WentBack (before now : Counters) : Prop :=
  now.bytesReceived < before.bytesReceived ∨ now.bytesSent < before.bytesSent

instance (before now : Counters) : Decidable (before.WentBack now) :=
  inferInstanceAs (Decidable (_ ∨ _))

theorem Counters.not_wentBack_iff {before now : Counters} : ¬before.WentBack now ↔
    before.bytesReceived ≤ now.bytesReceived ∧ before.bytesSent ≤ now.bytesSent := by
  simp [WentBack]

namespace Meter

structure Reading where
  counters : Counters
  time : Nat

section Update

variable (meter : Meter) (counters : Counters) (now : Nat)

theorem base_update : (meter.update counters now).1.base =
    if (meter.previous counters now).isSome then meter.base else counters := rfl

theorem totals_update :
    (meter.update counters now).2.received =
        counters.bytesReceived - (meter.update counters now).1.base.bytesReceived ∧
      (meter.update counters now).2.sent =
        counters.bytesSent - (meter.update counters now).1.base.bytesSent := by
  simp only [update]
  cases meter.previous counters now with
  | none => exact ⟨rfl, rfl⟩
  | some previous =>
    obtain ⟨last, elapsed⟩ := previous
    dsimp only
    split <;> exact ⟨rfl, rfl⟩

theorem rates_of_none (h : meter.previous counters now = none) :
    (meter.update counters now).2.receivedRate = 0 ∧ (meter.update counters now).2.sentRate = 0 := by
  simp [update, h]

theorem rates_of_some {last : Counters} {elapsed : Nat}
    (h : meter.previous counters now = some (last, elapsed)) :
    (meter.update counters now).2.receivedRate = (if shortest < elapsed then
        rate (counters.bytesReceived - last.bytesReceived) elapsed else 0) ∧
      (meter.update counters now).2.sentRate = (if shortest < elapsed then
        rate (counters.bytesSent - last.bytesSent) elapsed else 0) := by
  simp only [update, h]
  split <;> exact ⟨rfl, rfl⟩

end Update

def reports (meter : Meter) : List Reading → List TrafficReport
  | [] => []
  | reading :: rest =>
    let (next, report) := meter.update reading.counters reading.time
    report :: next.reports rest

variable (reading : Nat → Reading)

def before : Nat → Meter
  | 0 => {}
  | i + 1 => ((before i).update (reading i).counters (reading i).time).1

def report (i : Nat) : TrafficReport :=
  ((before reading i).update (reading i).counters (reading i).time).2

def restart (i : Nat) : Nat :=
  Nat.findGreatest (fun j => (reading (j - 1)).counters.WentBack (reading j).counters) i

theorem reports_before (i n : Nat) : (before reading i).reports ((List.range' i n).map reading) =
    (List.range' i n).map (report reading) := by
  induction n generalizing i with
  | zero => rfl
  | succ n ih =>
    rw [List.range'_succ, List.map_cons, List.map_cons, ← ih (i + 1)]
    rfl

theorem restart_le (i : Nat) : restart reading i ≤ i := Nat.findGreatest_le i

section Step

variable {reading} {i : Nat}

theorem restart_of_wentBack (h : (reading i).counters.WentBack (reading (i + 1)).counters) :
    restart reading (i + 1) = i + 1 :=
  Nat.findGreatest_eq h

theorem restart_of_not_wentBack
    (h : ¬(reading i).counters.WentBack (reading (i + 1)).counters) :
    restart reading (i + 1) = restart reading i :=
  Nat.findGreatest_of_not h

theorem previous_of_wentBack (h : (reading i).counters.WentBack (reading (i + 1)).counters) :
    (before reading (i + 1)).previous (reading (i + 1)).counters (reading (i + 1)).time = none :=
  if_neg fun hkept => Counters.not_wentBack_iff.mpr hkept h

theorem previous_of_not_wentBack
    (h : ¬(reading i).counters.WentBack (reading (i + 1)).counters) :
    (before reading (i + 1)).previous (reading (i + 1)).counters (reading (i + 1)).time =
      some ((reading i).counters, (reading (i + 1)).time - (reading i).time) :=
  if_pos (Counters.not_wentBack_iff.mp h)

end Step

theorem base_before (i : Nat) :
    (before reading (i + 1)).base = (reading (restart reading i)).counters := by
  induction i with
  | zero => rfl
  | succ i ih =>
    rw [before, base_update]
    by_cases h : (reading i).counters.WentBack (reading (i + 1)).counters
    · rw [previous_of_wentBack h, restart_of_wentBack h]
      rfl
    · rw [previous_of_not_wentBack h, restart_of_not_wentBack h, ← ih]
      rfl

theorem base_le (i : Nat) :
    (reading (restart reading i)).counters.bytesReceived ≤ (reading i).counters.bytesReceived ∧
      (reading (restart reading i)).counters.bytesSent ≤ (reading i).counters.bytesSent := by
  induction i with
  | zero => exact ⟨Nat.le_refl _, Nat.le_refl _⟩
  | succ i ih =>
    by_cases h : (reading i).counters.WentBack (reading (i + 1)).counters
    · rw [restart_of_wentBack h]
      exact ⟨Nat.le_refl _, Nat.le_refl _⟩
    · rw [restart_of_not_wentBack h]
      have hkept := Counters.not_wentBack_iff.mp h
      exact ⟨Nat.le_trans ih.1 hkept.1, Nat.le_trans ih.2 hkept.2⟩

theorem totals_report (i : Nat) :
    (report reading i).received + (reading (restart reading i)).counters.bytesReceived =
        (reading i).counters.bytesReceived ∧
      (report reading i).sent + (reading (restart reading i)).counters.bytesSent =
        (reading i).counters.bytesSent := by
  obtain ⟨hreceived, hsent⟩ := totals_update (before reading i) (reading i).counters (reading i).time
  have hbase := base_before reading i
  rw [before] at hbase
  rw [hbase] at hreceived hsent
  obtain ⟨hle, hle'⟩ := base_le reading i
  rw [report, hreceived, hsent]
  omega

variable {reading} {i : Nat}

theorem restart_lt_iff : restart reading (i + 1) < i + 1 ↔
    ¬(reading i).counters.WentBack (reading (i + 1)).counters := by
  constructor
  · intro hlt hback
    rw [restart_of_wentBack hback] at hlt
    exact Nat.lt_irrefl _ hlt
  · intro hkept
    rw [restart_of_not_wentBack hkept]
    exact Nat.lt_succ_of_le (restart_le reading i)

theorem growth_report (h : restart reading (i + 1) < i + 1) :
    (report reading (i + 1)).received + (reading i).counters.bytesReceived =
        (report reading i).received + (reading (i + 1)).counters.bytesReceived ∧
      (report reading (i + 1)).sent + (reading i).counters.bytesSent =
        (report reading i).sent + (reading (i + 1)).counters.bytesSent := by
  have hnow := totals_report reading (i + 1)
  have hlast := totals_report reading i
  rw [restart_of_not_wentBack (restart_lt_iff.mp h)] at hnow
  omega

theorem rates_report :
    let elapsed := (reading (i + 1)).time - (reading i).time
    (report reading (i + 1)).receivedRate =
        (if restart reading (i + 1) < i + 1 ∧ shortest < elapsed then rate
          ((reading (i + 1)).counters.bytesReceived - (reading i).counters.bytesReceived) elapsed
        else 0) ∧
      (report reading (i + 1)).sentRate =
        (if restart reading (i + 1) < i + 1 ∧ shortest < elapsed then rate
          ((reading (i + 1)).counters.bytesSent - (reading i).counters.bytesSent) elapsed
        else 0) := by
  intro elapsed
  by_cases h : (reading i).counters.WentBack (reading (i + 1)).counters
  · have hstart : ¬(restart reading (i + 1) < i + 1 ∧ shortest < elapsed) :=
      fun hlt => restart_lt_iff.mp hlt.1 h
    rw [if_neg hstart, if_neg hstart]
    exact rates_of_none _ _ _ (previous_of_wentBack h)
  · simp only [restart_lt_iff.mpr h, true_and]
    exact rates_of_some _ _ _ (previous_of_not_wentBack h)

/-- Received and sent bytes are counted from the last restart, exactly: they are none there, and
then grow by what the counters do. A rate is told where totals go on and more than the shortest time
has passed since the reading before, and there the counters have not gone back. -/
theorem totals_since_restart (reading : Nat → Reading) :
    (∀ n, ({} : Meter).reports ((List.range n).map reading) =
      (List.range n).map (report reading)) ∧
    ∀ i,
      let base := (reading (restart reading i)).counters
      let last := (reading (i - 1)).counters
      let now := (reading i).counters
      let elapsed := (reading i).time - (reading (i - 1)).time
      ((report reading i).received + base.bytesReceived = now.bytesReceived ∧
        (report reading i).sent + base.bytesSent = now.bytesSent) ∧
      (restart reading i = i → (report reading i).received = 0 ∧ (report reading i).sent = 0) ∧
      (restart reading i < i →
        (last.bytesReceived ≤ now.bytesReceived ∧ last.bytesSent ≤ now.bytesSent) ∧
        (report reading i).received + last.bytesReceived =
          (report reading (i - 1)).received + now.bytesReceived ∧
        (report reading i).sent + last.bytesSent =
          (report reading (i - 1)).sent + now.bytesSent) ∧
      (report reading i).receivedRate = (if restart reading i < i ∧ shortest < elapsed then
        rate (now.bytesReceived - last.bytesReceived) elapsed else 0) ∧
      (report reading i).sentRate = (if restart reading i < i ∧ shortest < elapsed then
        rate (now.bytesSent - last.bytesSent) elapsed else 0) := by
  constructor
  · intro n
    rw [List.range_eq_range']
    exact reports_before reading 0 n
  · intro i base last now elapsed
    have htotals := totals_report reading i
    refine ⟨htotals, ?_, ?_⟩
    · intro hstart
      rw [hstart] at htotals
      omega
    · cases i with
      | zero => exact ⟨fun hlt => absurd hlt (Nat.not_lt_zero _), rfl, rfl⟩
      | succ i =>
        refine ⟨fun hlt => ⟨?_, growth_report hlt⟩, rates_report⟩
        exact Counters.not_wentBack_iff.mp (restart_lt_iff.mp hlt)

theorem totals_since_restart_of_sent_reset :
    let reading : Nat → Reading
      | 0 => ⟨{ bytesReceived := 1000, bytesSent := 1000 }, 5000000000⟩
      | 1 => ⟨{ bytesReceived := 4000, bytesSent := 2000 }, 6000000000⟩
      | 2 => ⟨{ bytesReceived := 4100, bytesSent := 500 }, 7000000000⟩
      | _ => ⟨{ bytesReceived := 4600, bytesSent := 600 }, 8000000000⟩
    restart reading 2 = 2 ∧ (report reading 2).received = 0 ∧ (report reading 2).sent = 0 ∧
      restart reading 3 < 3 ∧
      (report reading 3).received + 4100 = (report reading 2).received + 4600 ∧
      (report reading 3).sent + 500 = (report reading 2).sent + 600 ∧
      (report reading 3).receivedRate = 500 ∧ (report reading 3).sentRate = 100 := by
  intro reading
  obtain ⟨-, hrun⟩ := totals_since_restart reading
  have hstart : restart reading 2 = 2 := by decide
  have hgoes : restart reading 3 < 3 := by decide
  obtain ⟨-, hnone, -⟩ := hrun 2
  obtain ⟨-, -, hgrowth, hreceived, hsent⟩ := hrun 3
  refine ⟨hstart, (hnone hstart).1, (hnone hstart).2, hgoes, (hgrowth hgoes).2.1,
    (hgrowth hgoes).2.2, ?_, ?_⟩
  · rw [hreceived]
    decide +kernel
  · rw [hsent]
    decide +kernel

end Meter

end SocketWatch
