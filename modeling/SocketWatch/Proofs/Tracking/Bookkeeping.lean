import SocketWatch.Proofs.Tracking.Assignment
import SocketWatch.Proofs.Tracking.FirstInFirstOut

namespace SocketWatch

theorem Row.isLive_eq_false_iff {row : Row} : row.isLive = false ↔ row.change = .delete := by
  simp [Row.isLive]

namespace Slot

variable {slot : Slot} {slots : List Slot} {row : Row} {seen : Connection}

theorem unchanged_iff : unchanged row seen ↔ row.connection.state = seen.state ∧
    row.connection.pid = seen.pid ∧ row.connection.inode = seen.inode := by
  simp [unchanged, Connection.sameInfo, and_assoc]

theorem settle_of_unchanged (h : unchanged row seen) :
    settle (.paired row seen) = { row with change := .none } := if_pos h

theorem settle_of_changed (h : ¬unchanged row seen) : settle (.paired row seen) =
    { row with connection := row.connection.merge seen, change := .update } := if_neg h

theorem key_settle (slot : Slot) : slot.settle.connection.key = slot.row.connection.key := by
  cases slot with
  | past row => rfl
  | free row => rfl
  | paired row seen =>
    by_cases h : unchanged row seen
    · rw [settle_of_unchanged h]
      rfl
    · rw [settle_of_changed h]
      rfl

theorem change_settle (h : slot.Sound) : slot.settle.change =
    if slot.isUpdated then .update else if slot.isUnchanged then .none else .delete := by
  cases slot with
  | past row => exact Row.isLive_eq_false_iff.mp h
  | free row => rfl
  | paired row seen =>
    by_cases hsame : unchanged row seen <;> simp [settle, isUpdated, isUnchanged, hsame]

theorem change_settle_ne_insert (h : slot.Sound) : slot.settle.change ≠ .insert := by
  rw [change_settle h]
  split_ifs <;> simp

theorem change_settle_eq_update_iff (h : slot.Sound) :
    slot.settle.change = .update ↔ slot.isUpdated := by
  rw [change_settle h]
  split_ifs with hupdated hunchanged <;> simp [hupdated]

theorem change_settle_eq_none_iff (h : slot.Sound) :
    slot.settle.change = .none ↔ slot.isUnchanged := by
  rw [change_settle h]
  cases slot with
  | past row => simp [isUpdated, isUnchanged]
  | free row => simp [isUpdated, isUnchanged]
  | paired row seen => by_cases hsame : unchanged row seen <;> simp [isUpdated, isUnchanged, hsame]

theorem isFree_iff (h : slot.Sound) :
    slot.isFree ↔ slot.row.isLive ∧ slot.settle.change = .delete := by
  rw [change_settle h]
  cases slot with
  | past row =>
    have hpast : row.isLive = false := h
    simp [isFree, Slot.row, hpast]
  | free row =>
    have hlive : row.isLive := h
    simp [isFree, Slot.row, hlive, isUpdated, isUnchanged]
  | paired row seen =>
    by_cases hsame : unchanged row seen <;> simp [isFree, isUpdated, isUnchanged, hsame]

theorem countP_isUpdated_add (slots : List Slot) :
    slots.countP isUpdated + slots.countP isUnchanged = (slots.filterMap seen?).length := by
  induction slots with
  | nil => rfl
  | cons slot slots ih =>
    rw [List.countP_cons, List.countP_cons, List.filterMap_cons]
    cases slot with
    | past row => simpa [isUpdated, isUnchanged, seen?] using ih
    | free row => simpa [isUpdated, isUnchanged, seen?] using ih
    | paired row seen =>
      by_cases hsame : unchanged row seen <;> simp [isUpdated, isUnchanged, seen?, hsame] <;> omega

theorem countP_isLive_row (h : ∀ slot ∈ slots, slot.Sound) :
    slots.countP isUpdated + slots.countP isUnchanged + slots.countP isFree =
      slots.countP (Row.isLive ∘ Slot.row) := by
  induction slots with
  | nil => rfl
  | cons slot slots ih =>
    have hslot := h slot (by simp)
    have hrest := ih fun other hother => h other (by simp [hother])
    rw [List.countP_cons, List.countP_cons, List.countP_cons, List.countP_cons]
    cases slot with
    | past row =>
      have hpast : row.isLive = false := hslot
      simpa [isUpdated, isUnchanged, isFree, Slot.row, hpast] using hrest
    | free row =>
      have hlive : row.isLive := hslot
      simp [isUpdated, isUnchanged, isFree, Slot.row, hlive]
      omega
    | paired row seen =>
      have hlive : row.isLive := hslot.1
      by_cases hsame : unchanged row seen <;>
        simp [isUpdated, isUnchanged, isFree, Slot.row, hlive, hsame] <;> omega

theorem zip_settle (slots : List Slot) (added : List Row) :
    (slots.map Slot.row).zip (slots.map settle ++ added) =
      slots.map fun slot => (slot.row, slot.settle) := by
  induction slots with
  | nil => rfl
  | cons slot slots ih => simp [ih]

end Slot

theorem summary_records (tracked : List Row) (latest : List Connection) :
    (reconcile tracked latest).summary.inserted + (reconcile tracked latest).summary.updated +
      (reconcile tracked latest).summary.unchanged = latest.length := by
  have hlength := (seen_pairing_perm tracked latest).length_eq
  have hpaired := Slot.countP_isUpdated_add (pairing tracked latest).1
  rw [List.length_append] at hlength
  simp only [reconcile]
  omega

theorem summary_live (tracked : List Row) (latest : List Connection) :
    (reconcile tracked latest).summary.updated + (reconcile tracked latest).summary.unchanged +
      (reconcile tracked latest).summary.deleted = tracked.countP Row.isLive := by
  have hlive := Slot.countP_isLive_row (sound_pairing tracked latest)
  rwa [← List.countP_map, map_row_pairing] at hlive

theorem rows_eq_append (tracked : List Row) (latest : List Connection) :
    (reconcile tracked latest).rows = (pairing tracked latest).1.map Slot.settle ++
      (pairing tracked latest).2.map fun seen => { connection := seen, change := .insert } := rfl

theorem length_rows (tracked : List Row) (latest : List Connection) :
    (reconcile tracked latest).rows.length =
      tracked.length + (reconcile tracked latest).summary.inserted := by
  rw [rows_eq_append, List.length_append, List.length_map, List.length_map, length_slots]
  rfl

section Counts

variable (tracked : List Row) (latest : List Connection)

theorem countP_rows (p : Row → Bool) :
    (reconcile tracked latest).rows.countP p =
      (pairing tracked latest).1.countP (fun slot => p slot.settle) +
        (pairing tracked latest).2.countP
          fun seen => p { connection := seen, change := .insert } := by
  rw [rows_eq_append, List.countP_append, List.countP_map, List.countP_map]
  rfl

theorem countP_insert : (reconcile tracked latest).rows.countP (fun row => row.change = .insert) =
    (reconcile tracked latest).summary.inserted := by
  have hkept : (pairing tracked latest).1.countP
      (fun slot => decide (slot.settle.change = .insert)) = 0 := by
    rw [List.countP_eq_zero]
    intro slot hslot
    simpa using Slot.change_settle_ne_insert (sound_pairing tracked latest slot hslot)
  rw [countP_rows, hkept]
  simp [reconcile]

theorem countP_update : (reconcile tracked latest).rows.countP (fun row => row.change = .update) =
    (reconcile tracked latest).summary.updated := by
  have hkept : (pairing tracked latest).1.countP
      (fun slot => decide (slot.settle.change = .update)) =
        (pairing tracked latest).1.countP Slot.isUpdated := by
    apply List.countP_congr
    intro slot hslot
    simpa using Slot.change_settle_eq_update_iff (sound_pairing tracked latest slot hslot)
  rw [countP_rows, hkept]
  simp [reconcile]

theorem countP_none : (reconcile tracked latest).rows.countP (fun row => row.change = .none) =
    (reconcile tracked latest).summary.unchanged := by
  have hkept : (pairing tracked latest).1.countP
      (fun slot => decide (slot.settle.change = .none)) =
        (pairing tracked latest).1.countP Slot.isUnchanged := by
    apply List.countP_congr
    intro slot hslot
    simpa using Slot.change_settle_eq_none_iff (sound_pairing tracked latest slot hslot)
  rw [countP_rows, hkept]
  simp [reconcile]

theorem countP_delete : (tracked.zip (reconcile tracked latest).rows).countP
    (fun pair => pair.1.isLive && pair.2.change = .delete) =
      (reconcile tracked latest).summary.deleted := by
  have hzip := Slot.zip_settle (pairing tracked latest).1
    ((pairing tracked latest).2.map fun seen => { connection := seen, change := .insert })
  rw [map_row_pairing, ← rows_eq_append] at hzip
  rw [hzip, List.countP_map]
  apply List.countP_congr
  intro slot hslot
  simpa using (Slot.isFree_iff (sound_pairing tracked latest slot hslot)).symm

end Counts

structure Accounted (tracked : List Row) (latest : List Connection) (partner : Nat → Option Nat)
    (cycle : Cycle) : Prop where
  paired_iff : ∀ (i : Nat) row seen, (pairing tracked latest).1[i]? = some (.paired row seen) ↔
    tracked[i]? = some row ∧ ∃ n, partner i = some n ∧ latest[n]? = some seen
  paired : ∀ i n, partner i = some n → ∃ row seen, tracked[i]? = some row ∧ row.isLive ∧
    latest[n]? = some seen ∧ row.connection.maybeSame seen
  oneRow : ∀ i j n, partner i = some n → partner j = some n → i = j
  length_rows : cycle.rows.length = tracked.length + cycle.summary.inserted
  sameKey : ∀ (i : Nat) row after, tracked[i]? = some row → cycle.rows[i]? = some after →
    after.connection.key = row.connection.key
  past : ∀ (i : Nat) row, tracked[i]? = some row → row.change = .delete →
    cycle.rows[i]? = some row
  deleted : ∀ (i : Nat) row, tracked[i]? = some row → row.isLive → partner i = none →
    cycle.rows[i]? = some { row with change := .delete }
  unchanged : ∀ (i : Nat) row after, tracked[i]? = some row → cycle.rows[i]? = some after →
    after.change = .none → after = { row with change := .none }
  updated_iff : ∀ (i : Nat) row after, tracked[i]? = some row → cycle.rows[i]? = some after →
    (after.change = .update ↔ ∃ n seen, partner i = some n ∧ latest[n]? = some seen ∧
      (row.connection.state ≠ seen.state ∨ row.connection.pid ≠ seen.pid ∨
        row.connection.inode ≠ seen.inode))
  updated : ∀ (i : Nat) row after n seen, tracked[i]? = some row → cycle.rows[i]? = some after →
    after.change = .update → partner i = some n → latest[n]? = some seen →
      after = { row with connection := row.connection.merge seen, change := .update }
  inserted : ∃ left : List Nat, left.Pairwise (· < ·) ∧
    (∀ n, n ∈ left ↔ n < latest.length ∧ ∀ i, partner i ≠ some n) ∧
    cycle.rows.drop tracked.length =
      (left.filterMap (latest[·]?)).map fun seen => { connection := seen, change := .insert }
  records : cycle.summary.inserted + cycle.summary.updated + cycle.summary.unchanged =
    latest.length
  live : cycle.summary.updated + cycle.summary.unchanged + cycle.summary.deleted =
    tracked.countP Row.isLive
  count_insert : cycle.rows.countP (fun row => row.change = .insert) = cycle.summary.inserted
  count_update : cycle.rows.countP (fun row => row.change = .update) = cycle.summary.updated
  count_none : cycle.rows.countP (fun row => row.change = .none) = cycle.summary.unchanged
  count_delete : (tracked.zip cycle.rows).countP
    (fun pair => pair.1.isLive && pair.2.change = .delete) = cycle.summary.deleted

section Accounting

variable {tracked : List Row} {latest : List Connection} {i : Nat} {row after : Row}

theorem exists_slot (hrow : tracked[i]? = some row)
    (hafter : (reconcile tracked latest).rows[i]? = some after) : ∃ slot : Slot,
      (pairing tracked latest).1[i]? = some slot ∧ slot.Sound ∧ row = slot.row ∧
        after = slot.settle := by
  rw [← map_row_pairing tracked latest, List.getElem?_map] at hrow
  obtain ⟨slot, hslot, rfl⟩ := Option.map_eq_some_iff.mp hrow
  have hsettle := getElem?_rows_of_slot hslot
  exact ⟨slot, hslot, sound_pairing tracked latest slot (List.mem_of_getElem? hslot), rfl,
    Option.some.inj (hafter.symm.trans hsettle)⟩

theorem exists_after (latest : List Connection) (hrow : tracked[i]? = some row) :
    ∃ after, (reconcile tracked latest).rows[i]? = some after := by
  have hi : i < tracked.length := (List.getElem?_eq_some_iff.mp hrow).1
  have hlt : i < (reconcile tracked latest).rows.length := by
    rw [length_rows]
    omega
  exact ⟨_, List.getElem?_eq_getElem hlt⟩

variable {partner : Nat → Option Nat} (h : Assigned latest (pairing tracked latest).1 partner)

include h

theorem slot_of_partner {n : Nat} {seen : Connection} (hrow : tracked[i]? = some row)
    (hi : partner i = some n) (hn : latest[n]? = some seen) :
    (pairing tracked latest).1[i]? = some (.paired row seen) := by
  obtain ⟨other, record, hslot, hrecord⟩ := h.paired i n hi
  obtain rfl := Option.some.inj (hn.symm.trans hrecord)
  rw [← map_row_pairing tracked latest, List.getElem?_map, hslot] at hrow
  obtain rfl : other = row := Option.some.inj hrow
  exact hslot

theorem accounted_paired_iff {seen : Connection} :
    (pairing tracked latest).1[i]? = some (.paired row seen) ↔
      tracked[i]? = some row ∧ ∃ n, partner i = some n ∧ latest[n]? = some seen := by
  constructor
  · intro hslot
    obtain ⟨n, hi⟩ := h.total i row seen hslot
    obtain ⟨other, record, hrecord, hn⟩ := h.paired i n hi
    obtain ⟨rfl, rfl⟩ := Slot.paired.inj (Option.some.inj (hslot.symm.trans hrecord))
    refine ⟨?_, n, hi, hn⟩
    rw [← map_row_pairing tracked latest, List.getElem?_map, hslot]
    rfl
  · rintro ⟨hrow, n, hi, hn⟩
    exact slot_of_partner h hrow hi hn

theorem accounted_paired {n : Nat} (hi : partner i = some n) : ∃ row seen,
    tracked[i]? = some row ∧ row.isLive ∧ latest[n]? = some seen ∧
      row.connection.maybeSame seen := by
  obtain ⟨row, seen, hslot, hn⟩ := h.paired i n hi
  have hmem := List.mem_of_getElem? hslot
  have hrow : tracked[i]? = some row := ((accounted_paired_iff h).mp hslot).1
  exact ⟨row, seen, hrow, (sound_pairing tracked latest _ hmem).1, hn, maybeSame_of_paired hmem⟩

theorem accounted_deleted (hrow : tracked[i]? = some row) (hlive : row.isLive)
    (hnone : partner i = none) :
    (reconcile tracked latest).rows[i]? = some { row with change := .delete } := by
  obtain ⟨after, hafter⟩ := exists_after latest hrow
  obtain ⟨slot, hslot, hsound, rfl, rfl⟩ := exists_slot hrow hafter
  cases slot with
  | past row =>
    have hpast : row.isLive = false := hsound
    exact absurd hlive (by simp [Slot.row, hpast])
  | free row => exact hafter
  | paired row seen =>
    obtain ⟨n, hn⟩ := h.total i row seen hslot
    simp [hnone] at hn

theorem accounted_updated_iff (hrow : tracked[i]? = some row)
    (hafter : (reconcile tracked latest).rows[i]? = some after) :
    after.change = .update ↔ ∃ n seen, partner i = some n ∧ latest[n]? = some seen ∧
      (row.connection.state ≠ seen.state ∨ row.connection.pid ≠ seen.pid ∨
        row.connection.inode ≠ seen.inode) := by
  obtain ⟨slot, hslot, hsound, rfl, rfl⟩ := exists_slot hrow hafter
  rw [Slot.change_settle_eq_update_iff hsound]
  constructor
  · intro hupdated
    cases slot with
    | past row => simp [Slot.isUpdated] at hupdated
    | free row => simp [Slot.isUpdated] at hupdated
    | paired row seen =>
      obtain ⟨-, n, hi, hn⟩ := (accounted_paired_iff h).mp hslot
      have hchanged : ¬Slot.unchanged row seen := by simpa [Slot.isUpdated] using hupdated
      rw [Slot.unchanged_iff, not_and_or, not_and_or] at hchanged
      exact ⟨n, seen, hi, hn, hchanged⟩
  · rintro ⟨n, seen, hi, hn, hchanged⟩
    have hpaired := slot_of_partner h hrow hi hn
    rw [hslot] at hpaired
    rw [Option.some.inj hpaired]
    have hdiffers : ¬Slot.unchanged slot.row seen := by
      rwa [Slot.unchanged_iff, not_and_or, not_and_or]
    simpa [Slot.isUpdated] using hdiffers

theorem accounted_updated {n : Nat} {seen : Connection} (hrow : tracked[i]? = some row)
    (hafter : (reconcile tracked latest).rows[i]? = some after) (hchange : after.change = .update)
    (hi : partner i = some n) (hn : latest[n]? = some seen) :
    after = { row with connection := row.connection.merge seen, change := .update } := by
  have hsettle := getElem?_rows_of_slot (slot_of_partner h hrow hi hn)
  obtain rfl := Option.some.inj (hafter.symm.trans hsettle)
  by_cases hsame : Slot.unchanged row seen
  · rw [Slot.settle_of_unchanged hsame] at hchange
    exact absurd hchange (by simp)
  · exact Slot.settle_of_changed hsame

omit h in
theorem accounted_unchanged (hrow : tracked[i]? = some row)
    (hafter : (reconcile tracked latest).rows[i]? = some after) (hchange : after.change = .none) :
    after = { row with change := .none } := by
  obtain ⟨slot, hslot, hsound, rfl, rfl⟩ := exists_slot hrow hafter
  have hunchanged := (Slot.change_settle_eq_none_iff hsound).mp hchange
  cases slot with
  | past row => simp [Slot.isUnchanged] at hunchanged
  | free row => simp [Slot.isUnchanged] at hunchanged
  | paired row seen => exact Slot.settle_of_unchanged hunchanged

omit h in
theorem accounted_past (hrow : tracked[i]? = some row) (hchange : row.change = .delete) :
    (reconcile tracked latest).rows[i]? = some row := by
  have hclosed := Row.isLive_eq_false_iff.mpr hchange
  exact getElem?_rows_of_slot ((getElem?_past_iff tracked latest i row).mpr ⟨hrow, hclosed⟩)

end Accounting

theorem accounted_of_assigned {tracked : List Row} {latest : List Connection}
    {partner : Nat → Option Nat} {left : List Nat}
    (h : Assigned latest (pairing tracked latest).1 partner) (hsorted : left.Pairwise (· < ·))
    (hmem : ∀ n, n ∈ left ↔ n < latest.length ∧ ∀ i, partner i ≠ some n)
    (hleft : (pairing tracked latest).2 = left.filterMap (latest[·]?)) :
    Accounted tracked latest partner (reconcile tracked latest) where
  paired_iff i row seen := accounted_paired_iff h
  paired i n := accounted_paired h
  oneRow := h.oneRow
  length_rows := length_rows tracked latest
  sameKey i row after hrow hafter := by
    obtain ⟨slot, -, -, rfl, rfl⟩ := exists_slot hrow hafter
    exact slot.key_settle
  past i row := accounted_past
  deleted i row := accounted_deleted h
  unchanged i row after := accounted_unchanged
  updated_iff i row after := accounted_updated_iff h
  updated i row after n seen := accounted_updated h
  inserted := by
    refine ⟨left, hsorted, hmem, ?_⟩
    rw [rows_eq_append, List.drop_left' (by rw [List.length_map, length_slots]), hleft]
  records := summary_records tracked latest
  live := summary_live tracked latest
  count_insert := countP_insert tracked latest
  count_update := countP_update tracked latest
  count_none := countP_none tracked latest
  count_delete := countP_delete tracked latest

theorem isLive_of_first_cycle (before : List Connection) :
    ∀ row ∈ (reconcile [] before).rows, row.isLive := by
  have hslots : (pairing [] before).1 = [] := by
    simpa using map_row_pairing [] before
  intro row hrow
  rw [rows_eq_append, hslots] at hrow
  obtain ⟨seen, -, rfl⟩ := List.mem_map.mp hrow
  rfl

/-- Every cycle keeps its books, and of two snapshots in a row, the rows that the second has not
deleted are as many as its records. -/
theorem cycle_accounted :
    (∀ tracked latest, ∃ partner,
      Accounted tracked latest partner (reconcile tracked latest)) ∧
    ∀ before after : List Connection,
      let cycle := ((({} : TrackedSet).reconcile before).1).reconcile after
      cycle.2.deleted ≤ cycle.1.rows.length ∧
        cycle.1.rows.length - cycle.2.deleted = after.length ∧
        cycle.1.counts.1 = after.length := by
  constructor
  · intro tracked latest
    obtain ⟨partner, left, hassigned, hsorted, hmem, hleft⟩ := exists_assigned tracked latest
    exact ⟨partner, accounted_of_assigned hassigned hsorted hmem hleft⟩
  · intro before after cycle
    have hlive : (reconcile [] before).rows.countP Row.isLive =
        (reconcile [] before).rows.length :=
      List.countP_eq_length.mpr (isLive_of_first_cycle before)
    have hrecords := summary_records (reconcile [] before).rows after
    have hsum := summary_live (reconcile [] before).rows after
    have hrows := length_rows (reconcile [] before).rows after
    have hlast : (TrackedSet.Call.reconcile after).snapshot? = some after := rfl
    have hcounts : cycle.1.counts = (after.length, after.countP Connection.isEstablished) :=
      TrackedSet.counts_call hlast
    have hcycle : cycle.1.rows = (reconcile (reconcile [] before).rows after).rows ∧
        cycle.2 = (reconcile (reconcile [] before).rows after).summary := ⟨rfl, rfl⟩
    rw [hcounts, hcycle.1, hcycle.2]
    omega

end SocketWatch
