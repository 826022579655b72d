import SocketWatch.Proofs.Tracking.Bookkeeping

/-!
Tracked rows with numbers, given in the order of arrival. A row keeps its number for as long as it
is tracked and no number is given twice, so the numbers tell over whole histories which row is
which.
-/

namespace SocketWatch

structure Entry where
  number : Nat
  row : Row
deriving DecidableEq, Repr

structure Roster where
  entries : List Entry
  next : Nat
  sorted : (entries.map Entry.number).Pairwise (· < ·)
  lt_next : ∀ n ∈ entries.map Entry.number, n < next

namespace Roster

open TrackedSet (Call markRow expired)

def empty : Roster := ⟨[], 0, .nil, by simp⟩

def numbers (roster : Roster) : List Nat := roster.entries.map Entry.number

def rows (roster : Roster) : List Row := roster.entries.map Entry.row

def set (roster : Roster) : TrackedSet := { rows := roster.rows }

def filter (roster : Roster) (p : Row → Bool) : Roster where
  entries := roster.entries.filter fun entry => p entry.row
  next := roster.next
  sorted := roster.sorted.sublist (List.filter_sublist.map _)
  lt_next n h := roster.lt_next n ((List.filter_sublist.map _).subset h)

def map (roster : Roster) (f : Row → Row) : Roster where
  entries := roster.entries.map fun entry => { entry with row := f entry.row }
  next := roster.next
  sorted := by simpa [Function.comp_def] using roster.sorted
  lt_next := by simpa using roster.lt_next

section Reconcile

variable (roster : Roster) (latest : List Connection)

def added : List Connection := (pairing roster.rows latest).2

def numbersAfter : List Nat :=
  roster.numbers ++ List.range' roster.next (roster.added latest).length

def entriesAfter : List Entry :=
  ((roster.numbersAfter latest).zip (SocketWatch.reconcile roster.rows latest).rows).map
    fun pair => ⟨pair.1, pair.2⟩

theorem length_numbersAfter : (roster.numbersAfter latest).length =
    (SocketWatch.reconcile roster.rows latest).rows.length := by
  rw [length_rows, numbersAfter, List.length_append, List.length_range', numbers, rows,
    List.length_map, List.length_map]
  rfl

theorem map_number_entriesAfter :
    (roster.entriesAfter latest).map Entry.number = roster.numbersAfter latest := by
  rw [entriesAfter, List.map_map]
  exact List.map_fst_zip (Nat.le_of_eq (roster.length_numbersAfter latest))

theorem map_row_entriesAfter : (roster.entriesAfter latest).map Entry.row =
    (SocketWatch.reconcile roster.rows latest).rows := by
  rw [entriesAfter, List.map_map]
  exact List.map_snd_zip (Nat.le_of_eq (roster.length_numbersAfter latest).symm)

theorem sorted_numbersAfter : (roster.numbersAfter latest).Pairwise (· < ·) := by
  rw [numbersAfter, List.pairwise_append]
  refine ⟨roster.sorted, List.pairwise_lt_range', ?_⟩
  intro n hn m hm
  have hlt := roster.lt_next n hn
  have hle := (List.mem_range'_1.mp hm).1
  omega

def reconcile : Roster where
  entries := roster.entriesAfter latest
  next := roster.next + (roster.added latest).length
  sorted := by
    rw [map_number_entriesAfter]
    exact roster.sorted_numbersAfter latest
  lt_next := by
    intro n hn
    rw [map_number_entriesAfter, numbersAfter, List.mem_append] at hn
    rcases hn with hn | hn
    · have hlt := roster.lt_next n hn
      omega
    · exact (List.mem_range'_1.mp hn).2

end Reconcile

def markClosed (roster : Roster) (now : Moment) : Roster := roster.map (markRow now)

def purgeExpired (roster : Roster) (policy : Retention) (now : Moment) (manual : Bool) : Roster :=
  if policy.keepClosed then roster
  else roster.filter fun row => !expired policy now manual row

def purgeClosed (roster : Roster) (policy : Retention) : Roster :=
  if policy.keepClosed then roster else roster.filter Row.isLive

def applySnapshot (roster : Roster) (latest : List Connection) (policy : Retention)
    (now : Moment) (manual : Bool) : Roster :=
  let roster := if policy.showClosed then roster.purgeExpired policy now manual else roster
  let roster := (roster.reconcile latest).markClosed now
  if policy.showClosed then roster else roster.purgeClosed policy

def call (roster : Roster) : Call → Roster
  | .reconcile latest => roster.reconcile latest
  | .applySnapshot latest policy now manual => roster.applySnapshot latest policy now manual
  | .markClosed now => roster.markClosed now
  | .purgeExpired policy now manual => roster.purgeExpired policy now manual
  | .purgeClosed policy => roster.purgeClosed policy

def run (roster : Roster) (calls : List Call) : Roster := calls.foldl call roster

theorem run_append (roster : Roster) (calls more : List Call) :
    roster.run (calls ++ more) = (roster.run calls).run more := List.foldl_append

section Set

variable (roster : Roster)

theorem set_filter (p : Row → Bool) :
    (roster.filter p).set = { rows := roster.set.rows.filter p } := by
  simp [set, rows, filter, List.filter_map, Function.comp_def]

theorem set_markClosed (now : Moment) :
    (roster.markClosed now).set = roster.set.markClosed now := by
  simp [set, rows, markClosed, map, TrackedSet.markClosed, Function.comp_def]

theorem set_reconcile (latest : List Connection) :
    (roster.reconcile latest).set = (roster.set.reconcile latest).1 := by
  rw [set, rows, reconcile, map_row_entriesAfter]
  rfl

theorem set_purgeExpired (policy : Retention) (now : Moment) (manual : Bool) :
    (roster.purgeExpired policy now manual).set =
      roster.set.purgeExpired policy now manual := by
  rw [purgeExpired, TrackedSet.purgeExpired]
  split_ifs
  · rfl
  · exact roster.set_filter _

theorem set_purgeClosed (policy : Retention) :
    (roster.purgeClosed policy).set = roster.set.purgeClosed policy := by
  rw [purgeClosed, TrackedSet.purgeClosed]
  split_ifs
  · rfl
  · exact roster.set_filter _

theorem set_applySnapshot (latest : List Connection) (policy : Retention) (now : Moment)
    (manual : Bool) : (roster.applySnapshot latest policy now manual).set =
      (roster.set.applySnapshot latest policy now manual).1 := by
  simp only [applySnapshot, TrackedSet.applySnapshot]
  split_ifs
  · rw [set_markClosed, set_reconcile, set_purgeExpired]
  · rw [set_purgeClosed, set_markClosed, set_reconcile]

theorem set_call (c : Call) : (roster.call c).set = roster.set.call c := by
  cases c with
  | reconcile latest => exact roster.set_reconcile latest
  | applySnapshot latest policy now manual =>
    exact roster.set_applySnapshot latest policy now manual
  | markClosed now => exact roster.set_markClosed now
  | purgeExpired policy now manual => exact roster.set_purgeExpired policy now manual
  | purgeClosed policy => exact roster.set_purgeClosed policy

theorem set_run (calls : List Call) : (roster.run calls).set = roster.set.run calls := by
  induction calls generalizing roster with
  | nil => rfl
  | cons c calls ih =>
    have hcall : roster.set.run (c :: calls) = (roster.set.call c).run calls := rfl
    rw [hcall, ← set_call]
    exact ih (roster.call c)

end Set

section Invariant

/-- What is kept when rows are dropped, marked or reconciled is kept by every call. -/
structure Invariant (p : Roster → Prop) : Prop where
  filter : ∀ {roster}, p roster → ∀ keep, p (roster.filter keep)
  markClosed : ∀ {roster}, p roster → ∀ now, p (roster.markClosed now)
  reconcile : ∀ {roster}, p roster → ∀ latest, p (roster.reconcile latest)

variable {p : Roster → Prop} {roster : Roster}

theorem Invariant.purgeExpired (hp : Invariant p) (h : p roster) (policy : Retention)
    (now : Moment) (manual : Bool) : p (roster.purgeExpired policy now manual) := by
  rw [Roster.purgeExpired]
  split_ifs
  · exact h
  · exact hp.filter h _

theorem Invariant.purgeClosed (hp : Invariant p) (h : p roster) (policy : Retention) :
    p (roster.purgeClosed policy) := by
  rw [Roster.purgeClosed]
  split_ifs
  · exact h
  · exact hp.filter h _

theorem Invariant.call (hp : Invariant p) (h : p roster) (c : Call) : p (roster.call c) := by
  cases c with
  | reconcile latest => exact hp.reconcile h latest
  | markClosed now => exact hp.markClosed h now
  | purgeExpired policy now manual => exact hp.purgeExpired h policy now manual
  | purgeClosed policy => exact hp.purgeClosed h policy
  | applySnapshot latest policy now manual =>
    simp only [Roster.call, applySnapshot]
    split_ifs
    · exact hp.markClosed (hp.reconcile (hp.purgeExpired h policy now manual) latest) now
    · exact hp.purgeClosed (hp.markClosed (hp.reconcile h latest) now) policy

theorem Invariant.run (hp : Invariant p) (h : p roster) (calls : List Call) :
    p (roster.run calls) := by
  induction calls generalizing roster with
  | nil => exact h
  | cons c calls ih => exact ih (hp.call h c)

end Invariant

section Entries

variable {roster : Roster} {entry other : Entry} {latest : List Connection}

theorem number_mem (h : entry ∈ roster.entries) : entry.number ∈ roster.numbers :=
  List.mem_map_of_mem h

theorem number_lt (h : entry ∈ roster.entries) : entry.number < roster.next :=
  roster.lt_next _ (number_mem h)

theorem eq_of_number_eq (h : entry ∈ roster.entries) (hother : other ∈ roster.entries)
    (hnumber : entry.number = other.number) : entry = other :=
  List.inj_on_of_nodup_map (roster.sorted.imp ne_of_lt) h hother hnumber

theorem mem_filter {p : Row → Bool} :
    entry ∈ (roster.filter p).entries ↔ entry ∈ roster.entries ∧ p entry.row := List.mem_filter

theorem next_purgeExpired (roster : Roster) (policy : Retention) (now : Moment) (manual : Bool) :
    (roster.purgeExpired policy now manual).next = roster.next := by
  rw [purgeExpired]
  split_ifs <;> rfl

theorem mem_of_mem_purgeExpired {policy : Retention} {now : Moment} {manual : Bool}
    (h : entry ∈ (roster.purgeExpired policy now manual).entries) : entry ∈ roster.entries := by
  rw [purgeExpired] at h
  split_ifs at h
  · exact h
  · exact (mem_filter.mp h).1

theorem mem_markClosed {now : Moment} : entry ∈ (roster.markClosed now).entries ↔
    ∃ old ∈ roster.entries, entry = { old with row := markRow now old.row } := by
  simp [markClosed, map, eq_comm]

theorem numbers_markClosed (now : Moment) : (roster.markClosed now).numbers = roster.numbers := by
  simp [numbers, markClosed, map, Function.comp_def]

theorem numbers_reconcile (latest : List Connection) : (roster.reconcile latest).numbers =
    roster.numbers ++ List.range' roster.next (roster.added latest).length :=
  roster.map_number_entriesAfter latest

theorem mem_entries_iff : entry ∈ roster.entries ↔
    ∃ i : Nat, roster.numbers[i]? = some entry.number ∧ roster.rows[i]? = some entry.row := by
  simp only [numbers, rows, List.getElem?_map, List.mem_iff_getElem?]
  apply exists_congr
  intro i
  cases roster.entries[i]? with
  | none => simp
  | some other =>
    obtain ⟨number, row⟩ := entry
    obtain ⟨number', row'⟩ := other
    simp

theorem exists_settled (latest : List Connection) (h : entry ∈ roster.entries) :
    ∃ slot ∈ (pairing roster.rows latest).1, slot.Sound ∧ slot.row = entry.row ∧
      { entry with row := slot.settle } ∈ (roster.reconcile latest).entries := by
  obtain ⟨i, hnumber, hrow⟩ := mem_entries_iff.mp h
  obtain ⟨after, hafter⟩ := exists_after latest hrow
  obtain ⟨slot, hslot, hsound, hslotRow, rfl⟩ := exists_slot hrow hafter
  refine ⟨slot, List.mem_of_getElem? hslot, hsound, hslotRow.symm, ?_⟩
  apply mem_entries_iff.mpr
  refine ⟨i, ?_, ?_⟩
  · have hi : i < roster.numbers.length := (List.getElem?_eq_some_iff.mp hnumber).1
    rw [numbers_reconcile, List.getElem?_append_left hi, hnumber]
  · rw [rows, reconcile, map_row_entriesAfter, hafter]

theorem mem_reconcile (h : entry ∈ (roster.reconcile latest).entries) :
    (∃ old ∈ roster.entries, ∃ slot ∈ (pairing roster.rows latest).1, slot.Sound ∧
      slot.row = old.row ∧ entry = { old with row := slot.settle }) ∨
    roster.next ≤ entry.number ∧
      ∃ seen ∈ roster.added latest, entry.row = { connection := seen, change := .insert } := by
  obtain ⟨i, hnumber, hrow⟩ := mem_entries_iff.mp h
  rw [numbers_reconcile] at hnumber
  rw [rows, reconcile, map_row_entriesAfter] at hrow
  by_cases hi : i < roster.entries.length
  · have hold : roster.rows[i]? = some roster.entries[i].row := by simp [rows, hi]
    have hkept : roster.numbers[i]? = some roster.entries[i].number := by simp [numbers, hi]
    obtain ⟨slot, hslot, hsound, hslotRow, hsettle⟩ := exists_slot hold hrow
    rw [List.getElem?_append_left (by simpa [numbers] using hi), hkept] at hnumber
    refine .inl ⟨roster.entries[i], List.getElem_mem hi, slot, List.mem_of_getElem? hslot, hsound,
      hslotRow.symm, ?_⟩
    rw [← hsettle, Option.some.inj hnumber]
  · have hslots : (roster.numbers.length ≤ i) ∧
        ((pairing roster.rows latest).1.map Slot.settle).length ≤ i := by
      simp only [numbers, rows, List.length_map, length_slots]
      omega
    rw [List.getElem?_append_right hslots.1] at hnumber
    rw [rows_eq_append, List.getElem?_append_right hslots.2] at hrow
    obtain ⟨seen, hseen, hinserted⟩ := List.mem_map.mp (List.mem_of_getElem? hrow)
    exact .inr ⟨(List.mem_range'_1.mp (List.mem_of_getElem? hnumber)).1, seen, hseen,
      hinserted.symm⟩

theorem exists_added {seen : Connection} (h : seen ∈ roster.added latest) :
    ∃ entry ∈ (roster.reconcile latest).entries, roster.next ≤ entry.number ∧
      entry.row = { connection := seen, change := .insert } := by
  have hrow : { connection := seen, change := .insert } ∈ (roster.reconcile latest).rows := by
    rw [rows, reconcile, map_row_entriesAfter, rows_eq_append]
    exact List.mem_append_right _ (List.mem_map_of_mem h)
  obtain ⟨entry, hentry, hinserted⟩ := List.mem_map.mp hrow
  refine ⟨entry, hentry, ?_, hinserted⟩
  rcases mem_reconcile hentry with ⟨old, -, slot, -, hsound, -, rfl⟩ | ⟨hnumber, -⟩
  · exact absurd (congrArg Row.change hinserted) (Slot.change_settle_ne_insert hsound)
  · exact hnumber

theorem mem_numbers_filter {p : Row → Bool} (h : entry ∈ roster.entries) :
    entry.number ∈ (roster.filter p).numbers ↔ p entry.row := by
  constructor
  · intro hmem
    obtain ⟨other, hother, hnumber⟩ := List.mem_map.mp hmem
    obtain ⟨hother, hp⟩ := mem_filter.mp hother
    rwa [← eq_of_number_eq hother h hnumber]
  · intro hp
    exact number_mem (mem_filter.mpr ⟨h, hp⟩)

end Entries

section Follows

variable {roster : Roster} {entry : Entry} {n : Nat} {p : Row → Prop}

def Follows (n : Nat) (p : Row → Prop) (roster : Roster) : Prop :=
  n < roster.next ∧ ∀ other ∈ roster.entries, other.number = n → p other.row

theorem follows_of_mem (h : entry ∈ roster.entries) (hp : p entry.row) :
    Follows entry.number p roster := by
  refine ⟨number_lt h, ?_⟩
  intro other hother hnumber
  rwa [eq_of_number_eq hother h hnumber]

theorem invariant_follows (hmark : ∀ now row, p row → p (markRow now row))
    (hsettle : ∀ slot : Slot, slot.Sound → p slot.row → p slot.settle) :
    Invariant (Follows n p) where
  filter h keep := ⟨h.1, fun other hother => h.2 other (mem_filter.mp hother).1⟩
  markClosed := by
    rintro roster ⟨hlt, hfollows⟩ now
    refine ⟨hlt, ?_⟩
    intro other hother hnumber
    obtain ⟨old, hold, rfl⟩ := mem_markClosed.mp hother
    exact hmark now old.row (hfollows old hold hnumber)
  reconcile := by
    rintro roster ⟨hlt, hfollows⟩ latest
    refine ⟨Nat.lt_add_right _ hlt, ?_⟩
    intro other hother hnumber
    rcases mem_reconcile hother with ⟨old, hold, slot, -, hsound, hrow, rfl⟩ | ⟨hnext, -⟩
    · apply hsettle slot hsound
      rw [hrow]
      exact hfollows old hold hnumber
    · -- Rows that arrive get numbers of their own.
      omega

end Follows

def Later (start roster : Roster) : Prop :=
  start.next ≤ roster.next ∧ ∀ n ∈ roster.numbers, n < start.next → n ∈ start.numbers

theorem invariant_later (start : Roster) : Invariant start.Later where
  filter := by
    rintro roster ⟨hnext, hnumbers⟩ keep
    exact ⟨hnext, fun n hn => hnumbers n ((List.filter_sublist.map _).subset hn)⟩
  markClosed := by
    rintro roster ⟨hnext, hnumbers⟩ now
    refine ⟨hnext, ?_⟩
    rwa [numbers_markClosed]
  reconcile := by
    rintro roster ⟨hnext, hnumbers⟩ latest
    refine ⟨Nat.le_add_right_of_le hnext, ?_⟩
    intro n hn hlt
    rw [numbers_reconcile, List.mem_append] at hn
    rcases hn with hn | hn
    · exact hnumbers n hn hlt
    · have hle := (List.mem_range'_1.mp hn).1
      omega

theorem later_run (start : Roster) (calls : List Call) : start.Later (start.run calls) :=
  (invariant_later start).run ⟨le_rfl, fun _ hn _ => hn⟩ calls

end Roster

end SocketWatch
