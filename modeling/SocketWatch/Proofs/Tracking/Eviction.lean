import Mathlib.Data.List.Induction
import Mathlib.Data.List.Sort
import SocketWatch.Proofs.Tracking.ClosedRows

namespace SocketWatch

structure Poll where
  latest : List Connection
  policy : Retention
  now : Moment
  manual : Bool

def Poll.call (poll : Poll) : TrackedSet.Call :=
  .applySnapshot poll.latest poll.policy poll.now poll.manual

theorem TrackedSet.expired_iff {policy : Retention} {now : Moment} {manual : Bool} {row : Row}
    (h : row.change = .delete → row.closedAt ≠ none) :
    expired policy now manual row ↔ row.change = .delete ∧ ∃ closedAt,
      row.closedAt = some closedAt ∧ (manual ∨ policy.linger < now - closedAt) := by
  cases hclosed : row.isLive with
  | true =>
    have hchange : row.change ≠ .delete := by
      rw [ne_eq, ← Row.isLive_eq_false_iff, hclosed]
      simp
    simp [expired, hclosed, hchange]
  | false =>
    have hchange := Row.isLive_eq_false_iff.mp hclosed
    obtain ⟨closedAt, htime⟩ := Option.ne_none_iff_exists'.mp (h hchange)
    simp [expired, hclosed, hchange, htime]

namespace Roster

open TrackedSet (Call markRow expired)

section Survivors

variable {roster : Roster} {entry : Entry} {latest : List Connection} {policy : Retention}
  {now : Moment} {manual : Bool}

theorem mem_numbers_reconcile {n : Nat} (h : n < roster.next) :
    n ∈ (roster.reconcile latest).numbers ↔ n ∈ roster.numbers := by
  rw [numbers_reconcile, List.mem_append, or_iff_left]
  intro hmem
  have hle := (List.mem_range'_1.mp hmem).1
  omega

theorem notMem_purgeExpired (h : entry ∈ roster.entries) :
    entry.number ∉ (roster.purgeExpired policy now manual).numbers ↔
      ¬policy.keepClosed ∧ expired policy now manual entry.row := by
  rw [purgeExpired]
  split_ifs with hkeep
  · simp [hkeep, number_mem h]
  · rw [mem_numbers_filter h]
    simp [hkeep]

theorem notMem_purgeClosed (h : entry ∈ roster.entries) :
    entry.number ∉ (roster.purgeClosed policy).numbers ↔
      ¬policy.keepClosed ∧ ¬entry.row.isLive := by
  rw [purgeClosed]
  split_ifs with hkeep
  · simp [hkeep, number_mem h]
  · rw [mem_numbers_filter h]
    simp [hkeep]

theorem notMem_of_shown (hshown : policy.showClosed) (h : entry ∈ roster.entries) :
    entry.number ∉ (roster.applySnapshot latest policy now manual).numbers ↔
      ¬policy.keepClosed ∧ expired policy now manual entry.row := by
  have hlt : entry.number < (roster.purgeExpired policy now manual).next := by
    rw [next_purgeExpired]
    exact number_lt h
  rw [applySnapshot, if_pos hshown, if_pos hshown, numbers_markClosed, mem_numbers_reconcile hlt,
    notMem_purgeExpired h]

theorem notMem_of_hidden (hhidden : ¬policy.showClosed) (h : entry ∈ roster.entries) :
    entry.number ∉ (roster.applySnapshot latest policy now manual).numbers ↔
      ¬policy.keepClosed ∧ ∃ row, ⟨entry.number, row⟩ ∈ (roster.reconcile latest).entries ∧
        row.change = .delete := by
  rw [applySnapshot, if_neg hhidden, if_neg hhidden]
  obtain ⟨slot, -, -, -, hsettled⟩ := exists_settled latest h
  have hmarked : ⟨entry.number, markRow now slot.settle⟩ ∈
      ((roster.reconcile latest).markClosed now).entries := mem_markClosed.mpr ⟨_, hsettled, rfl⟩
  refine (notMem_purgeClosed hmarked).trans (and_congr Iff.rfl ?_)
  rw [TrackedSet.isLive_markRow, Bool.not_eq_true, Row.isLive_eq_false_iff]
  constructor
  · intro hclosed
    exact ⟨slot.settle, hsettled, hclosed⟩
  · rintro ⟨row, hrow, hclosed⟩
    have hsame := eq_of_number_eq hrow hsettled rfl
    obtain rfl : row = slot.settle := congrArg Entry.row hsame
    exact hclosed

theorem Later.survivors_eq {start roster : Roster} (h : start.Later roster) :
    start.numbers.filter (· ∈ roster.numbers) = roster.numbers.filter (· < start.next) := by
  apply (start.sorted.filter _).eq_of_mem_iff (roster.sorted.filter _)
  intro n
  simp only [List.mem_filter, decide_eq_true_eq]
  constructor
  · rintro ⟨hstart, hroster⟩
    exact ⟨hroster, start.lt_next n hstart⟩
  · rintro ⟨hroster, hlt⟩
    exact ⟨h.2 n hroster hlt, hroster⟩

end Survivors

variable {roster : Roster}

theorem closedAt_of_polls (polls : List Poll) : ∀ entry ∈ (empty.run (polls.map Poll.call)).entries,
    entry.row.change = .delete → entry.row.closedAt ≠ none := by
  intro entry hentry
  have hrow : entry.row ∈ (empty.run (polls.map Poll.call)).set.rows := List.mem_map_of_mem hentry
  rw [set_run] at hrow
  induction polls using List.reverseRecOn with
  | nil => simp [TrackedSet.run, empty, set, rows] at hrow
  | append_singleton polls poll _ =>
    rw [List.map_append, List.map_singleton, TrackedSet.run_concat] at hrow
    exact TrackedSet.closedAt_of_applySnapshot _ _ _ _ _ _ hrow

theorem numbers_of_keepClosed {poll : Poll} (hkeep : poll.policy.keepClosed) :
    ∀ n ∈ roster.numbers, n ∈ (roster.call poll.call).numbers := by
  intro n hn
  obtain ⟨entry, hentry, rfl⟩ := List.mem_map.mp hn
  by_contra hgone
  by_cases hshown : poll.policy.showClosed
  · exact ((notMem_of_shown hshown hentry).mp hgone).1 hkeep
  · exact ((notMem_of_hidden hshown hentry).mp hgone).1 hkeep

theorem numbers_of_keepClosed_run {polls : List Poll}
    (hkeep : ∀ poll ∈ polls, poll.policy.keepClosed) :
    ∀ n ∈ roster.numbers, n ∈ (roster.run (polls.map Poll.call)).numbers := by
  induction polls generalizing roster with
  | nil => exact fun n hn => hn
  | cons poll polls ih =>
    intro n hn
    have hrest : ∀ poll ∈ polls, poll.policy.keepClosed := by
      intro other hother
      exact hkeep other (by simp [hother])
    exact ih hrest n (numbers_of_keepClosed (hkeep poll (by simp)) n hn)

theorem mem_numbers_of_arrival {poll : Poll} (hshown : poll.policy.showClosed) {n : Nat}
    (hnew : roster.next ≤ n) (hn : n < (roster.call poll.call).next) :
    n ∈ (roster.call poll.call).numbers := by
  rw [Poll.call, call, applySnapshot, if_pos hshown, if_pos hshown] at hn ⊢
  have hpurged := roster.next_purgeExpired poll.policy poll.now poll.manual
  generalize roster.purgeExpired poll.policy poll.now poll.manual = purged at hn hpurged ⊢
  have hlt : n < purged.next + (purged.added poll.latest).length := hn
  rw [numbers_markClosed, numbers_reconcile, List.mem_append, List.mem_range'_1]
  omega

theorem deleted_before_gone {polls : List Poll} (hshown : ∀ poll ∈ polls, poll.policy.showClosed) :
    ∀ n < (empty.run (polls.map Poll.call)).next, n ∉ (empty.run (polls.map Poll.call)).numbers →
      ∃ earlier, earlier <+: polls ∧ ∃ entry ∈ (empty.run (earlier.map Poll.call)).entries,
        entry.number = n ∧ entry.row.change = .delete := by
  induction polls using List.reverseRecOn with
  | nil => exact fun n hn _ => absurd hn (Nat.not_lt_zero n)
  | append_singleton polls poll ih =>
    have hrest : ∀ poll ∈ polls, poll.policy.showClosed := by
      intro other hother
      exact hshown other (by simp [hother])
    have hlast : poll.policy.showClosed := hshown poll (by simp)
    intro n hn hgone
    rw [List.map_append, List.map_singleton, run_append] at hn hgone
    -- The row has gone in the last poll or before it, or it would have arrived in the last one.
    by_cases hold : n < (empty.run (polls.map Poll.call)).next
    · by_cases hmem : n ∈ (empty.run (polls.map Poll.call)).numbers
      · obtain ⟨entry, hentry, rfl⟩ := List.mem_map.mp hmem
        have hexpired := ((notMem_of_shown hlast hentry).mp hgone).2
        have hclosed := (TrackedSet.expired_iff (closedAt_of_polls polls entry hentry)).mp hexpired
        exact ⟨polls, List.prefix_append polls [poll], entry, hentry, rfl, hclosed.1⟩
      · obtain ⟨earlier, hprefix, hdeleted⟩ := ih hrest n hold hmem
        exact ⟨earlier, hprefix.trans (List.prefix_append polls [poll]), hdeleted⟩
    · exact absurd (mem_numbers_of_arrival hlast (Nat.le_of_not_lt hold) hn) hgone

theorem rows_of_neither {poll : Poll} (hhidden : ¬poll.policy.showClosed)
    (hdropped : ¬poll.policy.keepClosed) :
    (∀ row ∈ (roster.call poll.call).rows, row.isLive) ∧
      ((roster.call poll.call).rows.map fun row => row.connection.sighting).Perm
        (poll.latest.map Connection.sighting) := by
  have hlive : ∀ row ∈ (roster.call poll.call).rows, row.isLive := by
    intro row hrow
    obtain ⟨entry, hentry, rfl⟩ := List.mem_map.mp hrow
    rw [Poll.call, call, applySnapshot, if_neg hhidden, purgeClosed, if_neg hdropped] at hentry
    exact (mem_filter.mp hentry).2
  refine ⟨hlive, ?_⟩
  have hview : (liveView (roster.call poll.call).set.rows).Perm
      (poll.latest.map Connection.sighting) := by
    rw [set_call]
    exact TrackedSet.liveView_call rfl
  have hall : liveView (roster.call poll.call).set.rows =
      (roster.call poll.call).rows.map fun row => row.connection.sighting := by
    rw [liveView, set, List.filter_eq_self.mpr hlive]
  rwa [hall] at hview

/-- Over runs of polls from the empty set on: who leaves in a poll, and that the others keep their
order. Kept rows never leave, rows that are shown leave only after a poll that has found them
closed, and where closed rows are neither kept nor shown, the rows are those of the snapshot. -/
theorem leaves_iff (polls : List Poll) (poll : Poll) :
    let before := empty.run (polls.map Poll.call)
    let after := before.call poll.call
    let policy := poll.policy
    after.set = ({} : TrackedSet).run ((polls ++ [poll]).map Poll.call) ∧
    before.numbers.filter (· ∈ after.numbers) = after.numbers.filter (· < before.next) ∧
    (∀ entry ∈ before.entries, entry.number ∉ after.numbers ↔
      policy.keepClosed = false ∧
        (policy.showClosed = true ∧ entry.row.change = .delete ∧
            (∃ closedAt, entry.row.closedAt = some closedAt ∧
              (poll.manual = true ∨ policy.linger < poll.now - closedAt)) ∨
          policy.showClosed = false ∧ ∃ row,
            ⟨entry.number, row⟩ ∈ (before.reconcile poll.latest).entries ∧
              row.change = .delete)) ∧
    (∀ more : List Poll, (∀ later ∈ more, later.policy.keepClosed = true) →
      ∀ n ∈ before.numbers, n ∈ (before.run (more.map Poll.call)).numbers) ∧
    ((∀ earlier ∈ polls, earlier.policy.showClosed = true) →
      ∀ n < before.next, n ∉ before.numbers → ∃ earlier, earlier <+: polls ∧
        ∃ entry ∈ (empty.run (earlier.map Poll.call)).entries,
          entry.number = n ∧ entry.row.change = .delete) ∧
    (policy.showClosed = false → policy.keepClosed = false →
      after.rows.length = poll.latest.length ∧ (∀ row ∈ after.rows, row.isLive) ∧
        (after.rows.map fun row => row.connection.sighting).Perm
          (poll.latest.map Connection.sighting)) := by
  intro before after policy
  refine ⟨?_, (later_run before [poll.call]).survivors_eq, ?_, ?_, deleted_before_gone, ?_⟩
  · rw [List.map_append, List.map_singleton, TrackedSet.run_concat, set_call, set_run]
    rfl
  · intro entry hentry
    have htime := closedAt_of_polls polls entry hentry
    cases hshown : policy.showClosed with
    | true =>
      refine (notMem_of_shown hshown hentry).trans ?_
      rw [TrackedSet.expired_iff htime]
      simp
    | false =>
      refine (notMem_of_hidden (ne_true_of_eq_false hshown) hentry).trans ?_
      simp [policy]
  · intro more hkeep
    exact numbers_of_keepClosed_run hkeep
  · intro hhidden hdropped
    obtain ⟨hlive, hview⟩ : (∀ row ∈ after.rows, row.isLive) ∧ _ :=
      rows_of_neither (ne_true_of_eq_false hhidden) (ne_true_of_eq_false hdropped)
    refine ⟨?_, hlive, hview⟩
    simpa using hview.length_eq

theorem leaves_iff_of_lingering :
    let policy : Retention := { keepClosed := false }
    let polls : List Poll := [⟨[{ inode := 7 }], policy, 0, false⟩, ⟨[], policy, 1, false⟩]
    let before := empty.run (polls.map Poll.call)
    before.numbers = [0] ∧
      0 ∈ (before.call (Poll.call ⟨[], policy, 3001, false⟩)).numbers ∧
      0 ∉ (before.call (Poll.call ⟨[], policy, 3002, false⟩)).numbers ∧
      0 ∉ (before.call (Poll.call ⟨[], policy, 0, true⟩)).numbers := by
  intro policy polls before
  let closed : Entry := ⟨0, ⟨{ state := .closed, inode := 7 }, .delete, some 1⟩⟩
  have hclosed : closed ∈ before.entries := by decide
  refine ⟨by decide, ?_, ?_, ?_⟩
  · have hiff := (leaves_iff polls ⟨[], policy, 3001, false⟩).2.2.1 closed hclosed
    by_contra hgone
    simpa [closed, policy] using hiff.mp hgone
  · apply ((leaves_iff polls ⟨[], policy, 3002, false⟩).2.2.1 closed hclosed).mpr
    simp [closed, policy]
  · apply ((leaves_iff polls ⟨[], policy, 0, true⟩).2.2.1 closed hclosed).mpr
    simp [closed, policy]

end Roster

end SocketWatch
