import SocketWatch.Proofs.Tracking.LiveView
import SocketWatch.Proofs.Tracking.Roster

namespace SocketWatch

def Row.TimeFits (row : Row) : Prop :=
  row.closedAt ≠ none → row.change = .delete ∧ row.connection.state = .closed

theorem Row.TimeFits.closedAt_eq_none {row : Row} (h : row.TimeFits) (hlive : row.isLive) :
    row.closedAt = none := by
  by_contra htime
  have hclosed := Row.isLive_eq_false_iff.mpr (h htime).1
  simp [hlive] at hclosed

theorem Slot.closedAt_settle (slot : Slot) : slot.settle.closedAt = slot.row.closedAt := by
  cases slot with
  | past row => rfl
  | free row => rfl
  | paired row seen =>
    by_cases h : unchanged row seen
    · rw [settle_of_unchanged h]
      rfl
    · rw [settle_of_changed h]
      rfl

theorem Slot.timeFits_settle {slot : Slot} (hsound : slot.Sound) (h : slot.row.TimeFits) :
    slot.settle.TimeFits := by
  cases slot with
  | past row => exact h
  | free row =>
    intro htime
    exact absurd (h.closedAt_eq_none hsound) htime
  | paired row seen =>
    intro htime
    rw [closedAt_settle] at htime
    exact absurd (h.closedAt_eq_none hsound.1) htime

theorem Slot.settle_of_closed {slot : Slot} (hsound : slot.Sound)
    (h : slot.row.change = .delete) : slot.settle = slot.row := by
  have hclosed := Row.isLive_eq_false_iff.mpr h
  cases slot with
  | past row => rfl
  | free row =>
    have hlive : row.isLive := hsound
    simp [Slot.row, hlive] at hclosed
  | paired row seen =>
    have hlive : row.isLive := hsound.1
    simp [Slot.row, hlive] at hclosed

namespace TrackedSet

theorem markRow_of_closedAt {now : Moment} {row : Row} (h : row.closedAt ≠ none) :
    markRow now row = row := if_neg fun hmark => h hmark.2

theorem timeFits_markRow (now : Moment) {row : Row} (h : row.TimeFits) :
    (markRow now row).TimeFits := by
  unfold markRow
  split_ifs with hclosed
  · intro _
    exact ⟨hclosed.1, rfl⟩
  · exact h

theorem closedAt_of_markRow {now : Moment} {row : Row} (h : (markRow now row).change = .delete) :
    (markRow now row).closedAt ≠ none := by
  unfold markRow at h ⊢
  split_ifs at h ⊢ with hclosed
  · simp
  · intro htime
    exact hclosed ⟨h, htime⟩

theorem closedAt_of_applySnapshot (set : TrackedSet) (latest : List Connection)
    (policy : Retention) (now : Moment) (manual : Bool) :
    ∀ row ∈ (set.applySnapshot latest policy now manual).1.rows,
      row.change = .delete → row.closedAt ≠ none := by
  have hmarked (set : TrackedSet) : ∀ row ∈ (set.markClosed now).rows,
      row.change = .delete → row.closedAt ≠ none := by
    intro row hrow
    obtain ⟨old, -, rfl⟩ := List.mem_map.mp hrow
    exact closedAt_of_markRow
  intro row hrow
  simp only [applySnapshot, purgeClosed] at hrow
  split_ifs at hrow
  · exact hmarked _ row hrow
  · exact hmarked _ row hrow
  · exact hmarked _ row (List.mem_filter.mp hrow).1

end TrackedSet

namespace Roster

open TrackedSet (Call markRow)

variable {roster : Roster} {entry : Entry}

def TimesFit (roster : Roster) : Prop := ∀ entry ∈ roster.entries, entry.row.TimeFits

theorem invariant_timesFit : Invariant TimesFit where
  filter h keep entry hentry := h entry (mem_filter.mp hentry).1
  markClosed := by
    intro roster h now entry hentry
    obtain ⟨old, hold, rfl⟩ := mem_markClosed.mp hentry
    exact TrackedSet.timeFits_markRow now (h old hold)
  reconcile := by
    intro roster h latest entry hentry
    rcases mem_reconcile hentry with ⟨old, hold, slot, -, hsound, hrow, rfl⟩ | ⟨-, seen, -, hrow⟩
    · apply Slot.timeFits_settle hsound
      rw [hrow]
      exact h old hold
    · intro htime
      rw [hrow] at htime
      exact absurd rfl htime

theorem timesFit_run (calls : List Call) : (empty.run calls).TimesFit :=
  invariant_timesFit.run (by simp [TimesFit, empty]) calls

def Fixed (entry : Entry) (roster : Roster) : Prop :=
  entry.number < roster.next ∧
    ∀ other ∈ roster.entries, other.number = entry.number → other = entry

theorem fixed_run (hclosed : entry.row.change = .delete) (htime : entry.row.closedAt ≠ none)
    (h : entry ∈ roster.entries) (calls : List Call) : Fixed entry (roster.run calls) := by
  have hmark : ∀ now row, row = entry.row → markRow now row = entry.row := by
    rintro now row rfl
    exact TrackedSet.markRow_of_closedAt htime
  have hsettle : ∀ slot : Slot, slot.Sound → slot.row = entry.row → slot.settle = entry.row := by
    intro slot hsound hrow
    -- A closed row takes no part in a cycle.
    rw [← hrow] at hclosed
    rw [Slot.settle_of_closed hsound hclosed, hrow]
  have hfollows := (invariant_follows hmark hsettle).run (follows_of_mem h rfl) calls
  refine ⟨hfollows.1, ?_⟩
  rintro ⟨number, row⟩ hother rfl
  rw [show row = entry.row from hfollows.2 _ hother rfl]

theorem key_of_paired {latest : List Connection} {row : Row} {seen : Connection}
    (h : .paired row seen ∈ (pairing roster.rows latest).1) :
    ∃ entry ∈ roster.entries, entry.row = row ∧ row.isLive ∧ row.connection.key = seen.key := by
  have hrow : row ∈ roster.rows := by
    rw [← map_row_pairing roster.rows latest]
    exact List.mem_map_of_mem h
  obtain ⟨entry, hentry, rfl⟩ := List.mem_map.mp hrow
  exact ⟨entry, hentry, rfl, sound_pairing _ latest _ h⟩

theorem mem_added {latest : List Connection} {seen : Connection} (hseen : seen ∈ latest)
    (hkey : ∀ entry ∈ roster.entries, entry.row.isLive → entry.row.connection.key ≠ seen.key) :
    seen ∈ roster.added latest := by
  have hmem := (seen_pairing_perm roster.rows latest).symm.subset hseen
  rcases List.mem_append.mp hmem with hmem | hmem
  · obtain ⟨slot, hslot, hseen⟩ := List.mem_filterMap.mp hmem
    cases slot with
    | past row => simp [Slot.seen?] at hseen
    | free row => simp [Slot.seen?] at hseen
    | paired row record =>
      obtain rfl : record = seen := Option.some.inj hseen
      obtain ⟨entry, hentry, rfl, hlive, hsame⟩ := key_of_paired hslot
      exact absurd hsame (hkey entry hentry hlive)
  · exact hmem

theorem mem_markClosed_of_isLive (h : entry ∈ roster.entries) (hlive : entry.row.isLive)
    (now : Moment) : entry ∈ (roster.markClosed now).entries := by
  refine mem_markClosed.mpr ⟨entry, h, ?_⟩
  rw [TrackedSet.markRow_of_isLive now hlive]

theorem mem_purgeClosed_of_isLive (h : entry ∈ roster.entries) (hlive : entry.row.isLive)
    (policy : Retention) : entry ∈ (roster.purgeClosed policy).entries := by
  rw [purgeClosed]
  split_ifs
  · exact h
  · exact mem_filter.mpr ⟨h, hlive⟩

theorem exists_returned {c : Call} {latest : List Connection} {seen : Connection}
    (hc : c.snapshot? = some latest) (hseen : seen ∈ latest)
    (hkey : ∀ entry ∈ roster.entries, entry.row.isLive → entry.row.connection.key ≠ seen.key) :
    ∃ entry ∈ (roster.call c).entries, roster.next ≤ entry.number ∧
      entry.row = { connection := seen, change := .insert } := by
  cases c with
  | reconcile other =>
    obtain rfl : other = latest := by simpa [Call.snapshot?] using hc
    exact exists_added (mem_added hseen hkey)
  | applySnapshot other policy now manual =>
    obtain rfl : other = latest := by simpa [Call.snapshot?] using hc
    simp only [call, applySnapshot]
    split_ifs
    · have hpurgedKey : ∀ entry ∈ (roster.purgeExpired policy now manual).entries,
          entry.row.isLive → entry.row.connection.key ≠ seen.key := by
        intro entry hentry
        exact hkey entry (mem_of_mem_purgeExpired hentry)
      obtain ⟨entry, hentry, hnumber, hrow⟩ := exists_added (mem_added hseen hpurgedKey)
      have hlive : entry.row.isLive := by rw [hrow]; rfl
      rw [next_purgeExpired] at hnumber
      exact ⟨entry, mem_markClosed_of_isLive hentry hlive now, hnumber, hrow⟩
    · obtain ⟨entry, hentry, hnumber, hrow⟩ := exists_added (mem_added hseen hkey)
      have hlive : entry.row.isLive := by rw [hrow]; rfl
      have hmarked := mem_markClosed_of_isLive hentry hlive now
      exact ⟨entry, mem_purgeClosed_of_isLive hmarked hlive policy, hnumber, hrow⟩
  | markClosed | purgeExpired | purgeClosed => simp [Call.snapshot?] at hc

theorem exists_shown {c : Call} {latest : List Connection} {seen : Connection}
    (hc : c.snapshot? = some latest) (hseen : seen ∈ latest) :
    ∃ entry ∈ (roster.call c).entries, entry.row.isLive ∧
      entry.row.connection.sighting = seen.sighting := by
  have hview : (liveView (roster.call c).set.rows).Perm (latest.map Connection.sighting) := by
    rw [set_call]
    exact TrackedSet.liveView_call hc
  have hmem : seen.sighting ∈ liveView (roster.call c).set.rows :=
    hview.mem_iff.mpr (List.mem_map_of_mem hseen)
  obtain ⟨row, hrow, hsighting⟩ := List.mem_map.mp hmem
  obtain ⟨hrow, hlive⟩ := List.mem_filter.mp hrow
  obtain ⟨entry, hentry, rfl⟩ := List.mem_map.mp hrow
  exact ⟨entry, hentry, hlive, hsighting⟩

/-- Whatever is called from the empty set on: a row with a time of closing is closed, is never
changed and never paired, its number is never given again, and a record of its key is shown by
another row. After every poll all closed rows have their time. -/
theorem closed_rows_stay (calls : List Call) :
    let roster := empty.run calls
    roster.set = ({} : TrackedSet).run calls ∧
    (∀ entry ∈ roster.entries, entry.row.closedAt ≠ none →
      entry.row.change = .delete ∧ entry.row.connection.state = .closed ∧
      ∀ more : List Call,
        (∀ other ∈ (roster.run more).entries, other.number = entry.number → other = entry) ∧
        (entry.number ∉ (roster.run more).numbers → ∀ further : List Call,
          entry.number ∉ ((roster.run more).run further).numbers)) ∧
    (∀ latest row seen, .paired row seen ∈ (pairing roster.rows latest).1 →
      row.closedAt = none) ∧
    (∀ c latest, c.snapshot? = some latest → ∀ seen ∈ latest,
      (∃ other ∈ (roster.call c).entries, other.row.isLive ∧
        other.row.connection.sighting = seen.sighting ∧
        ∀ entry ∈ roster.entries, entry.row.closedAt ≠ none → other.number ≠ entry.number) ∧
      ((∀ entry ∈ roster.entries, entry.row.isLive → entry.row.connection.key ≠ seen.key) →
        ∃ other ∈ (roster.call c).entries, roster.next ≤ other.number ∧
          other.row = { connection := seen, change := .insert })) ∧
    ∀ latest policy now manual, ∀ row ∈ (roster.set.applySnapshot latest policy now manual).1.rows,
      row.change = .delete → row.closedAt ≠ none := by
  intro roster
  have hfits : roster.TimesFit := timesFit_run calls
  refine ⟨empty.set_run calls, ?_, ?_, ?_, roster.set.closedAt_of_applySnapshot⟩
  · intro entry hentry htime
    obtain ⟨hclosed, hstate⟩ := hfits entry hentry htime
    refine ⟨hclosed, hstate, fun more => ?_⟩
    have hfixed := fixed_run hclosed htime hentry more
    refine ⟨hfixed.2, ?_⟩
    intro hgone further hnumber
    exact hgone ((later_run _ further).2 _ hnumber hfixed.1)
  · intro latest row seen hpaired
    obtain ⟨entry, hentry, rfl, hlive, -⟩ := key_of_paired hpaired
    exact (hfits entry hentry).closedAt_eq_none hlive
  · intro c latest hc seen hseen
    refine ⟨?_, exists_returned hc hseen⟩
    obtain ⟨other, hother, hlive, hsighting⟩ := exists_shown hc hseen
    refine ⟨other, hother, hlive, hsighting, ?_⟩
    intro entry hentry htime hnumber
    have hclosed := (hfits entry hentry htime).1
    have hfixed := fixed_run hclosed htime hentry [c]
    obtain rfl := hfixed.2 other hother hnumber
    rw [Row.isLive_eq_false_iff.mpr hclosed] at hlive
    exact absurd hlive (by simp)

theorem closed_rows_stay_of_returning_socket :
    let calls : List Call := [.reconcile [{ inode := 7 }], .reconcile [], .markClosed 5]
    let roster := empty.run calls
    let row : Row := ⟨{ state := .closed, inode := 7 }, .delete, some 5⟩
    let closed : Entry := ⟨0, row⟩
    roster.entries = [closed] ∧
      (∀ more : List Call, ∀ other ∈ (roster.run more).entries, other.number = 0 →
        other = closed) ∧
      ∃ other ∈ (roster.call (.applySnapshot [{ inode := 7 }] {} 3 false)).entries,
        roster.next ≤ other.number ∧
          other.row = { connection := { inode := 7 }, change := .insert } := by
  intro calls roster row closed
  have hentries : roster.entries = [closed] := by decide
  obtain ⟨-, hclosed, -, hshown, -⟩ := closed_rows_stay calls
  have hmem : closed ∈ roster.entries := by simp [hentries]
  refine ⟨hentries, fun more => ((hclosed closed hmem (by simp [closed, row])).2.2 more).1, ?_⟩
  apply (hshown _ _ rfl _ (by simp)).2
  intro entry hentry hlive
  rw [hentries, List.mem_singleton] at hentry
  rw [hentry] at hlive
  exact absurd hlive (by decide)

end Roster

end SocketWatch
