import SocketWatch.Tracking.TrackedSet
import SocketWatch.Proofs.Tracking.Slots

namespace SocketWatch.TrackedSet

inductive Call where
  | reconcile (latest : List Connection)
  | applySnapshot (latest : List Connection) (policy : Retention) (now : Moment) (manual : Bool)
  | markClosed (now : Moment)
  | purgeExpired (policy : Retention) (now : Moment) (manual : Bool)
  | purgeClosed (policy : Retention)

def Call.snapshot? : Call → Option (List Connection)
  | .reconcile latest | .applySnapshot latest .. => some latest
  | _ => none

def call (set : TrackedSet) : Call → TrackedSet
  | .reconcile latest => (set.reconcile latest).1
  | .applySnapshot latest policy now manual => (set.applySnapshot latest policy now manual).1
  | .markClosed now => set.markClosed now
  | .purgeExpired policy now manual => set.purgeExpired policy now manual
  | .purgeClosed policy => set.purgeClosed policy

def run (set : TrackedSet) (calls : List Call) : TrackedSet := calls.foldl call set

theorem run_concat (set : TrackedSet) (calls : List Call) (last : Call) :
    set.run (calls ++ [last]) = (set.run calls).call last := by
  simp [run]

end SocketWatch.TrackedSet

namespace SocketWatch

structure Sighting where
  key : SocketKey
  state : SocketState
  pid : UInt32
  inode : UInt64
deriving DecidableEq, Repr

def Connection.sighting (c : Connection) : Sighting where
  key := c.key
  state := c.state
  pid := c.pid
  inode := c.inode

def liveView (rows : List Row) : List Sighting :=
  (rows.filter Row.isLive).map fun row => row.connection.sighting

@[simp] theorem liveView_append (rows more : List Row) :
    liveView (rows ++ more) = liveView rows ++ liveView more := by
  simp [liveView]

theorem Slot.settle_paired {row : Row} {seen : Connection}
    (h : (Slot.paired row seen).Sound) :
    (settle (.paired row seen)).isLive ∧
      (settle (.paired row seen)).connection.sighting = seen.sighting := by
  obtain ⟨-, hkey⟩ := h
  by_cases hsame : unchanged row seen
  · have hfields : (row.connection.state = seen.state ∧ row.connection.pid = seen.pid) ∧
        row.connection.inode = seen.inode := by
      simpa [unchanged, Connection.sameInfo] using hsame
    simp only [settle, hsame, if_true]
    refine ⟨rfl, ?_⟩
    simp [Connection.sighting, hkey, hfields]
  · simp only [settle, hsame]
    exact ⟨rfl, by simpa [Connection.sighting, Connection.merge, Connection.key] using hkey⟩

theorem liveView_settle {slots : List Slot} (h : ∀ slot ∈ slots, slot.Sound) :
    liveView (slots.map Slot.settle) =
      (slots.filterMap Slot.seen?).map Connection.sighting := by
  induction slots with
  | nil => rfl
  | cons slot slots ih =>
    have hslot := h slot (by simp)
    have hrest := ih fun other hother => h other (by simp [hother])
    simp only [liveView, List.map_cons, List.filterMap_cons] at hrest ⊢
    cases slot with
    | past row =>
      have hpast : (Slot.settle (.past row)).isLive = false := hslot
      simpa [Slot.seen?, hpast] using hrest
    | free row =>
      have hdeleted : (Slot.settle (.free row)).isLive = false := rfl
      simpa [Slot.seen?, hdeleted] using hrest
    | paired row seen =>
      obtain ⟨hlive, hsighting⟩ := Slot.settle_paired hslot
      simp [Slot.seen?, hlive, hsighting, hrest]

theorem liveView_reconcile (tracked : List Row) (latest : List Connection) :
    (liveView (reconcile tracked latest).rows).Perm (latest.map Connection.sighting) := by
  have hkept := liveView_settle (sound_pairing tracked latest)
  have hadded : liveView ((pairing tracked latest).2.map fun seen =>
      { connection := seen, change := .insert }) =
        (pairing tracked latest).2.map Connection.sighting := by
    have hinsert : (Change.insert != Change.delete) = true := rfl
    simp [liveView, List.filter_map, Function.comp_def, Row.isLive, hinsert]
  have hrows : liveView (reconcile tracked latest).rows =
      ((pairing tracked latest).1.filterMap Slot.seen? ++
        (pairing tracked latest).2).map Connection.sighting := by
    rw [Cycle.rows, liveView_append, List.map_append, ← hkept, ← hadded]
    rfl
  rw [hrows]
  exact (seen_pairing_perm tracked latest).map _

namespace TrackedSet

theorem isLive_markRow (now : Moment) (row : Row) : (markRow now row).isLive = row.isLive := by
  unfold markRow
  split_ifs <;> rfl

theorem markRow_of_isLive (now : Moment) {row : Row} (h : row.isLive) : markRow now row = row := by
  apply if_neg
  intro hclosed
  simp [Row.isLive, hclosed.1] at h

@[simp] theorem liveView_markClosed (set : TrackedSet) (now : Moment) :
    liveView (set.markClosed now).rows = liveView set.rows := by
  simp only [liveView, markClosed, List.filter_map, Function.comp_def, isLive_markRow,
    List.map_map]
  apply List.map_congr_left
  intro row hrow
  rw [markRow_of_isLive now (List.mem_filter.mp hrow).2]

@[simp] theorem liveView_purgeClosed (set : TrackedSet) (policy : Retention) :
    liveView (set.purgeClosed policy).rows = liveView set.rows := by
  unfold purgeClosed
  split_ifs
  · rfl
  · simp [liveView]

theorem liveView_call {set : TrackedSet} {last : Call} {latest : List Connection}
    (h : last.snapshot? = some latest) :
    (liveView (set.call last).rows).Perm (latest.map Connection.sighting) := by
  cases last with
  | reconcile other =>
    obtain rfl : other = latest := by simpa [Call.snapshot?] using h
    exact liveView_reconcile set.rows other
  | applySnapshot other policy now manual =>
    obtain rfl : other = latest := by simpa [Call.snapshot?] using h
    have hview (set : TrackedSet) : (liveView (set.reconcile other).1.rows).Perm
        (other.map Connection.sighting) := liveView_reconcile set.rows other
    simp only [call, applySnapshot]
    split_ifs
    · simpa using hview (set.purgeExpired policy now manual)
    · simpa using hview set
  | markClosed | purgeExpired | purgeClosed => simp [Call.snapshot?] at h

theorem counts_eq (set : TrackedSet) :
    set.counts = ((liveView set.rows).length,
      (liveView set.rows).countP fun sighting => sighting.state == .established) := by
  simp [counts, liveView, List.countP_map, Function.comp_def, Connection.sighting,
    Connection.isEstablished]

theorem counts_call {set : TrackedSet} {last : Call} {latest : List Connection}
    (h : last.snapshot? = some latest) :
    (set.call last).counts = (latest.length, latest.countP Connection.isEstablished) := by
  have hview : (liveView (set.call last).rows).Perm (latest.map Connection.sighting) :=
    liveView_call h
  rw [counts_eq, hview.length_eq, hview.countP_eq, List.length_map, List.countP_map]
  rfl

/-- The live rows show the latest snapshot and nothing else. What was tracked before, which
snapshots were skipped and what was evicted makes no difference. -/
theorem liveView_of_latest_snapshot :
    (∀ tracked latest,
      (liveView (SocketWatch.reconcile tracked latest).rows).Perm
        (latest.map Connection.sighting)) ∧
    (∀ (set other : TrackedSet) (calls more : List Call) (last final : Call) latest,
      last.snapshot? = some latest → final.snapshot? = some latest →
        (liveView (set.run (calls ++ [last])).rows).Perm
          (liveView (other.run (more ++ [final])).rows)) ∧
    (∀ (set : TrackedSet) (last : Call) latest, last.snapshot? = some latest →
      (liveView (set.call last).rows).Perm (latest.map Connection.sighting) ∧
        (set.call last).counts = (latest.length, latest.countP Connection.isEstablished)) := by
  refine ⟨liveView_reconcile, ?_, fun set last latest h => ⟨liveView_call h, counts_call h⟩⟩
  intro set other calls more last final latest hlast hfinal
  rw [run_concat, run_concat]
  exact (liveView_call hlast).trans (liveView_call hfinal).symm

theorem liveView_of_returning_sockets :
    let closed : Row := { connection := { state := .closed, inode := 7 }, change := .delete }
    let latest : List Connection := [{ state := .established, inode := 7 }, { inode := 7 }]
    let last : Call := .applySnapshot latest { showClosed := false } 9 true
    last.snapshot? = some latest ∧
      (liveView (({ rows := [closed] } : TrackedSet).call last).rows).Perm
        (latest.map Connection.sighting) ∧
      (({ rows := [closed] } : TrackedSet).call last).counts = (2, 1) := by
  refine ⟨rfl, ?_⟩
  exact liveView_of_latest_snapshot.2.2 _ _ _ rfl

end TrackedSet

end SocketWatch
