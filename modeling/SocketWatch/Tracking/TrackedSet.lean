import SocketWatch.Tracking.Cycle

namespace SocketWatch

structure Retention where
  showClosed : Bool := true
  keepClosed : Bool := true
  linger : Nat := 3000
deriving DecidableEq, Repr

structure TrackedSet where
  rows : List Row := []
deriving DecidableEq, Repr

namespace TrackedSet

def reconcile (set : TrackedSet) (latest : List Connection) : TrackedSet × Summary :=
  let cycle := SocketWatch.reconcile set.rows latest
  ({ rows := cycle.rows }, cycle.summary)

def markRow (now : Moment) (row : Row) : Row :=
  if row.change = .delete ∧ row.closedAt = none then
    { row with connection.state := .closed, closedAt := some now }
  else row

def markClosed (set : TrackedSet) (now : Moment) : TrackedSet :=
  { rows := set.rows.map (markRow now) }

/-- Whether a closed row has been shown for long enough. A manual refresh cuts the time short, and a
row without a time waits for one. -/
def expired (policy : Retention) (now : Moment) (manual : Bool) (row : Row) : Bool :=
  !row.isLive &&
    match row.closedAt with
    | some closedAt => manual || decide (policy.linger < now - closedAt)
    | none => manual

def purgeExpired (set : TrackedSet) (policy : Retention) (now : Moment) (manual : Bool) :
    TrackedSet :=
  if policy.keepClosed then set
  else { rows := set.rows.filter fun row => !expired policy now manual row }

def purgeClosed (set : TrackedSet) (policy : Retention) : TrackedSet :=
  if policy.keepClosed then set else { rows := set.rows.filter Row.isLive }

def applySnapshot (set : TrackedSet) (latest : List Connection) (policy : Retention)
    (now : Moment) (manual : Bool) : TrackedSet × Summary :=
  let set := if policy.showClosed then set.purgeExpired policy now manual else set
  let (set, summary) := set.reconcile latest
  let set := set.markClosed now
  (if policy.showClosed then set else set.purgeClosed policy, summary)

def counts (set : TrackedSet) : Nat × Nat :=
  let live := set.rows.filter Row.isLive
  (live.length, live.countP fun row => row.connection.isEstablished)

end TrackedSet

end SocketWatch
