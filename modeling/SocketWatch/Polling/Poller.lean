/-!
Polling in the background. A producer puts each snapshot into a slot for one, and a consumer takes
it out; a snapshot that has not been taken is replaced by the next. Every step here is one stretch
that the producer or a consumer goes through while it holds the slot.
-/

namespace SocketWatch

inductive Phase where
  | polling
  | asleep
  | stopped
deriving DecidableEq, Repr

structure Poller (α : Type) where
  latest : Option α := none
  refresh : Bool := false
  stop : Bool := false
  phase : Phase := .polling
deriving DecidableEq, Repr

inductive PollEvent (α : Type) where
  | polled (snapshot : Option α)
  | woken (due : Bool)
  | take
  | requestRefresh
  | requestStop
deriving DecidableEq, Repr

namespace Poller

def resume {α : Type} (p : Poller α) : Poller α :=
  { p with refresh := false, phase := if p.stop then .stopped else .polling }

def rest {α : Type} (p : Poller α) : Poller α :=
  if p.refresh || p.stop then p.resume else { p with phase := .asleep }

/-- One step, and the snapshot that it hands to a consumer. What the producer cannot do at this
point does not happen. -/
def step {α : Type} (p : Poller α) : PollEvent α → Poller α × Option α
  | .polled snapshot =>
    if p.phase = .polling then
      if p.stop then ({ p with phase := .stopped }, none)
      else (rest { p with latest := snapshot.or p.latest }, none)
    else (p, none)
  | .woken due =>
    if p.phase = .asleep then
      if due then (p.resume, none) else (p.rest, none)
    else (p, none)
  | .take => ({ p with latest := none }, p.latest)
  | .requestRefresh => ({ p with refresh := true }, none)
  | .requestStop => ({ p with stop := true }, none)

end Poller

end SocketWatch
