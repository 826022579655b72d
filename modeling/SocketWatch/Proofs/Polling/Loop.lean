import SocketWatch.Proofs.Polling.Interleaving

/-!
The producer statement by statement. The slot has a lock, which the producer gives up while it takes
a snapshot and while it sleeps. Consumers and their requests come to the slot at any other moment
than those at which the producer has it. Main statements: a run of these small steps, seen where the
producer does not have the slot, is a run of the poller, and every run of the poller is one of them.
-/

namespace SocketWatch

namespace Poller

variable {α : Type}

inductive Point (α : Type) where
  | poll
  | enter (snapshot : Option α)
  | checkEntry (snapshot : Option α)
  | store (snapshot : Option α)
  | checkRefresh
  | checkStop
  | fallAsleep
  | asleep
  | wake (timeUp : Bool)
  | clear
  | leave
  | stopped
deriving DecidableEq, Repr

def Point.hasSlot : Point α → Bool
  | .poll | .enter _ | .asleep | .wake _ | .stopped => false
  | .checkEntry _ | .store _ | .checkRefresh | .checkStop | .fallAsleep | .clear | .leave => true

structure Loop (α : Type) where
  latest : Option α := none
  refresh : Bool := false
  stop : Bool := false
  point : Point α := .poll
deriving DecidableEq, Repr

inductive Call where
  | requestRefresh
  | requestStop
  | takeLatest (consumer : Nat)
  | waitLatest (consumer : Nat) (timeUp : Bool)
deriving DecidableEq, Repr

inductive Move (α : Type) where
  | turn (snapshot : Option α) (timeUp : Bool)
  | call (call : Call)
deriving DecidableEq, Repr

def Call.action : Call → Action α
  | .requestRefresh => .requestRefresh
  | .requestStop => .requestStop
  | .takeLatest consumer => .takeLatest consumer
  | .waitLatest consumer timeUp => .waitLatest consumer timeUp

namespace Loop

def advance (loop : Loop α) (snapshot : Option α) (timeUp : Bool) : Loop α :=
  match loop.point with
  | .poll => { loop with point := .enter snapshot }
  | .enter snapshot => { loop with point := .checkEntry snapshot }
  | .checkEntry snapshot => { loop with point := if loop.stop then .stopped else .store snapshot }
  | .store snapshot => { loop with latest := snapshot.or loop.latest, point := .checkRefresh }
  | .checkRefresh => { loop with point := if loop.refresh then .clear else .checkStop }
  | .checkStop => { loop with point := if loop.stop then .clear else .fallAsleep }
  | .fallAsleep => { loop with point := .asleep }
  | .asleep => { loop with point := .wake timeUp }
  | .wake timeUp => { loop with point := if timeUp then .clear else .checkRefresh }
  | .clear => { loop with refresh := false, point := .leave }
  | .leave => { loop with point := if loop.stop then .stopped else .poll }
  | .stopped => loop

def serve (loop : Loop α) : Call → Loop α
  | .requestRefresh => { loop with refresh := true }
  | .requestStop => { loop with stop := true }
  | .takeLatest _ => { loop with latest := none }
  | .waitLatest _ timeUp =>
    if loop.latest.isSome || timeUp then { loop with latest := none } else loop

def step (loop : Loop α) : Move α → Loop α
  | .turn snapshot timeUp => loop.advance snapshot timeUp
  | .call call => if loop.point.hasSlot then loop else loop.serve call

/-- What the producer has found out about the flags, and nobody can have changed since. -/
def Knows (loop : Loop α) : Prop :=
  match loop.point with
  | .store _ => loop.stop = false
  | .checkStop => loop.refresh = false
  | .fallAsleep => loop.refresh = false ∧ loop.stop = false
  | .leave => loop.refresh = false
  | .stopped => loop.stop = true
  | .poll | .enter _ | .checkEntry _ | .checkRefresh | .asleep | .wake _ | .clear => True

def poller (loop : Loop α) (phase : Phase) : Poller α :=
  { latest := loop.latest, refresh := loop.refresh, stop := loop.stop, phase }

/-- The poller once the producer gives up the slot. -/
def settled (loop : Loop α) : Poller α :=
  match loop.point with
  | .poll | .enter _ => loop.poller .polling
  | .checkEntry snapshot => ((loop.poller .polling).step (.polled snapshot)).1
  | .store snapshot => { loop.poller .polling with latest := snapshot.or loop.latest }.rest
  | .checkRefresh | .checkStop => (loop.poller .polling).rest
  | .fallAsleep | .asleep | .wake _ => loop.poller .asleep
  | .clear => (loop.poller .asleep).resume
  | .leave => loop.poller (if loop.stop then .stopped else .polling)
  | .stopped => loop.poller .stopped

def action? (loop : Loop α) : Move α → Option (Action α)
  | .turn _ _ =>
    match loop.point with
    | .enter snapshot => some (.polled snapshot)
    | .wake timeUp => some (.woken timeUp)
    | _ => none
  | .call call => if loop.point.hasSlot then none else some call.action

structure Served (loop next : Loop α) : Prop where
  point : next.point = loop.point
  refresh : loop.refresh = true → next.refresh = true
  stop : loop.stop = true → next.stop = true
  latest : next.latest = loop.latest ∨ next.latest = none

theorem Served.refl (loop : Loop α) : Served loop loop := ⟨rfl, id, id, .inl rfl⟩

section Step

variable {loop : Loop α}

theorem served_serve (loop : Loop α) (call : Call) : Served loop (loop.serve call) := by
  cases call with
  | requestRefresh => exact ⟨rfl, fun _ => rfl, id, .inl rfl⟩
  | requestStop => exact ⟨rfl, id, fun _ => rfl, .inl rfl⟩
  | takeLatest => exact ⟨rfl, id, id, .inr rfl⟩
  | waitLatest consumer timeUp =>
    simp only [serve]
    split
    · exact ⟨rfl, id, id, .inr rfl⟩
    · exact .refl loop

theorem served_call (loop : Loop α) (call : Call) : Served loop (loop.step (.call call)) := by
  simp only [step]
  split
  · exact .refl loop
  · exact served_serve loop call

theorem poller_serve (loop : Loop α) (call : Call) (phase : Phase) :
    (loop.serve call).poller phase = ((loop.poller phase).act call.action).1 := by
  obtain ⟨latest, refresh, stop, point⟩ := loop
  cases call with
  | requestRefresh | requestStop => rfl
  | takeLatest => cases latest <;> rfl
  | waitLatest consumer timeUp => cases latest <;> cases timeUp <;> rfl

theorem Knows.serve (h : loop.Knows) (hslot : loop.point.hasSlot = false) (call : Call) :
    (loop.serve call).Knows := by
  have hserved := served_serve loop call
  cases hpoint : loop.point with
  | poll | enter | asleep | wake => simp [Knows, hserved.point, hpoint]
  | stopped =>
    have hstop : loop.stop = true := by simpa [Knows, hpoint] using h
    simpa [Knows, hserved.point, hpoint] using hserved.stop hstop
  | checkEntry | store | checkRefresh | checkStop | fallAsleep | clear | leave =>
    rw [hpoint] at hslot
    cases hslot

theorem Knows.advance (h : loop.Knows) (snapshot : Option α) (timeUp : Bool) :
    (loop.advance snapshot timeUp).Knows := by
  obtain ⟨latest, refresh, stop, point⟩ := loop
  cases point with
  | poll | enter | store | fallAsleep | asleep => trivial
  | checkEntry => cases stop <;> simp [Loop.advance, Knows]
  | checkRefresh => cases refresh <;> simp [Loop.advance, Knows]
  | checkStop =>
    have hrefresh : refresh = false := h
    cases stop <;> simp [Loop.advance, Knows, hrefresh]
  | wake timeUp => cases timeUp <;> trivial
  | clear => rfl
  | leave => cases stop <;> simp [Loop.advance, Knows]
  | stopped => exact h

theorem Knows.step (h : loop.Knows) (move : Move α) : (loop.step move).Knows := by
  cases move with
  | turn snapshot timeUp => exact h.advance snapshot timeUp
  | call call =>
    simp only [Loop.step]
    split
    · exact h
    · next hslot => exact h.serve (Bool.eq_false_iff.mpr hslot) call

theorem exists_phase (h : loop.point.hasSlot = false) :
    ∃ phase, ∀ other : Loop α, other.point = loop.point → other.settled = other.poller phase := by
  cases hpoint : loop.point with
  | poll | enter => exact ⟨.polling, fun other hother => by rw [settled, hother]⟩
  | asleep | wake => exact ⟨.asleep, fun other hother => by rw [settled, hother]⟩
  | stopped => exact ⟨.stopped, fun other hother => by rw [settled, hother]⟩
  | checkEntry | store | checkRefresh | checkStop | fallAsleep | clear | leave =>
    rw [hpoint] at h
    cases h

theorem settled_serve (h : loop.point.hasSlot = false) (call : Call) :
    (loop.serve call).settled = (loop.settled.act call.action).1 := by
  obtain ⟨phase, hsettled⟩ := exists_phase h
  rw [hsettled _ (served_serve loop call).point, hsettled loop rfl, poller_serve]

theorem settled_advance (h : loop.Knows) (snapshot : Option α) (timeUp : Bool) :
    (loop.advance snapshot timeUp).settled =
      (loop.action? (.turn snapshot timeUp)).elim loop.settled fun action =>
        (loop.settled.act action).1 := by
  obtain ⟨latest, refresh, stop, point⟩ := loop
  cases point with
  | poll | enter | store | fallAsleep | asleep | clear | stopped => rfl
  | checkEntry => cases stop <;> rfl
  | checkRefresh => cases refresh <;> rfl
  | checkStop =>
    -- A refresh that came here would be overslept.
    obtain rfl : refresh = false := h
    cases stop <;> rfl
  | wake timeUp => cases timeUp <;> rfl
  | leave => cases stop <;> rfl

theorem settled_step (h : loop.Knows) (move : Move α) : (loop.step move).settled =
    (loop.action? move).elim loop.settled fun action => (loop.settled.act action).1 := by
  cases move with
  | turn snapshot timeUp => exact settled_advance h snapshot timeUp
  | call call =>
    simp only [step, action?]
    split
    · rfl
    · next hslot => exact settled_serve (Bool.eq_false_iff.mpr hslot) call

end Step

section Run

def start : Loop α := {}

def state (moves : Nat → Move α) : Nat → Loop α
  | 0 => start
  | n + 1 => (state moves n).step (moves n)

def trail (moves : Nat → Move α) : Nat → List (Action α)
  | 0 => []
  | n + 1 => trail moves n ++ ((state moves n).action? (moves n)).toList

variable (moves : Nat → Move α)

theorem knows_state (n : Nat) : (state moves n).Knows := by
  induction n with
  | zero => trivial
  | succ n ih => exact ih.step (moves n)

theorem settled_state (n : Nat) : (state moves n).settled = (Log.run (trail moves n)).poller := by
  induction n with
  | zero => rfl
  | succ n ih =>
    rw [state, trail, settled_step (knows_state moves n), ih]
    cases (state moves n).action? (moves n) with
    | none => rw [Option.toList_none, List.append_nil]; rfl
    | some action => simp only [Log.run, Option.toList_some, List.foldl_concat]; rfl

end Run

section Poller

def ofPoller (p : Poller α) : Loop α where
  latest := p.latest
  refresh := p.refresh
  stop := p.stop
  point := match p.phase with
    | .polling => .poll
    | .asleep => .asleep
    | .stopped => .stopped

theorem settled_ofPoller (p : Poller α) : (ofPoller p).settled = p := by
  obtain ⟨latest, refresh, stop, phase⟩ := p
  cases phase <;> rfl

theorem hasSlot_ofPoller (p : Poller α) : (ofPoller p).point.hasSlot = false := by
  obtain ⟨latest, refresh, stop, phase⟩ := p
  cases phase <;> rfl

theorem serve_ofPoller (p : Poller α) (call : Call) :
    (ofPoller p).step (.call call) = ofPoller (p.act call.action).1 := by
  obtain ⟨latest, refresh, stop, phase⟩ := p
  cases call with
  | requestRefresh | requestStop => cases phase <;> rfl
  | takeLatest => cases phase <;> cases latest <;> rfl
  | waitLatest consumer timeUp => cases phase <;> cases latest <;> cases timeUp <;> rfl

theorem exists_turns_polled (p : Poller α) (snapshot : Option α) :
    ∃ moves : List (Move α), moves.foldl step (ofPoller p) = ofPoller (p.act (.polled snapshot)).1 := by
  obtain ⟨latest, refresh, stop, phase⟩ := p
  cases phase with
  | asleep | stopped => exact ⟨[], rfl⟩
  | polling =>
    -- It takes seven turns to the next poll and to sleep alike; a stop ends them after three.
    refine ⟨List.replicate 7 (.turn snapshot false), ?_⟩
    cases refresh <;> cases stop <;> rfl

theorem exists_turns_woken (p : Poller α) (due : Bool) :
    ∃ moves : List (Move α), moves.foldl step (ofPoller p) = ofPoller (p.act (.woken due)).1 := by
  obtain ⟨latest, refresh, stop, phase⟩ := p
  cases phase with
  | polling | stopped => exact ⟨[], rfl⟩
  | asleep =>
    cases due with
    | true => exact ⟨List.replicate 4 (.turn none true), by cases stop <;> rfl⟩
    | false =>
      cases refresh with
      | true => exact ⟨List.replicate 5 (.turn none false), by cases stop <;> rfl⟩
      | false =>
        cases stop with
        | true => exact ⟨List.replicate 6 (.turn none false), rfl⟩
        | false => exact ⟨List.replicate 5 (.turn none false), rfl⟩

theorem exists_moves (p : Poller α) (action : Action α) :
    ∃ moves : List (Move α), moves.foldl step (ofPoller p) = ofPoller (p.act action).1 := by
  cases action with
  | polled snapshot => exact exists_turns_polled p snapshot
  | woken due => exact exists_turns_woken p due
  | requestRefresh => exact ⟨[.call .requestRefresh], serve_ofPoller p .requestRefresh⟩
  | requestStop => exact ⟨[.call .requestStop], serve_ofPoller p .requestStop⟩
  | takeLatest consumer =>
    exact ⟨[.call (.takeLatest consumer)], serve_ofPoller p (.takeLatest consumer)⟩
  | waitLatest consumer timeUp =>
    exact ⟨[.call (.waitLatest consumer timeUp)], serve_ofPoller p (.waitLatest consumer timeUp)⟩

theorem exists_run (actions : List (Action α)) :
    ∃ moves : List (Move α), moves.foldl step start = ofPoller (Log.run actions).poller := by
  induction actions using List.reverseRecOn with
  | nil => exact ⟨[], rfl⟩
  | append_singleton actions action ih =>
    obtain ⟨earlier, hearlier⟩ := ih
    obtain ⟨moves, hmoves⟩ := exists_moves (Log.run actions).poller action
    refine ⟨earlier ++ moves, ?_⟩
    rw [List.foldl_append, hearlier, hmoves, Log.run, Log.run, List.foldl_concat]
    rfl

theorem state_eq_foldl (moves : Nat → Move α) (n : Nat) :
    state moves n = ((List.range n).map moves).foldl step start := by
  induction n with
  | zero => rfl
  | succ n ih => rw [state, ih, List.range_succ, List.map_append, List.foldl_append]; rfl

theorem exists_state (actions : List (Action α)) : ∃ (moves : Nat → Move α) (n : Nat),
    (state moves n).point.hasSlot = false ∧
      (state moves n).settled = (Log.run actions).poller := by
  obtain ⟨moves, hmoves⟩ := exists_run actions
  refine ⟨fun i => moves.getD i (.turn none false), moves.length, ?_⟩
  have hmap : (List.range moves.length).map (fun i => moves.getD i (.turn none false)) = moves := by
    apply List.ext_getElem
    · simp
    · intro i hi hlt
      simp [hlt]
  rw [state_eq_foldl, hmap, hmoves]
  exact ⟨hasSlot_ofPoller _, settled_ofPoller _⟩

end Poller

end Loop

end Poller

end SocketWatch
