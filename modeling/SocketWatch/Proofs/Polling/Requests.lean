import Mathlib.Data.Nat.Count
import SocketWatch.Proofs.Polling.Loop

namespace SocketWatch

namespace Poller

variable {α : Type}

def Move.isTurn : Move α → Bool
  | .turn _ _ => true
  | .call _ => false

namespace Loop

def IsTurn (moves : Nat → Move α) (n : Nat) : Prop := (moves n).isTurn = true

instance (moves : Nat → Move α) : DecidablePred (IsTurn moves) := fun n =>
  inferInstanceAs (Decidable ((moves n).isTurn = true))

section Events

variable (moves : Nat → Move α) (n : Nat)

def RequestsRefresh : Prop :=
  (state moves n).point.hasSlot = false ∧ moves n = .call .requestRefresh

def BeginsPoll : Prop := (state moves n).point ≠ .poll ∧ (state moves (n + 1)).point = .poll

def FallsAsleep : Prop := (state moves n).point ≠ .asleep ∧ (state moves (n + 1)).point = .asleep

def Exits : Prop := (state moves n).point ≠ .stopped ∧ (state moves (n + 1)).point = .stopped

def ClearsRefresh : Prop :=
  (state moves n).refresh = true ∧ (state moves (n + 1)).refresh = false

def Stores (snapshot : α) : Prop :=
  IsTurn moves n ∧ (state moves n).point = .store (some snapshot)

end Events

def Due (loop : Loop α) : Prop :=
  (loop.refresh = true ∨ loop.stop = true) ∨ loop.point = .leave

def turnsLeft : Point α → Nat
  | .poll => 8
  | .enter _ => 7
  | .checkEntry _ | .asleep => 6
  | .store _ | .wake _ => 5
  | .checkRefresh => 4
  | .checkStop => 3
  | .clear => 2
  | .leave | .fallAsleep | .stopped => 1

section Step

variable {loop : Loop α}

theorem stop_advance (snapshot : Option α) (timeUp : Bool) :
    (loop.advance snapshot timeUp).stop = loop.stop := by
  cases hpoint : loop.point <;> simp only [Loop.advance, hpoint]

theorem refresh_advance (h : loop.point ≠ .clear) (snapshot : Option α) (timeUp : Bool) :
    (loop.advance snapshot timeUp).refresh = loop.refresh := by
  cases hpoint : loop.point with
  | clear => exact absurd hpoint h
  | poll | enter | checkEntry | store | checkRefresh | checkStop | fallAsleep | asleep | wake | leave
    | stopped => simp only [Loop.advance, hpoint]

theorem latest_advance (snapshot : Option α) (timeUp : Bool) :
    (loop.advance snapshot timeUp).latest = loop.latest ∨
      ∃ taken, loop.point = .store taken ∧
        (loop.advance snapshot timeUp).latest = taken.or loop.latest := by
  cases hpoint : loop.point with
  | store taken => exact .inr ⟨taken, rfl, by simp only [Loop.advance, hpoint]⟩
  | poll | enter | checkEntry | checkRefresh | checkStop | fallAsleep | asleep | wake | clear | leave
    | stopped => exact .inl (by simp only [Loop.advance, hpoint])

theorem point_of_advance_asleep {snapshot : Option α} {timeUp : Bool}
    (h : (loop.advance snapshot timeUp).point = .asleep) : loop.point = .fallAsleep := by
  obtain ⟨latest, refresh, stop, point⟩ := loop
  cases point with
  | fallAsleep => rfl
  | poll | enter | store | asleep | clear | stopped => cases h
  | checkEntry => cases stop <;> cases h
  | checkRefresh => cases refresh <;> cases h
  | checkStop => cases stop <;> cases h
  | wake timeUp => cases timeUp <;> cases h
  | leave => cases stop <;> cases h

theorem Due.call (h : loop.Due) (call : Call) : (loop.step (.call call)).Due := by
  have hserved := served_call loop call
  rcases h with (hrefresh | hstop) | hleave
  · exact .inl (.inl (hserved.refresh hrefresh))
  · exact .inl (.inr (hserved.stop hstop))
  · exact .inr (hserved.point.trans hleave)

theorem Due.advance (h : loop.Due) (hknows : loop.Knows) (snapshot : Option α) (timeUp : Bool) :
    let next := loop.advance snapshot timeUp
    (loop.point ≠ .poll ∧ loop.stop = false ∧ next.point = .poll) ∨ next.point = .stopped ∨
      (next.Due ∧ turnsLeft next.point + 1 ≤ turnsLeft loop.point) := by
  intro next
  obtain ⟨latest, refresh, stop, point⟩ := loop
  -- Only there the producer may have to go on with neither flag set.
  by_cases hleave : point = .leave
  · subst hleave
    cases stop with
    | true => exact .inr (.inl rfl)
    | false => exact .inl ⟨by simp, rfl, rfl⟩
  · have hflags : refresh = true ∨ stop = true := h.resolve_right hleave
    have hdue (latest : Option α) (point : Point α) : Due ⟨latest, refresh, stop, point⟩ :=
      .inl hflags
    cases point with
    | poll | enter | store | asleep => exact .inr (.inr ⟨hdue _ _, Nat.le_refl _⟩)
    | checkEntry snapshot =>
      cases stop with
      | true => exact .inr (.inl rfl)
      | false => exact .inr (.inr ⟨hdue _ _, Nat.le_refl _⟩)
    | checkRefresh =>
      cases refresh with
      | true => exact .inr (.inr ⟨hdue _ _, Nat.le_succ _⟩)
      | false => exact .inr (.inr ⟨hdue _ _, Nat.le_refl _⟩)
    | checkStop =>
      obtain rfl : refresh = false := hknows
      obtain rfl : stop = true := hflags.resolve_left Bool.false_ne_true
      exact .inr (.inr ⟨hdue _ _, Nat.le_refl _⟩)
    | fallAsleep =>
      obtain ⟨rfl, rfl⟩ : refresh = false ∧ stop = false := hknows
      simp at hflags
    | wake timeUp =>
      cases timeUp with
      | true => exact .inr (.inr ⟨hdue _ _, by simp [next, Loop.advance, turnsLeft]⟩)
      | false => exact .inr (.inr ⟨hdue _ _, Nat.le_refl _⟩)
    | clear => exact .inr (.inr ⟨.inr rfl, Nat.le_refl _⟩)
    | leave => exact absurd rfl hleave
    | stopped => exact .inr (.inl rfl)

end Step

section Run

variable {moves : Nat → Move α} {n m : Nat}

theorem state_of_turn (h : IsTurn moves n) : ∃ snapshot timeUp,
    state moves (n + 1) = (state moves n).advance snapshot timeUp := by
  cases hmove : moves n with
  | turn snapshot timeUp => exact ⟨snapshot, timeUp, by rw [state, hmove]; rfl⟩
  | call call => simp [IsTurn, hmove, Move.isTurn] at h

theorem state_of_call (h : ¬IsTurn moves n) : ∃ call,
    state moves (n + 1) = (state moves n).step (.call call) := by
  cases hmove : moves n with
  | turn snapshot timeUp => exact absurd (by rw [IsTurn, hmove]; rfl) h
  | call call => exact ⟨call, by rw [state, hmove]⟩

theorem served_of_call (h : ¬IsTurn moves n) : Served (state moves n) (state moves (n + 1)) := by
  obtain ⟨call, hstate⟩ := state_of_call h
  rw [hstate]
  exact served_call _ call

theorem state_eq_of_no_turn (hslot : (state moves n).point.hasSlot = true) (hle : n ≤ m)
    (hnone : ∀ k, n ≤ k → k < m → ¬IsTurn moves k) : state moves m = state moves n := by
  induction m, hle using Nat.le_induction with
  | base => rfl
  | succ m hle ih =>
    have hstate := ih fun k hk hlt => hnone k hk (Nat.lt_succ_of_lt hlt)
    obtain ⟨call, hcall⟩ := state_of_call (hnone m hle (Nat.lt_succ_self m))
    rw [hcall, hstate]
    exact if_pos hslot

theorem point_of_fallsAsleep (h : FallsAsleep moves n) : (state moves n).point = .fallAsleep := by
  by_cases hturn : IsTurn moves n
  · obtain ⟨snapshot, timeUp, hstate⟩ := state_of_turn hturn
    exact point_of_advance_asleep (hstate ▸ h.2)
  · exact absurd ((served_of_call hturn).point.symm.trans h.2) h.1

theorem flags_of_fallsAsleep (h : FallsAsleep moves n) :
    (state moves n).refresh = false ∧ (state moves n).stop = false := by
  have hknows := knows_state moves n
  rw [Knows, point_of_fallsAsleep h] at hknows
  exact hknows

theorem turn_of_clearsRefresh (h : ClearsRefresh moves n) :
    IsTurn moves n ∧ (state moves n).point = .clear := by
  obtain ⟨hset, hclear⟩ := h
  by_cases hturn : IsTurn moves n
  · obtain ⟨snapshot, timeUp, hstate⟩ := state_of_turn hturn
    refine ⟨hturn, ?_⟩
    by_contra hpoint
    rw [hstate, refresh_advance hpoint, hset] at hclear
    cases hclear
  · rw [(served_of_call hturn).refresh hset] at hclear
    cases hclear

theorem leave_of_clearsRefresh (h : ClearsRefresh moves n) :
    (state moves (n + 1)).point = .leave := by
  obtain ⟨hturn, hpoint⟩ := turn_of_clearsRefresh h
  obtain ⟨snapshot, timeUp, hstate⟩ := state_of_turn hturn
  rw [hstate]
  simp only [Loop.advance, hpoint]

theorem turn_of_leave (hpoint : (state moves m).point = .leave) (hturn : IsTurn moves m) :
    BeginsPoll moves m ∨ (Exits moves m ∧ (state moves m).stop = true) := by
  obtain ⟨snapshot, timeUp, hstate⟩ := state_of_turn hturn
  have hnext : (state moves (m + 1)).point =
      if (state moves m).stop then .stopped else .poll := by
    rw [hstate]
    simp only [Loop.advance, hpoint]
  cases hstop : (state moves m).stop with
  | true => exact .inr ⟨⟨by simp [hpoint], by simp [hnext, hstop]⟩, rfl⟩
  | false => exact .inl ⟨by simp [hpoint], by simp [hnext, hstop]⟩

theorem stopped_succ (h : (state moves n).point = .stopped) :
    (state moves (n + 1)).point = .stopped := by
  by_cases hturn : IsTurn moves n
  · obtain ⟨snapshot, timeUp, hstate⟩ := state_of_turn hturn
    rw [hstate]
    simp only [Loop.advance, h]
  · exact (served_of_call hturn).point.trans h

theorem stop_succ (h : (state moves n).stop = true) : (state moves (n + 1)).stop = true := by
  by_cases hturn : IsTurn moves n
  · obtain ⟨snapshot, timeUp, hstate⟩ := state_of_turn hturn
    rw [hstate, stop_advance, h]
  · exact (served_of_call hturn).stop h

theorem stop_of_le (h : (state moves n).stop = true) (hle : n ≤ m) :
    (state moves m).stop = true := by
  induction m, hle using Nat.le_induction with
  | base => exact h
  | succ m _ ih => exact stop_succ ih

theorem turnsLeft_le (point : Point α) : turnsLeft point ≤ 8 := by
  cases point <;> simp [turnsLeft]

theorem turnsLeft_pos (point : Point α) : 0 < turnsLeft point := by
  cases point <;> simp [turnsLeft]

theorem stop_of_stopped (h : (state moves n).point = .stopped) : (state moves n).stop = true := by
  have hknows := knows_state moves n
  rw [Knows, h] at hknows
  exact hknows

theorem Due.later (h : (state moves n).Due) (hle : n ≤ m) :
    (∃ k, n ≤ k ∧ k < m ∧ (state moves k).stop = false ∧ BeginsPoll moves k) ∨
      (state moves m).point = .stopped ∨
      ((state moves m).Due ∧ turnsLeft (state moves m).point + Nat.count (IsTurn moves) m ≤
        8 + Nat.count (IsTurn moves) n) := by
  -- A turn takes one from what is left and adds one to the count; a call changes neither.
  induction m, hle using Nat.le_induction with
  | base => exact .inr (.inr ⟨h, Nat.add_le_add_right (turnsLeft_le _) _⟩)
  | succ m hle ih =>
    rcases ih with ⟨k, hk, hkm, hpoll⟩ | hstopped | ⟨hdue, hleft⟩
    · exact .inl ⟨k, hk, Nat.lt_succ_of_lt hkm, hpoll⟩
    · exact .inr (.inl (stopped_succ hstopped))
    · rw [Nat.count_succ]
      by_cases hturn : IsTurn moves m
      · obtain ⟨snapshot, timeUp, hstate⟩ := state_of_turn hturn
        rw [if_pos hturn]
        rcases hdue.advance (knows_state moves m) snapshot timeUp with
          ⟨hpoint, hstop, hpoll⟩ | hstopped | ⟨hnext, hcloser⟩
        · exact .inl ⟨m, hle, Nat.lt_succ_self m, hstop, hpoint, hstate ▸ hpoll⟩
        · exact .inr (.inl (hstate ▸ hstopped))
        · rw [← hstate] at hnext hcloser
          exact .inr (.inr ⟨hnext, by omega⟩)
      · obtain ⟨call, hstate⟩ := state_of_call hturn
        rw [if_neg hturn, (served_of_call hturn).point]
        exact .inr (.inr ⟨hstate ▸ hdue.call call, hleft⟩)

theorem Due.in_eight_turns (h : (state moves n).Due)
    (hturns : 8 + Nat.count (IsTurn moves) n ≤ Nat.count (IsTurn moves) m) :
    (∃ k, n ≤ k ∧ k < m ∧ (state moves k).stop = false ∧ BeginsPoll moves k) ∨
      (state moves m).point = .stopped := by
  have hle : n ≤ m := by
    by_contra hlt
    have hcount := Nat.count_monotone (IsTurn moves) (Nat.le_of_not_le hlt)
    omega
  rcases h.later hle with hpoll | hstopped | ⟨-, hleft⟩
  · exact .inl hpoll
  · exact .inr hstopped
  · have hpos := turnsLeft_pos (state moves m).point
    omega

theorem due_of_requestsRefresh (h : RequestsRefresh moves n) : (state moves (n + 1)).Due := by
  rw [state, h.2, step, if_neg (by simp [h.1])]
  exact .inl (.inl rfl)

theorem count_of_requestsRefresh (h : RequestsRefresh moves n) :
    Nat.count (IsTurn moves) (n + 1) = Nat.count (IsTurn moves) n := by
  have hcall : ¬IsTurn moves n := by
    rw [IsTurn, h.2]
    exact Bool.false_ne_true
  rw [Nat.count_succ, if_neg hcall, Nat.add_zero]

theorem not_fallsAsleep_of_due (h : (state moves n).Due) : ¬FallsAsleep moves n := by
  intro hasleep
  obtain ⟨hrefresh, hstop⟩ := flags_of_fallsAsleep hasleep
  simp [Due, hrefresh, hstop, point_of_fallsAsleep hasleep] at h

theorem beginsPoll_before_sleep (h : RequestsRefresh moves n) (hlt : n < m)
    (hasleep : FallsAsleep moves m) : ∃ k, n < k ∧ k < m ∧ BeginsPoll moves k := by
  rcases (due_of_requestsRefresh h).later hlt with ⟨k, hk, hkm, -, hpoll⟩ | hstopped | ⟨hdue, -⟩
  · exact ⟨k, hk, hkm, hpoll⟩
  · rw [point_of_fallsAsleep hasleep] at hstopped
    cases hstopped
  · exact absurd hasleep (not_fallsAsleep_of_due hdue)

theorem beginsPoll_in_eight_turns (h : RequestsRefresh moves n)
    (hturns : 8 + Nat.count (IsTurn moves) n ≤ Nat.count (IsTurn moves) m) :
    (∃ k, n < k ∧ k < m ∧ BeginsPoll moves k) ∨
      ((state moves m).point = .stopped ∧ (state moves m).stop = true) := by
  rw [← count_of_requestsRefresh h] at hturns
  rcases (due_of_requestsRefresh h).in_eight_turns hturns with ⟨k, hk, hkm, -, hpoll⟩ | hstopped
  · exact .inl ⟨k, hk, hkm, hpoll⟩
  · exact .inr ⟨hstopped, stop_of_stopped hstopped⟩

theorem stopped_in_eight_turns (h : (state moves n).stop = true)
    (hturns : 8 + Nat.count (IsTurn moves) n ≤ Nat.count (IsTurn moves) m) :
    (state moves m).point = .stopped := by
  have hdue : (state moves n).Due := .inl (.inr h)
  rcases hdue.in_eight_turns hturns with ⟨k, hk, -, hstop, -⟩ | hstopped
  · rw [stop_of_le h hk] at hstop
    cases hstop
  · exact hstopped

theorem not_stores_of_stop (h : (state moves n).stop = true) (snapshot : α) :
    ¬Stores moves n snapshot := by
  rintro ⟨-, hpoint⟩
  have hknows := knows_state moves n
  rw [Knows, hpoint] at hknows
  rw [hknows] at h
  cases h

theorem stores_of_latest {snapshot : α} (h : (state moves (n + 1)).latest = some snapshot) :
    Stores moves n snapshot ∨ (state moves n).latest = some snapshot := by
  by_cases hturn : IsTurn moves n
  · obtain ⟨answer, timeUp, hstate⟩ := state_of_turn hturn
    rw [hstate] at h
    rcases latest_advance answer timeUp with hkept | ⟨taken, hpoint, htaken⟩
    · exact .inr (hkept.symm.trans h)
    · rw [htaken] at h
      cases taken with
      | none => exact .inr h
      | some other =>
        obtain rfl : other = snapshot := Option.some.inj h
        exact .inl ⟨hturn, hpoint⟩
  · rcases (served_of_call hturn).latest with hkept | hnone
    · exact .inr (hkept.symm.trans h)
    · rw [hnone] at h
      cases h

end Run

structure Heeds (moves : Nat → Move α) : Prop where
  asleep : ∀ n, FallsAsleep moves n →
    (state moves n).refresh = false ∧ (state moves n).stop = false
  cleared : ∀ n m, ClearsRefresh moves n → n < m → (∀ k, n < k → k < m → ¬IsTurn moves k) →
    IsTurn moves m → BeginsPoll moves m ∨ (Exits moves m ∧ (state moves m).stop = true)
  granted : ∀ n m, RequestsRefresh moves n → n < m → FallsAsleep moves m →
    ∃ k, n < k ∧ k < m ∧ BeginsPoll moves k
  soon : ∀ n m, RequestsRefresh moves n →
    8 + Nat.count (IsTurn moves) n ≤ Nat.count (IsTurn moves) m →
    (∃ k, n < k ∧ k < m ∧ BeginsPoll moves k) ∨
      ((state moves m).point = .stopped ∧ (state moves m).stop = true)
  ended : ∀ n m, (state moves n).stop = true →
    8 + Nat.count (IsTurn moves) n ≤ Nat.count (IsTurn moves) m → (state moves m).point = .stopped
  silent : ∀ n m, (state moves n).stop = true → n ≤ m → ∀ snapshot, ¬Stores moves m snapshot
  filled : ∀ n snapshot, (state moves (n + 1)).latest = some snapshot →
    Stores moves n snapshot ∨ (state moves n).latest = some snapshot

/-- Whatever the order of the producer's statements and of the calls, its stretches are those of the
poller, and all that is asked for is heeded. -/
theorem requests_heeded (moves : Nat → Move α) :
    (∀ n, (state moves n).settled = (Log.run (trail moves n)).poller) ∧
      (∀ actions : List (Action α), ∃ (others : Nat → Move α) (n : Nat),
        (state others n).point.hasSlot = false ∧
          (state others n).settled = (Log.run actions).poller) ∧
      Heeds moves := by
  refine ⟨settled_state moves, exists_state, ?_⟩
  constructor
  · exact fun n => flags_of_fallsAsleep
  · intro n m hclear hlt hnone hturn
    have hleave := leave_of_clearsRefresh hclear
    have hstate : state moves m = state moves (n + 1) :=
      state_eq_of_no_turn (by rw [hleave]; rfl) hlt fun k hk hkm => hnone k hk hkm
    exact turn_of_leave (hstate ▸ hleave) hturn
  · exact fun n m => beginsPoll_before_sleep
  · exact fun n m => beginsPoll_in_eight_turns
  · exact fun n m => stopped_in_eight_turns
  · exact fun n m hstop hle => not_stores_of_stop (stop_of_le hstop hle)
  · exact fun n snapshot => stores_of_latest

theorem requests_heeded_of_expired_interval :
    let turns (count snapshot : Nat) (timeUp : Bool) : List (Move Nat) :=
      List.replicate count (.turn (some snapshot) timeUp)
    let script : List (Move Nat) := turns 8 7 true ++ .call .requestRefresh :: turns 10 8 false ++
      .call .requestStop :: turns 8 9 false
    let moves (n : Nat) : Move Nat := script.getD n (.turn none false)
    ((state moves 8).point = .wake true ∧ RequestsRefresh moves 8 ∧ FallsAsleep moves 18 ∧
        ∃ k, 8 < k ∧ k < 18 ∧ BeginsPoll moves k) ∧
      (state moves 19).point = .asleep ∧ (state moves 20).stop = true ∧
      (state moves 28).point = .stopped ∧ ∀ snapshot, ¬Stores moves 23 snapshot := by
  intro turns script moves
  obtain ⟨-, -, hheeds⟩ := requests_heeded moves
  have hrequest : RequestsRefresh moves 8 := ⟨by decide, by decide⟩
  have hasleep : FallsAsleep moves 18 := ⟨by decide, by decide⟩
  have hstop : (state moves 20).stop = true := by decide
  exact ⟨⟨by decide, hrequest, hasleep, hheeds.granted 8 18 hrequest (by decide) hasleep⟩,
    by decide, hstop, hheeds.ended 20 28 hstop (by decide), hheeds.silent 20 23 hstop (by decide)⟩

end Loop

end Poller

end SocketWatch
