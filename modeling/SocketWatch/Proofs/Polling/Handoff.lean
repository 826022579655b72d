import SocketWatch.Proofs.Polling.Interleaving

namespace SocketWatch

namespace Poller

variable {α : Type}

structure Numbered (α : Type) where
  number : Nat
  snapshot : α
deriving DecidableEq, Repr

def Log.number (log : Log (Numbered α)) (action : Action α) : Action (Numbered α) :=
  action.map (Numbered.mk (polls log.history).length)

def Log.runNumbered (actions : List (Action α)) : Log (Numbered α) :=
  actions.foldl (fun log action => log.act (log.number action)) {}

def Justified (before : List (Happening (Numbered α))) : Happening (Numbered α) → Prop
  | .stored poll => poll.number = (polls before).length
  | .delivered _ poll => (polls before).getLast? = some poll
  | .empty _ => polls (sinceDelivery before) = []

/-- What the slot holds is the newest poll since the last delivery, which none of the deliveries has
come to yet. -/
structure Coherent (latest : Option (Numbered α)) (history : List (Happening (Numbered α))) :
    Prop where
  justified : ∀ before happening after, history = before ++ happening :: after →
    Justified before happening
  increasing : (deliveries history).Pairwise (·.number < ·.number)
  latest_eq : latest = (polls (sinceDelivery history)).getLast?
  fresh : ∀ poll ∈ deliveries history, ∀ pending ∈ polls (sinceDelivery history),
    poll.number < pending.number

namespace Coherent

variable {latest : Option (Numbered α)} {history : List (Happening (Numbered α))}
  {happening : Happening (Numbered α)} {poll : Numbered α}

theorem justified_concat (h : Coherent latest history) (hlast : Justified history happening) :
    ∀ before other after, history ++ [happening] = before ++ other :: after →
      Justified before other := by
  intro before other after hsplit
  rcases eq_append_cons_of_concat hsplit with ⟨rfl, rfl⟩ | ⟨rest, hsplit⟩
  · exact hlast
  · exact h.justified before other rest hsplit

theorem number_lt_of_mem_polls (h : Coherent latest history) (hpoll : poll ∈ polls history) :
    poll.number < (polls history).length := by
  obtain ⟨before, after, rfl⟩ := exists_stored hpoll
  have hnumber : poll.number = (polls before).length := h.justified before _ after rfl
  simp [hnumber]

theorem mem_polls_of_mem_deliveries (h : Coherent latest history)
    (hpoll : poll ∈ deliveries history) : poll ∈ polls history := by
  obtain ⟨before, consumer, after, rfl⟩ := exists_delivered hpoll
  have hnewest : (polls before).getLast? = some poll := h.justified before _ after rfl
  rw [polls_append]
  exact List.mem_append_left _ (List.mem_of_getLast? hnewest)

theorem start : Coherent (none : Option (Numbered α)) [] where
  justified := by simp
  increasing := .nil
  latest_eq := rfl
  fresh := by simp

theorem stored (h : Coherent latest history) (hnumber : poll.number = (polls history).length) :
    Coherent (some poll) (history ++ [.stored poll]) where
  justified := h.justified_concat hnumber
  increasing := by simpa using h.increasing
  latest_eq := by
    rw [sinceDelivery_concat rfl]
    simp
  fresh := by
    intro other hother pending hpending
    have hdelivered : other ∈ deliveries history := by simpa using hother
    rw [sinceDelivery_concat rfl, polls_append, List.mem_append] at hpending
    rcases hpending with hpending | hpending
    · exact h.fresh other hdelivered pending hpending
    · -- The new poll has a number above those of all polls before it.
      obtain rfl : pending = poll := by simpa using hpending
      rw [hnumber]
      exact h.number_lt_of_mem_polls (h.mem_polls_of_mem_deliveries hdelivered)

theorem delivered (h : Coherent (some poll) history) (consumer : Nat) :
    Coherent none (history ++ [.delivered consumer poll]) where
  justified := h.justified_concat (getLast?_polls h.latest_eq.symm)
  increasing := by
    rw [deliveries_append, List.pairwise_append]
    refine ⟨h.increasing, List.pairwise_singleton _ poll, ?_⟩
    intro other hother last hlast
    obtain rfl : last = poll := by simpa using hlast
    exact h.fresh other hother last (List.mem_of_getLast? h.latest_eq.symm)
  latest_eq := by rw [sinceDelivery_delivered]; rfl
  fresh := by rw [sinceDelivery_delivered]; simp

theorem empty (h : Coherent none history) (consumer : Nat) :
    Coherent none (history ++ [.empty consumer]) where
  justified := h.justified_concat (List.getLast?_eq_none_iff.mp h.latest_eq.symm)
  increasing := by simpa using h.increasing
  latest_eq := by
    rw [sinceDelivery_concat rfl]
    simpa using h.latest_eq
  fresh := by
    rw [sinceDelivery_concat rfl]
    simpa using h.fresh

end Coherent

theorem Effect.coherent {latest later : Option (Numbered α)}
    {happening : Option (Happening (Numbered α))} {history : List (Happening (Numbered α))}
    (heffect : Effect latest happening later) (h : Coherent latest history)
    (hnumber : ∀ poll, happening = some (.stored poll) → poll.number = (polls history).length) :
    Coherent later (history ++ happening.toList) := by
  cases heffect with
  | quiet => simpa using h
  | stored _ poll => exact h.stored (hnumber poll rfl)
  | delivered consumer poll => exact h.delivered consumer
  | empty consumer => exact h.empty consumer

namespace Log

def Coherent (log : Log (Numbered α)) : Prop := Poller.Coherent log.poller.latest log.history

theorem number_of_stored {log : Log (Numbered α)} {action : Action α} {poll : Numbered α}
    (h : (log.poller.act (log.number action)).2 = some (.stored poll)) :
    poll.number = (polls log.history).length := by
  have haction := eq_polled_of_stored h
  cases action with
  | polled snapshot =>
    have hpolled : snapshot.map (Numbered.mk (polls log.history).length) = some poll :=
      Action.polled.inj haction
    obtain ⟨_, -, rfl⟩ := Option.map_eq_some_iff.mp hpolled
    rfl
  | woken | requestRefresh | requestStop | takeLatest | waitLatest =>
    simp [number, Action.map] at haction

theorem Coherent.act {log : Log (Numbered α)} (h : log.Coherent) (action : Action α) :
    (log.act (log.number action)).Coherent :=
  (log.poller.effect_act (log.number action)).coherent h fun _ => number_of_stored

theorem coherent_runNumbered (actions : List (Action α)) : (runNumbered actions).Coherent := by
  induction actions using List.reverseRecOn with
  | nil => exact .start
  | append_singleton actions action ih =>
    rw [runNumbered, List.foldl_concat]
    exact ih.act action

theorem map_number (log : Log (Numbered α)) (action : Action α) :
    (log.number action).map Numbered.snapshot = action := by
  cases action with
  | polled snapshot => cases snapshot <;> rfl
  | woken | requestRefresh | requestStop | takeLatest | waitLatest => rfl

theorem map_runNumbered (actions : List (Action α)) :
    (runNumbered actions).map Numbered.snapshot = run actions := by
  induction actions using List.reverseRecOn with
  | nil => rfl
  | append_singleton actions action ih =>
    rw [runNumbered, run, List.foldl_concat, List.foldl_concat, ← runNumbered, ← run, ← ih,
      ← act_map, map_number]

end Log

/-- Polls are numbered as they are stored. In every order of actions the numbers delivered increase,
whoever gets them, each delivery is the newest poll of its time, a call comes back empty only if none
was stored since the last delivery, and a poll that fails leaves the slot as it is. -/
theorem handoff_in_order (actions : List (Action α)) :
    let log := Log.runNumbered actions
    log.map Numbered.snapshot = Log.run actions ∧
      (∀ before happening after, log.history = before ++ happening :: after →
        Justified before happening) ∧
      (deliveries log.history).Pairwise (·.number < ·.number) ∧
      ∀ p : Poller α, (p.act (.polled none)).2 = none ∧
        (p.act (.polled none)).1.latest = p.latest := by
  intro log
  have hcoherent : log.Coherent := Log.coherent_runNumbered actions
  exact ⟨Log.map_runNumbered actions, hcoherent.justified, hcoherent.increasing, act_failed⟩

theorem handoff_of_overtaken_poll :
    let actions : List (Action Nat) :=
      [.waitLatest 1 false, .polled (some 7), .woken true, .polled (some 8), .waitLatest 1 false,
        .woken true, .polled none, .takeLatest 2]
    let before : List (Happening (Numbered Nat)) := [.stored ⟨0, 7⟩, .stored ⟨1, 8⟩]
    let delivery : Happening (Numbered Nat) := .delivered 1 ⟨1, 8⟩
    (Log.runNumbered actions).history = before ++ [delivery, .empty 2] ∧
      (polls before).getLast? = some ⟨1, 8⟩ ∧
      polls (sinceDelivery (before ++ [delivery])) = [] := by
  intro actions before delivery
  have hhistory : (Log.runNumbered actions).history = before ++ [delivery, .empty 2] := by decide
  obtain ⟨-, hjustified, -, -⟩ := handoff_in_order actions
  exact ⟨hhistory, hjustified before delivery [.empty 2] hhistory,
    hjustified (before ++ [delivery]) (.empty 2) [] hhistory⟩

end Poller

end SocketWatch
