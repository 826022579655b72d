import Mathlib.Data.List.DropRight
import SocketWatch.Polling.Poller

namespace SocketWatch

namespace Poller

variable {α β : Type}

inductive Action (α : Type) where
  | polled (snapshot : Option α)
  | woken (due : Bool)
  | requestRefresh
  | requestStop
  | takeLatest (consumer : Nat)
  | waitLatest (consumer : Nat) (timeUp : Bool)
deriving DecidableEq, Repr

inductive Happening (α : Type) where
  | stored (snapshot : α)
  | delivered (consumer : Nat) (snapshot : α)
  | empty (consumer : Nat)
deriving DecidableEq, Repr

namespace Happening

@[simp] def stored? : Happening α → Option α
  | .stored snapshot => some snapshot
  | .delivered _ _ => none
  | .empty _ => none

@[simp] def delivered? : Happening α → Option α
  | .stored _ => none
  | .delivered _ snapshot => some snapshot
  | .empty _ => none

end Happening

def stored? (p : Poller α) (snapshot : Option α) : Option α :=
  if p.phase = .polling ∧ p.stop = false then snapshot else none

def answer (p : Poller α) (consumer : Nat) : Poller α × Option (Happening α) :=
  match p.step .take with
  | (p, some snapshot) => (p, some (.delivered consumer snapshot))
  | (p, none) => (p, some (.empty consumer))

def act (p : Poller α) : Action α → Poller α × Option (Happening α)
  | .polled snapshot => ((p.step (.polled snapshot)).1, (p.stored? snapshot).map .stored)
  | .woken due => ((p.step (.woken due)).1, none)
  | .requestRefresh => ((p.step .requestRefresh).1, none)
  | .requestStop => ((p.step .requestStop).1, none)
  | .takeLatest consumer => p.answer consumer
  | .waitLatest consumer timeUp =>
    if p.latest.isSome || timeUp then p.answer consumer else (p, none)

structure Log (α : Type) where
  poller : Poller α := {}
  history : List (Happening α) := []
deriving DecidableEq, Repr

def Log.act (log : Log α) (action : Action α) : Log α :=
  let (poller, happening) := log.poller.act action
  { poller, history := log.history ++ happening.toList }

def Log.run (actions : List (Action α)) : Log α := actions.foldl Log.act {}

def polls (history : List (Happening α)) : List α := history.filterMap Happening.stored?

def deliveries (history : List (Happening α)) : List α := history.filterMap Happening.delivered?

def sinceDelivery (history : List (Happening α)) : List (Happening α) :=
  history.rtakeWhile fun happening => happening.delivered?.isNone

section History

variable {history : List (Happening α)} {happening : Happening α}

@[simp] theorem polls_append (history more : List (Happening α)) :
    polls (history ++ more) = polls history ++ polls more := List.filterMap_append

@[simp] theorem polls_nil : polls ([] : List (Happening α)) = [] := rfl

@[simp] theorem polls_cons (happening : Happening α) (history : List (Happening α)) :
    polls (happening :: history) = happening.stored?.toList ++ polls history := by
  cases happening <;> rfl

@[simp] theorem deliveries_append (history more : List (Happening α)) :
    deliveries (history ++ more) = deliveries history ++ deliveries more := List.filterMap_append

@[simp] theorem deliveries_nil : deliveries ([] : List (Happening α)) = [] := rfl

@[simp] theorem deliveries_cons (happening : Happening α) (history : List (Happening α)) :
    deliveries (happening :: history) = happening.delivered?.toList ++ deliveries history := by
  cases happening <;> rfl

theorem exists_stored {snapshot : α} (h : snapshot ∈ polls history) :
    ∃ before after, history = before ++ .stored snapshot :: after := by
  obtain ⟨happening, hmem, hstored⟩ := List.mem_filterMap.mp h
  cases happening with
  | stored other =>
    obtain rfl : other = snapshot := Option.some.inj hstored
    exact List.append_of_mem hmem
  | delivered => simp at hstored
  | empty => simp at hstored

theorem exists_delivered {snapshot : α} (h : snapshot ∈ deliveries history) :
    ∃ before consumer after, history = before ++ .delivered consumer snapshot :: after := by
  obtain ⟨happening, hmem, hdelivered⟩ := List.mem_filterMap.mp h
  cases happening with
  | delivered consumer other =>
    obtain rfl : other = snapshot := Option.some.inj hdelivered
    obtain ⟨before, after, hsplit⟩ := List.append_of_mem hmem
    exact ⟨before, consumer, after, hsplit⟩
  | stored => simp at hdelivered
  | empty => simp at hdelivered

theorem sinceDelivery_concat (h : happening.delivered? = none) :
    sinceDelivery (history ++ [happening]) = sinceDelivery history ++ [happening] :=
  List.rtakeWhile_concat_pos _ _ _ (Option.isNone_iff_eq_none.mpr h)

theorem sinceDelivery_delivered (history : List (Happening α)) (consumer : Nat) (snapshot : α) :
    sinceDelivery (history ++ [.delivered consumer snapshot]) = [] :=
  List.rtakeWhile_concat_neg _ _ _ (by simp)

theorem getLast?_polls {snapshot : α}
    (h : (polls (sinceDelivery history)).getLast? = some snapshot) :
    (polls history).getLast? = some snapshot := by
  obtain ⟨earlier, hsplit⟩ := history.rtakeWhile_suffix fun happening => happening.delivered?.isNone
  change earlier ++ sinceDelivery history = history at hsplit
  rw [← hsplit, polls_append, List.getLast?_append, h]
  rfl

theorem eq_append_cons_of_concat {before after : List (Happening α)} {last : Happening α}
    (h : history ++ [last] = before ++ happening :: after) :
    (before = history ∧ happening = last) ∨ ∃ rest, history = before ++ happening :: rest := by
  cases after using List.reverseRecOn with
  | nil =>
    obtain ⟨hhistory, hlast⟩ := List.append_inj' h rfl
    exact .inl ⟨hhistory.symm, (List.cons.inj hlast).1.symm⟩
  | append_singleton rest other =>
    rw [← List.cons_append, ← List.append_assoc] at h
    exact .inr ⟨rest, (List.append_inj' h rfl).1⟩

end History

section Effects

variable (p : Poller α)

inductive Effect : Option α → Option (Happening α) → Option α → Prop
  | quiet (latest : Option α) : Effect latest none latest
  | stored (latest : Option α) (snapshot : α) :
    Effect latest (some (.stored snapshot)) (some snapshot)
  | delivered (consumer : Nat) (snapshot : α) :
    Effect (some snapshot) (some (.delivered consumer snapshot)) none
  | empty (consumer : Nat) : Effect none (some (.empty consumer)) none

theorem latest_rest : p.rest.latest = p.latest := by
  unfold rest
  split_ifs <;> rfl

theorem latest_polled (snapshot : Option α) :
    (p.step (.polled snapshot)).1.latest = (p.stored? snapshot).or p.latest := by
  by_cases hpolling : p.phase = .polling
  · by_cases hstop : p.stop = true
    · simp [step, stored?, hpolling, hstop]
    · simp [step, stored?, hpolling, hstop, latest_rest]
  · simp [step, stored?, hpolling]

theorem latest_woken (due : Bool) : (p.step (.woken due)).1.latest = p.latest := by
  simp only [step]
  split_ifs
  · rfl
  · exact p.latest_rest
  · rfl

theorem effect_answer (consumer : Nat) :
    Effect p.latest (p.answer consumer).2 (p.answer consumer).1.latest := by
  simp only [answer, step]
  cases p.latest with
  | none => exact .empty consumer
  | some snapshot => exact .delivered consumer snapshot

theorem effect_act (action : Action α) :
    Effect p.latest (p.act action).2 (p.act action).1.latest := by
  cases action with
  | polled snapshot =>
    simp only [act, latest_polled]
    cases p.stored? snapshot with
    | none => exact .quiet _
    | some stored => exact .stored _ stored
  | woken due =>
    simp only [act, latest_woken]
    exact .quiet _
  | requestRefresh => exact .quiet _
  | requestStop => exact .quiet _
  | takeLatest consumer => exact p.effect_answer consumer
  | waitLatest consumer timeUp =>
    simp only [act]
    split_ifs
    · exact p.effect_answer consumer
    · exact .quiet _

theorem eq_polled_of_stored {p : Poller α} {action : Action α} {snapshot : α}
    (h : (p.act action).2 = some (.stored snapshot)) : action = .polled (some snapshot) := by
  have hanswer (consumer : Nat) : (p.answer consumer).2 ≠ some (.stored snapshot) := by
    simp only [answer]
    split <;> simp
  cases action with
  | polled latest =>
    obtain ⟨stored, hstored, heq⟩ := Option.map_eq_some_iff.mp h
    obtain rfl : stored = snapshot := by simpa using heq
    simp only [stored?, ite_eq_iff, reduceCtorEq, and_false, or_false] at hstored
    rw [hstored.2]
  | woken => simp [act] at h
  | requestRefresh => simp [act] at h
  | requestStop => simp [act] at h
  | takeLatest consumer => exact absurd h (hanswer consumer)
  | waitLatest consumer timeUp =>
    simp only [act] at h
    split_ifs at h
    exact absurd h (hanswer consumer)

theorem act_failed : (p.act (.polled none)).2 = none ∧
    (p.act (.polled none)).1.latest = p.latest := by
  have hstored : p.stored? none = none := by simp [stored?]
  simp [act, latest_polled, hstored]

end Effects

section Map

variable (f : α → β)

def map (p : Poller α) : Poller β := { p with latest := p.latest.map f }

def Action.map : Action α → Action β
  | .polled snapshot => .polled (snapshot.map f)
  | .woken due => .woken due
  | .requestRefresh => .requestRefresh
  | .requestStop => .requestStop
  | .takeLatest consumer => .takeLatest consumer
  | .waitLatest consumer timeUp => .waitLatest consumer timeUp

def Happening.map : Happening α → Happening β
  | .stored snapshot => .stored (f snapshot)
  | .delivered consumer snapshot => .delivered consumer (f snapshot)
  | .empty consumer => .empty consumer

def Log.map (log : Log α) : Log β :=
  { poller := log.poller.map f, history := log.history.map (Happening.map f) }

theorem rest_map (p : Poller α) : (p.map f).rest = p.rest.map f := by
  obtain ⟨latest, refresh, stop, phase⟩ := p
  cases refresh <;> cases stop <;> rfl

theorem step_polled_map (p : Poller α) (snapshot : Option α) :
    ((p.map f).step (.polled (snapshot.map f))).1 = (p.step (.polled snapshot)).1.map f := by
  obtain ⟨latest, refresh, stop, phase⟩ := p
  cases phase with
  | asleep => rfl
  | stopped => rfl
  | polling =>
    cases stop with
    | true => rfl
    | false =>
      -- This is the only branch that puts a snapshot into the slot.
      change rest ⟨(snapshot.map f).or (latest.map f), refresh, false, .polling⟩ = _
      rw [← Option.map_or]
      exact rest_map f ⟨snapshot.or latest, refresh, false, .polling⟩

theorem step_woken_map (p : Poller α) (due : Bool) :
    ((p.map f).step (.woken due)).1 = (p.step (.woken due)).1.map f := by
  obtain ⟨latest, refresh, stop, phase⟩ := p
  cases phase with
  | polling => rfl
  | stopped => rfl
  | asleep =>
    cases due with
    | true => rfl
    | false => exact rest_map f _

theorem stored?_map (p : Poller α) (snapshot : Option α) :
    (p.map f).stored? (snapshot.map f) = (p.stored? snapshot).map f := by
  obtain ⟨latest, refresh, stop, phase⟩ := p
  cases phase <;> cases stop <;> rfl

theorem answer_map (p : Poller α) (consumer : Nat) : (p.map f).answer consumer =
    ((p.answer consumer).1.map f, (p.answer consumer).2.map (Happening.map f)) := by
  simp only [answer, step, map]
  cases p.latest <;> rfl

theorem act_map (p : Poller α) (action : Action α) : (p.map f).act (action.map f) =
    ((p.act action).1.map f, (p.act action).2.map (Happening.map f)) := by
  cases action with
  | polled snapshot =>
    simp only [Action.map, act, step_polled_map, stored?_map, Option.map_map]
    rfl
  | woken due => simp [Action.map, act, step_woken_map]
  | requestRefresh => rfl
  | requestStop => rfl
  | takeLatest consumer => exact p.answer_map f consumer
  | waitLatest consumer timeUp =>
    simp only [Action.map, act, map, Option.isSome_map]
    split_ifs
    · exact p.answer_map f consumer
    · rfl

theorem Log.act_map (log : Log α) (action : Action α) :
    (log.map f).act (action.map f) = (log.act action).map f := by
  simp only [Log.act, Log.map, Poller.act_map, List.map_append]
  cases (log.poller.act action).2 <;> rfl

end Map

end Poller

end SocketWatch
