import Mathlib.Logic.Function.Basic
import SocketWatch.Proofs.Tracking.FirstFit

namespace SocketWatch

variable {latest : List Connection} {slots : List Slot} {partner next : Nat → Option Nat}
  {numbers left : List Nat} {i n : Nat}

structure Assigned (latest : List Connection) (slots : List Slot) (partner : Nat → Option Nat) :
    Prop where
  paired : ∀ i n, partner i = some n →
    ∃ row seen, slots[i]? = some (.paired row seen) ∧ latest[n]? = some seen
  total : ∀ (i : Nat) row seen, slots[i]? = some (.paired row seen) → ∃ n, partner i = some n
  oneRow : ∀ i j n, partner i = some n → partner j = some n → i = j

/-- A pass over the records `numbers` has made the assignment `next` of `partner`. It has given rows
to all of them but those in `left`, and to no others. -/
structure Served (numbers left : List Nat) (partner next : Nat → Option Nat) : Prop where
  sublist : left.Sublist numbers
  kept : ∀ i n, partner i = some n → next i = some n
  given : ∀ i n, next i = some n → partner i = some n ∨ n ∈ numbers ∧ n ∉ left
  served : ∀ n ∈ numbers, n ∉ left → ∃ i, next i = some n

namespace Served

theorem refl (partner : Nat → Option Nat) : Served [] [] partner partner :=
  ⟨.slnil, fun _ _ h => h, fun _ _ h => .inl h, by simp⟩

theorem leave (hn : n ∉ numbers) (h : Served numbers left partner next) :
    Served (n :: numbers) (n :: left) partner next := by
  refine ⟨h.sublist.cons_cons n, h.kept, ?_, ?_⟩
  · intro i m hm
    rcases h.given i m hm with hold | ⟨hmem, hleft⟩
    · exact .inl hold
    · have hne : m ≠ n := by
        rintro rfl
        exact hn hmem
      exact .inr ⟨by simp [hmem], by simp [hne, hleft]⟩
  · intro m hm hleft
    rw [List.mem_cons, not_or] at hleft
    exact h.served m ((List.mem_cons.mp hm).resolve_left hleft.1) hleft.2

theorem give (hn : n ∉ numbers) (hi : partner i = none)
    (h : Served numbers left (Function.update partner i (some n)) next) :
    Served (n :: numbers) left partner next := by
  have hnLeft : n ∉ left := by
    intro hmem
    exact hn (h.sublist.subset hmem)
  refine ⟨h.sublist.cons n, ?_, ?_, ?_⟩
  · intro j m hm
    apply h.kept
    rw [Function.update_of_ne, hm]
    rintro rfl
    simp [hi] at hm
  · intro j m hm
    rcases h.given j m hm with hold | ⟨hmem, hleft⟩
    · by_cases hj : j = i
      · rw [hj, Function.update_self] at hold
        obtain rfl := Option.some.inj hold
        exact .inr ⟨by simp, hnLeft⟩
      · rw [Function.update_of_ne hj] at hold
        exact .inl hold
    · exact .inr ⟨by simp [hmem], hleft⟩
  · intro m hm hleft
    rcases List.mem_cons.mp hm with rfl | hm
    · exact ⟨i, h.kept i m (by simp)⟩
    · exact h.served m hm hleft

end Served

namespace Assigned

theorem eq_none_of_free (h : Assigned latest slots partner) {row : Row}
    (hi : slots[i]? = some (.free row)) : partner i = none := by
  cases hp : partner i with
  | none => rfl
  | some n =>
    obtain ⟨other, seen, hother, -⟩ := h.paired i n hp
    rw [hi] at hother
    exact absurd (Option.some.inj hother) (by simp)

theorem claim {before after : List Slot} {row : Row} {seen : Connection}
    (h : Assigned latest (before ++ .free row :: after) partner) (hn : latest[n]? = some seen)
    (hfresh : ∀ i, partner i ≠ some n) :
    Assigned latest (before ++ .paired row seen :: after)
      (Function.update partner before.length (some n)) := by
  have hset : before ++ .paired row seen :: after =
      (before ++ .free row :: after).set before.length (.paired row seen) := by simp
  have hself : (before ++ .paired row seen :: after)[before.length]? =
      some (.paired row seen) := by simp
  have hother {i : Nat} (hi : i ≠ before.length) :
      (before ++ .paired row seen :: after)[i]? = (before ++ .free row :: after)[i]? := by
    rw [hset, List.getElem?_set_ne hi.symm]
  constructor
  · intro i m hm
    by_cases hi : i = before.length
    · subst hi
      obtain rfl : n = m := by simpa using hm
      exact ⟨row, seen, hself, hn⟩
    · rw [Function.update_of_ne hi] at hm
      rw [hother hi]
      exact h.paired i m hm
  · intro i other record hslot
    by_cases hi : i = before.length
    · exact ⟨n, by simp [hi]⟩
    · rw [hother hi] at hslot
      rw [Function.update_of_ne hi]
      exact h.total i other record hslot
  · intro i j m hi hj
    by_cases hib : i = before.length <;> by_cases hjb : j = before.length
    · rw [hib, hjb]
    · rw [hib, Function.update_self] at hi
      rw [Function.update_of_ne hjb] at hj
      exact absurd (hj.trans hi.symm) (hfresh j)
    · rw [hjb, Function.update_self] at hj
      rw [Function.update_of_ne hib] at hi
      exact absurd (hi.trans hj.symm) (hfresh i)
    · rw [Function.update_of_ne hib] at hi
      rw [Function.update_of_ne hjb] at hj
      exact h.oneRow i j m hi hj

theorem pair (agrees : Connection → Connection → Bool) (hlt : ∀ n ∈ numbers, n < latest.length)
    (hnodup : numbers.Nodup) (hfresh : ∀ n ∈ numbers, ∀ i, partner i ≠ some n)
    (h : Assigned latest slots partner) :
    ∃ next left, Served numbers left partner next ∧
      Assigned latest (Slot.pair agrees (numbers.filterMap (latest[·]?)) slots).1 next ∧
      (Slot.pair agrees (numbers.filterMap (latest[·]?)) slots).2 =
        left.filterMap (latest[·]?) := by
  induction numbers generalizing slots partner with
  | nil => exact ⟨partner, [], .refl partner, h, rfl⟩
  | cons n numbers ih =>
    have hlength : n < latest.length := hlt n (by simp)
    have hn : latest[n]? = some latest[n] := List.getElem?_eq_getElem hlength
    have hltRest : ∀ m ∈ numbers, m < latest.length := by
      intro m hm
      exact hlt m (by simp [hm])
    obtain ⟨hnot, hnodup⟩ := List.nodup_cons.mp hnodup
    rw [List.filterMap_cons_some hn]
    cases hc : Slot.claim agrees latest[n] slots with
    | none =>
      have hfreshRest : ∀ m ∈ numbers, ∀ i, partner i ≠ some m := by
        intro m hm
        exact hfresh m (by simp [hm])
      obtain ⟨next, left, hserved, hnext, hleft⟩ := ih hltRest hnodup hfreshRest h
      simp only [Slot.pair, hc]
      refine ⟨next, n :: left, hserved.leave hnot, hnext, ?_⟩
      rw [List.filterMap_cons_some hn, hleft]
    | some claimed =>
      obtain ⟨before, row, after, rfl, -, -, rfl⟩ := Slot.claim_eq_some hc
      have hstep := h.claim hn (hfresh n (by simp))
      have hfreshRest : ∀ m ∈ numbers, ∀ i,
          Function.update partner before.length (some n) i ≠ some m := by
        intro m hm i hi
        by_cases hib : i = before.length
        · rw [hib, Function.update_self] at hi
          exact hnot (Option.some.inj hi ▸ hm)
        · rw [Function.update_of_ne hib] at hi
          exact hfresh m (by simp [hm]) i hi
      obtain ⟨next, left, hserved, hnext, hleft⟩ := ih hltRest hnodup hfreshRest hstep
      have hslot : (before ++ .free row :: after)[before.length]? = some (.free row) := by simp
      have hfree : partner before.length = none := h.eq_none_of_free hslot
      simp only [Slot.pair, hc]
      exact ⟨next, left, hserved.give hnot hfree, hnext, hleft⟩

end Assigned

theorem exists_assigned (tracked : List Row) (latest : List Connection) :
    ∃ (partner : Nat → Option Nat) (left : List Nat),
      Assigned latest (pairing tracked latest).1 partner ∧
      left.Pairwise (· < ·) ∧
      (∀ n, n ∈ left ↔ n < latest.length ∧ ∀ i, partner i ≠ some n) ∧
      (pairing tracked latest).2 = left.filterMap (latest[·]?) := by
  have hstart : Assigned latest (tracked.map Slot.ofRow) fun _ => none := by
    refine ⟨by simp, ?_, by simp⟩
    intro i row seen hi
    exact absurd (List.mem_of_getElem? hi) (Slot.not_paired_ofRow tracked row seen)
  have hrange : ∀ n ∈ List.range latest.length, n < latest.length := fun n => List.mem_range.mp
  obtain ⟨exact, found, hexact, hassigned, hfound⟩ :=
    hstart.pair Connection.same hrange List.nodup_range (by simp)
  rw [filterMap_getElem?_range] at hassigned hfound
  have hlt : ∀ n ∈ found, n < latest.length := by
    intro n hn
    exact List.mem_range.mp (hexact.sublist.subset hn)
  have hfresh : ∀ n ∈ found, ∀ i, exact i ≠ some n := by
    intro n hn i hi
    rcases hexact.given i n hi with hnone | ⟨-, hnot⟩
    · simp at hnone
    · exact hnot hn
  obtain ⟨partner, left, hloose, hpartner, hleft⟩ :=
    hassigned.pair Connection.maybeSame hlt (hexact.sublist.nodup List.nodup_range) hfresh
  rw [← hfound] at hpartner hleft
  refine ⟨partner, left, hpartner,
    List.pairwise_lt_range.sublist (hloose.sublist.trans hexact.sublist), ?_, hleft⟩
  intro n
  constructor
  · intro hn
    have hmem : n ∈ found := hloose.sublist.subset hn
    refine ⟨hlt n hmem, fun i hi => ?_⟩
    rcases hloose.given i n hi with hold | ⟨-, hnot⟩
    · exact hfresh n hmem i hold
    · exact hnot hn
  · rintro ⟨hn, hnone⟩
    by_contra hnot
    by_cases hmem : n ∈ found
    · obtain ⟨i, hi⟩ := hloose.served n hmem hnot
      exact hnone i hi
    · obtain ⟨i, hi⟩ := hexact.served n (List.mem_range.mpr hn) hmem
      exact hnone i (hloose.kept i n hi)

end SocketWatch
