import SocketWatch.Tracking.Cycle
import Mathlib.Data.List.Perm.Basic

namespace SocketWatch.Slot

variable {agrees : Connection → Connection → Bool} {seen : Connection} {slots claimed : List Slot}

theorem claim_skip {slot : Slot} (h : ¬∃ row, slot = .free row ∧ agrees row.connection seen)
    (rest : List Slot) :
    claim agrees seen (slot :: rest) = (claim agrees seen rest).map (slot :: ·) := by
  cases slot with
  | free row =>
    have hrow : agrees row.connection seen = false := by simpa using h
    simp [claim, hrow]
  | past row => rfl
  | paired row other => rfl

theorem claim_eq_some (h : claim agrees seen slots = some claimed) :
    ∃ before row after, slots = before ++ .free row :: after ∧
      agrees row.connection seen ∧
      (∀ other, .free other ∈ before → agrees other.connection seen = false) ∧
      claimed = before ++ .paired row seen :: after := by
  induction slots generalizing claimed with
  | nil => simp [claim] at h
  | cons slot slots ih =>
    by_cases hfirst : ∃ row, slot = .free row ∧ agrees row.connection seen
    · obtain ⟨row, rfl, hrow⟩ := hfirst
      simp only [claim, hrow, if_true, Option.some.injEq] at h
      exact ⟨[], row, slots, rfl, hrow, by simp, h.symm⟩
    · rw [claim_skip hfirst] at h
      obtain ⟨rest, hrest, rfl⟩ := Option.map_eq_some_iff.mp h
      obtain ⟨before, row, after, rfl, hrow, hbefore, rfl⟩ := ih hrest
      refine ⟨slot :: before, row, after, rfl, hrow, fun other hother => ?_, rfl⟩
      rcases List.mem_cons.mp hother with rfl | hother
      · simpa using hfirst
      · exact hbefore other hother

theorem claim_eq_none (h : claim agrees seen slots = none) :
    ∀ row, .free row ∈ slots → agrees row.connection seen = false := by
  induction slots with
  | nil => simp
  | cons slot slots ih =>
    intro row hrow
    by_cases hfirst : ∃ row, slot = .free row ∧ agrees row.connection seen
    · obtain ⟨other, rfl, hother⟩ := hfirst
      simp [claim, hother] at h
    · rw [claim_skip hfirst, Option.map_eq_none_iff] at h
      rcases List.mem_cons.mp hrow with rfl | hrow
      · simpa using hfirst
      · exact ih h row hrow

theorem pair_invariant {p : List Slot → Prop}
    (hclaim : ∀ before row after seen, agrees row.connection seen →
      p (before ++ .free row :: after) → p (before ++ .paired row seen :: after))
    (records : List Connection) (h : p slots) : p (pair agrees records slots).1 := by
  induction records generalizing slots with
  | nil => exact h
  | cons seen records ih =>
    cases hc : claim agrees seen slots with
    | none =>
      simp only [pair, hc]
      exact ih h
    | some claimed =>
      obtain ⟨before, row, after, rfl, hrow, -, rfl⟩ := claim_eq_some hc
      simp only [pair, hc]
      exact ih (hclaim before row after seen hrow h)

@[simp] theorem map_row_pair (records : List Connection) :
    (pair agrees records slots).1.map row = slots.map row := by
  apply pair_invariant (p := fun claimed => claimed.map row = slots.map row)
  · intro before row after seen _ hrows
    rw [← hrows]
    simp [Slot.row]
  · rfl

def seen? : Slot → Option Connection
  | .paired _ seen => some seen
  | _ => none

theorem seen_pair_perm (agrees : Connection → Connection → Bool) (records : List Connection)
    (slots : List Slot) :
    ((pair agrees records slots).1.filterMap seen? ++ (pair agrees records slots).2).Perm
      (slots.filterMap seen? ++ records) := by
  induction records generalizing slots with
  | nil => exact .refl _
  | cons seen records ih =>
    cases hc : claim agrees seen slots with
    | none =>
      simp only [pair, hc]
      exact (List.perm_middle.trans ((ih slots).cons seen)).trans List.perm_middle.symm
    | some claimed =>
      obtain ⟨before, row, after, rfl, -, -, rfl⟩ := claim_eq_some hc
      simp only [pair, hc]
      refine (ih _).trans ?_
      simp only [List.filterMap_append, List.filterMap_cons, seen?, List.append_assoc,
        List.cons_append]
      exact .append_left _ List.perm_middle.symm

theorem holds_pair {p : Connection → Connection → Prop} (hp : ∀ a b, agrees a b → p a b)
    (records : List Connection) (h : ∀ row seen, .paired row seen ∈ slots → p row.connection seen) :
    ∀ row seen, .paired row seen ∈ (pair agrees records slots).1 → p row.connection seen := by
  apply pair_invariant
    (p := fun slots => ∀ row seen, .paired row seen ∈ slots → p row.connection seen)
  · intro before row after seen hagrees hold other record hmem
    rcases List.mem_append.mp hmem with hmem | hmem
    · exact hold other record (by simp [hmem])
    · rcases List.mem_cons.mp hmem with heq | hmem
      · obtain ⟨rfl, rfl⟩ := Slot.paired.inj heq
        exact hp _ _ hagrees
      · exact hold other record (by simp [hmem])
  · exact h

theorem not_paired_ofRow (tracked : List Row) (row : Row) (seen : Connection) :
    .paired row seen ∉ tracked.map ofRow := by
  intro h
  obtain ⟨other, -, hother⟩ := List.mem_map.mp h
  by_cases hlive : other.isLive <;> simp [ofRow, hlive] at hother

def Sound : Slot → Prop
  | .past row => row.isLive = false
  | .free row => row.isLive
  | .paired row seen => row.isLive ∧ row.connection.key = seen.key

theorem sound_ofRow (row : Row) : (ofRow row).Sound := by
  by_cases h : row.isLive <;> simp [ofRow, Sound, h]

theorem sound_pair (hkey : ∀ a b, agrees a b → a.key = b.key) (records : List Connection)
    (h : ∀ slot ∈ slots, slot.Sound) : ∀ slot ∈ (pair agrees records slots).1, slot.Sound := by
  apply pair_invariant (p := fun slots => ∀ slot ∈ slots, slot.Sound)
  · intro before row after seen hagrees hsound slot hslot
    have hrow : row.isLive := hsound (.free row) (by simp)
    rcases List.mem_append.mp hslot with hslot | hslot
    · exact hsound slot (by simp [hslot])
    · rcases List.mem_cons.mp hslot with rfl | hslot
      · exact ⟨hrow, hkey _ _ hagrees⟩
      · exact hsound slot (by simp [hslot])
  · exact h

end SocketWatch.Slot

namespace SocketWatch

theorem Connection.same_iff {a b : Connection} :
    a.same b ↔ a.inode = b.inode ∧ a.key = b.key := by
  simp [same]

theorem Connection.maybeSame_iff {a b : Connection} :
    a.maybeSame b ↔ (a.inode = b.inode ∨ a.inode = 0 ∨ b.inode = 0) ∧ a.key = b.key := by
  simp [maybeSame, or_assoc]

theorem map_row_pairing (tracked : List Row) (latest : List Connection) :
    (pairing tracked latest).1.map Slot.row = tracked := by
  have hrow : Slot.row ∘ Slot.ofRow = id := by
    funext row
    by_cases h : row.isLive <;> simp [Slot.ofRow, Slot.row, h]
  simp [pairing, hrow]

theorem sound_pairing (tracked : List Row) (latest : List Connection) :
    ∀ slot ∈ (pairing tracked latest).1, slot.Sound := by
  apply Slot.sound_pair (fun a b h => (Connection.maybeSame_iff.mp h).2)
  apply Slot.sound_pair (fun a b h => (Connection.same_iff.mp h).2)
  intro slot hslot
  obtain ⟨row, -, rfl⟩ := List.mem_map.mp hslot
  exact Slot.sound_ofRow row

theorem maybeSame_of_paired {tracked : List Row} {latest : List Connection} {row : Row}
    {seen : Connection} (h : .paired row seen ∈ (pairing tracked latest).1) :
    row.connection.maybeSame seen := by
  have hexact : ∀ row seen,
      .paired row seen ∈ (Slot.pair Connection.same latest (tracked.map Slot.ofRow)).1 →
        row.connection.maybeSame seen := by
    apply Slot.holds_pair (p := fun a b => a.maybeSame b)
    · intro a b hsame
      obtain ⟨hinode, hkey⟩ := Connection.same_iff.mp hsame
      exact Connection.maybeSame_iff.mpr ⟨.inl hinode, hkey⟩
    · intro row seen hmem
      exact absurd hmem (Slot.not_paired_ofRow tracked row seen)
  exact Slot.holds_pair (p := fun a b => a.maybeSame b) (fun _ _ h => h) _ hexact row seen h

theorem seen_pairing_perm (tracked : List Row) (latest : List Connection) :
    ((pairing tracked latest).1.filterMap Slot.seen? ++
      (pairing tracked latest).2).Perm latest := by
  have hstart : (tracked.map Slot.ofRow).filterMap Slot.seen? = [] := by
    rw [List.filterMap_map, List.filterMap_eq_nil_iff]
    intro row _
    by_cases h : row.isLive <;> simp [Slot.ofRow, Slot.seen?, h]
  have hexact := Slot.seen_pair_perm Connection.same latest (tracked.map Slot.ofRow)
  rw [hstart, List.nil_append] at hexact
  exact (Slot.seen_pair_perm _ _ _).trans hexact

end SocketWatch
