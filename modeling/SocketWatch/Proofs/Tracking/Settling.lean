import SocketWatch.Proofs.Tracking.Bookkeeping

/-!
A snapshot that comes again. In its second cycle every record finds a row with its key and inode, so
nothing is inserted and nothing deleted; this puts the rows of each key and inode into the order of
their records, and in the third cycle every row is found as it is.
-/

namespace SocketWatch

def Connection.identity (c : Connection) : SocketKey × UInt64 := (c.key, c.inode)

theorem Connection.same_iff_identity {a b : Connection} : a.same b ↔ a.identity = b.identity := by
  rw [same_iff, identity, identity, Prod.mk.injEq, and_comm]

namespace Slot

variable {seen : Connection} {slots others : List Slot} {records : List Connection}

def freeIdentity? : Slot → Option (SocketKey × UInt64)
  | .free row => some row.connection.identity
  | _ => none

theorem mem_freeIdentity {row : Row} (h : .free row ∈ slots) :
    row.connection.identity ∈ slots.filterMap freeIdentity? :=
  List.mem_filterMap.mpr ⟨_, h, rfl⟩

theorem claim_same_of_mem (h : seen.identity ∈ slots.filterMap freeIdentity?) :
    ∃ claimed, claim Connection.same seen slots = some claimed ∧
      (slots.filterMap freeIdentity?).Perm (seen.identity :: claimed.filterMap freeIdentity?) := by
  cases hc : claim Connection.same seen slots with
  | none =>
    obtain ⟨slot, hslot, hidentity⟩ := List.mem_filterMap.mp h
    cases slot with
    | past row => simp [freeIdentity?] at hidentity
    | paired row other => simp [freeIdentity?] at hidentity
    | free row =>
      have hsame : row.connection.same seen :=
        Connection.same_iff_identity.mpr (Option.some.inj hidentity)
      rw [claim_eq_none hc row hslot] at hsame
      exact absurd hsame (by simp)
  | some claimed =>
    obtain ⟨before, row, after, rfl, hsame, -, rfl⟩ := claim_eq_some hc
    refine ⟨_, rfl, ?_⟩
    rw [← Connection.same_iff_identity.mp hsame]
    simp only [List.filterMap_append, List.filterMap_cons, freeIdentity?]
    exact List.perm_middle

theorem pair_same_of_perm
    (h : (slots.filterMap freeIdentity?).Perm (records.map Connection.identity)) :
    (pair Connection.same records slots).2 = [] ∧
      (pair Connection.same records slots).1.filterMap freeIdentity? = [] := by
  induction records generalizing slots with
  | nil => exact ⟨rfl, h.eq_nil⟩
  | cons seen records ih =>
    have hmem : seen.identity ∈ slots.filterMap freeIdentity? := h.mem_iff.mpr (by simp)
    obtain ⟨claimed, hclaimed, hperm⟩ := claim_same_of_mem hmem
    simp only [pair, hclaimed]
    exact ih (hperm.symm.trans h).cons_inv

inductive Alike (agrees : Connection → Connection → Bool) : Slot → Slot → Prop
  | past (row other : Row) : Alike agrees (.past row) (.past other)
  | free (row other : Row) (h : ∀ seen, agrees row.connection seen = agrees other.connection seen) :
    Alike agrees (.free row) (.free other)
  | paired (row other : Row) (seen : Connection) :
    Alike agrees (.paired row seen) (.paired other seen)

variable {agrees : Connection → Connection → Bool}

theorem Alike.cons_map {slot other : Slot} (h : Alike agrees slot other)
    {claimed more : Option (List Slot)}
    (hrest : Option.Rel (List.Forall₂ (Alike agrees)) claimed more) :
    Option.Rel (List.Forall₂ (Alike agrees)) (claimed.map (slot :: ·)) (more.map (other :: ·)) := by
  cases hrest with
  | none => exact .none
  | some hslots => exact .some (.cons h hslots)

theorem claim_alike (h : List.Forall₂ (Alike agrees) slots others) (seen : Connection) :
    Option.Rel (List.Forall₂ (Alike agrees)) (claim agrees seen slots)
      (claim agrees seen others) := by
  induction h with
  | nil => exact .none
  | cons hslot hrest ih =>
    have hskip := hslot.cons_map ih
    cases hslot with
    | past row other => exact hskip
    | paired row other record => exact hskip
    | free row other hagrees =>
      simp only [claim, hagrees seen]
      split_ifs
      · exact .some (.cons (.paired row other seen) hrest)
      · exact hskip

theorem pair_alike (h : List.Forall₂ (Alike agrees) slots others) (records : List Connection) :
    List.Forall₂ (Alike agrees) (pair agrees records slots).1 (pair agrees records others).1 ∧
      (pair agrees records slots).2 = (pair agrees records others).2 := by
  induction records generalizing slots others with
  | nil => exact ⟨h, rfl⟩
  | cons seen records ih =>
    have hclaim := claim_alike h seen
    simp only [pair]
    generalize claim agrees seen slots = claimed at hclaim ⊢
    generalize claim agrees seen others = other at hclaim ⊢
    cases hclaim with
    | none =>
      obtain ⟨hslots, hunpaired⟩ := ih h
      exact ⟨hslots, congrArg (seen :: ·) hunpaired⟩
    | some hclaimed => exact ih hclaimed

def Settled : Slot → Prop
  | .past _ => True
  | .free _ => False
  | .paired row seen => unchanged row seen

theorem unchanged_settle {row : Row} (h : (Slot.paired row seen).Sound) :
    unchanged (settle (.paired row seen)) seen := by
  have hsighting := (settle_paired h).2
  rw [unchanged_iff]
  exact ⟨congrArg Sighting.state hsighting, congrArg Sighting.pid hsighting,
    congrArg Sighting.inode hsighting⟩

theorem settled_of_alike (h : List.Forall₂ (Alike agrees) slots others)
    (hrows : others.map Slot.row = slots.map settle) (hsound : ∀ slot ∈ slots, slot.Sound)
    (hfree : slots.filterMap freeIdentity? = []) : ∀ slot ∈ others, slot.Settled := by
  induction h with
  | nil => simp
  | cons hslot hrest ih =>
    obtain ⟨hrow, hrows⟩ := List.cons.inj hrows
    have htail := fun hnone => ih hrows (fun slot hmem => hsound slot (by simp [hmem])) hnone
    intro slot hmem
    cases hslot with
    | past row other =>
      rcases List.mem_cons.mp hmem with rfl | hmem
      · trivial
      · exact htail hfree slot hmem
    | free row other hagrees => simp [freeIdentity?] at hfree
    | paired row other seen =>
      rcases List.mem_cons.mp hmem with rfl | hmem
      · obtain rfl : other = settle (.paired row seen) := hrow
        exact unchanged_settle (hsound _ (by simp))
      · exact htail hfree slot hmem

end Slot

def Row.again (row : Row) : Row := if row.isLive then { row with change := .none } else row

section Repeated

variable {tracked : List Row} {latest : List Connection}

theorem settle_of_settled {slot : Slot} (hsound : slot.Sound) (h : slot.Settled) :
    slot.settle = slot.row.again := by
  cases slot with
  | past row =>
    have hpast : ¬row.isLive := Bool.eq_false_iff.mp hsound
    exact (if_neg hpast).symm
  | free row => exact absurd h id
  | paired row seen => rw [Slot.settle_of_unchanged h, Slot.row, Row.again, if_pos hsound.1]

theorem reconcile_of_settled (hunpaired : (pairing tracked latest).2 = [])
    (h : ∀ slot ∈ (pairing tracked latest).1, slot.Settled) :
    (reconcile tracked latest).summary = { unchanged := latest.length } ∧
      (reconcile tracked latest).rows = tracked.map Row.again := by
  have hinserted : (reconcile tracked latest).summary.inserted = 0 := by
    simp [reconcile, hunpaired]
  have hupdated : (reconcile tracked latest).summary.updated = 0 := by
    apply List.countP_eq_zero.mpr
    intro slot hslot
    have hsettled := h slot hslot
    cases slot with
    | past row => simp [Slot.isUpdated]
    | free row => exact absurd hsettled id
    | paired row seen =>
      have hsame : Slot.unchanged row seen := hsettled
      simp [Slot.isUpdated, hsame]
  have hdeleted : (reconcile tracked latest).summary.deleted = 0 := by
    apply List.countP_eq_zero.mpr
    intro slot hslot
    have hsettled := h slot hslot
    cases slot with
    | past row => simp [Slot.isFree]
    | free row => exact absurd hsettled id
    | paired row seen => simp [Slot.isFree]
  have hsum := summary_records tracked latest
  constructor
  · generalize (reconcile tracked latest).summary = summary at hinserted hupdated hdeleted hsum
    obtain ⟨inserted, updated, unchanged, deleted⟩ := summary
    dsimp only at hinserted hupdated hdeleted hsum
    rw [Summary.mk.injEq]
    omega
  · rw [rows_eq_append, hunpaired, List.map_nil, List.append_nil]
    nth_rewrite 2 [← map_row_pairing tracked latest]
    rw [List.map_map]
    apply List.map_congr_left
    intro slot hslot
    exact settle_of_settled (sound_pairing tracked latest slot hslot) (h slot hslot)

end Repeated

def identities (rows : List Row) : List (SocketKey × UInt64) :=
  (rows.filter Row.isLive).map fun row => row.connection.identity

theorem freeIdentity_ofRow (rows : List Row) :
    (rows.map Slot.ofRow).filterMap Slot.freeIdentity? = identities rows := by
  rw [identities, List.filterMap_map]
  induction rows with
  | nil => rfl
  | cons row rows ih =>
    by_cases hlive : row.isLive <;> simp [Slot.ofRow, Slot.freeIdentity?, hlive, ih]

theorem identities_reconcile (tracked : List Row) (latest : List Connection) :
    (identities (reconcile tracked latest).rows).Perm (latest.map Connection.identity) := by
  have hview := (liveView_reconcile tracked latest).map fun sighting =>
    (sighting.key, sighting.inode)
  rw [liveView, List.map_map, List.map_map] at hview
  exact hview

section Settling

variable {tracked : List Row} {latest : List Connection}
  (h : (identities tracked).Perm (latest.map Connection.identity))

include h

theorem pairing_of_identities :
    (pairing tracked latest).1 =
        (Slot.pair Connection.same latest (tracked.map Slot.ofRow)).1 ∧
      (pairing tracked latest).2 = [] ∧
      (pairing tracked latest).1.filterMap Slot.freeIdentity? = [] := by
  rw [← freeIdentity_ofRow] at h
  obtain ⟨hunpaired, hfree⟩ := Slot.pair_same_of_perm h
  have hpasses : pairing tracked latest = Slot.pair Connection.maybeSame
      (Slot.pair Connection.same latest (tracked.map Slot.ofRow)).2
      (Slot.pair Connection.same latest (tracked.map Slot.ofRow)).1 := rfl
  rw [hpasses, hunpaired]
  exact ⟨rfl, rfl, hfree⟩

theorem not_free_of_identities (row : Row) : .free row ∉ (pairing tracked latest).1 := by
  intro hmem
  have hidentity := Slot.mem_freeIdentity hmem
  rw [(pairing_of_identities h).2.2] at hidentity
  exact absurd hidentity (by simp)

theorem same_of_paired {row : Row} {seen : Connection}
    (hmem : .paired row seen ∈ (pairing tracked latest).1) : row.connection.same seen := by
  rw [(pairing_of_identities h).1] at hmem
  exact Slot.holds_pair (p := fun a b => a.same b) (fun _ _ hsame => hsame) latest
    (fun row seen hstart => absurd hstart (Slot.not_paired_ofRow tracked row seen)) row seen hmem

theorem summary_of_identities : (reconcile tracked latest).summary.inserted = 0 ∧
    (reconcile tracked latest).summary.deleted = 0 := by
  constructor
  · simp [reconcile, (pairing_of_identities h).2.1]
  · apply List.countP_eq_zero.mpr
    intro slot hslot hfree
    cases slot with
    | past row => simp [Slot.isFree] at hfree
    | paired row seen => simp [Slot.isFree] at hfree
    | free row => exact not_free_of_identities h row hslot

theorem alike_settle {slot : Slot} (hslot : slot ∈ (pairing tracked latest).1) :
    Slot.Alike Connection.same (Slot.ofRow slot.row) (Slot.ofRow slot.settle) := by
  have hsound := sound_pairing tracked latest slot hslot
  cases slot with
  | past row =>
    have hpast : Slot.ofRow row = .past row := ofRow_of_closed hsound
    rw [Slot.row, Slot.settle, hpast]
    exact .past row row
  | free row => exact absurd hslot (not_free_of_identities h row)
  | paired row seen =>
    obtain ⟨hlive, hsighting⟩ := Slot.settle_paired hsound
    rw [Slot.row, ofRow_of_isLive hsound.1, ofRow_of_isLive hlive]
    apply Slot.Alike.free
    intro other
    have hold : row.connection.identity = seen.identity :=
      Connection.same_iff_identity.mp (same_of_paired h hslot)
    have hnew : (Slot.settle (.paired row seen)).connection.identity = seen.identity :=
      Prod.ext (congrArg Sighting.key hsighting) (congrArg Sighting.inode hsighting)
    rw [Bool.eq_iff_iff, Connection.same_iff_identity, Connection.same_iff_identity, hold, hnew]

theorem settled_next : ∀ slot ∈ (pairing (reconcile tracked latest).rows latest).1,
    slot.Settled := by
  obtain ⟨hfirst, hunpaired, hfree⟩ := pairing_of_identities h
  have hrows : (reconcile tracked latest).rows =
      (pairing tracked latest).1.map Slot.settle := by
    rw [rows_eq_append, hunpaired, List.map_nil, List.append_nil]
  have hstart : List.Forall₂ (Slot.Alike Connection.same) (tracked.map Slot.ofRow)
      ((reconcile tracked latest).rows.map Slot.ofRow) := by
    have hmap : tracked.map Slot.ofRow =
        (pairing tracked latest).1.map fun slot => Slot.ofRow slot.row := by
      nth_rewrite 1 [← map_row_pairing tracked latest]
      rw [List.map_map]
      rfl
    rw [hmap, hrows, List.map_map, List.forall₂_map_left_iff, List.forall₂_map_right_iff,
      List.forall₂_same]
    exact fun slot hslot => alike_settle h hslot
  have hsecond := (pairing_of_identities (identities_reconcile tracked latest)).1
  have halike := (Slot.pair_alike hstart latest).1
  rw [← hfirst, ← hsecond] at halike
  apply Slot.settled_of_alike halike _ (sound_pairing tracked latest) hfree
  rw [map_row_pairing, hrows]

end Settling

theorem settled_of_consistent (tracked : List Row) {latest : List Connection}
    (hsame : ∀ a ∈ latest, ∀ b ∈ latest, a.key = b.key → a.inode = b.inode →
      a.state = b.state ∧ a.pid = b.pid) :
    ∀ slot ∈ (pairing (reconcile tracked latest).rows latest).1, slot.Settled := by
  have hidentities := identities_reconcile tracked latest
  intro slot hslot
  cases slot with
  | past row => trivial
  | free row => exact absurd hslot (not_free_of_identities hidentities row)
  | paired row seen =>
    have hsound := sound_pairing _ latest _ hslot
    obtain ⟨hinode, hkey⟩ := Connection.same_iff.mp (same_of_paired hidentities hslot)
    have hseen : seen ∈ latest := by
      apply (seen_pairing_perm (reconcile tracked latest).rows latest).subset
      exact List.mem_append_left _ (List.mem_filterMap.mpr ⟨_, hslot, rfl⟩)
    have hrow : row ∈ (reconcile tracked latest).rows := by
      rw [← map_row_pairing (reconcile tracked latest).rows latest]
      exact List.mem_map_of_mem hslot
    have hshown : row.connection.sighting ∈ liveView (reconcile tracked latest).rows :=
      List.mem_map_of_mem (List.mem_filter.mpr ⟨hrow, hsound.1⟩)
    obtain ⟨shown, hshownMem, hsighting⟩ :=
      List.mem_map.mp ((liveView_reconcile tracked latest).subset hshown)
    have hkeys : shown.key = seen.key := (congrArg Sighting.key hsighting).trans hkey
    have hinodes : shown.inode = seen.inode := (congrArg Sighting.inode hsighting).trans hinode
    obtain ⟨hstate, hpid⟩ := hsame shown hshownMem seen hseen hkeys hinodes
    apply Slot.unchanged_iff.mpr
    exact ⟨(congrArg Sighting.state hsighting).symm.trans hstate,
      (congrArg Sighting.pid hsighting).symm.trans hpid, hinode⟩

/-- A snapshot that comes three times in a row settles: the second time it inserts and deletes
nothing, the third time it changes nothing but tags, and that already the second time if its records
of one key and inode do not differ in state or process. -/
theorem reconcile_settles (tracked : List Row) (latest : List Connection) :
    let first := reconcile tracked latest
    let second := reconcile first.rows latest
    let third := reconcile second.rows latest
    (second.summary.inserted = 0 ∧ second.summary.deleted = 0 ∧
      second.summary.updated + second.summary.unchanged = latest.length) ∧
    (third.summary = { unchanged := latest.length } ∧
      third.rows = second.rows.map Row.again) ∧
    ((∀ a ∈ latest, ∀ b ∈ latest, a.key = b.key → a.inode = b.inode →
        a.state = b.state ∧ a.pid = b.pid) →
      second.summary = { unchanged := latest.length } ∧
        second.rows = first.rows.map Row.again) := by
  intro first second third
  have hfirst : (identities first.rows).Perm (latest.map Connection.identity) :=
    identities_reconcile tracked latest
  have hsecond : (identities second.rows).Perm (latest.map Connection.identity) :=
    identities_reconcile first.rows latest
  obtain ⟨hinserted, hdeleted⟩ := summary_of_identities hfirst
  have hsum : second.summary.inserted + second.summary.updated + second.summary.unchanged =
      latest.length := summary_records first.rows latest
  have hinserted : second.summary.inserted = 0 := hinserted
  refine ⟨⟨hinserted, hdeleted, by omega⟩, ?_, ?_⟩
  · exact reconcile_of_settled (pairing_of_identities hsecond).2.1 (settled_next hfirst)
  · intro hsame
    exact reconcile_of_settled (pairing_of_identities hfirst).2.1
      (settled_of_consistent tracked hsame)

theorem reconcile_settles_of_twins :
    let tracked : List Row := [{ connection := {} }, { connection := { inode := 7 } }]
    let latest : List Connection :=
      [{ state := .listen, inode := 7 }, { state := .listen, inode := 7 }]
    (∀ a ∈ latest, ∀ b ∈ latest, a.key = b.key → a.inode = b.inode →
      a.state = b.state ∧ a.pid = b.pid) ∧
    (reconcile (reconcile tracked latest).rows latest).summary = { unchanged := 2 } := by
  intro tracked latest
  have hsame : ∀ a ∈ latest, ∀ b ∈ latest, a.key = b.key → a.inode = b.inode →
      a.state = b.state ∧ a.pid = b.pid := by decide
  exact ⟨hsame, ((reconcile_settles tracked latest).2.2 hsame).1⟩

/-- Two cycles may be needed: the first one pairs these records crosswise, the first by its inode
and the second with the row before, so that the second cycle updates both rows again. -/
example :
    let latest : List Connection :=
      [{ state := .listen, inode := 7 }, { state := .closing, inode := 7 }]
    let first := reconcile [{ connection := {} }, { connection := { inode := 7 } }] latest
    (reconcile first.rows latest).summary = { updated := 2 } := by
  decide

end SocketWatch
