import SocketWatch.Proofs.Tracking.LiveView
import SocketWatch.Proofs.Tracking.OneKey

namespace SocketWatch

def Slot.ofKey (key : SocketKey) : Slot → Bool
  | .past _ => false
  | .free row | .paired row _ => row.connection.key = key

def rowsOf (key : SocketKey) (tracked : List Row) : List Row :=
  tracked.filter fun row => row.isLive && row.connection.key = key

def recordsOf (key : SocketKey) (latest : List Connection) : List Connection :=
  latest.filter fun seen => seen.key = key

namespace Slot

variable {agrees : Connection → Connection → Bool} {key : SocketKey} {seen : Connection}

theorem claim_filter_ofKey (hkey : ∀ a b, agrees a b → a.key = b.key) (hseen : seen.key = key)
    (slots : List Slot) :
    claim agrees seen (slots.filter (ofKey key)) =
      (claim agrees seen slots).map (List.filter (ofKey key)) := by
  induction slots with
  | nil => rfl
  | cons slot slots ih =>
    by_cases hfirst : ∃ row, slot = .free row ∧ agrees row.connection seen
    · obtain ⟨row, rfl, hrow⟩ := hfirst
      have hrowKey : row.connection.key = key := (hkey _ _ hrow).trans hseen
      simp [claim, ofKey, hrow, hrowKey]
    · rw [claim_skip hfirst, Option.map_map]
      by_cases hslot : ofKey key slot
      · have hfilter : List.filter (ofKey key) ∘ (slot :: ·) =
            (slot :: ·) ∘ List.filter (ofKey key) := by
          funext rest
          exact List.filter_cons_of_pos hslot
        rw [List.filter_cons_of_pos hslot, claim_skip hfirst, ih, Option.map_map, hfilter]
      · have hfilter : List.filter (ofKey key) ∘ (slot :: ·) = List.filter (ofKey key) := by
          funext rest
          exact List.filter_cons_of_neg hslot
        rw [List.filter_cons_of_neg hslot, ih, hfilter]

theorem pair_filter_ofKey (hkey : ∀ a b, agrees a b → a.key = b.key) (records : List Connection)
    (slots : List Slot) :
    pair agrees (recordsOf key records) (slots.filter (ofKey key)) =
      ((pair agrees records slots).1.filter (ofKey key),
        recordsOf key (pair agrees records slots).2) := by
  induction records generalizing slots with
  | nil => rfl
  | cons seen records ih =>
    by_cases hseen : seen.key = key
    · have hclaim := claim_filter_ofKey hkey hseen slots
      have hhead (rest : List Connection) :
          recordsOf key (seen :: rest) = seen :: recordsOf key rest :=
        List.filter_cons_of_pos (by simpa using hseen)
      cases hc : claim agrees seen slots with
      | none =>
        rw [hc] at hclaim
        simp [hhead, pair, hc, hclaim, ih]
      | some claimed =>
        rw [hc] at hclaim
        simp [hhead, pair, hc, hclaim, ih]
    · have hhead (rest : List Connection) : recordsOf key (seen :: rest) = recordsOf key rest :=
        List.filter_cons_of_neg (by simpa using hseen)
      cases hc : claim agrees seen slots with
      | none => simp [hhead, pair, hc, ih]
      | some claimed =>
        -- the row that was claimed has the other key
        obtain ⟨before, row, after, rfl, hrow, -, rfl⟩ := claim_eq_some hc
        have hother : row.connection.key ≠ key := by
          intro h
          exact hseen ((hkey _ _ hrow).symm.trans h)
        have hsame : (before ++ .paired row seen :: after).filter (ofKey key) =
            (before ++ .free row :: after).filter (ofKey key) := by
          simp [ofKey, hother]
        simp only [hhead, pair, hc, ← ih, hsame]

theorem free_of_free_pair (records : List Connection) (slots : List Slot) :
    ∀ row, .free row ∈ (pair agrees records slots).1 → .free row ∈ slots := by
  apply pair_invariant (p := fun claimed => ∀ row, .free row ∈ claimed → .free row ∈ slots)
  · intro before other after seen _ hfree row hmem
    apply hfree row
    simp only [List.mem_append, List.mem_cons, reduceCtorEq, false_or] at hmem ⊢
    exact hmem.imp id .inr
  · exact fun _ h => h

theorem not_agrees_of_unpaired (records : List Connection) (slots : List Slot) :
    ∀ seen ∈ (pair agrees records slots).2, ∀ row, .free row ∈ (pair agrees records slots).1 →
      agrees row.connection seen = false := by
  induction records generalizing slots with
  | nil => simp [pair]
  | cons first records ih =>
    cases hc : claim agrees first slots with
    | some claimed =>
      simp only [pair, hc]
      exact ih claimed
    | none =>
      simp only [pair, hc]
      intro seen hseen row hrow
      rcases List.mem_cons.mp hseen with rfl | hseen
      · exact claim_eq_none hc row (free_of_free_pair records slots row hrow)
      · exact ih slots seen hseen row hrow

end Slot

theorem ofRow_of_isLive {row : Row} (h : row.isLive) : Slot.ofRow row = .free row := if_pos h

theorem ofRow_of_closed {row : Row} (h : row.isLive = false) : Slot.ofRow row = .past row :=
  if_neg (by simp [h])

theorem map_ofRow_rowsOf (key : SocketKey) (tracked : List Row) :
    (rowsOf key tracked).map Slot.ofRow = (tracked.map Slot.ofRow).filter (Slot.ofKey key) := by
  rw [rowsOf, List.filter_map]
  apply congrArg (List.map Slot.ofRow)
  apply List.filter_congr
  intro row _
  by_cases hlive : row.isLive
  · simp [ofRow_of_isLive hlive, Slot.ofKey, hlive]
  · have hclosed : row.isLive = false := by simpa using hlive
    simp [ofRow_of_closed hclosed, Slot.ofKey, hclosed]

theorem pairing_alone (key : SocketKey) (tracked : List Row) (latest : List Connection) :
    pairing (rowsOf key tracked) (recordsOf key latest) =
      ((pairing tracked latest).1.filter (Slot.ofKey key),
        recordsOf key (pairing tracked latest).2) := by
  have hsame : ∀ a b : Connection, a.same b → a.key = b.key :=
    fun a b h => (Connection.same_iff.mp h).2
  have hmaybe : ∀ a b : Connection, a.maybeSame b → a.key = b.key :=
    fun a b h => (Connection.maybeSame_iff.mp h).2
  simp only [pairing, map_ofRow_rowsOf, Slot.pair_filter_ofKey hsame,
    Slot.pair_filter_ofKey hmaybe]

theorem firstInFirstOut_ofKey (key : SocketKey) (tracked : List Row)
    (latest : List Connection) :
    FirstInFirstOut (rowsOf key tracked) (recordsOf key latest)
      ((pairing tracked latest).1.filter (Slot.ofKey key))
      (recordsOf key (pairing tracked latest).2) := by
  have hrows : ∀ row ∈ rowsOf key tracked, row.isLive ∧ row.connection.key = key := by
    intro row hrow
    simpa using (List.mem_filter.mp hrow).2
  have hrecords : ∀ seen ∈ recordsOf key latest, seen.key = key := by
    intro seen hseen
    simpa using (List.mem_filter.mp hseen).2
  have hkey := firstInFirstOut_of_key (fun row hrow => (hrows row hrow).2) hrecords
    fun row hrow => (hrows row hrow).1
  rwa [pairing_alone] at hkey

/-- How a cycle that ends with `rows` has paired the tracked rows with the records. -/
structure PairedByKey (tracked : List Row) (latest : List Connection) (slots : List Slot)
    (unpaired : List Connection) (rows : List Row) : Prop where
  rows_eq : slots.map Slot.row = tracked
  firstInFirstOut : ∀ key, FirstInFirstOut (rowsOf key tracked) (recordsOf key latest)
    (slots.filter (Slot.ofKey key)) (recordsOf key unpaired)
  alone : ∀ key, pairing (rowsOf key tracked) (recordsOf key latest) =
    (slots.filter (Slot.ofKey key), recordsOf key unpaired)
  past : ∀ (i : Nat) row, slots[i]? = some (.past row) ↔ tracked[i]? = some row ∧ row.isLive = false
  untouched : ∀ (i : Nat) row, slots[i]? = some (.past row) → rows[i]? = some row
  deleted : ∀ (i : Nat) row, slots[i]? = some (.free row) →
    rows[i]? = some { row with change := .delete }
  kept : ∀ (i : Nat) row seen, slots[i]? = some (.paired row seen) → ∃ settled,
    rows[i]? = some settled ∧ settled.isLive ∧ settled.connection.sighting = seen.sighting
  inserted : rows.drop tracked.length =
    unpaired.map fun seen => { connection := seen, change := .insert }
  apart : ∀ seen ∈ unpaired, ∀ row, .free row ∈ slots → row.connection.maybeSame seen = false

theorem getElem?_rows_of_slot {tracked : List Row} {latest : List Connection} {i : Nat}
    {slot : Slot} (h : (pairing tracked latest).1[i]? = some slot) :
    (reconcile tracked latest).rows[i]? = some slot.settle := by
  have hkept : (reconcile tracked latest).kept[i]? = some slot.settle := by
    simp [reconcile, h]
  have hlt := (List.getElem?_eq_some_iff.mp hkept).1
  rw [Cycle.rows, List.getElem?_append_left hlt, hkept]

theorem length_slots (tracked : List Row) (latest : List Connection) :
    (pairing tracked latest).1.length = tracked.length := by
  rw [← List.length_map Slot.row, map_row_pairing]

theorem getElem?_past_iff (tracked : List Row) (latest : List Connection) (i : Nat) (row : Row) :
    (pairing tracked latest).1[i]? = some (.past row) ↔
      tracked[i]? = some row ∧ row.isLive = false := by
  have hrow : tracked[i]? = (pairing tracked latest).1[i]?.map Slot.row := by
    rw [← List.getElem?_map, map_row_pairing]
  constructor
  · intro h
    rw [hrow, h]
    exact ⟨rfl, sound_pairing tracked latest _ (List.mem_of_getElem? h)⟩
  · rintro ⟨htracked, hclosed⟩
    rw [hrow] at htracked
    obtain ⟨slot, hslot, rfl⟩ := Option.map_eq_some_iff.mp htracked
    have hsound := sound_pairing tracked latest slot (List.mem_of_getElem? hslot)
    cases slot with
    | past row => exact hslot
    | free row => exact absurd hsound (by simpa [Slot.Sound, Slot.row] using hclosed)
    | paired row seen =>
      exact absurd hsound.1 (by simpa [Slot.row] using hclosed)

theorem pairedByKey_reconcile (tracked : List Row) (latest : List Connection) :
    PairedByKey tracked latest (pairing tracked latest).1 (pairing tracked latest).2
      (reconcile tracked latest).rows where
  rows_eq := map_row_pairing tracked latest
  firstInFirstOut key := firstInFirstOut_ofKey key tracked latest
  alone key := pairing_alone key tracked latest
  past := getElem?_past_iff tracked latest
  untouched i row h := getElem?_rows_of_slot h
  deleted i row h := getElem?_rows_of_slot h
  kept i row seen h := by
    have hsound := sound_pairing tracked latest _ (List.mem_of_getElem? h)
    exact ⟨_, getElem?_rows_of_slot h, Slot.settle_paired hsound⟩
  inserted := by
    have hlength : (reconcile tracked latest).kept.length = tracked.length := by
      simp [reconcile, length_slots]
    rw [Cycle.rows, ← hlength, List.drop_left]
    rfl
  apart seen hseen row hrow := Slot.not_agrees_of_unpaired _ _ seen hseen row hrow

/-- Two unknown inodes are learnt in order, around the row whose inode is seen again; the record
that comes last is new. -/
example :
    let row (inode : UInt64) : Row := { connection := { inode } }
    let seen (inode : UInt64) : Connection := { inode }
    pairing [row 0, row 5, row 0] [seen 7, seen 5, seen 8, seen 9] =
      ([.paired (row 0) (seen 7), .paired (row 5) (seen 5), .paired (row 0) (seen 8)],
        [seen 9]) := by
  decide

end SocketWatch
