import Mathlib.Data.List.Nodup
import Mathlib.Data.List.Zip
import SocketWatch.Proofs.Tracking.Slots

/-!
A pass over positions instead of slots: records and rows are numbers, and the rows still free are a
pool. Where agreement means to hold the same ticket, a pass serves each ticket first in, first out.
-/

namespace SocketWatch

def firstFit (agrees : Nat → Nat → Bool) : List Nat → List Nat → List (Nat × Nat)
  | [], _ => []
  | n :: records, pool =>
    match pool.find? fun i => agrees i n with
    | some i => (i, n) :: firstFit agrees records (pool.erase i)
    | none => firstFit agrees records pool

variable {agrees : Nat → Nat → Bool}

theorem firstFit_rows_subset (records pool : List Nat) :
    ∀ p ∈ firstFit agrees records pool, p.1 ∈ pool := by
  induction records generalizing pool with
  | nil => simp [firstFit]
  | cons n records ih =>
    intro p hp
    cases hfind : pool.find? fun i => agrees i n with
    | none =>
      simp only [firstFit, hfind] at hp
      exact ih pool p hp
    | some i =>
      simp only [firstFit, hfind, List.mem_cons] at hp
      rcases hp with rfl | hp
      · exact List.mem_of_find?_eq_some hfind
      · exact List.mem_of_mem_erase (ih _ p hp)

theorem firstFit_rows_nodup (records : List Nat) {pool : List Nat} (h : pool.Nodup) :
    ((firstFit agrees records pool).map Prod.fst).Nodup := by
  induction records generalizing pool with
  | nil => simp [firstFit]
  | cons n records ih =>
    cases hfind : pool.find? fun i => agrees i n with
    | none =>
      simp only [firstFit, hfind]
      exact ih h
    | some i =>
      simp only [firstFit, hfind, List.map_cons, List.nodup_cons]
      constructor
      · intro hi
        obtain ⟨p, hp, rfl⟩ := List.mem_map.mp hi
        exact h.not_mem_erase (firstFit_rows_subset records _ p hp)
      · exact ih (h.erase i)

theorem firstFit_records_sublist (records pool : List Nat) :
    ((firstFit agrees records pool).map Prod.snd).Sublist records := by
  induction records generalizing pool with
  | nil => simp [firstFit]
  | cons n records ih =>
    cases hfind : pool.find? fun i => agrees i n with
    | none =>
      simp only [firstFit, hfind]
      exact (ih pool).cons n
    | some i =>
      simp only [firstFit, hfind, List.map_cons]
      exact (ih _).cons_cons n

variable {τ : Type} [DecidableEq τ] {row record : Nat → Option τ}

def holding (holds : Nat → Option τ) (t : τ) (l : List Nat) : List Nat :=
  l.filter fun i => holds i = some t

theorem holding_cons_self {n : Nat} {t : τ} (h : record n = some t) (records : List Nat) :
    holding record t (n :: records) = n :: holding record t records := by
  simp [holding, h]

theorem holding_cons_of_ne {n : Nat} {t : τ} (h : record n ≠ some t) (records : List Nat) :
    holding record t (n :: records) = holding record t records := by
  simp [holding, h]

theorem holding_erase {pool : List Nat} (hpool : pool.Nodup) {i : Nat} {t : τ}
    (hi : row i = some t) {before after : List Nat} (hsplit : pool = before ++ i :: after)
    (hbefore : ∀ j ∈ before, row j ≠ some t) (u : τ) :
    holding row u pool =
      if u = t then i :: holding row u (pool.erase i) else holding row u (pool.erase i) := by
  subst hsplit
  have hnot : i ∉ before := by
    intro hmem
    exact hbefore i hmem hi
  have herase : (before ++ i :: after).erase i = before ++ after := by
    rw [List.erase_append_right _ hnot, List.erase_cons_head]
  rw [herase]
  by_cases hu : u = t
  · subst hu
    have hnil : before.filter (fun j => row j = some u) = [] := by
      simpa [List.filter_eq_nil_iff] using hbefore
    simp [holding, hi, hnil]
  · have hne : t ≠ u := fun h => hu h.symm
    simp [holding, hi, hu, hne]

theorem mem_zip_holding_cons {pool : List Nat} (hpool : pool.Nodup) {i n : Nat} {t : τ}
    (hi : row i = some t) (hn : record n = some t) {before after : List Nat}
    (hsplit : pool = before ++ i :: after) (hbefore : ∀ j ∈ before, row j ≠ some t)
    (records : List Nat) (u : τ) (p : Nat × Nat) :
    p ∈ (holding row u pool).zip (holding record u (n :: records)) ↔
      u = t ∧ p = (i, n) ∨
        p ∈ (holding row u (pool.erase i)).zip (holding record u records) := by
  rw [holding_erase hpool hi hsplit hbefore u]
  by_cases hu : u = t
  · subst hu
    rw [if_pos rfl, holding_cons_self hn, List.zip_cons_cons, List.mem_cons]
    simp
  · have hne : record n ≠ some u := by
      rw [hn]
      intro h
      exact hu (Option.some.inj h).symm
    rw [if_neg hu, holding_cons_of_ne hne]
    simp [hu]

/-- Where agreement is to hold the same ticket, the pairs are those of each ticket in order. -/
theorem mem_firstFit_iff (records : List Nat) {pool : List Nat} (hpool : pool.Nodup)
    (hagrees : ∀ i ∈ pool, ∀ n ∈ records,
      agrees i n ↔ ∃ t, row i = some t ∧ record n = some t) (p : Nat × Nat) :
    p ∈ firstFit agrees records pool ↔
      ∃ t, p ∈ (holding row t pool).zip (holding record t records) := by
  induction records generalizing pool with
  | nil => simp [firstFit, holding]
  | cons n records ih =>
    have hrest : ∀ i ∈ pool, ∀ m ∈ records,
        agrees i m ↔ ∃ t, row i = some t ∧ record m = some t := by
      intro i hi m hm
      exact hagrees i hi m (by simp [hm])
    cases hfind : pool.find? fun i => agrees i n with
    | none =>
      have hnone := List.find?_eq_none.mp hfind
      simp only [firstFit, hfind, ih hpool hrest]
      apply exists_congr
      intro t
      by_cases ht : record n = some t
      · have hempty : holding row t pool = [] := by
          apply List.filter_eq_nil_iff.mpr
          intro i hi hrow
          exact hnone i hi ((hagrees i hi n (by simp)).mpr ⟨t, by simpa using hrow, ht⟩)
        simp [hempty]
      · rw [holding_cons_of_ne ht]
    | some i =>
      obtain ⟨hi, before, after, hsplit, hbefore⟩ := List.find?_eq_some_iff_append.mp hfind
      have hmem : i ∈ pool := List.mem_of_find?_eq_some hfind
      obtain ⟨t, hrow, hrecord⟩ := (hagrees i hmem n (by simp)).mp hi
      have hfirst : ∀ j ∈ before, row j ≠ some t := by
        intro j hj hjt
        have hagree := (hagrees j (by simp [hsplit, hj]) n (by simp)).mpr ⟨t, hjt, hrecord⟩
        simpa [hagree] using hbefore j hj
      have herase : ∀ j ∈ pool.erase i, ∀ m ∈ records,
          agrees j m ↔ ∃ t, row j = some t ∧ record m = some t := by
        intro j hj m hm
        exact hrest j (List.mem_of_mem_erase hj) m hm
      simp only [firstFit, hfind, List.mem_cons, ih (hpool.erase i) herase,
        mem_zip_holding_cons hpool hrow hrecord hsplit hfirst, exists_or, exists_eq_left]

section Simulation

variable (rows : List Row) (records : List Connection)

def slotsOf (pairs : List (Nat × Nat)) : List Slot :=
  rows.mapIdx fun i row =>
    match (pairs.lookup i).bind (records[·]?) with
    | some seen => .paired row seen
    | none => .free row

def poolOf (pairs : List (Nat × Nat)) : List Nat :=
  (List.range rows.length).filter fun i => (pairs.lookup i).isNone

def agreesAt (agrees : Connection → Connection → Bool) (i n : Nat) : Bool :=
  match rows[i]?, records[n]? with
  | some row, some seen => agrees row.connection seen
  | _, _ => false

variable {rows records}

theorem nodup_poolOf (pairs : List (Nat × Nat)) : (poolOf rows pairs).Nodup :=
  List.nodup_range.filter _

theorem getElem?_slotsOf_of_none {pairs : List (Nat × Nat)} {i : Nat}
    (h : pairs.lookup i = none) : (slotsOf rows records pairs)[i]? = rows[i]?.map .free := by
  simp [slotsOf, List.getElem?_mapIdx, h]

theorem getElem?_slotsOf_of_some {pairs : List (Nat × Nat)} {i n : Nat} {seen : Connection}
    (h : pairs.lookup i = some n) (hn : records[n]? = some seen) :
    (slotsOf rows records pairs)[i]? = rows[i]?.map (.paired · seen) := by
  simp [slotsOf, List.getElem?_mapIdx, h, hn]

def Backed (records : List Connection) (pairs : List (Nat × Nat)) : Prop :=
  ∀ p ∈ pairs, p.2 < records.length

theorem lookup_eq_none_of_free {pairs : List (Nat × Nat)} (hp : Backed records pairs) {i : Nat}
    {row : Row} (h : (slotsOf rows records pairs)[i]? = some (.free row)) :
    pairs.lookup i = none ∧ rows[i]? = some row := by
  cases hl : pairs.lookup i with
  | none =>
    rw [getElem?_slotsOf_of_none hl] at h
    obtain ⟨other, hother, heq⟩ := Option.map_eq_some_iff.mp h
    obtain rfl := Slot.free.inj heq
    exact ⟨rfl, hother⟩
  | some n =>
    obtain ⟨before, after, rfl, -⟩ := List.lookup_eq_some_iff.mp hl
    have hn : n < records.length := hp (i, n) (by simp)
    rw [getElem?_slotsOf_of_some hl (List.getElem?_eq_getElem hn)] at h
    obtain ⟨other, -, heq⟩ := Option.map_eq_some_iff.mp h
    exact absurd heq (by simp)

theorem lookup_concat (pairs : List (Nat × Nat)) (i n j : Nat) :
    (pairs ++ [(i, n)]).lookup j = (pairs.lookup j).or (if j = i then some n else none) := by
  rw [List.lookup_append]
  by_cases hj : j = i
  · simp [hj]
  · have hbeq : (j == i) = false := beq_false_of_ne hj
    simp [List.lookup_cons, hj, hbeq]

theorem slotsOf_concat {pairs : List (Nat × Nat)} {i n : Nat} {row : Row} {seen : Connection}
    (hi : rows[i]? = some row) (hl : pairs.lookup i = none) (hn : records[n]? = some seen) :
    slotsOf rows records (pairs ++ [(i, n)]) =
      (slotsOf rows records pairs).set i (.paired row seen) := by
  apply List.ext_getElem?
  intro j
  by_cases hj : j = i
  · subst hj
    have hlookup : (pairs ++ [(j, n)]).lookup j = some n := by
      simp [lookup_concat, hl]
    have hlt : j < (slotsOf rows records pairs).length := by
      simpa [slotsOf] using (List.getElem?_eq_some_iff.mp hi).1
    rw [getElem?_slotsOf_of_some hlookup hn, List.getElem?_set_self hlt, hi]
    rfl
  · have hlookup : (pairs ++ [(i, n)]).lookup j = pairs.lookup j := by
      simp [lookup_concat, hj]
    rw [List.getElem?_set_ne (fun h => hj h.symm)]
    simp [slotsOf, List.getElem?_mapIdx, hlookup]

theorem poolOf_concat {pairs : List (Nat × Nat)} (i n : Nat) :
    poolOf rows (pairs ++ [(i, n)]) = (poolOf rows pairs).erase i := by
  rw [(nodup_poolOf pairs).erase_eq_filter, poolOf, poolOf, List.filter_filter]
  apply List.filter_congr
  intro j _
  by_cases hj : j = i <;> simp [lookup_concat, hj]

theorem getElem?_slotsOf_of_mem_poolOf {pairs : List (Nat × Nat)} {i : Nat}
    (h : i ∈ poolOf rows pairs) :
    ∃ row, rows[i]? = some row ∧ (slotsOf rows records pairs)[i]? = some (.free row) := by
  obtain ⟨hi, hl⟩ := List.mem_filter.mp h
  have hlt : i < rows.length := List.mem_range.mp hi
  refine ⟨rows[i], List.getElem?_eq_getElem hlt, ?_⟩
  rw [getElem?_slotsOf_of_none (Option.isNone_iff_eq_none.mp hl), List.getElem?_eq_getElem hlt]
  rfl

variable {agrees : Connection → Connection → Bool}

theorem agreesAt_eq {i n : Nat} {row : Row} {seen : Connection} (hi : rows[i]? = some row)
    (hn : records[n]? = some seen) :
    agreesAt rows records agrees i n = agrees row.connection seen := by
  simp [agreesAt, hi, hn]

theorem claim_slotsOf {pairs : List (Nat × Nat)} (hp : Backed records pairs) {n : Nat}
    {seen : Connection} (hn : records[n]? = some seen) :
    Slot.claim agrees seen (slotsOf rows records pairs) =
      ((poolOf rows pairs).find? fun i => agreesAt rows records agrees i n).map fun i =>
        slotsOf rows records (pairs ++ [(i, n)]) := by
  cases hc : Slot.claim agrees seen (slotsOf rows records pairs) with
  | none =>
    have hnone : (poolOf rows pairs).find? (fun i => agreesAt rows records agrees i n) = none := by
      apply List.find?_eq_none.mpr
      intro i hi
      obtain ⟨row, hrow, hslot⟩ := getElem?_slotsOf_of_mem_poolOf hi
      rw [agreesAt_eq hrow hn, Slot.claim_eq_none hc row (List.mem_of_getElem? hslot)]
      exact Bool.false_ne_true
    rw [hnone]
    rfl
  | some claimed =>
    obtain ⟨before, row, after, hsplit, hagrees, hbefore, rfl⟩ := Slot.claim_eq_some hc
    have hslot : (slotsOf rows records pairs)[before.length]? = some (.free row) := by
      simp [hsplit]
    obtain ⟨hl, hrow⟩ := lookup_eq_none_of_free hp hslot
    have hlt : before.length < rows.length := (List.getElem?_eq_some_iff.mp hrow).1
    have hfind : (poolOf rows pairs).find? (fun i => agreesAt rows records agrees i n) =
        some before.length := by
      rw [poolOf, List.find?_filter, List.find?_range_eq_some]
      refine ⟨by simp [hl, agreesAt_eq hrow hn, hagrees], by simpa using hlt, fun j hj => ?_⟩
      cases hjl : pairs.lookup j with
      | some m => simp
      | none =>
        -- a free slot in front of the claimed one does not agree
        have hjlt : j < rows.length := by omega
        have hjrow : rows[j]? = some rows[j] := List.getElem?_eq_getElem hjlt
        have hjslot : before[j]? = some (.free rows[j]) := by
          have hfree : (slotsOf rows records pairs)[j]? = rows[j]?.map .free :=
            getElem?_slotsOf_of_none hjl
          rw [hsplit, List.getElem?_append_left hj, hjrow] at hfree
          exact hfree
        simp [agreesAt_eq hjrow hn, hbefore _ (List.mem_of_getElem? hjslot)]
    rw [hfind, Option.map_some, slotsOf_concat hrow hl hn, hsplit]
    simp

theorem lookup_of_mem {pairs : List (Nat × Nat)} (h : (pairs.map Prod.fst).Nodup) {i n : Nat}
    (hmem : (i, n) ∈ pairs) : pairs.lookup i = some n := by
  obtain ⟨before, after, rfl⟩ := List.append_of_mem hmem
  have hfirst : ∀ p ∈ before, i != p.1 := by
    intro p hp
    apply bne_iff_ne.mpr
    rintro rfl
    rw [List.map_append] at h
    exact h.disjoint (List.mem_map_of_mem hp) (by simp)
  exact List.lookup_eq_some_iff.mpr ⟨before, after, rfl, hfirst⟩

theorem map_ofRow_eq_slotsOf (hlive : ∀ row ∈ rows, row.isLive) :
    rows.map Slot.ofRow = slotsOf rows records [] := by
  apply List.ext_getElem?
  intro i
  rw [getElem?_slotsOf_of_none rfl, List.getElem?_map]
  cases hi : rows[i]? with
  | none => rfl
  | some row => simp [Slot.ofRow, hlive row (List.mem_of_getElem? hi)]

theorem filterMap_getElem?_range {α : Type} (l : List α) :
    (List.range l.length).filterMap (l[·]?) = l := by
  induction l with
  | nil => rfl
  | cons a l ih =>
    rw [List.length_cons, List.range_succ_eq_map, List.filterMap_cons_some List.getElem?_cons_zero,
      List.filterMap_map]
    exact congrArg (a :: ·) ih

theorem pair_slotsOf (agrees : Connection → Connection → Bool) (rows : List Row)
    (numbers : List Nat) (hnum : ∀ n ∈ numbers, n < records.length)
    (hnodup : numbers.Nodup) {pairs : List (Nat × Nat)} (hp : Backed records pairs) :
    Slot.pair agrees (numbers.filterMap (records[·]?)) (slotsOf rows records pairs) =
      (slotsOf rows records
          (pairs ++ firstFit (agreesAt rows records agrees) numbers (poolOf rows pairs)),
        (numbers.filter fun n => n ∉
          (firstFit (agreesAt rows records agrees) numbers (poolOf rows pairs)).map
            Prod.snd).filterMap (records[·]?)) := by
  induction numbers generalizing pairs with
  | nil => simp [Slot.pair, firstFit]
  | cons n numbers ih =>
    have hlt : n < records.length := hnum n (by simp)
    have hn : records[n]? = some records[n] := List.getElem?_eq_getElem hlt
    have hrest : ∀ m ∈ numbers, m < records.length := by
      intro m hm
      exact hnum m (by simp [hm])
    obtain ⟨hnot, hnodup⟩ := List.nodup_cons.mp hnodup
    have hfresh (pool : List Nat) :
        n ∉ (firstFit (agreesAt rows records agrees) numbers pool).map Prod.snd := by
      intro hmem
      exact hnot ((firstFit_records_sublist numbers pool).subset hmem)
    rw [List.filterMap_cons_some hn, Slot.pair, claim_slotsOf hp hn]
    cases hfind : (poolOf rows pairs).find? fun i => agreesAt rows records agrees i n with
    | none =>
      simp only [Option.map_none, firstFit, hfind, ih hrest hnodup hp]
      rw [List.filter_cons_of_pos (by simpa using hfresh _), List.filterMap_cons_some hn]
    | some i =>
      have hbacked : Backed records (pairs ++ [(i, n)]) := by
        intro p hmem
        rcases List.mem_append.mp hmem with hmem | hmem
        · exact hp p hmem
        · obtain rfl : p = (i, n) := by simpa using hmem
          exact hlt
      have hskip : ∀ m ∈ numbers, m ≠ n := by
        rintro m hm rfl
        exact hnot hm
      simp only [Option.map_some, firstFit, hfind, ih hrest hnodup hbacked, poolOf_concat,
        List.append_assoc, List.cons_append, List.nil_append, List.map_cons]
      rw [List.filter_cons_of_neg (by simp)]
      congr 2
      apply List.filter_congr
      intro m hm
      simp [hskip m hm]

end Simulation

end SocketWatch
