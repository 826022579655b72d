import SocketWatch.Proofs.Tracking.Partners

namespace SocketWatch

section OneKey

variable {key : SocketKey} {rows : List Row} {records : List Connection}

theorem agreesAt_iff {agrees : Connection → Connection → Bool} {i n : Nat}
    (hi : i < rows.length) (hn : n < records.length) :
    agreesAt rows records agrees i n ↔ agrees rows[i].connection records[n] := by
  rw [agreesAt_eq (List.getElem?_eq_getElem hi) (List.getElem?_eq_getElem hn)]

theorem inodeAt_rows {i : Nat} (hi : i < rows.length) :
    inodeAt (rows.map Row.connection) i = some rows[i].connection.inode := by
  simp [inodeAt, hi]

theorem inodeAt_records {n : Nat} (hn : n < records.length) :
    inodeAt records n = some records[n].inode := by
  simp [inodeAt, hn]

def exactPairs (rows : List Row) (records : List Connection) : List (Nat × Nat) :=
  firstFit (agreesAt rows records Connection.same) (List.range records.length)
    (List.range rows.length)

def loosePairs (rows : List Row) (records : List Connection) : List (Nat × Nat) :=
  firstFit (agreesAt rows records Connection.maybeSame)
    (leftOver records (rows.map Row.connection)) (leftOver (rows.map Row.connection) records)

variable (hrows : ∀ row ∈ rows, row.connection.key = key)
  (hrecords : ∀ seen ∈ records, seen.key = key)

include hrows hrecords

theorem key_eq {i n : Nat} (hi : i < rows.length) (hn : n < records.length) :
    rows[i].connection.key = records[n].key := by
  rw [hrows _ (List.getElem_mem hi), hrecords _ (List.getElem_mem hn)]

theorem mem_exactPairs (p : Nat × Nat) :
    p ∈ exactPairs rows records ↔ ∃ inode,
      p ∈ (positions inode (rows.map Row.connection)).zip (positions inode records) := by
  have hagrees : ∀ i ∈ List.range rows.length, ∀ n ∈ List.range records.length,
      agreesAt rows records Connection.same i n ↔
        ∃ inode, inodeAt (rows.map Row.connection) i = some inode ∧
          inodeAt records n = some inode := by
    intro i hi n hn
    have hi : i < rows.length := List.mem_range.mp hi
    have hn : n < records.length := List.mem_range.mp hn
    have hkey := key_eq hrows hrecords hi hn
    rw [agreesAt_iff hi hn, Connection.same_iff, inodeAt_rows hi, inodeAt_records hn]
    constructor
    · rintro ⟨hinode, -⟩
      exact ⟨_, rfl, by rw [hinode]⟩
    · rintro ⟨inode, hrow, hrecord⟩
      exact ⟨Option.some.inj (hrow.trans hrecord.symm), hkey⟩
  have hfit := mem_firstFit_iff _ List.nodup_range hagrees p
  simpa [exactPairs, positions, holding] using hfit

theorem agreesAt_maybeSame {i n : Nat}
    (hi : i ∈ leftOver (rows.map Row.connection) records)
    (hn : n ∈ leftOver records (rows.map Row.connection)) :
    agreesAt rows records Connection.maybeSame i n ↔
      isUnknown (rows.map Row.connection) i ∨ isUnknown records n := by
  have hne := inodeAt_ne_of_leftOver hi hn
  have hi : i < rows.length := by simpa using lt_of_mem_leftOver hi
  have hn : n < records.length := lt_of_mem_leftOver hn
  have hkey := key_eq hrows hrecords hi hn
  rw [inodeAt_rows hi, inodeAt_records hn] at hne
  have hne : rows[i].connection.inode ≠ records[n].inode := by
    intro h
    exact hne (congrArg some h)
  rw [agreesAt_iff hi hn, Connection.maybeSame_iff]
  simp [isUnknown, inodeAt_rows hi, inodeAt_records hn, hne, hkey]

theorem mem_loosePairs (p : Nat × Nat) :
    p ∈ loosePairs rows records ↔
      p ∈ ((leftOver (rows.map Row.connection) records).filter
          (isUnknown (rows.map Row.connection))).zip
        (leftOver records (rows.map Row.connection)) ∨
      p ∈ (leftOver (rows.map Row.connection) records).zip
        ((leftOver records (rows.map Row.connection)).filter (isUnknown records)) := by
  have hpool : (leftOver (rows.map Row.connection) records).Nodup := List.nodup_range.filter _
  have hloose := fun i hi n hn =>
    agreesAt_maybeSame (i := i) (n := n) hrows hrecords hi hn
  rcases not_both_unknown (rows.map Row.connection) records with hnone | hnone
  · -- only records are unknown, and each of them agrees with every row
    have hagrees : ∀ i ∈ leftOver (rows.map Row.connection) records,
        ∀ n ∈ leftOver records (rows.map Row.connection),
          agreesAt rows records Connection.maybeSame i n ↔ ∃ t : Unit,
            some () = some t ∧ (if isUnknown records n then some () else none) = some t := by
      intro i hi n hn
      simp [hloose i hi n hn, hnone i hi]
    have hempty : (leftOver (rows.map Row.connection) records).filter
        (isUnknown (rows.map Row.connection)) = [] := by
      simpa [List.filter_eq_nil_iff] using hnone
    rw [loosePairs, mem_firstFit_iff _ hpool hagrees, hempty]
    simp [holding]
  · have hagrees : ∀ i ∈ leftOver (rows.map Row.connection) records,
        ∀ n ∈ leftOver records (rows.map Row.connection),
          agreesAt rows records Connection.maybeSame i n ↔ ∃ t : Unit,
            (if isUnknown (rows.map Row.connection) i then some () else none) = some t ∧
              some () = some t := by
      intro i hi n hn
      simp [hloose i hi n hn, hnone n hn]
    have hempty : (leftOver records (rows.map Row.connection)).filter (isUnknown records) = [] := by
      simpa [List.filter_eq_nil_iff] using hnone
    rw [loosePairs, mem_firstFit_iff _ hpool hagrees, hempty]
    simp [holding]

theorem mem_pairs (i n : Nat) :
    (i, n) ∈ exactPairs rows records ++ loosePairs rows records ↔
      Partner (rows.map Row.connection) records i n := by
  rw [List.mem_append, mem_exactPairs hrows hrecords, mem_loosePairs hrows hrecords]
  constructor
  · rintro (⟨inode, h⟩ | h | h)
    · exact .sameInode inode h
    · exact .unknownRow h
    · exact .unknownRecord h
  · rintro (⟨inode, h⟩ | h | h)
    · exact .inl ⟨inode, h⟩
    · exact .inr (.inl h)
    · exact .inr (.inr h)

theorem poolOf_exactPairs :
    poolOf rows (exactPairs rows records) = leftOver (rows.map Row.connection) records := by
  rw [poolOf, ← List.length_map Row.connection]
  apply filter_range_eq_leftOver
  intro i
  rw [Option.isNone_iff_eq_none, List.lookup_eq_none_iff]
  constructor
  · intro hnone inode n hmem
    have hexact := (mem_exactPairs hrows hrecords (i, n)).mpr ⟨inode, hmem⟩
    simpa using hnone _ hexact
  · rintro hleft ⟨j, n⟩ hmem
    obtain ⟨inode, hzip⟩ := (mem_exactPairs hrows hrecords (j, n)).mp hmem
    apply bne_iff_ne.mpr
    rintro rfl
    exact hleft inode n hzip

theorem unpaired_exactPairs :
    (List.range records.length).filter (fun n => n ∉ (exactPairs rows records).map Prod.snd) =
      leftOver records (rows.map Row.connection) := by
  apply filter_range_eq_leftOver
  intro n
  rw [decide_eq_true_iff]
  constructor
  · intro hnone inode i hmem
    have hexact := (mem_exactPairs hrows hrecords (i, n)).mpr ⟨inode, mem_zip_comm.mp hmem⟩
    exact hnone (List.mem_map.mpr ⟨(i, n), hexact, rfl⟩)
  · intro hleft hmem
    obtain ⟨⟨i, m⟩, hpair, rfl⟩ := List.mem_map.mp hmem
    obtain ⟨inode, hzip⟩ := (mem_exactPairs hrows hrecords (i, m)).mp hpair
    exact hleft inode i (mem_zip_comm.mp hzip)

theorem nodup_pairs_rows :
    ((exactPairs rows records ++ loosePairs rows records).map Prod.fst).Nodup := by
  rw [List.map_append]
  have hexactNodup : ((exactPairs rows records).map Prod.fst).Nodup :=
    firstFit_rows_nodup _ List.nodup_range
  have hlooseNodup : ((loosePairs rows records).map Prod.fst).Nodup :=
    firstFit_rows_nodup _ (List.nodup_range.filter _)
  apply hexactNodup.append hlooseNodup
  intro i hexact hloose
  obtain ⟨p, hp, rfl⟩ := List.mem_map.mp hloose
  have hfree := firstFit_rows_subset _ _ p hp
  rw [← poolOf_exactPairs hrows hrecords] at hfree
  obtain ⟨q, hq, heq⟩ := List.mem_map.mp hexact
  have hnone := Option.isNone_iff_eq_none.mp (List.mem_filter.mp hfree).2
  exact absurd heq.symm (by simpa using List.lookup_eq_none_iff.mp hnone q hq)

theorem nodup_pairs_records :
    ((exactPairs rows records ++ loosePairs rows records).map Prod.snd).Nodup := by
  rw [List.map_append]
  have hexact : ((exactPairs rows records).map Prod.snd).Sublist (List.range records.length) :=
    firstFit_records_sublist _ _
  have hloose : ((loosePairs rows records).map Prod.snd).Sublist
      (leftOver records (rows.map Row.connection)) := firstFit_records_sublist _ _
  apply (hexact.nodup List.nodup_range).append (hloose.nodup (List.nodup_range.filter _))
  intro n hmem hmore
  have hfree := hloose.subset hmore
  rw [← unpaired_exactPairs hrows hrecords] at hfree
  exact of_decide_eq_true (List.mem_filter.mp hfree).2 hmem

theorem pair_same_of_key (hlive : ∀ row ∈ rows, row.isLive) :
    Slot.pair Connection.same records (rows.map Slot.ofRow) =
      (slotsOf rows records (exactPairs rows records),
        (leftOver records (rows.map Row.connection)).filterMap (records[·]?)) := by
  have hpass := pair_slotsOf Connection.same rows (List.range records.length)
    (fun n => List.mem_range.mp) List.nodup_range (by simp [Backed] : Backed records [])
  have hpool : poolOf rows [] = List.range rows.length := by simp [poolOf]
  rw [hpool, List.nil_append, ← map_ofRow_eq_slotsOf hlive, filterMap_getElem?_range] at hpass
  rw [← unpaired_exactPairs hrows hrecords]
  exact hpass

theorem pair_maybeSame_of_key :
    Slot.pair Connection.maybeSame
        ((leftOver records (rows.map Row.connection)).filterMap (records[·]?))
        (slotsOf rows records (exactPairs rows records)) =
      (slotsOf rows records (exactPairs rows records ++ loosePairs rows records),
        ((leftOver records (rows.map Row.connection)).filter fun n =>
          n ∉ (loosePairs rows records).map Prod.snd).filterMap (records[·]?)) := by
  have hbacked : Backed records (exactPairs rows records) := by
    intro p hp
    have hmem : p.2 ∈ List.range records.length :=
      (firstFit_records_sublist _ _).subset (List.mem_map_of_mem hp)
    exact List.mem_range.mp hmem
  have hpass := pair_slotsOf Connection.maybeSame rows
    (leftOver records (rows.map Row.connection)) (fun n => lt_of_mem_leftOver)
    (List.nodup_range.filter _) hbacked
  rwa [poolOf_exactPairs hrows hrecords] at hpass

theorem pairing_of_key (hlive : ∀ row ∈ rows, row.isLive) :
    pairing rows records =
      (slotsOf rows records (exactPairs rows records ++ loosePairs rows records),
        ((List.range records.length).filter fun n =>
          n ∉ (exactPairs rows records ++ loosePairs rows records).map Prod.snd).filterMap
            (records[·]?)) := by
  have hneither : (leftOver records (rows.map Row.connection)).filter
      (fun n => n ∉ (loosePairs rows records).map Prod.snd) =
        (List.range records.length).filter fun n =>
          n ∉ (exactPairs rows records ++ loosePairs rows records).map Prod.snd := by
    rw [← unpaired_exactPairs hrows hrecords, List.filter_filter]
    apply List.filter_congr
    intro n _
    rw [Bool.eq_iff_iff, Bool.and_eq_true, decide_eq_true_iff, decide_eq_true_iff,
      decide_eq_true_iff, List.map_append, List.mem_append, not_or, and_comm]
  rw [pairing, pair_same_of_key hrows hrecords hlive, ← hneither]
  exact pair_maybeSame_of_key hrows hrecords

theorem firstInFirstOut_of_key (hlive : ∀ row ∈ rows, row.isLive) :
    FirstInFirstOut rows records (pairing rows records).1 (pairing rows records).2 := by
  have hmem := mem_pairs hrows hrecords
  have hfst := nodup_pairs_rows hrows hrecords
  have hsnd := nodup_pairs_records hrows hrecords
  refine ⟨not_both_unknown _ _, ?_, ?_, map_row_pairing rows records, ?_, ?_, ?_⟩
  · intro i m n hm hn
    exact congrArg Prod.snd
      (List.inj_on_of_nodup_map hfst ((hmem i m).mpr hm) ((hmem i n).mpr hn) rfl)
  · intro i j n hi hj
    exact congrArg Prod.fst
      (List.inj_on_of_nodup_map hsnd ((hmem i n).mpr hi) ((hmem j n).mpr hj) rfl)
  all_goals rw [pairing_of_key hrows hrecords hlive]
  · intro i n hpartner
    obtain ⟨hi, hlt⟩ := hpartner.lt
    rw [List.length_map] at hi
    have hn : records[n]? = some records[n] := List.getElem?_eq_getElem hlt
    have hlookup := lookup_of_mem hfst ((hmem i n).mpr hpartner)
    refine ⟨rows[i], records[n], List.getElem?_eq_getElem hi, hn, ?_⟩
    rw [getElem?_slotsOf_of_some hlookup hn, List.getElem?_eq_getElem hi]
    rfl
  · intro i row hrow hnone
    have hlookup : (exactPairs rows records ++ loosePairs rows records).lookup i = none := by
      apply List.lookup_eq_none_iff.mpr
      intro p hp
      apply bne_iff_ne.mpr
      rintro rfl
      exact hnone p.2 ((hmem p.1 p.2).mp hp)
    rw [getElem?_slotsOf_of_none hlookup, hrow]
    rfl
  · refine ⟨_, List.pairwise_lt_range.filter _, ?_, rfl⟩
    intro n
    rw [List.mem_filter, List.mem_range, decide_eq_true_iff]
    apply and_congr_right
    intro _
    constructor
    · intro hnot i hi
      exact hnot (List.mem_map.mpr ⟨(i, n), (hmem i n).mpr hi, rfl⟩)
    · intro hnone hn
      obtain ⟨p, hp, rfl⟩ := List.mem_map.mp hn
      exact hnone p.1 ((hmem p.1 p.2).mp hp)

end OneKey

end SocketWatch
