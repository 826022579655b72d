import SocketWatch.Proofs.Tracking.FirstFit

/-!
Which record belongs to which row among sockets of one key. Records and rows of one inode are
paired in order; of what is left, at most one side has unknown inodes, and these are paired in
order with the whole other side.
-/

namespace SocketWatch

def inodeAt (l : List Connection) (i : Nat) : Option UInt64 := l[i]?.map Connection.inode

def positions (inode : UInt64) (l : List Connection) : List Nat :=
  (List.range l.length).filter fun i => inodeAt l i = some inode

/-- The positions without a counterpart of the same inode among `others`: as many of an inode as
there are over there have one. -/
def leftOver (these others : List Connection) : List Nat :=
  (List.range these.length).filter fun i => (inodeAt these i).all fun inode =>
    i ∉ (positions inode these).take (positions inode others).length

def isUnknown (l : List Connection) (i : Nat) : Bool := inodeAt l i = some 0

inductive Partner (entries records : List Connection) (i n : Nat) : Prop where
  | sameInode (inode : UInt64)
      (h : (i, n) ∈ (positions inode entries).zip (positions inode records))
  | unknownRow
      (h : (i, n) ∈ ((leftOver entries records).filter (isUnknown entries)).zip
        (leftOver records entries))
  | unknownRecord
      (h : (i, n) ∈ (leftOver entries records).zip
        ((leftOver records entries).filter (isUnknown records)))

theorem mem_positions {inode : UInt64} {l : List Connection} {i : Nat} :
    i ∈ positions inode l ↔ inodeAt l i = some inode := by
  simp only [positions, List.mem_filter, List.mem_range, decide_eq_true_eq, and_iff_right_iff_imp]
  intro h
  obtain ⟨c, hc, -⟩ := Option.map_eq_some_iff.mp h
  exact (List.getElem?_eq_some_iff.mp hc).1

theorem exists_inodeAt {l : List Connection} {i : Nat} (h : i < l.length) :
    ∃ inode, inodeAt l i = some inode :=
  ⟨l[i].inode, by simp [inodeAt, h]⟩

theorem map_fst_zip_eq_take {α β : Type} (l : List α) (m : List β) :
    (l.zip m).map Prod.fst = l.take m.length := by
  induction l generalizing m with
  | nil => simp
  | cons a l ih =>
    cases m with
    | nil => rfl
    | cons b m => simp [ih m]

theorem mem_zip_comm {α β : Type} {a : α} {b : β} {l : List α} {m : List β} :
    (a, b) ∈ l.zip m ↔ (b, a) ∈ m.zip l := by
  rw [← List.zip_swap m l, List.mem_map]
  constructor
  · rintro ⟨⟨x, y⟩, h, heq⟩
    obtain ⟨rfl, rfl⟩ := Prod.mk.inj heq
    exact h
  · exact fun h => ⟨(b, a), h, rfl⟩

theorem mem_leftOver {these others : List Connection} {i : Nat} (h : i < these.length) :
    i ∈ leftOver these others ↔
      ∀ inode n, (i, n) ∉ (positions inode these).zip (positions inode others) := by
  obtain ⟨own, hown⟩ := exists_inodeAt h
  have hleft : i ∈ leftOver these others ↔
      i ∉ (positions own these).take (positions own others).length := by
    simp [leftOver, h, hown]
  rw [hleft, ← map_fst_zip_eq_take]
  constructor
  · intro hnot inode n hmem
    have hinode : inodeAt these i = some inode :=
      mem_positions.mp (List.of_mem_zip hmem).1
    obtain rfl : own = inode := Option.some.inj (hown.symm.trans hinode)
    exact hnot (List.mem_map.mpr ⟨(i, n), hmem, rfl⟩)
  · intro hnone hmem
    obtain ⟨⟨j, n⟩, hzip, rfl⟩ := List.mem_map.mp hmem
    exact hnone own n hzip

theorem filter_range_eq_leftOver {these others : List Connection} {p : Nat → Bool}
    (h : ∀ i, p i ↔ ∀ inode n, (i, n) ∉ (positions inode these).zip (positions inode others)) :
    (List.range these.length).filter p = leftOver these others := by
  apply List.filter_congr
  intro i hi
  have hmem : i ∈ leftOver these others ↔ (inodeAt these i).all fun inode =>
      i ∉ (positions inode these).take (positions inode others).length := by
    simp [leftOver, List.mem_range.mp hi]
  rw [Bool.eq_iff_iff, h, ← hmem, mem_leftOver (List.mem_range.mp hi)]

theorem lt_of_mem_leftOver {these others : List Connection} {i : Nat}
    (h : i ∈ leftOver these others) : i < these.length :=
  List.mem_range.mp (List.mem_filter.mp h).1

theorem inodeAt_ne_of_leftOver {entries records : List Connection} {i n : Nat}
    (hi : i ∈ leftOver entries records) (hn : n ∈ leftOver records entries) :
    inodeAt entries i ≠ inodeAt records n := by
  intro heq
  obtain ⟨inode, hinode⟩ := exists_inodeAt (lt_of_mem_leftOver hi)
  have hrecord : inodeAt records n = some inode := heq ▸ hinode
  have hshort (l : List Nat) (m k : Nat) (hm : m ∈ l) (htake : m ∉ l.take k) : k < l.length := by
    by_contra hle
    exact htake (by rwa [List.take_of_length_le (by omega)])
  have hrows : i ∉ (positions inode entries).take (positions inode records).length := by
    simpa [leftOver, hinode, lt_of_mem_leftOver hi] using hi
  have hrecords : n ∉ (positions inode records).take (positions inode entries).length := by
    simpa [leftOver, hrecord, lt_of_mem_leftOver hn] using hn
  have hmore := hshort _ _ _ (mem_positions.mpr hinode) hrows
  have hless := hshort _ _ _ (mem_positions.mpr hrecord) hrecords
  omega

theorem not_both_unknown (entries records : List Connection) :
    (∀ i ∈ leftOver entries records, isUnknown entries i = false) ∨
      ∀ n ∈ leftOver records entries, isUnknown records n = false := by
  by_contra hboth
  simp only [not_or, not_forall, Bool.not_eq_false, isUnknown, decide_eq_true_eq] at hboth
  obtain ⟨⟨i, hi, hirow⟩, n, hn, hnrecord⟩ := hboth
  exact inodeAt_ne_of_leftOver hi hn (hirow.trans hnrecord.symm)

theorem Partner.lt {entries records : List Connection} {i n : Nat}
    (h : Partner entries records i n) : i < entries.length ∧ n < records.length := by
  rcases h with ⟨inode, h⟩ | h | h
  · obtain ⟨hi, hn⟩ := List.of_mem_zip h
    exact ⟨List.mem_range.mp (List.mem_filter.mp hi).1,
      List.mem_range.mp (List.mem_filter.mp hn).1⟩
  · obtain ⟨hi, hn⟩ := List.of_mem_zip h
    exact ⟨lt_of_mem_leftOver (List.mem_filter.mp hi).1, lt_of_mem_leftOver hn⟩
  · obtain ⟨hi, hn⟩ := List.of_mem_zip h
    exact ⟨lt_of_mem_leftOver hi, lt_of_mem_leftOver (List.mem_filter.mp hn).1⟩

structure FirstInFirstOut (rows : List Row) (records : List Connection) (slots : List Slot)
    (unpaired : List Connection) : Prop where
  oneSideUnknown :
    (∀ i ∈ leftOver (rows.map Row.connection) records,
      isUnknown (rows.map Row.connection) i = false) ∨
    ∀ n ∈ leftOver records (rows.map Row.connection), isUnknown records n = false
  oneRecord : ∀ i m n, Partner (rows.map Row.connection) records i m →
    Partner (rows.map Row.connection) records i n → m = n
  oneRow : ∀ i j n, Partner (rows.map Row.connection) records i n →
    Partner (rows.map Row.connection) records j n → i = j
  rows_eq : slots.map Slot.row = rows
  paired : ∀ i n, Partner (rows.map Row.connection) records i n → ∃ row seen,
    rows[i]? = some row ∧ records[n]? = some seen ∧ slots[i]? = some (.paired row seen)
  free : ∀ i row, rows[i]? = some row → (∀ n, ¬Partner (rows.map Row.connection) records i n) →
    slots[i]? = some (.free row)
  unpaired : ∃ numbers : List Nat, numbers.Pairwise (· < ·) ∧
    (∀ n, n ∈ numbers ↔
      n < records.length ∧ ∀ i, ¬Partner (rows.map Row.connection) records i n) ∧
    unpaired = numbers.filterMap (records[·]?)

end SocketWatch
