import SocketWatch.Tracking.Visible
import SocketWatch.Filter.Matching
import SocketWatch.Proofs.Text.Numeral
import SocketWatch.Proofs.Text.Runs

namespace SocketWatch

theorem mem_splitOn_padding {word : List Char} (hne : word ≠ []) (left right : List Char) :
    word ∈ (left ++ (Connection.padding.toList ++ right)).splitOn ' ' ↔
      word ∈ left.splitOn ' ' ∨ word ∈ right.splitOn ' ' := by
  have hcut (l r : List Char) : (l ++ ' ' :: r).splitOn ' ' = l.splitOn ' ' ++ r.splitOn ' ' :=
    List.splitOnP_append_cons l r (beq_self_eq_true ' ')
  have hpadding : left ++ (Connection.padding.toList ++ right) =
      left ++ ' ' :: ([] ++ ' ' :: ([] ++ ' ' :: right)) := rfl
  rw [hpadding, hcut, hcut, hcut]
  simp [hne]

namespace Connection

theorem mem_splitOn_filterText (c : Connection) (columns : List Column) {word : List Char}
    (hne : word ≠ []) :
    word ∈ (c.filterText columns).toList.splitOn ' ' ↔
      ∃ column ∈ columns, word ∈ (c.columnText column).toList.splitOn ' ' := by
  have hcolumns : ∀ columns : List Column,
      word ∈ (columns.flatMap fun column =>
          (c.columnText column ++ padding).toList).splitOn ' ' ↔
        ∃ column ∈ columns, word ∈ (c.columnText column).toList.splitOn ' ' := by
    intro columns
    induction columns with
    | nil => simp [hne]
    | cons column columns ih =>
      rw [List.flatMap_cons, String.toList_append, List.append_assoc, mem_splitOn_padding hne, ih]
      simp
  have hfirst := mem_splitOn_padding hne [] (columns.flatMap fun column =>
    (c.columnText column ++ padding).toList)
  rw [toList_filterText, ← hcolumns, ← List.nil_append padding.toList, List.append_assoc, hfirst]
  simp [hne]

theorem head?_filterText (c : Connection) (columns : List Column) :
    (c.filterText columns).toList.head? = some ' ' := by
  rw [toList_filterText]
  rfl

theorem getLast?_filterText (c : Connection) (columns : List Column) :
    (c.filterText columns).toList.getLast? = some ' ' := by
  rw [toList_filterText]
  rcases List.eq_nil_or_concat columns with rfl | ⟨columns, column, rfl⟩
  · rfl
  · rw [List.concat_eq_append, List.flatMap_append, List.flatMap_singleton, String.toList_append,
      ← List.append_assoc, ← List.append_assoc, List.getLast?_append]
    rfl

end Connection

theorem toList_portText {port : UInt16} (h : port ≠ 0) :
    (portText port).toList = Nat.toDigits 10 port.toNat := by
  rw [portText, if_neg h]
  exact Nat.toList_repr

theorem isDigit_of_mem_portText {port : UInt16} (h : port ≠ 0) :
    ∀ c ∈ (portText port).toList, Text.isDigit c := by
  rw [toList_portText h]
  exact fun c => Text.isDigit_of_mem_toDigits

theorem portText_inj {port other : UInt16} (h : port ≠ 0) (heq : portText other = portText port) :
    other = port := by
  by_cases hother : other = 0
  · have hstar : '*' ∈ (portText port).toList := by
      rw [← heq, hother]
      decide
    exact absurd (isDigit_of_mem_portText h '*' hstar) (by decide)
  · have hdigits := congrArg (fun text => Text.valueOf 10 text.toList) heq
    simp only [toList_portText h, toList_portText hother,
      Text.valueOf_toDigits (by decide : 1 < 10) (by decide)] at hdigits
    exact UInt16.toNat_inj.mp hdigits

theorem space_notMem_portText (port : UInt16) : ' ' ∉ (portText port).toList := by
  by_cases h : port = 0
  · simp [portText, h]
  · exact fun hmem => absurd (isDigit_of_mem_portText h ' ' hmem) (by decide)

theorem splitOn_portText (port : UInt16) :
    (portText port).toList.splitOn ' ' = [(portText port).toList] := by
  apply List.splitOnP_eq_singleton
  intro c hc
  rw [beq_eq_false_iff_ne]
  rintro rfl
  exact space_notMem_portText port hc

theorem portText_mem_splitOn_iff {port : UInt16} (h : port ≠ 0) (shown : UInt16)
    (service : Option String) :
    (portText port).toList ∈ (fullPortText shown service).toList.splitOn ' ' ↔
      shown = port ∨ shown ≠ 0 ∧
        ∃ name ∈ service, (portText port).toList ∈ name.toList.splitOn ' ' := by
  have hport : (portText port).toList = (portText shown).toList ↔ shown = port := by
    constructor
    · exact fun heq => portText_inj h (String.toList_injective heq).symm
    · rintro rfl
      rfl
  cases service with
  | none => simp [fullPortText, splitOn_portText, hport]
  | some name =>
    by_cases hshown : shown = 0
    · subst hshown
      have htext : fullPortText 0 (some name) = portText 0 := rfl
      rw [htext, splitOn_portText, List.mem_singleton, hport]
      simp
    · have hcut := List.splitOnP_append_cons (p := (· == ' ')) (portText shown).toList name.toList
        (beq_self_eq_true ' ')
      have htext : (fullPortText shown (some name)).toList =
          (portText shown).toList ++ ' ' :: name.toList := by
        simp [fullPortText, hshown]
      rw [htext, List.splitOn_eq_splitOnP, hcut, ← List.splitOn_eq_splitOnP, splitOn_portText,
        List.singleton_append, List.mem_cons, hport]
      simp [hshown, List.splitOn_eq_splitOnP]

/-- A value with a blank on both sides is found in a row where it is a word of one of the columns,
as the columns are cut at blanks. A port is a word of the column that shows it, with a service
behind it or without, and of no column of another port unless the name of a service holds it. -/
theorem Connection.occurs_between_blanks_iff (c : Connection) (columns : List Column)
    {value : String} (hne : value ≠ "") (hblank : ' ' ∉ value.toList) :
    (CaseMode.exact.occurs (c.filterText columns) (" " ++ value ++ " ") ↔
      ∃ column ∈ columns, value.toList ∈ (c.columnText column).toList.splitOn ' ') ∧
    ∀ (port shown : UInt16) (service : Option String), port ≠ 0 → value = portText port →
      (value.toList ∈ (fullPortText shown service).toList.splitOn ' ' ↔
        shown = port ∨ shown ≠ 0 ∧
          ∃ name ∈ service, value.toList ∈ name.toList.splitOn ' ') := by
  have hlist : value.toList ≠ [] := by simpa using hne
  constructor
  · have hliteral : (" " ++ value ++ " ").toList = ' ' :: (value.toList ++ [' ']) := by simp
    rw [CaseMode.occurs_exact_iff, hliteral, Text.infix_iff_mem_splitOn hlist hblank
      (c.head?_filterText columns) (c.getLast?_filterText columns),
      c.mem_splitOn_filterText columns hlist]
  · rintro port shown service hport rfl
    exact portText_mem_splitOn_iff hport shown service

theorem Connection.occurs_between_blanks_of_service :
    let c : Connection :=
      { own := { port := 80, service := some "http" }, peer := { port := 8080 } }
    let columns : List Column := [.ownPort, .peerPort, .peerHost]
    "80" ≠ "" ∧ ' ' ∉ "80".toList ∧ (80 : UInt16) ≠ 0 ∧ "80" = portText 80 ∧
      CaseMode.exact.occurs (c.filterText columns) " 80 " ∧
      CaseMode.exact.occurs (c.filterText [.peerPort, .peerHost]) " 80 " = false := by
  intro c columns
  have hne : "80" ≠ "" := by decide
  have hblank : ' ' ∉ "80".toList := by decide
  have hport : (80 : UInt16) ≠ 0 := by decide
  have htext : "80" = portText 80 := by decide
  obtain ⟨hown, hword⟩ := occurs_between_blanks_iff c columns hne hblank
  obtain ⟨hpeer, -⟩ := occurs_between_blanks_iff c [.peerPort, .peerHost] hne hblank
  refine ⟨hne, hblank, hport, htext, ?_, ?_⟩
  · exact hown.mpr ⟨.ownPort, by decide, (hword 80 80 (some "http") hport htext).mpr (.inl rfl)⟩
  · have hnone : ¬ ∃ column ∈ [Column.peerPort, .peerHost],
        "80".toList ∈ (c.columnText column).toList.splitOn ' ' := by
      decide
    simpa using mt hpeer.mp hnone

end SocketWatch
