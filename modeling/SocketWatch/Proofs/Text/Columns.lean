import SocketWatch.Text.Basic
import SocketWatch.Proofs.Text.Numeral
import SocketWatch.Proofs.Text.Runs

namespace SocketWatch.Text

theorem isBlank_of_isHexDigit {c : Char} (h : isHexDigit c) : isBlank c = false := by
  have hbounds := toNat_of_isHexDigit h
  simp [isBlank]
  omega

theorem isBlank_of_isDecimalDigit {c : Char} (h : isDecimalDigit c) : isBlank c = false := by
  have hruns : ∀ first ∈ decimalDigitRuns, 0x20 < first ∧
      (first + 9 < 0x85 ∨ 0xA0 < first) ∧ (first + 9 < 0x1680 ∨ 0x1680 < first) ∧
        (first + 9 < 0x2000 ∨ 0x3000 < first) := by decide
  obtain ⟨first, hfirst, hc⟩ := List.any_eq_true.mp h
  have hgap := hruns first hfirst
  simp only [Bool.and_eq_true, decide_eq_true_eq] at hc
  simp [isBlank]
  omega

theorem cut?_eq_some_iff {mark : Char} {text left right : List Char} :
    cut? mark text = some (left, right) ↔ text = left ++ mark :: right ∧ mark ∉ left := by
  constructor
  · intro h
    induction text generalizing left with
    | nil => cases h
    | cons c text ih =>
      rw [cut?] at h
      split at h
      · next hc =>
        obtain ⟨rfl, rfl⟩ := Prod.mk.inj (Option.some.inj h)
        exact ⟨by rw [hc, List.nil_append], List.not_mem_nil⟩
      · next hc =>
        obtain ⟨⟨first, last⟩, hcut, hpair⟩ := Option.map_eq_some_iff.mp h
        obtain ⟨rfl, rfl⟩ := Prod.mk.inj hpair
        obtain ⟨rfl, hmark⟩ := ih hcut
        exact ⟨rfl, by simp [hmark, Ne.symm hc]⟩
  · rintro ⟨rfl, hmark⟩
    induction left with
    | nil => simp [cut?]
    | cons c left ih =>
      obtain ⟨hc, hleft⟩ := not_or.mp (mt List.mem_cons.mpr hmark)
      simp [cut?, Ne.symm hc, ih hleft]

def IsField (field : List Char) : Prop := field ≠ [] ∧ ∀ c ∈ field, isBlank c = false

theorem isField_of_mem_fields {field line : List Char} (h : field ∈ fields line) :
    IsField field := by
  obtain ⟨hpiece, hne⟩ := List.mem_filter.mp h
  exact ⟨by simpa using hne, (mem_splitOnP_iff.mp hpiece).1⟩

inductive Spaced (rest : List Char) : List (List Char) → List Char → Prop where
  | done : Spaced rest [] rest
  | column {column gap text : List Char} {columns : List (List Char)} (hne : gap ≠ [])
    (hgap : ∀ c ∈ gap, isBlank c) (h : Spaced rest columns text) :
    Spaced rest (column :: columns) (column ++ (gap ++ text))

theorem Spaced.fields_eq {columns : List (List Char)} {rest text : List Char}
    (h : Spaced rest columns text) (hcolumns : ∀ column ∈ columns, IsField column) :
    fields text = columns ++ fields rest := by
  induction h with
  | done => rfl
  | @column column gap text columns hne hgap h ih =>
    obtain ⟨⟨hcolumn, hplain⟩, hcolumns⟩ := List.forall_mem_cons.mp hcolumns
    have hstop : ∀ c ∈ (gap ++ text).head?, isBlank c := by
      obtain ⟨c, gap, rfl⟩ := List.exists_cons_of_ne_nil hne
      simpa using hgap c (by simp)
    have hrun : fields (column ++ (gap ++ text)) = column :: fields (gap ++ text) :=
      runs_of_run hcolumn hplain hstop
    have hskip : fields (gap ++ text) = fields text := runs_of_gap hgap text
    rw [hrun, hskip, ih hcolumns, List.cons_append]

theorem exists_spaced {columns more : List (List Char)} {last line : List Char}
    (h : fields line = columns ++ last :: more) :
    ∃ indent body rest, line = indent ++ body ∧ (∀ c ∈ indent, isBlank c) ∧
      (∃ c ∈ body.head?, isBlank c = false) ∧ Spaced (last ++ rest) columns body ∧
        ∀ c ∈ rest.head?, isBlank c := by
  replace h : Runs isBlank (columns ++ last :: more) line := runs_eq_iff.mp h
  induction columns generalizing line with
  | nil =>
    cases h with
    | @run gap _ text _ hgap hne hrun htext _ =>
      obtain ⟨c, tail, rfl⟩ := List.exists_cons_of_ne_nil hne
      exact ⟨gap, _, text, rfl, hgap, ⟨c, rfl, hrun c (by simp)⟩, .done, htext⟩
  | cons column columns ih =>
    cases h with
    | @run gap _ text _ hgap hne hrun htext h =>
      obtain ⟨indent, body, rest, rfl, hindent, ⟨d, hd, hplain⟩, hbody, hrest⟩ := ih h
      have hparted : indent ≠ [] := by
        rintro rfl
        simp [htext d hd] at hplain
      obtain ⟨c, tail, rfl⟩ := List.exists_cons_of_ne_nil hne
      exact ⟨gap, _, rest, rfl, hgap, ⟨c, rfl, hrun c (by simp)⟩,
        .column hparted hindent hbody, hrest⟩

end SocketWatch.Text
