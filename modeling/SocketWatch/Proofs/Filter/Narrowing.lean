import Mathlib.Data.List.Dedup
import SocketWatch.Proofs.Filter.Evaluation

namespace SocketWatch

theorem distinctValues_eq (values : List String) :
    distinctValues values = (values.filter (· ≠ "")).dedup := by
  induction values with
  | nil => rfl
  | cons value rest ih =>
    rw [distinctValues, ih]
    by_cases hempty : value = ""
    · simp [hempty]
    · by_cases hmem : value ∈ rest
      · simp [hempty, hmem]
      · simp [hempty, hmem]

@[simp] theorem mem_distinctValues {values : List String} {value : String} :
    value ∈ distinctValues values ↔ value ∈ values ∧ value ≠ "" := by
  simp [distinctValues_eq]

namespace Filter

def anyOf (values : List String) : Filter :=
  ofList (values.map fun value => (.or, .literal false value))

def narrowed (f : Filter) (negate : Bool) : List String → Filter
  | [] => f
  | [value] => f.push .and (.literal negate value)
  | value :: value' :: rest => f.push .and (.group negate (anyOf (value :: value' :: rest)))

theorem holds_anyOf (occurs : String → Bool) {values : List String} (hne : values ≠ []) :
    (anyOf values).holds occurs = values.any occurs := by
  have hfold : ∀ (values : List String) (verdict : Bool),
      (Joined.ofList (values.map fun value => (.or, .literal false value))).holds occurs verdict =
        (verdict || values.any occurs) := by
    intro values verdict
    rw [Joined.holds_ofList, List.foldl_map]
    induction values generalizing verdict with
    | nil => simp
    | cons value values ih =>
      rw [List.foldl_cons, ih]
      simp [Join.combine, Operand.holds, Bool.or_assoc]
  cases values with
  | nil => exact absurd rfl hne
  | cons value values => simp [anyOf, ofList, holds, hfold, Operand.holds]

theorem holds_narrowed (occurs : String → Bool) (f : Filter) (negate : Bool)
    (values : List String) :
    (f.narrowed negate values).holds occurs =
      (f.holds occurs && (values.isEmpty || (values.any occurs != negate))) := by
  match values with
  | [] => simp [narrowed]
  | [value] => simp [narrowed, holds_push_and, Operand.holds]
  | value :: value' :: values =>
    rw [narrowed, holds_push_and, Operand.holds, holds_anyOf occurs (by simp)]
    simp

theorem holds_narrowed_iff (occurs : String → Bool) (f : Filter) (negate : Bool)
    (values : List String) :
    (f.narrowed negate (distinctValues values)).holds occurs ↔
      f.holds occurs ∧ ((∃ value ∈ values, value ≠ "") →
        ((∃ value ∈ values, value ≠ "" ∧ occurs value) ↔ negate = false)) := by
  have hempty : (distinctValues values).isEmpty = false ↔ ∃ value ∈ values, value ≠ "" := by
    simp [distinctValues_eq]
  have hany : (distinctValues values).any occurs ↔
      ∃ value ∈ values, value ≠ "" ∧ occurs value := by
    simp [List.any_eq_true, and_assoc]
  rw [holds_narrowed, ← hempty, ← hany]
  cases (distinctValues values).isEmpty with
  | true => simp
  | false =>
    cases negate with
    | true => simp
    | false => simp

theorem addLiteral_eq (f : Filter) (join : Join) (negated : Bool) (text : String) :
    f.addLiteral join negated text =
      if text.utf8ByteSize ≤ maxBytes then .ok (f.push join (.literal negated text))
      else .error (.tooLong text.utf8ByteSize) := by
  rw [addLiteral, checkSize]
  split
  · rfl
  · rfl

def refusal? (values : List String) : Option FilterError :=
  values.findSome? fun value =>
    if value.utf8ByteSize ≤ maxBytes then none else some (.tooLong value.utf8ByteSize)

theorem refusal?_eq_none_iff {values : List String} :
    refusal? values = none ↔ ∀ value ∈ values, value.utf8ByteSize ≤ maxBytes := by
  simp [refusal?, List.findSome?_eq_none_iff]

theorem refusal?_distinctValues_eq_none_iff {values : List String} :
    refusal? (distinctValues values) = none ↔
      ∀ value ∈ values, value.utf8ByteSize ≤ maxBytes := by
  rw [refusal?_eq_none_iff]
  constructor
  · intro hsize value hmem
    by_cases hempty : value = ""
    · simp [hempty]
    · exact hsize value (mem_distinctValues.mpr ⟨hmem, hempty⟩)
  · intro hsize value hmem
    exact hsize value (mem_distinctValues.mp hmem).1

def pushAlternatives (f : Filter) (values : List String) : Filter :=
  values.foldl (fun group value => group.push .or (.literal false value)) f

theorem pushAlternatives_chain (first : Operand) (rest : Joined) (values : List String) :
    pushAlternatives (.chain first rest) values = .chain first
      (.ofList (rest.toList ++ values.map fun value => (.or, .literal false value))) := by
  induction values generalizing rest with
  | nil => simp [pushAlternatives]
  | cons value values ih =>
    have hpush := ih (rest.push .or (.literal false value))
    rw [Joined.toList_push, List.append_assoc] at hpush
    exact hpush

theorem pushAlternatives_empty (values : List String) :
    pushAlternatives .empty values = anyOf values := by
  cases values with
  | nil => rfl
  | cons value values => exact pushAlternatives_chain (.literal false value) .done values

theorem foldlM_addLiteral (f : Filter) (values : List String) :
    values.foldlM (fun group value => group.addLiteral .or false value) f =
      match refusal? values with
      | some failure => .error failure
      | none => .ok (pushAlternatives f values) := by
  induction values generalizing f with
  | nil => rfl
  | cons value values ih =>
    rw [List.foldlM_cons, addLiteral_eq]
    by_cases hsize : value.utf8ByteSize ≤ maxBytes
    · have hrest : refusal? (value :: values) = refusal? values := by
        simp [refusal?, hsize]
      rw [if_pos hsize, hrest]
      exact ih (f.push .or (.literal false value))
    · have hrefused : refusal? (value :: values) = some (.tooLong value.utf8ByteSize) := by
        simp [refusal?, hsize]
      rw [if_neg hsize, hrefused]
      rfl

end Filter

theorem LiveFilter.addValues_eq (f : Filter) (negate : Bool) (values : List String) :
    addValues f negate values =
      match Filter.refusal? values with
      | some failure => .error failure
      | none => .ok (f.narrowed negate values) := by
  match values with
  | [] => rfl
  | [value] =>
    rw [addValues, Filter.addLiteral_eq]
    by_cases hsize : value.utf8ByteSize ≤ Filter.maxBytes
    · simp [Filter.refusal?, hsize, Filter.narrowed]
    · simp [Filter.refusal?, hsize]
  | value :: value' :: values =>
    rw [addValues, Filter.foldlM_addLiteral, Filter.pushAlternatives_empty]
    · cases Filter.refusal? (value :: value' :: values) with
      | none => rfl
      | some failure => rfl
    · simp
    · simp

end SocketWatch
