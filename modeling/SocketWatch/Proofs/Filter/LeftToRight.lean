import SocketWatch.Proofs.Filter.Narrowing
import SocketWatch.Proofs.Filter.Occurrence

namespace SocketWatch

def Join.combineAll (verdict : Bool) (values : List (Join × Bool)) : Bool :=
  values.foldl (fun verdict next => next.1.combine verdict next.2) verdict

mutual

def Operand.value (occurs : String → Bool) : Operand → Bool
  | .literal negated text => occurs text != negated
  | .group negated inner => inner.value occurs != negated

def Filter.value (occurs : String → Bool) : Filter → Bool
  | .empty => true
  | .chain first rest => Join.combineAll (first.value occurs) (rest.values occurs)

def Joined.values (occurs : String → Bool) : Joined → List (Join × Bool)
  | .done => []
  | .next join operand rest => (join, operand.value occurs) :: rest.values occurs

end

mutual

theorem Operand.holds_eq_value (occurs : String → Bool) :
    ∀ operand : Operand, operand.holds occurs = operand.value occurs
  | .literal _ _ => rfl
  | .group _ inner => by rw [Operand.holds, Operand.value, Filter.holds_eq_value occurs inner]

theorem Filter.holds_eq_value (occurs : String → Bool) :
    ∀ f : Filter, f.holds occurs = f.value occurs
  | .empty => rfl
  | .chain first rest => by
    rw [Filter.holds, Filter.value, Operand.holds_eq_value occurs first,
      Joined.holds_eq_values occurs rest]

theorem Joined.holds_eq_values (occurs : String → Bool) :
    ∀ (joined : Joined) (verdict : Bool),
      joined.holds occurs verdict = Join.combineAll verdict (joined.values occurs)
  | .done, _ => rfl
  | .next join operand rest, verdict => by
    rw [Joined.holds, Joined.values, Join.combineAll, List.foldl_cons, ← Join.combineAll]
    split
    · next hsettled =>
      rw [Join.combine_of_settledBy hsettled, Joined.holds_eq_values occurs rest]
    · next hopen =>
      rw [Join.combine_of_not_settledBy hopen, ← Operand.holds_eq_value occurs operand,
        Joined.holds_eq_values occurs rest]

end

namespace Filter

theorem passes_eq_value (f : Filter) (text : String) (mode : CaseMode) :
    f.passes text mode = f.value (mode.occurs text) :=
  f.holds_eq_value (mode.occurs text)

theorem passes_push (f : Filter) (join : Join) (operand : Operand) (text : String)
    (mode : CaseMode) :
    (f.push join operand).passes text mode =
      if f.isEmpty then operand.value (mode.occurs text)
      else join.combine (f.passes text mode) (operand.value (mode.occurs text)) := by
  rw [passes, holds_push, Operand.holds_eq_value, passes]

/-- A filter passes what its plain reading passes, and one more operand at its end is combined with
all that stands before it. -/
theorem passes_left_to_right (f : Filter) (text : String) (mode : CaseMode) :
    let occurs := mode.occurs text
    let appended (join : Join) (operand : Operand) :=
      if f.isEmpty then operand.value occurs
      else join.combine (f.passes text mode) (operand.value occurs)
    (∀ literal, occurs literal ↔
      literal.toList.map mode.letter <:+: text.toList.map mode.letter) ∧
      f.passes text mode = f.value occurs ∧
        (∀ join negated literal,
          (f.addLiteral join negated literal).map (fun longer => longer.passes text mode) =
            if literal.utf8ByteSize ≤ maxBytes then .ok (appended join (.literal negated literal))
            else .error (.tooLong literal.utf8ByteSize)) ∧
          ∀ join negated inner,
            (f.addGroup join negated inner).passes text mode =
              appended join (.group negated inner) := by
  intro occurs appended
  refine ⟨fun literal => CaseMode.occurs_iff, f.passes_eq_value text mode, ?_, ?_⟩
  · intro join negated literal
    rw [addLiteral_eq]
    split
    · exact congrArg Except.ok (f.passes_push join (.literal negated literal) text mode)
    · rfl
  · intro join negated inner
    exact f.passes_push join (.group negated inner) text mode

example : (parse "a OR b c").map (fun f => f.passes "A" .ignoringAscii) = .ok false := by
  decide +kernel

end Filter

end SocketWatch
