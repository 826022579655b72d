import SocketWatch.Filter.Basic
import SocketWatch.Text.CaseFold

namespace SocketWatch

def Join.settledBy : Join → Bool → Bool
  | .and, verdict => !verdict
  | .or, verdict => verdict

mutual

def Operand.holds (occurs : String → Bool) : Operand → Bool
  | .literal negated text => occurs text != negated
  | .group negated inner => inner.holds occurs != negated

def Filter.holds (occurs : String → Bool) : Filter → Bool
  | .empty => true
  | .chain first rest => rest.holds occurs (first.holds occurs)

/-- The verdict of a chain whose left part has the verdict `soFar`. An operand that cannot change it
is not looked at. -/
def Joined.holds (occurs : String → Bool) (soFar : Bool) : Joined → Bool
  | .done => soFar
  | .next join operand rest =>
    if join.settledBy soFar then rest.holds occurs soFar
    else rest.holds occurs (operand.holds occurs)

end

inductive CaseMode where
  | exact
  | ignoringAscii
deriving DecidableEq, Repr

namespace Text

def bytes (text : String) : List UInt8 := text.toList.flatMap String.utf8EncodeChar

def lowerByte (b : UInt8) : UInt8 := if 65 ≤ b ∧ b ≤ 90 then b + 32 else b

def startsIgnoringAscii : List UInt8 → List UInt8 → Bool
  | [], _ => true
  | _ :: _, [] => false
  | a :: wanted, b :: rest => lowerByte a == lowerByte b && startsIgnoringAscii wanted rest

def occursIgnoringAscii (wanted : List UInt8) : List UInt8 → Bool
  | [] => wanted.isEmpty
  | b :: rest => startsIgnoringAscii wanted (b :: rest) || occursIgnoringAscii wanted rest

end Text

def CaseMode.occurs (mode : CaseMode) (text literal : String) : Bool :=
  literal.utf8ByteSize ≤ text.utf8ByteSize &&
    match mode with
    | .exact => text.contains literal
    | .ignoringAscii => Text.occursIgnoringAscii (Text.bytes literal) (Text.bytes text)

theorem CaseMode.occurs_exact_iff {text literal : String} :
    exact.occurs text literal ↔ literal.toList <:+: text.toList := by
  simp only [occurs, Bool.and_eq_true, decide_eq_true_eq, String.contains_string_iff]
  refine and_iff_right_of_imp fun h => ?_
  obtain ⟨before, after, h⟩ := h
  have h : text = String.ofList before ++ literal ++ String.ofList after := by
    apply String.toList_injective
    simp [h]
  rw [h]
  simp only [String.utf8ByteSize_append]
  omega

def Filter.passes (f : Filter) (text : String) (mode : CaseMode) : Bool :=
  f.holds (mode.occurs text)

mutual

def Operand.caseFolded : Operand → Except FilterError Operand
  | .literal negated text => do
    let folded := Text.caseFold text
    Filter.checkSize folded
    return .literal negated folded
  | .group negated inner => return .group negated (← inner.caseFolded)

def Filter.caseFolded : Filter → Except FilterError Filter
  | .empty => return .empty
  | .chain first rest => return .chain (← first.caseFolded) (← rest.caseFolded)

def Joined.caseFolded : Joined → Except FilterError Joined
  | .done => return .done
  | .next join operand rest => return .next join (← operand.caseFolded) (← rest.caseFolded)

end

end SocketWatch
