/-!
Boolean filters over rows of text. A filter is empty, or a chain of operands joined from left to
right; an operand looks for a literal or holds a filter of its own in parentheses. In the canonical
text of a filter every literal stands in quotes, so it is read back as it is.
-/

namespace SocketWatch

inductive Join where
  | and
  | or
deriving DecidableEq, Repr, Inhabited

mutual

inductive Operand where
  | literal (negated : Bool) (text : String)
  | group (negated : Bool) (inner : Filter)

inductive Filter where
  | empty
  | chain (first : Operand) (rest : Joined)

inductive Joined where
  | done
  | next (join : Join) (operand : Operand) (rest : Joined)

end

deriving instance DecidableEq, Repr for Operand, Filter, Joined

instance : Inhabited Filter := ⟨.empty⟩

def Filter.maxBytes : Nat := 100100100

/-- Why a filter cannot be built. Syntax never fails: what cannot be placed is ignored. -/
inductive FilterError where
  | tooLong (bytes : Nat)
deriving DecidableEq, Repr

def FilterError.message : FilterError → String
  | .tooLong bytes =>
    s!"Filter text is too long: {bytes} bytes (maximum {Filter.maxBytes})"

def Filter.checkSize (text : String) : Except FilterError Unit :=
  if text.utf8ByteSize ≤ maxBytes then .ok () else .error (.tooLong text.utf8ByteSize)

namespace Joined

def push : Joined → Join → Operand → Joined
  | .done, join, operand => .next join operand .done
  | .next j o rest, join, operand => .next j o (rest.push join operand)

def ofList : List (Join × Operand) → Joined
  | [] => .done
  | (join, operand) :: rest => .next join operand (ofList rest)

def toList : Joined → List (Join × Operand)
  | .done => []
  | .next join operand rest => (join, operand) :: rest.toList

@[simp] theorem toList_ofList (l : List (Join × Operand)) : (ofList l).toList = l := by
  induction l with
  | nil => rfl
  | cons a l ih => simp [ofList, toList, ih]

@[simp] theorem ofList_toList : ∀ j : Joined, ofList j.toList = j
  | .done => rfl
  | .next _ _ rest => by simp [toList, ofList, ofList_toList rest]

@[simp] theorem toList_push : ∀ (j : Joined) (join : Join) (operand : Operand),
    (j.push join operand).toList = j.toList ++ [(join, operand)]
  | .done, _, _ => rfl
  | .next _ _ rest, join, operand => by simp [push, toList, toList_push rest]

end Joined

namespace Filter

def isEmpty : Filter → Bool
  | .empty => true
  | .chain .. => false

def push : Filter → Join → Operand → Filter
  | .empty, _, operand => .chain operand .done
  | .chain first rest, join, operand => .chain first (rest.push join operand)

def ofList : List (Join × Operand) → Filter
  | [] => .empty
  | (_, first) :: rest => .chain first (.ofList rest)

/-- The operands with the joins in front of them. An empty chain holds of everything, so the first
operand counts as joined by `and`. -/
def toList : Filter → List (Join × Operand)
  | .empty => []
  | .chain first rest => (.and, first) :: rest.toList

@[simp] theorem ofList_toList (f : Filter) : ofList f.toList = f := by
  cases f <;> simp [toList, ofList]

@[simp] theorem toList_eq_nil_iff {f : Filter} : f.toList = [] ↔ f = .empty := by
  cases f <;> simp [toList]

theorem toList_push (f : Filter) (join : Join) (operand : Operand) :
    (f.push join operand).toList =
      if f.isEmpty then [(.and, operand)] else f.toList ++ [(join, operand)] := by
  cases f <;> simp [push, toList, isEmpty, Joined.toList]

def length (f : Filter) : Nat := 2 * f.toList.length - 1

def addLiteral (f : Filter) (join : Join) (negated : Bool) (text : String) :
    Except FilterError Filter := do
  checkSize text
  return f.push join (.literal negated text)

def addGroup (f : Filter) (join : Join) (negated : Bool) (inner : Filter) : Filter :=
  f.push join (.group negated inner)

end Filter

def doubleQuotes (text : String) : String :=
  text.foldl (fun done c => if c = '"' then (done.push c).push c else done.push c) ""

def doubled (c : Char) : List Char := if c = '"' then [c, c] else [c]

theorem toList_doubleQuotes (text : String) :
    (doubleQuotes text).toList = text.toList.flatMap doubled := by
  suffices h : ∀ (l : List Char) (done : String),
      (l.foldl (fun done c => if c = '"' then (done.push c).push c else done.push c) done).toList =
        done.toList ++ l.flatMap doubled by
    simpa [doubleQuotes, String.foldl_eq_foldl_toList] using h text.toList ""
  intro l
  induction l with
  | nil => simp
  | cons c l ih =>
    intro done
    by_cases hc : c = '"' <;> simp [hc, ih, doubled, String.toList_push]

def Join.print : Join → String
  | .and => " "
  | .or => " OR "

def printNegation (negated : Bool) : String :=
  if negated then "!" else ""

mutual

def Operand.print : Operand → String
  | .literal negated text => printNegation negated ++ "\"" ++ doubleQuotes text ++ "\""
  | .group negated inner => printNegation negated ++ "(" ++ inner.print ++ ")"

def Filter.print : Filter → String
  | .empty => ""
  | .chain first rest => first.print ++ rest.print

def Joined.print : Joined → String
  | .done => ""
  | .next join operand rest => join.print ++ operand.print ++ rest.print

end

end SocketWatch
