import SocketWatch.Filter.Mask
import SocketWatch.Filter.Basic

namespace SocketWatch

inductive Token where
  | gap
  | or
  | not
  | opening
  | closing
  | literal (written : List Char)
deriving DecidableEq, Repr

namespace Token

def extend (written : List Char) : List Token → List Token
  | .literal more :: rest => .literal (written ++ more) :: rest
  | tokens => .literal written :: tokens

def ofMask : List (Char × Role) → List Token
  | [] => []
  | (c, role) :: rest =>
    match role with
    | .gap => .gap :: ofMask rest
    | .ignored => ofMask rest
    | .word | .quoted => extend [c] (ofMask rest)
    | .quote => extend [] (ofMask rest)
    | .or => .or :: ofMask rest
    | .not => .not :: ofMask rest
    | .opening => .opening :: ofMask rest
    | .closing => .closing :: ofMask rest

def undouble : List Char → List Char
  | '"' :: '"' :: rest => '"' :: undouble rest
  | c :: rest => c :: undouble rest
  | [] => []

end Token

structure Level where
  operands : List (Join × Operand) := []
  join : Join := .and
  negated : Bool := false

namespace Level

def push (level : Level) (operand : Operand) : Level :=
  { operands := (level.join, operand) :: level.operands }

def filter (level : Level) : Filter := .ofList level.operands.reverse

def close (level inner : Level) : Level := level.push (.group level.negated inner.filter)

end Level

structure Reading where
  current : Level := {}
  around : List Level := []

namespace Reading

/-- Operands are joined by `and` unless a join stands between them, and each negation between them
turns the sense of the next one. -/
def step (reading : Reading) : Token → Reading
  | .gap => reading
  | .or => { reading with current.join := .or }
  | .not => { reading with current.negated := !reading.current.negated }
  | .literal written =>
    let text := String.ofList (Token.undouble written)
    { reading with current := reading.current.push (.literal reading.current.negated text) }
  | .opening => { current := {}, around := reading.current :: reading.around }
  | .closing =>
    match reading.around with
    | [] => reading
    | level :: around => { current := level.close reading.current, around }

def filter (reading : Reading) : Filter :=
  (reading.around.foldl (fun inner level => level.close inner) reading.current).filter

end Reading

namespace Filter

def ofTokens (tokens : List Token) : Filter :=
  (tokens.foldl Reading.step {}).filter

def ofMask (text : List Char) (mask : Mask) : Filter :=
  ofTokens (Token.ofMask (text.zip mask))

def mask (text : String) : Except FilterError Mask := do
  checkSize text
  return Mask.ofChars text.toList

def parseWithMask (text : String) : Except FilterError (Filter × Mask) := do
  let mask ← mask text
  return (ofMask text.toList mask, mask)

def parse (text : String) : Except FilterError Filter :=
  (parseWithMask text).map Prod.fst

theorem checkSize_of_le {text : String} (h : text.utf8ByteSize ≤ maxBytes) :
    checkSize text = .ok () := by
  rw [checkSize, if_pos h]

theorem parse_of_le {text : String} (h : text.utf8ByteSize ≤ maxBytes) :
    parse text = .ok (ofMask text.toList (Mask.ofChars text.toList)) := by
  rw [parse, parseWithMask, mask, checkSize_of_le h]
  rfl

def words (text : String) : List String :=
  ((text.split Mask.isGap).toList.map String.Slice.copy).filter (· ≠ "")

theorem toList_words (text : String) :
    (words text).map String.toList = (text.toList.splitOnP Mask.isGap).filter (· ≠ []) := by
  have ofList_ne : ((fun word => decide (word ≠ "")) ∘ String.ofList) =
      fun word => decide (word ≠ []) := by
    funext word
    simp
  simp only [words, String.toList_split_bool, List.filter_map, List.map_map, ofList_ne]
  simp

def parseWords (text : String) : Except FilterError Filter := do
  checkSize text
  return ofList ((words text).map fun word => (.and, .literal false word))

theorem parseWords_of_le {text : String} (h : text.utf8ByteSize ≤ maxBytes) :
    parseWords text = .ok (ofList ((words text).map fun word => (.and, .literal false word))) := by
  rw [parseWords, checkSize_of_le h]
  rfl

end Filter

end SocketWatch
