/-!
The part that each character of a filter text plays. All tolerance of the language lives here: a
token counts only where an operand can start, and every other character is ignored, so each text
has a mask, one role per character.
-/

namespace SocketWatch

inductive Role where
  | gap
  | ignored
  | word
  | quote
  | quoted
  | or
  | not
  | opening
  | closing
deriving DecidableEq, Repr, Inhabited

namespace Role

def code : Role → Char
  | .gap => ' '
  | .ignored => '.'
  | .word => 'w'
  | .quote => '"'
  | .quoted => 'q'
  | .or => 'O'
  | .not => '!'
  | .opening => '('
  | .closing => ')'

def admitsOperand : Role → Bool
  | .gap | .opening | .not => true
  | _ => false

def admitsLiteral : Role → Bool
  | .gap | .opening | .not | .quote | .word => true
  | _ => false

def admitsJoin : Role → Bool
  | .gap | .opening | .not | .closing => true
  | _ => false

def endsOperand : Role → Bool
  | .word | .quote | .quoted | .closing => true
  | _ => false

end Role

abbrev Mask := List Role

namespace Mask

def isGap (c : Char) : Bool :=
  c == ' ' || c == '\t' || c == '\r' || c == '\n'

def bodyLength : List Char → Option Nat
  | [] => none
  | '"' :: '"' :: rest => (bodyLength rest).map (· + 2)
  | '"' :: _ => some 0
  | _ :: rest => (bodyLength rest).map (· + 1)

def spellsOr (c d : Char) : Bool :=
  (c == 'o' || c == 'O') && (d == 'r' || d == 'R')

/-- For a letter that follows the role `prev`, and the text after it: the role of both letters of a
join and the role that the next character follows, or nothing where no join stands here. A join
ends with a gap or with the text, and one glued to an operand is ignored; letters that run into a
parenthesis or a negation are ignored, and what follows them stands where they stood. -/
def joinAt (prev : Role) (c : Char) : List Char → Option (Role × Role)
  | [] => none
  | d :: rest =>
    if prev.admitsJoin && spellsOr c d then
      match rest with
      | [] => some (if prev = .gap then .or else .ignored, .gap)
      | e :: _ =>
        if isGap e then some (if prev = .gap then .or else .ignored, .gap)
        else if e = '(' || e = ')' || e = '!' then some (.ignored, prev)
        else none
    else none

/-- Reads the text from left to right. `prev` is the role that the next character follows, `depth`
the number of groups still open, and `ahead` holds the roles that earlier characters have settled
for the next ones. Every opening counts as answered here. -/
def scan (prev : Role) (depth : Nat) (ahead : List Role) : List Char → Mask
  | [] => []
  | c :: rest =>
    match ahead with
    | role :: ahead => role :: scan prev depth ahead rest
    | [] =>
      if isGap c then .gap :: scan .gap depth [] rest
      else if c = '(' then
        if prev.admitsOperand then .opening :: scan .opening (depth + 1) [] rest
        else .ignored :: scan prev depth [] rest
      else if c = ')' then
        match depth with
        | 0 => .ignored :: scan prev 0 [] rest
        | depth + 1 => .closing :: scan .closing depth [] rest
      else if c = '"' then
        match bodyLength rest with
        | none => .ignored :: scan prev depth [] rest
        | some n =>
          if prev.admitsLiteral then
            .quote :: scan .quote depth (List.replicate n .quoted ++ [.quote]) rest
          else .ignored :: scan prev depth (List.replicate (n + 1) .ignored) rest
      else if c = '!' then
        if prev.admitsOperand then .not :: scan .not depth [] rest
        else .ignored :: scan prev depth [] rest
      else
        match joinAt prev c rest with
        | some (role, next) => role :: scan next depth [role] rest
        | none =>
          if prev.admitsLiteral then .word :: scan .word depth [] rest
          else .ignored :: scan prev depth [] rest

/-- Ignores the openings that no closing answers. It works from the end of the text; the number
counts the closings that still wait for an opening. -/
def answerOpenings : Mask → Mask × Nat
  | [] => ([], 0)
  | .opening :: rest =>
    match answerOpenings rest with
    | (mask, 0) => (.ignored :: mask, 0)
    | (mask, waiting + 1) => (.opening :: mask, waiting)
  | .closing :: rest =>
    let (mask, waiting) := answerOpenings rest
    (.closing :: mask, waiting + 1)
  | role :: rest =>
    let (mask, waiting) := answerOpenings rest
    (role :: mask, waiting)

/-- Ignores the joins with nothing on their left, where `last` is the nearest role that is neither
ignored nor a gap. The two letters of a join stand side by side. -/
def dropDangling (last : Role) : Mask → Mask
  | .or :: role :: rest =>
    if last.endsOperand then .or :: role :: dropDangling .or rest
    else .ignored :: .ignored :: dropDangling .or rest
  | [.or] => if last.endsOperand then [.or] else [.ignored]
  | .ignored :: rest => .ignored :: dropDangling last rest
  | .gap :: rest => .gap :: dropDangling last rest
  | role :: rest => role :: dropDangling role rest
  | [] => []

def ofChars (text : List Char) : Mask :=
  dropDangling .opening (answerOpenings (scan .gap 0 [] text)).1

def print (mask : Mask) : String := String.ofList (mask.map Role.code)

end Mask

end SocketWatch
