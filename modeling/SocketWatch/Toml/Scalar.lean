import SocketWatch.Toml.Basic
import SocketWatch.Text.Basic

/-!
The simple parts of TOML documents: blanks, comments, strings, keys, numbers and dates. Each reader
takes its part from the start of a text and hands back the rest, or refuses.
-/

namespace SocketWatch.Toml

abbrev Reader (α : Type) := List Char → Option (α × List Char)

def skipBlanks (text : List Char) : List Char := text.dropWhile fun c => c == ' ' || c == '\t'

def isPlain (c : Char) : Bool := c == '\t' || (0x20 ≤ c.toNat && c.toNat ≠ 0x7F)

def newline? : Reader Unit
  | '\n' :: rest => some ((), rest)
  | '\r' :: '\n' :: rest => some ((), rest)
  | _ => none

def skipComment : List Char → List Char
  | '#' :: rest => rest.dropWhile isPlain
  | text => text

def endLine? (text : List Char) : Option (List Char) :=
  match skipComment (skipBlanks text) with
  | [] => some []
  | text => (newline? text).map Prod.snd

def skipLines : List Char → (inComment : Bool) → List Char
  | [], _ => []
  | c :: rest, true => if isPlain c then skipLines rest true else
      if c = '\n' then skipLines rest false
      else if c = '\r' && rest.head? = some '\n' then skipLines rest false
      else c :: rest
  | c :: rest, false =>
    if c = ' ' || c = '\t' || c = '\n' then skipLines rest false
    else if c = '\r' && rest.head? = some '\n' then skipLines rest false
    else if c = '#' then skipLines rest true
    else c :: rest

def escaped? : Char → Option Char
  | 'b' => some '\x08'
  | 't' => some '\t'
  | 'n' => some '\n'
  | 'f' => some '\x0c'
  | 'r' => some '\r'
  | '"' => some '"'
  | '\\' => some '\\'
  | _ => none

def codePoint? (digits : List Char) : Option Char :=
  let n := Text.valueOf 16 digits
  if digits.all Text.isHexDigit && (n < 0xD800 || (0xE000 ≤ n && n < 0x110000)) then
    some (Char.ofNat n)
  else none

def onto (c : Char) (read : Option (List Char × List Char)) : Option (List Char × List Char) :=
  read.map fun (text, rest) => (c :: text, rest)

def basic? : Reader (List Char)
  | [] => none
  | '"' :: rest => some ([], rest)
  | '\\' :: 'u' :: a :: b :: c :: d :: rest =>
    match codePoint? [a, b, c, d] with
    | some c => onto c (basic? rest)
    | none => none
  | '\\' :: 'U' :: a :: b :: c :: d :: e :: f :: g :: h :: rest =>
    match codePoint? [a, b, c, d, e, f, g, h] with
    | some c => onto c (basic? rest)
    | none => none
  | '\\' :: c :: rest =>
    match escaped? c with
    | some c => onto c (basic? rest)
    | none => none
  | c :: rest => if c ≠ '\\' && isPlain c then onto c (basic? rest) else none

def literal? : Reader (List Char)
  | [] => none
  | '\'' :: rest => some ([], rest)
  | c :: rest => if isPlain c then onto c (literal? rest) else none

/-- The closing of a string over several lines: three quotes, before which one or two more belong to
the string. -/
def closing? (quote : Char) (text : List Char) : Option (List Char × List Char) :=
  let quotes := (text.takeWhile (· == quote)).length
  if quotes < 3 then none
  else some (List.replicate (min quotes 5 - 3) quote, text.drop (min quotes 5))

inductive LongState where
  | content
  | breakDue
  | dropping

def longBasic? (state : LongState) : Reader (List Char)
  | [] => none
  | '\r' :: '\n' :: rest =>
    match state with
    | .content => onto '\n' (longBasic? .content rest)
    | .breakDue | .dropping => longBasic? .dropping rest
  | '\n' :: rest =>
    match state with
    | .content => onto '\n' (longBasic? .content rest)
    | .breakDue | .dropping => longBasic? .dropping rest
  | '\\' :: 'u' :: a :: b :: c :: d :: rest =>
    match state, codePoint? [a, b, c, d] with
    | .breakDue, _ => none
    | _, some c => onto c (longBasic? .content rest)
    | _, none => none
  | '\\' :: 'U' :: a :: b :: c :: d :: e :: f :: g :: h :: rest =>
    match state, codePoint? [a, b, c, d, e, f, g, h] with
    | .breakDue, _ => none
    | _, some c => onto c (longBasic? .content rest)
    | _, none => none
  | '\\' :: c :: rest =>
    match state with
    | .breakDue => none
    | _ =>
      match escaped? c with
      | some c => onto c (longBasic? .content rest)
      | none =>
        if c = ' ' || c = '\t' then longBasic? .breakDue rest
        else if c = '\n' then longBasic? .dropping rest
        else if c = '\r' && rest.head? = some '\n' then longBasic? .breakDue rest
        else none
  | c :: rest =>
    match state with
    | .breakDue => if c = ' ' || c = '\t' then longBasic? .breakDue rest else none
    | state =>
      match closing? '"' (c :: rest) with
      | some closed => some closed
      | none =>
        if c = '\\' || !isPlain c then none
        else
          match state with
          | .dropping =>
            if c = ' ' || c = '\t' then longBasic? .dropping rest
            else onto c (longBasic? .content rest)
          | _ => onto c (longBasic? .content rest)

def longLiteral? : Reader (List Char)
  | [] => none
  | '\r' :: '\n' :: rest => onto '\n' (longLiteral? rest)
  | c :: rest =>
    match closing? '\'' (c :: rest) with
    | some closed => some closed
    | none => if c = '\n' || isPlain c then onto c (longLiteral? rest) else none

def dropBreak (text : List Char) : List Char := (newline? text).elim text Prod.snd

def string? : Reader (List Char)
  | '"' :: '"' :: '"' :: rest => longBasic? .content (dropBreak rest)
  | '"' :: rest => basic? rest
  | '\'' :: '\'' :: '\'' :: rest => longLiteral? (dropBreak rest)
  | '\'' :: rest => literal? rest
  | _ => none

def isKeyChar (c : Char) : Bool :=
  Text.isDigit c || ('a' ≤ c && c ≤ 'z') || ('A' ≤ c && c ≤ 'Z') || c == '_' || c == '-'

def keyPart? : Reader String
  | '"' :: rest => (basic? rest).map fun (key, rest) => (String.ofList key, rest)
  | '\'' :: rest => (literal? rest).map fun (key, rest) => (String.ofList key, rest)
  | text =>
    let key := text.takeWhile isKeyChar
    if key.isEmpty then none else some (String.ofList key, text.dropWhile isKeyChar)

def key? : (limit : Nat) → Reader (List String)
  | 0, _ => none
  | limit + 1, text => do
    let (part, rest) ← keyPart? (skipBlanks text)
    match skipBlanks rest with
    | '.' :: rest =>
      let (parts, rest) ← key? limit rest
      return (part :: parts, rest)
    | rest => return ([part], rest)

def keyLimit : Nat := 79

def digits? (isDigit : Char → Bool) : List Char → Option (List Char × List Char)
  | [] => none
  | [c] => if isDigit c then some ([c], []) else none
  | c :: d :: rest =>
    if isDigit c then
      match digits? isDigit (d :: rest), d with
      | some (digits, rest), _ => some (c :: digits, rest)
      | none, '_' =>
        match digits? isDigit rest with
        | some (digits, rest) => some (c :: digits, rest)
        | none => some ([c], d :: rest)
      | none, _ => some ([c], d :: rest)
    else none

def sign : List Char → Bool × List Char
  | '-' :: rest => (true, rest)
  | '+' :: rest => (false, rest)
  | text => (false, text)

def magnitude? : Reader (List Char)
  | '0' :: rest => some (['0'], rest)
  | text => digits? Text.isDigit text

def bounded? (negative : Bool) (magnitude : Nat) : Option TomlValue :=
  if negative then if magnitude ≤ Nat.pow 2 63 then some (.integer (-magnitude)) else none
  else if magnitude < Nat.pow 2 63 then some (.integer magnitude)
  else none

def radix? (radix : Nat) : Reader TomlValue := fun text => do
  let (digits, rest) ← digits? (fun c => (Text.digit? radix c).isSome) text
  let value ← bounded? false (Text.valueOf radix digits)
  return (value, rest)

def integer? : Reader TomlValue
  | '0' :: 'x' :: rest => radix? 16 rest
  | '0' :: 'o' :: rest => radix? 8 rest
  | '0' :: 'b' :: rest => radix? 2 rest
  | text => do
    let (negative, text) := sign text
    let (digits, rest) ← magnitude? text
    let value ← bounded? negative (Text.valueOf 10 digits)
    return (value, rest)

def exponent? : Reader (Option Int)
  | c :: text =>
    if c = 'e' || c = 'E' then do
      let (negative, text) := sign text
      let (digits, rest) ← digits? Text.isDigit text
      let value : Int := Text.valueOf 10 digits
      return (some (if negative then -value else value), rest)
    else some (none, c :: text)
  | [] => some (none, [])

def isFinite (digits : List Char) (power : Int) : Bool :=
  let value := Text.valueOf 10 digits
  let size : Int := (Nat.toDigits 10 value).length
  if value = 0 || size + power ≤ 308 then true
  else if 310 < size + power then false
  else
    let bound := Nat.pow 2 1024 - Nat.pow 2 970
    if power < 0 then decide (value < bound * Nat.pow 10 power.natAbs)
    else decide (value * Nat.pow 10 power.natAbs < bound)

/-- Reads a number with a point, a power of ten or both, or one of the special numbers. A number too
large for a double is refused, unless it is negative. -/
def float? : Reader TomlValue := fun text =>
  let (negative, text) := sign text
  match text with
  | 'i' :: 'n' :: 'f' :: rest => some (.float, rest)
  | 'n' :: 'a' :: 'n' :: rest => some (.float, rest)
  | text => do
    let (whole, text) ← magnitude? text
    let (fraction, text) ← match text with
      | '.' :: text => digits? Text.isDigit text
      | text => some ([], text)
    let (exponent, rest) ← exponent? text
    guard (!fraction.isEmpty || exponent.isSome)
    guard (negative || isFinite (whole ++ fraction) (exponent.getD 0 - fraction.length))
    return (.float, rest)

def pair? (low high : Nat) : Reader Nat
  | a :: b :: rest =>
    let value := Text.valueOf 10 [a, b]
    if Text.isDigit a && Text.isDigit b && low ≤ value && value ≤ high then some (value, rest)
    else none
  | _ => none

def mark? (mark : Char) : Reader Unit
  | c :: rest => if c = mark then some ((), rest) else none
  | [] => none

def daysOf (year month : Nat) : Nat :=
  if month = 2 then
    if year % 4 = 0 && (year % 100 ≠ 0 || year % 400 = 0) then 29 else 28
  else if month ∈ [4, 6, 9, 11] then 30
  else 31

def date? : Reader Unit := fun text => do
  let (century, text) ← pair? 0 99 text
  let (year, text) ← pair? 0 99 text
  let (_, text) ← mark? '-' text
  let (month, text) ← pair? 1 12 text
  let (_, text) ← mark? '-' text
  let (_, text) ← pair? 1 (daysOf (100 * century + year) month) text
  return ((), text)

def time? : Reader Unit := fun text => do
  let (_, text) ← pair? 0 23 text
  let (_, text) ← mark? ':' text
  let (_, text) ← pair? 0 59 text
  let (_, text) ← mark? ':' text
  let (_, text) ← pair? 0 60 text
  match text with
  | '.' :: c :: rest =>
    if Text.isDigit c then return ((), rest.dropWhile Text.isDigit) else return ((), text)
  | text => return ((), text)

def offset? : Reader Unit
  | 'Z' :: rest => some ((), rest)
  | 'z' :: rest => some ((), rest)
  | c :: rest =>
    if c = '+' || c = '-' then do
      let (_, rest) ← pair? 0 23 rest
      let (_, rest) ← mark? ':' rest
      let (_, rest) ← pair? 0 59 rest
      return ((), rest)
    else some ((), c :: rest)
  | [] => some ((), [])

def dateTime? : Reader TomlValue := fun text =>
  match date? text with
  | some (_, rest) =>
    match rest with
    | c :: timeText =>
      if c = 'T' || c = 't' || c = ' ' then
        match time? timeText with
        | some (_, rest) => (offset? rest).map fun (_, rest) => (.dateTime, rest)
        | none => some (.dateTime, rest)
      else some (.dateTime, rest)
    | [] => some (.dateTime, [])
  | none => (time? text).map fun (_, rest) => (.dateTime, rest)

def boolean? : Reader TomlValue
  | 't' :: 'r' :: 'u' :: 'e' :: rest => some (.boolean true, rest)
  | 'f' :: 'a' :: 'l' :: 's' :: 'e' :: rest => some (.boolean false, rest)
  | _ => none

def scalar? : Reader TomlValue := fun text =>
  match string? text with
  | some (s, rest) => some (.text (String.ofList s), rest)
  | none => boolean? text <|> dateTime? text <|> float? text <|> integer? text

end SocketWatch.Toml
