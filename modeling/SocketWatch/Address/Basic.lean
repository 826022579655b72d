import SocketWatch.Text.Basic

namespace SocketWatch.Address

structure V4 where
  a : UInt8
  b : UInt8
  c : UInt8
  d : UInt8
deriving DecidableEq, Repr

namespace V4

def octets (v : V4) : List UInt8 := [v.a, v.b, v.c, v.d]

def value (v : V4) : Nat := v.octets.foldl (fun n octet => n * 256 + octet.toNat) 0

def print (v : V4) : List Char :=
  ['.'].intercalate (v.octets.map fun octet => Nat.toDigits 10 octet.toNat)

def octet? (text : List Char) : Option (UInt8 × List Char) :=
  let digits := text.takeWhile Text.isDigit
  let value := Text.valueOf 10 digits
  if digits.isEmpty || 3 < digits.length || 255 < value ||
      (1 < digits.length && digits.head? = some '0') then
    none
  else some (value.toUInt8, text.dropWhile Text.isDigit)

def dotted? : List Char → Option (UInt8 × List Char)
  | '.' :: text => octet? text
  | _ => none

def read? (text : List Char) : Option (V4 × List Char) := do
  let (a, text) ← octet? text
  let (b, text) ← dotted? text
  let (c, text) ← dotted? text
  let (d, text) ← dotted? text
  return (⟨a, b, c, d⟩, text)

def parse? (text : List Char) : Option V4 :=
  match read? text with
  | some (v, []) => some v
  | _ => none

end V4

structure V6 where
  groups : List UInt16
  length_groups : groups.length = 8 := by rfl
deriving DecidableEq, Repr

namespace V6

def value (v : V6) : Nat := v.groups.foldl (fun n group => n * 65536 + group.toNat) 0

def ofGroups (groups : List UInt16) : V6 where
  groups := groups.take 8 ++ List.replicate (8 - groups.length) 0
  length_groups := by simp; omega

def halves (group : UInt16) : UInt8 × UInt8 := ((group >>> 8).toUInt8, group.toUInt8)

def join (high low : UInt8) : UInt16 := high.toUInt16 <<< 8 ||| low.toUInt16

def longestZeros : List UInt16 → Nat × Nat
  | [] => (0, 0)
  | group :: rest =>
    let here := ((group :: rest).takeWhile (· == 0)).length
    let (start, length) := longestZeros rest
    if length ≤ here then (0, here) else (start + 1, length)

def printGroups (groups : List UInt16) : List Char :=
  [':'].intercalate (groups.map fun group => Text.hexText group.toNat)

def print (v : V6) : List Char :=
  match v.groups with
  | [0, 0, 0, 0, 0, 0xFFFF, g, h] =>
    let (a, b) := halves g
    let (c, d) := halves h
    "::ffff:".toList ++ V4.print ⟨a, b, c, d⟩
  | groups =>
    let (start, length) := longestZeros groups
    if 1 < length then
      printGroups (groups.take start) ++ "::".toList ++ printGroups (groups.drop (start + length))
    else printGroups groups

def group? (text : List Char) : Option (UInt16 × List Char) :=
  let digits := text.takeWhile Text.isHexDigit
  if digits.isEmpty || 4 < digits.length then none
  else some ((Text.valueOf 16 digits).toUInt16, text.dropWhile Text.isHexDigit)

structure Groups where
  groups : List UInt16 := []
  dotted : Bool := false
  rest : List Char

/-- Reads up to `limit` groups with colons between them; where `first` is not set, a colon stands in
front of the first of them too. Dotted notation takes the room of two groups and ends them. -/
def readGroups (first : Bool) (text : List Char) : (limit : Nat) → Groups
  | 0 => { rest := text }
  | limit + 1 =>
    let start? := if first then some text else match text with
      | ':' :: text => some text
      | _ => none
    match start? with
    | none => { rest := text }
    | some start =>
      match if 1 ≤ limit then V4.read? start else none with
      | some (v, rest) => { groups := [join v.a v.b, join v.c v.d], dotted := true, rest }
      | none =>
        match group? start with
        | none => { rest := text }
        | some (group, rest) =>
          let more := readGroups false rest limit
          { more with groups := group :: more.groups }

def parse? (text : List Char) : Option V6 :=
  let front := readGroups true text 8
  if front.groups.length = 8 then
    if front.rest.isEmpty then some (ofGroups front.groups) else none
  else if front.dotted then none
  else
    match front.rest with
    | ':' :: ':' :: text =>
      let back := readGroups true text (7 - front.groups.length)
      if back.rest.isEmpty then
        let zeros := 8 - front.groups.length - back.groups.length
        some (ofGroups (front.groups ++ List.replicate zeros 0 ++ back.groups))
      else none
    | _ => none

end V6

end SocketWatch.Address
