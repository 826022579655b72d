import SocketWatch.Text.Width.Emoji
import SocketWatch.Text.Width.Ligature

namespace SocketWatch.Text

inductive Opening
  | plain
  | alef
  | ligature (part : LigaturePart) (afterJoiner : Bool)
  | vowelE
  | vowelAi
  | picture
  | skinTone
  | region
  | regions
  | joined
  | joinedKeycap
  | joinedRegion
  | joinedRegions (even : Bool)
  | joinedTagLetters (count : Nat)
  | joinedTagDigits (count : Nat)

namespace Opening

def ofChar (c : Char) : Opening :=
  if isAlef c then .alef
  else if c.toNat = 0x16D67 then .vowelE
  else if c.toNat = 0x16D68 then .vowelAi
  else if isRegionLetter c then .region
  else if isSkinTone c then .skinTone
  else if isPicture c then .picture
  else match LigaturePart.ofChar? c with
    | some part => .ligature part false
    | none => .plain

def endsLigature : Opening → Bool
  | .alef | .ligature .. => true
  | _ => false

def joinsPicture : Opening → Bool
  | .joined | .joinedKeycap => true
  | _ => false

def growVowel? (c : Char) (ai : Bool) : Option (Int × Opening) :=
  if c.toNat = 0x16D63 then some (0, .plain)
  else if ai then none
  else if c.toNat = 0x16D67 then some (0, .vowelAi)
  else if c.toNat = 0x16D68 then some (1, .vowelE)
  else if c.toNat = 0x16D69 then some (0, .plain)
  else none

def growJoined? (c : Char) : Option (Int × Opening) :=
  if c = '\u20E3' then some (0, .joinedKeycap)
  else if isRegionLetter c then some (1, .joinedRegion)
  else if isSkinTone c then some (0, .skinTone)
  else if isTagEnd c then some (0, .joinedTagLetters 0)
  else if isPicture c then some (0, .picture)
  else none

def growTags? (c : Char) (letters digits : Nat) : Option (Int × Opening) :=
  if isTagLetter c && digits = 0 && letters < 6 then some (0, .joinedTagLetters (letters + 1))
  else if isTagDigit c && digits < 3 && letters ≤ 4 then some (0, .joinedTagDigits (digits + 1))
  else if isTaggedFlag c && (digits = 3 || digits = 0 && 3 ≤ letters) then some (0, .picture)
  else none

/-- What a character before an opening adds to the columns, with the opening of both, where they are
seen as one. A run of letters that make flags takes a column for each. Where a joiner and a picture
follow, the last flag of an even run is seen as one with them, and an odd run stands apart. -/
def grow? (c : Char) : Opening → Option (Int × Opening)
  | .plain | .joinedKeycap => none
  | .alef =>
    if isTransparent c then some (0, .alef) else if isLam c then some (0, .plain) else none
  | .ligature part afterJoiner =>
    if c = joiner then some (0, .ligature part true)
    else if isUnseenMark c then some (0, .ligature part afterJoiner)
    else (part.grow? afterJoiner c).map fun (step, part?) =>
      (step, part?.elim .plain fun part => .ligature part false)
  | .vowelE => growVowel? c false
  | .vowelAi => growVowel? c true
  | .picture => if c = joiner then some (0, .joined) else none
  | .skinTone =>
    if c = joiner then some (0, .joined)
    else if takesSkinTone c then some (0, .picture)
    else none
  | .region => if isRegionLetter c then some (1, .regions) else none
  | .regions =>
    if c = joiner then some (0, .joined)
    else if isRegionLetter c then some (1, .regions)
    else none
  | .joined => growJoined? c
  | .joinedRegion => if isRegionLetter c then some (-1, .joinedRegions true) else none
  | .joinedRegions even =>
    if c = joiner then some (0, .joined)
    else if isRegionLetter c then some (if even then 3 else -1, .joinedRegions !even)
    else none
  | .joinedTagLetters count => growTags? c count 0
  | .joinedTagDigits count => growTags? c 0 count

end Opening

end SocketWatch.Text
