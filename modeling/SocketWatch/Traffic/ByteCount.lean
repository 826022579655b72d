namespace SocketWatch.Rounding

def quotient (num den : Nat) : Nat :=
  let floor := num / den
  let rest := num % den
  if 2 * rest < den then floor
  else if den < 2 * rest then floor + 1
  else if floor % 2 = 0 then floor else floor + 1

def toDouble (n : Nat) : Nat :=
  if n < Nat.pow 2 53 then n
  else
    let unit := Nat.pow 2 (n.log2 - 52)
    quotient n unit * unit

structure Fraction where
  num : Nat
  den : Nat

/-- The fraction rounded to a double, within the range where doubles have 53 digits. The numerator
is scaled until the quotient has more digits than a double; whether the division leaves a rest
becomes one more digit, so that the second rounding sees on which side of a half it is. -/
def Fraction.toDouble (q : Fraction) : Fraction :=
  let scale := Nat.pow 2 (55 + q.den.log2)
  let scaled := q.num * scale
  let sticky := if scaled % q.den = 0 then 0 else 1
  { num := Rounding.toDouble (2 * (scaled / q.den) + sticky), den := 2 * scale }

def Fraction.add (p q : Fraction) : Fraction :=
  Fraction.toDouble { num := p.num * q.den + q.num * p.den, den := p.den * q.den }

def Fraction.div (p q : Fraction) : Fraction :=
  Fraction.toDouble { num := p.num * q.den, den := p.den * q.num }

end SocketWatch.Rounding

namespace SocketWatch

namespace ByteCount

structure Scaled where
  tenths : Nat
  unit : Nat
deriving DecidableEq, Repr

def units : List String := ["KiB", "MiB", "GiB", "TiB", "PiB"]

def power (value : Nat) : Nat :=
  if value < Nat.pow 1024 2 then 1
  else if value < Nat.pow 1024 3 then 2
  else if value < Nat.pow 1024 4 then 3
  else if value < Nat.pow 1024 5 then 4
  else 5

def scale (bytes : Nat) : Scaled :=
  let value := Rounding.toDouble bytes
  let unit := power value
  { tenths := Rounding.quotient (10 * value) (Nat.pow 1024 unit), unit }

def print (bytes : Nat) : String :=
  if bytes < 1024 then s!"{bytes} B"
  else
    let scaled := scale bytes
    let unit := units.getD (scaled.unit - 1) ""
    toString (scaled.tenths / 10) ++ "." ++ toString (scaled.tenths % 10) ++ " " ++ unit

end ByteCount

end SocketWatch
