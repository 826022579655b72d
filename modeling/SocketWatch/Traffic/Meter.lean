import SocketWatch.Text.Basic
import SocketWatch.Traffic.ByteCount

namespace SocketWatch

structure Counters where
  bytesReceived : Nat := 0
  packetsReceived : Nat := 0
  bytesSent : Nat := 0
  packetsSent : Nat := 0
deriving DecidableEq, Repr

namespace Counters

def wrapped (n : Nat) : Nat := n % UInt64.size

def add (a b : Counters) : Counters where
  bytesReceived := wrapped (a.bytesReceived + b.bytesReceived)
  packetsReceived := wrapped (a.packetsReceived + b.packetsReceived)
  bytesSent := wrapped (a.bytesSent + b.bytesSent)
  packetsSent := wrapped (a.packetsSent + b.packetsSent)

/-- The counters in a line of the interface table: the name of an interface, a colon, and numbers
of which the first two are received bytes and packets, and the ninth and tenth sent ones. The
loopback interface does not count. -/
def ofLine? (line : List Char) : Option Counters := do
  let (interface, numbers) ← Text.cut? ':' line
  guard (Text.trim interface != ['l', 'o'])
  let numbers ← (Text.fields numbers).mapM (Text.numeral? UInt64.size)
  match numbers.take 2, (numbers.drop 8).take 2 with
  | [bytesReceived, packetsReceived], [bytesSent, packetsSent] =>
    return { bytesReceived, packetsReceived, bytesSent, packetsSent }
  | _, _ => none

def parse (table : String) : Counters :=
  ((Text.lines table.toList).filterMap ofLine?).foldl add {}

end Counters

structure TrafficReport where
  received : Nat := 0
  sent : Nat := 0
  receivedRate : Nat := 0
  sentRate : Nat := 0
deriving DecidableEq, Repr

structure Meter where
  base : Counters := {}
  last : Option (Counters × Nat) := none
deriving Repr

namespace Meter

def shortest : Nat := 100000000

def seconds (elapsed : Nat) : Rounding.Fraction :=
  let whole : Rounding.Fraction := { num := Rounding.toDouble (elapsed / 1000000000), den := 1 }
  let rest := Rounding.Fraction.toDouble { num := elapsed % 1000000000, den := 1000000000 }
  whole.add rest

def rate (bytes elapsed : Nat) : Nat :=
  let count : Rounding.Fraction := { num := Rounding.toDouble bytes, den := 1 }
  let rate := count.div (seconds elapsed)
  min (rate.num / rate.den) (UInt64.size - 1)

def previous (meter : Meter) (counters : Counters) (now : Nat) : Option (Counters × Nat) :=
  match meter.last with
  | some (last, time) =>
    if last.bytesReceived ≤ counters.bytesReceived ∧ last.bytesSent ≤ counters.bytesSent then
      some (last, now - time)
    else none
  | none => none

def update (meter : Meter) (counters : Counters) (now : Nat) : Meter × TrafficReport :=
  let previous := meter.previous counters now
  let base := if previous.isSome then meter.base else counters
  let report : TrafficReport :=
    { received := counters.bytesReceived - base.bytesReceived
      sent := counters.bytesSent - base.bytesSent }
  let report := match previous with
    | some (last, elapsed) =>
      if shortest < elapsed then
        { report with
          receivedRate := rate (counters.bytesReceived - last.bytesReceived) elapsed
          sentRate := rate (counters.bytesSent - last.bytesSent) elapsed }
      else report
    | none => report
  ({ base, last := some (counters, now) }, report)

end Meter

def TrafficReport.print (report : TrafficReport) : String :=
  "Received: " ++ ByteCount.print report.received ++ " +" ++ ByteCount.print report.receivedRate ++
    "/s | Sent: " ++ ByteCount.print report.sent ++ " +" ++ ByteCount.print report.sentRate ++ "/s"

end SocketWatch
