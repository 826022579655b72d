import SocketWatch.Address.Basic
import SocketWatch.Connection.Basic

namespace SocketWatch

namespace Address

def v4Value (text : String) : Nat := (V4.parse? text.toList).elim 0 V4.value

def v6Value (text : String) : Nat := (V6.parse? text.toList).elim 0 V6.value

/-- Orders addresses by number, and those of version 4 before those of version 6; a colon tells the
versions apart. Where one of the texts is `*` or no longer than that, they are compared as text. -/
def compare (a b : String) : Ordering :=
  if a.utf8ByteSize ≤ 1 || b.utf8ByteSize ≤ 1 then Ord.compare a b
  else
    match a.contains ':', b.contains ':' with
    | false, false => Ord.compare (v4Value a) (v4Value b)
    | true, true => Ord.compare (v6Value a) (v6Value b)
    | false, true => .lt
    | true, false => .gt

end Address

namespace Host

def labels (name : String) : List (List Char) := (name.toList.splitOn '.').reverse

def compare (a b : String) : Ordering := Ord.compare (labels a) (labels b)

end Host

def Connection.compare (a b : Connection) : Ordering :=
  (Ord.compare a.protocol.name b.protocol.name)
    |>.then (Address.compare a.own.address b.own.address)
    |>.then (Ord.compare a.own.port b.own.port)
    |>.then (Host.compare (a.peer.host.getD "") (b.peer.host.getD ""))
    |>.then (Address.compare a.peer.address b.peer.address)
    |>.then (Ord.compare a.peer.port b.peer.port)

def insertBehind {α : Type} (compare : α → α → Ordering) (a : α) : List α → List α
  | [] => [a]
  | b :: rest => if compare a b = .lt then b :: insertBehind compare a rest else a :: b :: rest

/-- Sorts a list and keeps the order of equals. A short list is sorted by insertion. -/
def sortStable {α : Type} (compare : α → α → Ordering) (l : List α) : List α :=
  if l.length ≤ 20 then (l.foldl (fun sorted a => insertBehind compare a sorted) []).reverse
  else l.mergeSort fun a b => compare a b != .gt

end SocketWatch
