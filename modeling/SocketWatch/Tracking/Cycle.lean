import SocketWatch.Connection.Basic

/-!
One cycle of reconciliation: a full snapshot is folded into the tracked rows. Records are paired
with rows in two passes, first by equal inodes and then where an inode is unknown; in both, records
choose in the order of the snapshot and take the first row in tracked order that is still free.
-/

namespace SocketWatch

inductive Change where
  | none
  | insert
  | update
  | delete
deriving DecidableEq, Repr, Inhabited

namespace Change

def name : Change → String
  | .none => "none"
  | .insert => "insert"
  | .update => "update"
  | .delete => "delete"

def all : List Change := [.none, .insert, .update, .delete]

end Change

/-- On some clock, in the unit of the linger time. A clock that has gone back makes no time pass. -/
abbrev Moment := Nat

structure Row where
  connection : Connection
  change : Change := .none
  closedAt : Option Moment := none
deriving DecidableEq, Repr, Inhabited

def Row.isLive (row : Row) : Bool := row.change != .delete

inductive Slot where
  | past (row : Row)
  | free (row : Row)
  | paired (row : Row) (seen : Connection)
deriving DecidableEq, Repr

namespace Slot

def ofRow (row : Row) : Slot := if row.isLive then .free row else .past row

def row : Slot → Row
  | .past row | .free row | .paired row _ => row

def claim (agrees : Connection → Connection → Bool) (seen : Connection) :
    List Slot → Option (List Slot)
  | [] => none
  | .free row :: rest =>
    if agrees row.connection seen then some (.paired row seen :: rest)
    else (claim agrees seen rest).map (.free row :: ·)
  | slot :: rest => (claim agrees seen rest).map (slot :: ·)

def pair (agrees : Connection → Connection → Bool) :
    List Connection → List Slot → List Slot × List Connection
  | [], slots => (slots, [])
  | seen :: records, slots =>
    match claim agrees seen slots with
    | some slots => pair agrees records slots
    | none =>
      let (slots, unpaired) := pair agrees records slots
      (slots, seen :: unpaired)

def unchanged (row : Row) (seen : Connection) : Bool :=
  row.connection.sameInfo seen && row.connection.inode == seen.inode

def settle : Slot → Row
  | .past row => row
  | .free row => { row with change := .delete }
  | .paired row seen =>
    if unchanged row seen then { row with change := .none }
    else { row with connection := row.connection.merge seen, change := .update }

def isFree : Slot → Bool
  | .free _ => true
  | _ => false

def isUnchanged : Slot → Bool
  | .paired row seen => unchanged row seen
  | _ => false

def isUpdated : Slot → Bool
  | .paired row seen => !unchanged row seen
  | _ => false

end Slot

structure Summary where
  inserted : Nat := 0
  updated : Nat := 0
  unchanged : Nat := 0
  deleted : Nat := 0
deriving DecidableEq, Repr

structure Cycle where
  kept : List Row
  added : List Row
  summary : Summary
deriving DecidableEq, Repr

def Cycle.rows (cycle : Cycle) : List Row := cycle.kept ++ cycle.added

def pairing (tracked : List Row) (latest : List Connection) : List Slot × List Connection :=
  let (slots, unpaired) := Slot.pair Connection.same latest (tracked.map Slot.ofRow)
  Slot.pair Connection.maybeSame unpaired slots

def reconcile (tracked : List Row) (latest : List Connection) : Cycle :=
  let (slots, unpaired) := pairing tracked latest
  { kept := slots.map Slot.settle
    added := unpaired.map fun seen => { connection := seen, change := .insert }
    summary :=
      { inserted := unpaired.length
        updated := slots.countP Slot.isUpdated
        unchanged := slots.countP Slot.isUnchanged
        deleted := slots.countP Slot.isFree } }

end SocketWatch
