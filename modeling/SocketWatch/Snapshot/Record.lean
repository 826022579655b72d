import SocketWatch.Connection.Basic
import SocketWatch.Tracking.Cycle
import SocketWatch.Json.Reader
import SocketWatch.Json.Basic
import SocketWatch.Text.Basic

namespace SocketWatch

structure RecordField where
  name : String
  encode : Connection → JsonValue
  decode? : JsonValue → Connection → Option Connection

namespace JsonValue

def text? : JsonValue → Option String
  | .string (.text value) => some value
  | _ => none

def optionalText? : JsonValue → Option (Option String)
  | .null => some none
  | value => value.text?.map some

def natBelow? (bound : Nat) : JsonValue → Option Nat
  | .number written =>
    if written.all Text.isDigit && Text.valueOf 10 written < bound then
      some (Text.valueOf 10 written)
    else none
  | _ => none

def choice? {α : Type} (all : List α) (name : α → String) : JsonValue → Option α
  | .string (.text value) => all.find? fun a => name a == value
  | .object [(.text value, .null)] => all.find? fun a => name a == value
  | _ => none

end JsonValue

namespace RecordField

def text (name : String) (get : Connection → String)
    (set : Connection → String → Connection) : RecordField where
  name := name
  encode c := .ofText (get c)
  decode? value c := value.text?.map (set c)

def optionalText (name : String) (get : Connection → Option String)
    (set : Connection → Option String → Connection) : RecordField where
  name := name
  encode c := .ofText? (get c)
  decode? value c := value.optionalText?.map (set c)

def nat (name : String) (bound : Nat) (get : Connection → Nat)
    (set : Connection → Nat → Connection) : RecordField where
  name := name
  encode c := .ofNat (get c)
  decode? value c := (value.natBelow? bound).map (set c)

def all : List RecordField := [
  { name := "protocol"
    encode := fun c => .ofText c.protocol.name
    decode? := fun value c => (value.choice? Protocol.all Protocol.name).map fun protocol =>
      { c with protocol } },
  text "local_address" (·.own.address) fun c address => { c with own.address := address },
  nat "local_port" UInt16.size (·.own.port.toNat) fun c port =>
    { c with own.port := port.toUInt16 },
  text "remote_address" (·.peer.address) fun c address => { c with peer.address := address },
  nat "remote_port" UInt16.size (·.peer.port.toNat) fun c port =>
    { c with peer.port := port.toUInt16 },
  { name := "state"
    encode := fun c => .ofText c.state.tag
    decode? := fun value c => (value.choice? SocketState.all SocketState.tag).map fun state =>
      { c with state } },
  nat "pid" UInt32.size (·.pid.toNat) fun c pid => { c with pid := pid.toUInt32 },
  nat "program_pid" UInt32.size (·.program.pid.toNat) fun c pid =>
    { c with program.pid := pid.toUInt32 },
  optionalText "program_name" (·.program.name) fun c name => { c with program.name := name },
  optionalText "program_command" (·.program.command) fun c command =>
    { c with program.command := command },
  optionalText "local_host" (·.own.host) fun c host => { c with own.host := host },
  optionalText "remote_host" (·.peer.host) fun c host => { c with peer.host := host },
  optionalText "local_service" (·.own.service) fun c service => { c with own.service := service },
  optionalText "remote_service" (·.peer.service) fun c service =>
    { c with peer.service := service },
  nat "inode" UInt64.size (·.inode.toNat) fun c inode => { c with inode := inode.toUInt64 }]

def ofName? (name : JsonString) : Option RecordField :=
  all.find? fun field => name = .text field.name

end RecordField

namespace Connection

def decodeNamed? (c : Connection) : JsonString × JsonValue → Option Connection
  | (.unpaired _, _) => none
  | (name, value) =>
    match RecordField.ofName? name with
    | some field => field.decode? value c
    | none => some c

/-- The socket of a record. No field of a record may be given twice, and what is left out is as for
a socket of which nothing is known. -/
def ofJson? : JsonValue → Option Connection
  | .object fields =>
    let known := (fields.map Prod.fst).filter fun name => (RecordField.ofName? name).isSome
    if known.eraseDups.length = known.length then
      fields.foldlM decodeNamed? {}
    else none
  | .array values =>
    if values.length ≤ RecordField.all.length then
      (RecordField.all.zip values).foldlM (fun c (field, value) => field.decode? value c) {}
    else none
  | _ => none

def toJsonFields (c : Connection) : List (String × JsonValue) :=
  RecordField.all.map fun field => (field.name, field.encode c)

end Connection

def printRows (rows : List Row) : String :=
  JsonValue.document <| .array <| rows.map fun row =>
    .ofFields (row.connection.toJsonFields ++ [("operation", .ofText row.change.name)])

inductive SnapshotError where
  | unreadable
  | malformed
deriving DecidableEq, Repr

def readSnapshot (document : String) : Except SnapshotError (List Connection) :=
  match JsonValue.parse? document.toList with
  | some (.array records) =>
    match records.mapM Connection.ofJson? with
    | some connections => .ok connections
    | none => .error .malformed
  | _ => .error .malformed

def readSnapshotFile (file : FileContent) : Except SnapshotError (List Connection) :=
  match file.text with
  | .ok document => readSnapshot document
  | .error _ => .error .unreadable

end SocketWatch
