import SocketWatch.Connection.Basic
import SocketWatch.Text.Basic

namespace SocketWatch

structure ServiceEntry where
  port : Nat
  protocol : List Char
  name : List Char
deriving DecidableEq, Repr

namespace ServiceEntry

def key (entry : ServiceEntry) : Nat × List Char := (entry.port, entry.protocol)

def ofLine? (line : List Char) : Option ServiceEntry :=
  match Text.fields (line.takeWhile (· != '#')) with
  | name :: target :: _ => do
    let (port, protocol) ← Text.cut? '/' target
    let port ← Text.numeral? UInt16.size port
    return { port, protocol, name }
  | _ => none

end ServiceEntry

structure ServiceTable where
  entries : List ServiceEntry := []
deriving Repr

namespace ServiceTable

def parse (text : String) : ServiceTable where
  entries := ((Text.lines text.toList).filterMap ServiceEntry.ofLine?).reverse

def ofFile (file : FileContent) : ServiceTable :=
  match file.text with
  | .ok text => parse text
  | .error _ => {}

def size (table : ServiceTable) : Nat := (table.entries.map ServiceEntry.key).eraseDups.length

def lookup (table : ServiceTable) (protocol : Protocol) (port : UInt16) : Option String :=
  if port = 0 then none
  else
    (table.entries.find? fun entry => entry.key == (port.toNat, protocol.serviceName.toList)).map
      fun entry => String.ofList entry.name

def annotate (table : ServiceTable) (c : Connection) : Connection :=
  { c with
    own.service := table.lookup c.protocol c.own.port
    peer.service := table.lookup c.protocol c.peer.port }

end ServiceTable

end SocketWatch
