namespace SocketWatch

inductive OutputFormat where
  | text
  | json
deriving DecidableEq, Repr

namespace OutputFormat

def name : OutputFormat → String
  | .text => "text"
  | .json => "json"

def ofName? (name : String) : Option OutputFormat :=
  [text, json].find? fun format => format.name == name

end OutputFormat

inductive SnapshotSource where
  | kernel
  | file (path : String)
deriving DecidableEq, Repr

namespace SnapshotSource

def mark : List Char := "json:".toList

def parse? (text : String) : Option SnapshotSource :=
  if text = "proc" then some kernel
  else
    let path := text.toList.drop mark.length
    if mark.isPrefixOf text.toList && !path.isEmpty then some (file (String.ofList path)) else none

def refusal (text : String) : String :=
  "invalid source '" ++ text ++ "': expected \"proc\" or \"json:<path>\""

end SnapshotSource

inductive LogLevel where
  | error
  | warn
  | info
  | debug
  | trace
deriving DecidableEq, Repr

def LogLevel.ofVerbosity (verbose : Nat) (quiet : Bool) : LogLevel :=
  if quiet then .error
  else
    match verbose with
    | 0 => .warn
    | 1 => .info
    | 2 => .debug
    | _ => .trace

inductive Command where
  | watch (source : SnapshotSource) (cycles interval : Option Nat) (establishedOnly : Bool)
  | list (source : SnapshotSource) (establishedOnly : Bool)
  | reconcile (before after : String)
  | filter (file : Option String)
  | printFilter (mask : Bool)
deriving DecidableEq, Repr

structure Options where
  command : Command
  config : Option String := none
  filter : Option String := none
  ignoreCase : Bool := false
  operators : Bool := false
  format : OutputFormat := .text
  noColour : Bool := false
  logLevel : LogLevel := .warn
deriving DecidableEq, Repr

end SocketWatch
