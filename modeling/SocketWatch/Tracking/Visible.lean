import SocketWatch.Connection.Basic
import SocketWatch.Filter.Live

namespace SocketWatch

def portText (port : UInt16) : String :=
  if port = 0 then "*" else toString port.toNat

def fullPortText (port : UInt16) (service : Option String) : String :=
  match service with
  | some name => if port = 0 then portText port else portText port ++ " " ++ name
  | none => portText port

inductive Column where
  | protocol
  | ownHost
  | ownAddress
  | ownPort
  | state
  | peerAddress
  | peerPort
  | peerHost
  | pid
  | programName
  | programCommand
deriving DecidableEq, Repr

namespace Column

def all : List Column :=
  [.protocol, .ownHost, .ownAddress, .ownPort, .state, .peerAddress, .peerPort, .peerHost, .pid,
    .programName, .programCommand]

def standard : List Column :=
  [.protocol, .ownAddress, .ownPort, .state, .peerAddress, .peerPort, .programName]

def title : Column → String
  | .protocol => "Protocol"
  | .ownHost => "Local Host"
  | .ownAddress => "Local Address"
  | .ownPort => "Local Port"
  | .state => "State"
  | .peerAddress => "Remote Address"
  | .peerPort => "Remote Port"
  | .peerHost => "Remote Host"
  | .pid => "Pid"
  | .programName => "Program"
  | .programCommand => "Command"

end Column

namespace Connection

def columnText (c : Connection) : Column → String
  | .protocol => c.protocol.name
  | .ownHost => c.own.host.getD ""
  | .ownAddress => c.own.address
  | .ownPort => fullPortText c.own.port c.own.service
  | .state => c.stateName
  | .peerAddress => c.peer.address
  | .peerPort => fullPortText c.peer.port c.peer.service
  | .peerHost => c.peer.host.getD ""
  | .pid => if c.program.pid = 0 then "" else toString c.program.pid.toNat
  | .programName => c.program.name.getD ""
  | .programCommand => c.program.command.getD ""

/-- The blanks around each column of a row, so that a literal with a blank on both sides finds whole
words of one column only. -/
def padding : String := "   "

def filterText (c : Connection) (columns : List Column) : String :=
  columns.foldl (fun row column => row ++ c.columnText column ++ padding) padding

theorem toList_filterText (c : Connection) (columns : List Column) :
    (c.filterText columns).toList =
      padding.toList ++ columns.flatMap fun column => (c.columnText column ++ padding).toList := by
  have hrow : ∀ row : String,
      (columns.foldl (fun row column => row ++ c.columnText column ++ padding) row).toList =
        row.toList ++ columns.flatMap fun column => (c.columnText column ++ padding).toList := by
    induction columns with
    | nil => simp
    | cons column columns ih =>
      intro row
      simp [ih]
  exact hrow padding

end Connection

def Connection.isVisible (c : Connection) (showUnestablished : Bool) (filter : LiveFilter)
    (columns : List Column) : Bool :=
  (showUnestablished || c.isEstablished) && filter.passes (c.filterText columns)

end SocketWatch
