/-!
Sockets as one poll of the system shows them. Nothing identifies a socket for good: two
observations belong together when their protocol and both of their ends agree, and their inodes do
not tell them apart.
-/

namespace SocketWatch

inductive Protocol where
  | tcp
  | udp
  | tcp6
  | udp6
deriving DecidableEq, Repr, Inhabited

namespace Protocol

def name : Protocol → String
  | .tcp => "tcp"
  | .udp => "udp"
  | .tcp6 => "tcp6"
  | .udp6 => "udp6"

def serviceName : Protocol → String
  | .tcp | .tcp6 => "tcp"
  | .udp | .udp6 => "udp"

def isTcp : Protocol → Bool
  | .tcp | .tcp6 => true
  | .udp | .udp6 => false

def all : List Protocol := [.tcp, .tcp6, .udp, .udp6]

end Protocol

inductive SocketState where
  | empty
  | established
  | synSent
  | synRecv
  | finWait1
  | finWait2
  | timeWait
  | close
  | closeWait
  | lastAck
  | listen
  | closing
  | closed
deriving DecidableEq, Repr, Inhabited

namespace SocketState

def ofKernel : Nat → SocketState
  | 1 => .established
  | 2 => .synSent
  | 3 => .synRecv
  | 4 => .finWait1
  | 5 => .finWait2
  | 6 => .timeWait
  | 7 => .close
  | 8 => .closeWait
  | 9 => .lastAck
  | 10 => .listen
  | 11 => .closing
  | _ => .empty

def name : SocketState → String
  | .empty => ""
  | .established => "ESTABLISHED"
  | .synSent => "SYN_SENT"
  | .synRecv => "SYN_RECV"
  | .finWait1 => "FIN_WAIT1"
  | .finWait2 => "FIN_WAIT2"
  | .timeWait => "TIME_WAIT"
  | .close => "CLOSE"
  | .closeWait => "CLOSE_WAIT"
  | .lastAck => "LAST_ACK"
  | .listen => "LISTEN"
  | .closing => "CLOSING"
  | .closed => "CLOSED"

def tag : SocketState → String
  | .empty => "EMPTY"
  | state => state.name

def all : List SocketState :=
  [.empty, .established, .synSent, .synRecv, .finWait1, .finWait2, .timeWait, .close, .closeWait,
    .lastAck, .listen, .closing, .closed]

end SocketState

structure Endpoint where
  address : String := ""
  port : UInt16 := 0
  host : Option String := none
  service : Option String := none
deriving DecidableEq, Repr, Inhabited

structure Program where
  /-- The last process known to own the socket; zero while none is. -/
  pid : UInt32 := 0
  name : Option String := none
  command : Option String := none
deriving DecidableEq, Repr, Inhabited

structure Connection where
  protocol : Protocol := .tcp
  own : Endpoint := {}
  peer : Endpoint := {}
  state : SocketState := .empty
  pid : UInt32 := 0
  program : Program := {}
  inode : UInt64 := 0
deriving DecidableEq, Repr, Inhabited

structure SocketKey where
  protocol : Protocol
  ownAddress : String
  ownPort : UInt16
  peerAddress : String
  peerPort : UInt16
deriving DecidableEq, Repr

namespace Connection

def key (c : Connection) : SocketKey where
  protocol := c.protocol
  ownAddress := c.own.address
  ownPort := c.own.port
  peerAddress := c.peer.address
  peerPort := c.peer.port

def same (a b : Connection) : Bool := a.inode == b.inode && a.key == b.key

def maybeSame (a b : Connection) : Bool :=
  (a.inode == b.inode || a.inode == 0 || b.inode == 0) && a.key == b.key

def sameInfo (a b : Connection) : Bool := a.state == b.state && a.pid == b.pid

/-- Takes over what a newer observation of the socket says. Host names, once known, stay; what the
newer observation does not know about the program stays too. -/
def merge (old newer : Connection) : Connection :=
  { old with
    own.host := old.own.host.or newer.own.host
    peer.host := old.peer.host.or newer.peer.host
    state := newer.state
    pid := newer.pid
    program :=
      { pid := if newer.program.pid = 0 then old.program.pid else newer.program.pid
        name := newer.program.name.or old.program.name
        command := newer.program.command.or old.program.command }
    inode := newer.inode }

def withProgram (c : Connection) (pid : UInt32) (name command : Option String) : Connection :=
  { c with pid, program := { pid, name, command } }

def isEstablished (c : Connection) : Bool := c.state == .established

def stateName (c : Connection) : String :=
  if c.protocol.isTcp then c.state.name
  else
    match c.state with
    | .established | .closed => c.state.name
    | _ => ""

end Connection

end SocketWatch
