import SocketWatch.Tracking.Visible
import SocketWatch.Tracking.Cycle

namespace SocketWatch

inductive Colour where
  | red
  | green
  | yellow
deriving DecidableEq, Repr

namespace Colour

def code : Colour → String
  | .red => "31"
  | .green => "32"
  | .yellow => "33"

def paint (colours : Bool) (colour : Colour) (bold : Bool) (text : String) : String :=
  if colours then
    "\x1b[" ++ (if bold then "1;" else "") ++ colour.code ++ "m" ++ text ++ "\x1b[0m"
  else text

end Colour

def Change.marker (colours : Bool) : Change → String
  | .insert => Colour.green.paint colours true "+"
  | .update => Colour.yellow.paint colours true "~"
  | .delete => Colour.red.paint colours true "-"
  | .none => " "

def Endpoint.print (e : Endpoint) : String :=
  if e.address.contains ':' then "[" ++ e.address ++ "]:" ++ portText e.port
  else e.address ++ ":" ++ portText e.port

def padEnd (width : Nat) (text : String) : String :=
  text ++ String.ofList (List.replicate (width - text.length) ' ')

def Row.print (colours : Bool) (row : Row) : String :=
  let c := row.connection
  let state := if c.stateName = "" then "" else " " ++ c.stateName
  let program := c.program.name.elim "" fun name => " " ++ name
  row.change.marker colours ++ " " ++ padEnd 4 c.protocol.name ++ " " ++ c.own.print ++ " -> " ++
    c.peer.print ++ state ++ program

def Summary.print (colours : Bool) (summary : Summary) (live established : Nat) : String :=
  let count (colour : Colour) (n : Nat) := colour.paint colours false (toString n)
  count .green summary.inserted ++ " inserted, " ++ count .yellow summary.updated ++ " updated, " ++
    count .red summary.deleted ++ " closed | " ++ toString live ++ " connections, " ++
    toString established ++ " established"

end SocketWatch
