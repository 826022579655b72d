import SocketWatch.Connection.Basic
import SocketWatch.Address.Basic
import SocketWatch.Text.Basic

namespace SocketWatch.KernelTable

def octet (high low : Char) : UInt8 := (Text.valueOf 16 [high, low]).toUInt8

/-- The octets of an address. The kernel writes it in words of eight digits, and the octets of each
word from the last to the first. -/
def octets : List Char → List UInt8
  | a :: b :: c :: d :: e :: f :: g :: h :: rest =>
    octet g h :: octet e f :: octet c d :: octet a b :: octets rest
  | _ => []

def groups : List UInt8 → List UInt16
  | high :: low :: rest => Address.V6.join high low :: groups rest
  | _ => []

def addressText (digits : List Char) : List Char :=
  if digits.all (· == '0') then ['*']
  else
    match octets digits with
    | [a, b, c, d] => Address.V4.print ⟨a, b, c, d⟩
    | octets => (Address.V6.ofGroups (groups octets)).print

def endpoint? (field : List Char) : Option Endpoint :=
  match Text.cut? ':' field with
  | some (address, port) =>
    if (address.length = 8 || address.length = 32) && address.all Text.isHexDigit &&
        port.length = 4 && port.all Text.isHexDigit then
      some
        { address := String.ofList (addressText address)
          port := (Text.valueOf 16 port).toUInt16 }
    else none
  | none => none

def state? (field : List Char) : Option SocketState :=
  if field.length = 2 && field.all Text.isHexDigit then
    some (.ofKernel (Text.valueOf 16 field))
  else none

def isLineNumber (field : List Char) : Bool :=
  match Text.cut? ':' field with
  | some (digits, rest) => !digits.isEmpty && digits.all Text.isDecimalDigit && rest.isEmpty
  | none => false

/-- The inode that a field starts with. The run of digits may be of any script, but only ASCII
digits make a number. -/
def inode? (field : List Char) : Option UInt64 :=
  (Text.numeral? UInt64.size (field.takeWhile Text.isDecimalDigit)).map Nat.toUInt64

def connection? (protocol : Protocol) (line : List Char) : Option Connection :=
  match Text.fields line with
  | number :: own :: peer :: state :: _ :: _ :: _ :: user :: timeout :: inode :: _ => do
    guard (isLineNumber number && user.all Text.isDecimalDigit && timeout.all Text.isDecimalDigit)
    let own ← endpoint? own
    let peer ← endpoint? peer
    let state ← state? state
    let inode ← inode? inode
    return { protocol, own, peer, state, inode }
  | _ => none

def parse (protocol : Protocol) (table : String) : List Connection :=
  ((Text.lines table.toList).drop 1).filterMap (connection? protocol)

def snapshot (table : Protocol → FileContent) : Except Protocol (List Connection) := do
  let tables ← Protocol.all.mapM fun protocol =>
    match (table protocol).text with
    | .ok content => .ok (parse protocol content)
    | .error .missing => .ok []
    | .error .unreadable => .error protocol
  return tables.flatten

end SocketWatch.KernelTable
