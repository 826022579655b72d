/-!
JSON values. Numbers are kept as they are written, and objects keep all of their fields in order, so
what a reader of a document has to judge is still there.
-/

namespace SocketWatch

/-- A string of a document. Escapes may name half of a surrogate pair on its own; such a string
stands for no text and is kept as it is written between its quotes. -/
inductive JsonString where
  | text (value : String)
  | unpaired (written : List Char)
deriving DecidableEq, Repr

inductive JsonValue where
  | null
  | bool (value : Bool)
  | number (written : List Char)
  | string (value : JsonString)
  | array (items : List JsonValue)
  | object (fields : List (JsonString × JsonValue))
deriving Repr

namespace JsonValue

def ofText (text : String) : JsonValue := .string (.text text)

def ofNat (n : Nat) : JsonValue := .number (Nat.toDigits 10 n)

def ofText? (text : Option String) : JsonValue := text.elim .null ofText

def ofFields (fields : List (String × JsonValue)) : JsonValue :=
  .object (fields.map fun (name, value) => (.text name, value))

end JsonValue

namespace JsonString

def hexDigit (n : Nat) : Char := Nat.digitChar n

def escape (c : Char) : List Char :=
  if c = '"' then ['\\', '"']
  else if c = '\\' then ['\\', '\\']
  else if c = '\x08' then ['\\', 'b']
  else if c = '\x0c' then ['\\', 'f']
  else if c = '\n' then ['\\', 'n']
  else if c = '\r' then ['\\', 'r']
  else if c = '\t' then ['\\', 't']
  else if c.toNat < 0x20 then
    ['\\', 'u', '0', '0', hexDigit (c.toNat / 16), hexDigit (c.toNat % 16)]
  else [c]

def print : JsonString → List Char
  | .text value => ['"'] ++ value.toList.flatMap escape ++ ['"']
  | .unpaired written => ['"'] ++ written ++ ['"']

end JsonString

namespace JsonValue

def newLine (depth : Nat) : List Char := '\n' :: List.replicate (2 * depth) ' '

mutual

def print (depth : Nat) : JsonValue → List Char
  | .null => "null".toList
  | .bool true => "true".toList
  | .bool false => "false".toList
  | .number written => written
  | .string value => value.print
  | .array [] => ['[', ']']
  | .array (item :: items) =>
    '[' :: newLine (depth + 1) ++ print (depth + 1) item ++ printItems depth items
  | .object [] => ['{', '}']
  | .object ((name, value) :: fields) =>
    '{' :: newLine (depth + 1) ++ name.print ++ [':', ' '] ++ print (depth + 1) value ++
      printFields depth fields

def printItems (depth : Nat) : List JsonValue → List Char
  | [] => newLine depth ++ [']']
  | item :: items =>
    ',' :: newLine (depth + 1) ++ print (depth + 1) item ++ printItems depth items

def printFields (depth : Nat) : List (JsonString × JsonValue) → List Char
  | [] => newLine depth ++ ['}']
  | (name, value) :: fields =>
    ',' :: newLine (depth + 1) ++ name.print ++ [':', ' '] ++ print (depth + 1) value ++
      printFields depth fields

end

def document (value : JsonValue) : String := String.ofList (value.print 0)

end JsonValue

end SocketWatch
