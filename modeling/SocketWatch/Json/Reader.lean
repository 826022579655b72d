import SocketWatch.Json.Token

namespace SocketWatch

namespace JsonValue

inductive Frame where
  | array (items : List JsonValue)
  | object (fields : List (JsonString × JsonValue)) (name : JsonString)

inductive Due where
  | value (orClose : Bool)
  | name (orClose : Bool)
  | colon
  | more

inductive Progress where
  | reading (due : Due) (stack : List Frame)
  | finished (value : JsonValue)

def Progress.take (value : JsonValue) : List Frame → Progress
  | [] => .finished value
  | .array items :: stack => .reading .more (.array (value :: items) :: stack)
  | .object fields name :: stack => .reading .more (.object ((name, value) :: fields) name :: stack)

def ofToken? : JsonToken → Option JsonValue
  | .null => some .null
  | .bool value => some (.bool value)
  | .number written => some (.number written)
  | .string value => some (.string value)
  | _ => none

def Progress.step : Progress → JsonToken → Option Progress
  | .finished _, _ => none
  | .reading (.value orClose) stack, token =>
    match token, stack with
    | .openArray, stack => some (.reading (.value true) (.array [] :: stack))
    | .openObject, stack => some (.reading (.name true) (.object [] (.text "") :: stack))
    | .closeArray, .array _ :: stack => if orClose then some (take (.array []) stack) else none
    | token, stack => (ofToken? token).map fun value => take value stack
  | .reading (.name orClose) (.object fields _ :: stack), token =>
    match token with
    | .string name => some (.reading .colon (.object fields name :: stack))
    | .closeObject => if orClose then some (take (.object []) stack) else none
    | _ => none
  | .reading .colon stack, .colon => some (.reading (.value false) stack)
  | .reading .more (.array items :: stack), token =>
    match token with
    | .comma => some (.reading (.value false) (.array items :: stack))
    | .closeArray => some (take (.array items.reverse) stack)
    | _ => none
  | .reading .more (.object fields name :: stack), token =>
    match token with
    | .comma => some (.reading (.name false) (.object fields name :: stack))
    | .closeObject => some (take (.object fields.reverse) stack)
    | _ => none
  | .reading _ _, _ => none

def ofTokens? (tokens : List JsonToken) : Option JsonValue :=
  match tokens.foldlM Progress.step (.reading (.value false) []) with
  | some (.finished value) => some value
  | _ => none

def parse? (document : List Char) : Option JsonValue := do
  ofTokens? (← JsonToken.scan? document)

end JsonValue

end SocketWatch
