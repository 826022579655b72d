import SocketWatch.Json.Reader

namespace SocketWatch.JsonValue

mutual

def tokens : JsonValue → List JsonToken
  | .null => [.null]
  | .bool value => [.bool value]
  | .number written => [.number written]
  | .string value => [.string value]
  | .array [] => [.openArray, .closeArray]
  | .array (item :: items) => .openArray :: tokens item ++ itemTokens items
  | .object [] => [.openObject, .closeObject]
  | .object ((name, value) :: fields) =>
    .openObject :: .string name :: .colon :: tokens value ++ fieldTokens fields

def itemTokens : List JsonValue → List JsonToken
  | [] => [.closeArray]
  | item :: items => .comma :: tokens item ++ itemTokens items

def fieldTokens : List (JsonString × JsonValue) → List JsonToken
  | [] => [.closeObject]
  | (name, value) :: fields =>
    .comma :: .string name :: .colon :: tokens value ++ fieldTokens fields

end

mutual

theorem foldlM_tokens (stack : List Frame) (orClose : Bool) :
    ∀ v : JsonValue, v.tokens.foldlM Progress.step (.reading (.value orClose) stack) =
      some (.take v stack)
  | .null | .bool _ | .number _ | .string _ => by
    simp [tokens, Progress.step, ofToken?]
  | .array [] => by simp [tokens, Progress.step]
  | .array (item :: items) => by
    simp [tokens, Progress.step, foldlM_tokens _ true item, Progress.take, foldlM_itemTokens]
  | .object [] => by simp [tokens, Progress.step]
  | .object ((name, value) :: fields) => by
    simp [tokens, Progress.step, foldlM_tokens _ false value, Progress.take, foldlM_fieldTokens]

theorem foldlM_itemTokens (stack : List Frame) :
    ∀ (before items : List JsonValue),
      (itemTokens items).foldlM Progress.step (.reading .more (.array before :: stack)) =
        some (.take (.array (before.reverse ++ items)) stack)
  | before, [] => by simp [itemTokens, Progress.step]
  | before, item :: items => by
    simp [itemTokens, Progress.step, foldlM_tokens _ false item, Progress.take, foldlM_itemTokens]

theorem foldlM_fieldTokens (stack : List Frame) (last : JsonString) :
    ∀ (before fields : List (JsonString × JsonValue)),
      (fieldTokens fields).foldlM Progress.step (.reading .more (.object before last :: stack)) =
        some (.take (.object (before.reverse ++ fields)) stack)
  | before, [] => by simp [fieldTokens, Progress.step]
  | before, (name, value) :: fields => by
    simp [fieldTokens, Progress.step, foldlM_tokens _ false value, Progress.take,
      foldlM_fieldTokens]

end

theorem ofTokens?_tokens (v : JsonValue) : ofTokens? v.tokens = some v := by
  rw [ofTokens?, foldlM_tokens]
  rfl

end SocketWatch.JsonValue
