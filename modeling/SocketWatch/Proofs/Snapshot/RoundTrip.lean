import SocketWatch.Proofs.Json.Scanning
import SocketWatch.Snapshot.Record

namespace SocketWatch

namespace JsonValue

theorem natBelow?_ofNat {n bound : Nat} (h : n < bound) : (ofNat n).natBelow? bound = some n := by
  have hdigits : (Nat.toDigits 10 n).all Text.isDigit :=
    List.all_eq_true.mpr fun _ => Text.isDigit_of_mem_toDigits
  have hvalue : Text.valueOf 10 (Nat.toDigits 10 n) = n :=
    Text.valueOf_toDigits (by decide) (by decide) n
  simp [ofNat, natBelow?, hdigits, hvalue, h]

theorem text?_ofText (text : String) : (ofText text).text? = some text := rfl

theorem optionalText?_ofText? (text : Option String) :
    (ofText? text).optionalText? = some text := by
  cases text <;> rfl

theorem choice?_protocol (protocol : Protocol) :
    (ofText protocol.name).choice? Protocol.all Protocol.name = some protocol := by
  cases protocol <;> decide

theorem choice?_state (state : SocketState) :
    (ofText state.tag).choice? SocketState.all SocketState.tag = some state := by
  cases state <;> decide

end JsonValue

namespace RecordField

theorem nodup_names : (all.map RecordField.name).Nodup := by decide

theorem find?_name {fields : List RecordField} (h : (fields.map RecordField.name).Nodup) :
    ∀ field ∈ fields,
      fields.find? (fun other => JsonString.text field.name = .text other.name) = some field := by
  induction fields with
  | nil => simp
  | cons first fields ih =>
    obtain ⟨hfirst, hfields⟩ := List.nodup_cons.mp h
    intro field hfield
    rcases List.mem_cons.mp hfield with rfl | hfield
    · simp
    · have hne : field.name ≠ first.name := by
        intro heq
        exact hfirst (heq ▸ List.mem_map_of_mem hfield)
      rw [List.find?_cons_of_neg (by simpa using hne)]
      exact ih hfields field hfield

theorem ofName?_name {field : RecordField} (h : field ∈ all) :
    ofName? (.text field.name) = some field := find?_name nodup_names field h

theorem foldlM_decode? (c : Connection) :
    all.foldlM (fun d field => field.decode? (field.encode c) d) {} = some c := by
  simp only [all, text, nat, optionalText, List.foldlM_cons, List.foldlM_nil,
    JsonValue.choice?_protocol, JsonValue.choice?_state, JsonValue.text?_ofText,
    JsonValue.optionalText?_ofText?, JsonValue.natBelow?_ofNat (UInt16.toNat_lt_size _),
    JsonValue.natBelow?_ofNat (UInt32.toNat_lt_size _),
    JsonValue.natBelow?_ofNat (UInt64.toNat_lt_size _), Option.map_some, Option.bind_eq_bind,
    Option.bind_some, UInt16.ofNat_toNat, UInt32.ofNat_toNat, UInt64.ofNat_toNat]
  rfl

end RecordField

namespace Connection

variable (c : Connection)

theorem decodeNamed?_field {field : RecordField} (h : field ∈ RecordField.all) (d : Connection)
    (value : JsonValue) : d.decodeNamed? (.text field.name, value) = field.decode? value d := by
  simp [decodeNamed?, RecordField.ofName?_name h]

theorem foldlM_decodeNamed? {fields : List RecordField} (h : fields ⊆ RecordField.all)
    (d : Connection) :
    (fields.map fun field => (JsonString.text field.name, field.encode c)).foldlM decodeNamed? d =
      fields.foldlM (fun d field => field.decode? (field.encode c) d) d := by
  induction fields generalizing d with
  | nil => rfl
  | cons field fields ih =>
    obtain ⟨hfield, hfields⟩ := List.cons_subset.mp h
    rw [List.map_cons, List.foldlM_cons, List.foldlM_cons, decodeNamed?_field hfield]
    exact bind_congr fun next => ih hfields next

theorem named_toJsonFields : JsonValue.named c.toJsonFields =
    RecordField.all.map fun field => (JsonString.text field.name, field.encode c) := by
  rw [toJsonFields, JsonValue.named, List.map_map]
  rfl

theorem ofJson?_toJsonFields (value : JsonValue) :
    ofJson? (.ofFields (c.toJsonFields ++ [("operation", value)])) = some c := by
  have hnamed : JsonValue.named (c.toJsonFields ++ [("operation", value)]) =
      (RecordField.all.map fun field => (JsonString.text field.name, field.encode c)) ++
        [(.text "operation", value)] := by
    rw [← named_toJsonFields, JsonValue.named, List.map_append]
    rfl
  have hnames : (JsonValue.named (c.toJsonFields ++ [("operation", value)])).map Prod.fst =
      (RecordField.all.map fun field => JsonString.text field.name) ++ [.text "operation"] := by
    rw [hnamed, List.map_append, List.map_map]
    rfl
  have hknown : let names := (RecordField.all.map fun field => JsonString.text field.name) ++
        [.text "operation"]
      let known := names.filter fun name => (RecordField.ofName? name).isSome
      known.eraseDups.length = known.length := by decide
  have hread : (JsonValue.named (c.toJsonFields ++ [("operation", value)])).foldlM decodeNamed? {} =
      some c := by
    rw [hnamed, List.foldlM_append, foldlM_decodeNamed? c (List.Subset.refl _),
      RecordField.foldlM_decode?]
    rfl
  rw [JsonValue.ofFields_eq, ofJson?]
  simp only [hnames]
  rw [if_pos hknown, hread]

end Connection

namespace RecordField

theorem plain_encode (c : Connection) : ∀ field ∈ all, (field.encode c).Plain := by
  have htext? (text : Option String) : (JsonValue.ofText? text).Plain := by
    cases text with
    | none => exact .null
    | some text => exact .text text
  simp [all, text, nat, optionalText, htext?, JsonValue.Plain.text, JsonValue.Plain.nat]

end RecordField

theorem plain_rows (rows : List Row) : (JsonValue.array (rows.map fun row =>
    .ofFields (row.connection.toJsonFields ++ [("operation", .ofText row.change.name)]))).Plain := by
  apply JsonValue.Plain.array
  intro item hitem
  obtain ⟨row, -, rfl⟩ := List.mem_map.mp hitem
  apply JsonValue.Plain.object
  intro field hfield
  rcases List.mem_append.mp hfield with hfield | hfield
  · obtain ⟨known, hknown, rfl⟩ := List.mem_map.mp hfield
    exact RecordField.plain_encode row.connection known hknown
  · obtain rfl := List.mem_singleton.mp hfield
    exact .text row.change.name

theorem readSnapshot_printRows (rows : List Row) :
    readSnapshot (printRows rows) = .ok (rows.map Row.connection) := by
  have hrecords : (rows.map fun row => JsonValue.ofFields (row.connection.toJsonFields ++
      [("operation", .ofText row.change.name)])).mapM Connection.ofJson? =
        some (rows.map Row.connection) := by
    induction rows with
    | nil => rfl
    | cons row rows ih =>
      rw [List.map_cons, List.mapM_cons, Connection.ofJson?_toJsonFields, ih]
      rfl
  rw [readSnapshot, printRows, JsonValue.parse?_document (plain_rows rows)]
  simp only [hrecords]

theorem FileContent.text_toUTF8 (text : String) : (bytes text.toUTF8).text = .ok text := by
  have hread : String.fromUTF8? text.toUTF8 = some text := dif_pos text.isValidUTF8
  rw [FileContent.text, hread]

/-- Rows that are printed can be read again, as the sockets of the rows in their order. What the last
cycle did to a row is not read. -/
theorem readSnapshotFile_printRows (rows : List Row) :
    readSnapshotFile (.bytes (printRows rows).toUTF8) = .ok (rows.map Row.connection) ∧
    (rows.map Row.connection).map (fun connection => ({ connection } : Row)) =
      rows.map fun row => { row with change := .none, closedAt := none } := by
  constructor
  · rw [readSnapshotFile, FileContent.text_toUTF8]
    exact readSnapshot_printRows rows
  · rw [List.map_map]
    rfl

end SocketWatch
