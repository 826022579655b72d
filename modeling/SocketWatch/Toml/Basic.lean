namespace SocketWatch

inductive TableOrigin where
  | heading
  | implied
  | dotted
  | inline
deriving DecidableEq, Repr

inductive TomlValue where
  | text (value : String)
  | integer (value : Int)
  | boolean (value : Bool)
  | float
  | dateTime
  | array (items : List TomlValue)
  | table (origin : TableOrigin) (fields : List (String × TomlValue))
  | tables (items : List (List (String × TomlValue)))
deriving Repr

abbrev TomlFields := List (String × TomlValue)

namespace TomlFields

def get? (fields : TomlFields) (key : String) : Option TomlValue := fields.lookup key

def set (fields : TomlFields) (key : String) (value : TomlValue) : TomlFields :=
  match fields with
  | [] => [(key, value)]
  | (k, v) :: rest => if k = key then (k, value) :: rest else (k, v) :: set rest key value

/-- Adds a field by a key with dots, where `path` holds all parts of the key but the last. The parts
have to lead through tables that no heading has made, and the last of these tables has to be one
made by dots. -/
def insertDotted (fields : TomlFields) (key : String) (value : TomlValue) :
    (path : List String) → (inside : TableOrigin) → Option TomlFields
  | [], inside =>
    if inside = .heading ∨ inside = .dotted ∨ inside = .inline then
      match fields.get? key with
      | none => some (fields ++ [(key, value)])
      | some _ => none
    else none
  | part :: path, _ =>
    match fields.get? part with
    | none =>
      (insertDotted [] key value path .dotted).map fun inner =>
        fields ++ [(part, .table .dotted inner)]
    | some (.table origin inner) =>
      if origin = .implied ∨ origin = .dotted then
        (insertDotted inner key value path origin).map fun inner =>
          fields.set part (.table origin inner)
      else none
    | some (.tables (last :: items)) =>
      (insertDotted last key value path .implied).map fun last =>
        fields.set part (.tables (last :: items))
    | some _ => none

def within (change : TomlFields → Option TomlFields) (fields : TomlFields) :
    (path : List String) → Option TomlFields
  | [] => change fields
  | part :: path =>
    match fields.get? part with
    | none => (within change [] path).map fun inner => fields.set part (.table .implied inner)
    | some (.table .inline _) => none
    | some (.table origin inner) =>
      (within change inner path).map fun inner => fields.set part (.table origin inner)
    | some (.tables (last :: items)) =>
      (within change last path).map fun last => fields.set part (.tables (last :: items))
    | some _ => none

def openTable (key : String) (fields : TomlFields) : Option TomlFields :=
  match fields.get? key with
  | none => some (fields.set key (.table .heading []))
  | some (.table .implied inner) => some (fields.set key (.table .heading inner))
  | some _ => none

def openElement (key : String) (fields : TomlFields) : Option TomlFields :=
  match fields.get? key with
  | none => some (fields.set key (.tables [[]]))
  | some (.tables items) => some (fields.set key (.tables ([] :: items)))
  | some _ => none

end TomlFields

end SocketWatch
