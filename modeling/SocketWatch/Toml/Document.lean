import SocketWatch.Toml.Scalar

namespace SocketWatch.Toml

def items? (value? : Reader TomlValue) : (fuel : Nat) → Reader (List TomlValue)
  | 0, _ => none
  | fuel + 1, text =>
    match skipLines text false with
    | ']' :: rest => some ([], rest)
    | text => do
      let (item, rest) ← value? text
      match skipLines rest false with
      | ',' :: rest =>
        let (items, rest) ← items? value? fuel rest
        return (item :: items, rest)
      | ']' :: rest => return ([item], rest)
      | _ => none

def fields? (value? : Reader TomlValue) : (fuel : Nat) → TomlFields → Reader TomlFields
  | 0, _, _ => none
  | fuel + 1, fields, text => do
    let (key, rest) ← key? keyLimit text
    let (_, rest) ← mark? '=' rest
    let (value, rest) ← value? (skipBlanks rest)
    let fields ← fields.insertDotted (key.getLastD "") value key.dropLast .inline
    match skipBlanks rest with
    | ',' :: rest => fields? value? fuel fields rest
    | '}' :: rest => return (fields, rest)
    | _ => none

def value? : (depth : Nat) → Reader TomlValue
  | 0, text => scalar? text
  | depth + 1, text =>
    match text with
    | '[' :: rest =>
      (items? (value? depth) (rest.length + 1) rest).map fun (items, rest) => (.array items, rest)
    | '{' :: rest =>
      match skipBlanks rest with
      | '}' :: rest => some (.table .inline [], rest)
      | rest =>
        (fields? (value? depth) (rest.length + 1) [] rest).map fun (fields, rest) =>
          (.table .inline fields, rest)
    | text => scalar? text

def depthLimit : Nat := 79

structure Document where
  fields : TomlFields := []
  path : List String := []

def Document.expression? (document : Document) (text : List Char) :
    Option (Document × List Char) :=
  match text with
  | '[' :: '[' :: text => do
    let (path, rest) ← key? keyLimit text
    let (_, rest) ← mark? ']' rest
    let (_, rest) ← mark? ']' rest
    let fields ← document.fields.within (TomlFields.openElement (path.getLastD "")) path.dropLast
    return ({ fields, path }, ← endLine? rest)
  | '[' :: text => do
    let (path, rest) ← key? keyLimit text
    let (_, rest) ← mark? ']' rest
    let fields ← document.fields.within (TomlFields.openTable (path.getLastD "")) path.dropLast
    return ({ fields, path }, ← endLine? rest)
  | text => do
    let (key, rest) ← key? keyLimit text
    let (_, rest) ← mark? '=' rest
    let (value, rest) ← value? depthLimit (skipBlanks rest)
    let rest ← endLine? rest
    let insert (fields : TomlFields) :=
      fields.insertDotted (key.getLastD "") value key.dropLast .heading
    let fields ← document.fields.within insert document.path
    return ({ document with fields }, rest)

def Document.read? (document : Document) : (fuel : Nat) → List Char → Option Document
  | 0, _ => none
  | fuel + 1, text =>
    match skipLines text false with
    | [] => some document
    | text => do
      let (document, rest) ← document.expression? text
      document.read? fuel rest

def parse? (document : String) : Option TomlFields :=
  let text := match document.toList with
    | '\ufeff' :: text => text
    | text => text
  (Document.read? {} (text.length + 1) text).map Document.fields

end SocketWatch.Toml
