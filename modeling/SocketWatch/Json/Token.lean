import SocketWatch.Json.Basic
import SocketWatch.Text.Basic

namespace SocketWatch

inductive JsonToken where
  | openArray
  | closeArray
  | openObject
  | closeObject
  | comma
  | colon
  | null
  | bool (value : Bool)
  | number (written : List Char)
  | string (value : JsonString)
deriving DecidableEq, Repr

namespace JsonToken

def isBlank (c : Char) : Bool := c == ' ' || c == '\n' || c == '\t' || c == '\r'

def escaped? : Char → Option Char
  | '"' => some '"'
  | '\\' => some '\\'
  | '/' => some '/'
  | 'b' => some '\x08'
  | 'f' => some '\x0c'
  | 'n' => some '\n'
  | 'r' => some '\r'
  | 't' => some '\t'
  | _ => none

def unit? (a b c d : Char) : Option Nat :=
  if [a, b, c, d].all Text.isHexDigit then some (Text.valueOf 16 [a, b, c, d]) else none

def isHighSurrogate (n : Nat) : Bool := 0xD800 ≤ n && n < 0xDC00

def isLowSurrogate (n : Nat) : Bool := 0xDC00 ≤ n && n < 0xE000

def paired (high low : Nat) : Char :=
  Char.ofNat (0x10000 + (high - 0xD800) * 0x400 + (low - 0xDC00))

structure Body where
  written : List Char := []
  text : Option (List Char) := some []

namespace Body

def push (written : List Char) (c : Option Char) (body : Body) : Body where
  written := written ++ body.written
  text := do return (← c) :: (← body.text)

def onto (written : List Char) (meant : Option Char) (read : Option (Body × List Char)) :
    Option (Body × List Char) :=
  read.map fun (body, rest) => (body.push written meant, rest)

theorem exists_of_onto {written rest : List Char} {meant : Option Char}
    {read : Option (Body × List Char)} {body : Body}
    (h : onto written meant read = some (body, rest)) : ∃ inner, read = some (inner, rest) := by
  obtain ⟨⟨inner, r⟩, hr, he⟩ := Option.map_eq_some_iff.1 h
  cases he
  exact ⟨inner, hr⟩

def toJsonString (body : Body) : JsonString :=
  match body.text with
  | some text => .text (String.ofList text)
  | none => .unpaired body.written

end Body

def body? : List Char → Option (Body × List Char)
  | [] => none
  | '"' :: rest => some ({}, rest)
  | '\\' :: 'u' :: a :: b :: c :: d :: rest =>
    match unit? a b c d with
    | none => none
    | some unit =>
      let single (meant : Option Char) := Body.onto ['\\', 'u', a, b, c, d] meant (body? rest)
      if isHighSurrogate unit then
        match rest with
        | '\\' :: 'u' :: e :: f :: g :: h :: more =>
          match unit? e f g h with
          | none => none
          | some low =>
            if isLowSurrogate low then
              Body.onto ['\\', 'u', a, b, c, d, '\\', 'u', e, f, g, h] (paired unit low)
                (body? more)
            else single none
        | _ => single none
      else single (if isLowSurrogate unit then none else some (Char.ofNat unit))
  | '\\' :: c :: rest =>
    match escaped? c with
    | none => none
    | some meant => Body.onto ['\\', c] meant (body? rest)
  | c :: rest =>
    if c = '\\' ∨ c.toNat < 0x20 then none else Body.onto [c] c (body? rest)

def digits? (text : List Char) : Option (List Char × List Char) :=
  let digits := text.takeWhile Text.isDigit
  if digits.isEmpty then none else some (digits, text.dropWhile Text.isDigit)

def integer? : List Char → Option (List Char × List Char)
  | '0' :: rest => some (['0'], rest)
  | text => digits? text

def fraction? : List Char → Option (List Char × List Char)
  | '.' :: rest => do
    let (digits, rest) ← digits? rest
    return ('.' :: digits, rest)
  | text => some ([], text)

def sign : List Char → List Char × List Char
  | '+' :: rest => (['+'], rest)
  | '-' :: rest => (['-'], rest)
  | text => ([], text)

def exponent? : List Char → Option (List Char × List Char)
  | [] => some ([], [])
  | c :: rest =>
    if c == 'e' || c == 'E' then do
      let (sign, rest) := sign rest
      let (digits, rest) ← digits? rest
      return (c :: sign ++ digits, rest)
    else some ([], c :: rest)

def magnitude? (text : List Char) : Option (List Char × List Char) := do
  let (integer, text) ← integer? text
  let (fraction, text) ← fraction? text
  let (exponent, text) ← exponent? text
  return (integer ++ fraction ++ exponent, text)

def number? : List Char → Option (List Char × List Char)
  | '-' :: rest => do
    let (written, rest) ← magnitude? rest
    return ('-' :: written, rest)
  | text => magnitude? text

def read? : List Char → Option (JsonToken × List Char)
  | '[' :: rest => some (.openArray, rest)
  | ']' :: rest => some (.closeArray, rest)
  | '{' :: rest => some (.openObject, rest)
  | '}' :: rest => some (.closeObject, rest)
  | ',' :: rest => some (.comma, rest)
  | ':' :: rest => some (.colon, rest)
  | 'n' :: 'u' :: 'l' :: 'l' :: rest => some (.null, rest)
  | 't' :: 'r' :: 'u' :: 'e' :: rest => some (.bool true, rest)
  | 'f' :: 'a' :: 'l' :: 's' :: 'e' :: rest => some (.bool false, rest)
  | '"' :: rest => do
    let (body, rest) ← body? rest
    return (.string body.toJsonString, rest)
  | text => do
    let (written, rest) ← number? text
    return (.number written, rest)

theorem body?_length {text rest : List Char} {body : Body} (h : body? text = some (body, rest)) :
    rest.length < text.length := by
  fun_induction body? text generalizing body rest <;> grind [Body.exists_of_onto]

theorem digits?_length {text rest digits : List Char} (h : digits? text = some (digits, rest)) :
    rest.length < text.length := by
  have hl := congrArg List.length (List.takeWhile_append_dropWhile (p := Text.isDigit) (l := text))
  simp only [digits?] at h
  split at h
  · cases h
  · rename_i hd
    have := List.length_pos_iff.mpr (mt List.isEmpty_iff.mpr hd)
    simp only [Option.some.injEq, Prod.mk.injEq] at h
    rw [List.length_append] at hl
    rw [← h.2]
    omega

theorem sign_length (text : List Char) : (sign text).2.length ≤ text.length := by
  unfold sign
  split <;> simp

theorem magnitude?_length {text rest written : List Char}
    (h : magnitude? text = some (written, rest)) : rest.length < text.length := by
  simp only [magnitude?, Option.bind_eq_bind, Option.bind_eq_some_iff, Prod.exists] at h
  obtain ⟨integer, t, hi, fraction, u, hf, exponent, v, he, h⟩ := h
  have hi : t.length < text.length := by
    unfold integer? at hi
    split at hi
    · cases hi; simp
    · exact digits?_length hi
  have hf : u.length ≤ t.length := by
    unfold fraction? at hf
    split at hf
    · simp only [Option.bind_eq_bind, Option.bind_eq_some_iff, Prod.exists] at hf
      obtain ⟨_, _, hd, hf⟩ := hf
      have := digits?_length hd
      grind
    · grind
  have he : v.length ≤ u.length := by
    unfold exponent? at he
    split at he
    · grind
    · rename_i c more _
      split at he
      · simp only [Option.bind_eq_bind, Option.bind_eq_some_iff, Prod.exists] at he
        obtain ⟨_, _, hd, he⟩ := he
        have := digits?_length hd
        have := sign_length more
        grind
      · grind
  grind

theorem number?_length {text rest written : List Char}
    (h : number? text = some (written, rest)) : rest.length < text.length := by
  unfold number? at h
  split at h
  · simp only [Option.bind_eq_bind, Option.bind_eq_some_iff, Prod.exists] at h
    obtain ⟨_, _, hm, h⟩ := h
    have := magnitude?_length hm
    grind
  · exact magnitude?_length h

theorem read?_length {text rest : List Char} {token : JsonToken}
    (h : read? text = some (token, rest)) : rest.length < text.length := by
  unfold read? at h
  split at h
  case h_10 =>
    simp only [Option.bind_eq_bind, Option.bind_eq_some_iff, Prod.exists] at h
    obtain ⟨_, _, hb, h⟩ := h
    have := body?_length hb
    grind
  case h_11 =>
    simp only [Option.bind_eq_bind, Option.bind_eq_some_iff, Prod.exists] at h
    obtain ⟨_, _, hn, h⟩ := h
    have := number?_length hn
    grind
  all_goals grind

def scan? : List Char → Option (List JsonToken)
  | [] => some []
  | c :: text =>
    if isBlank c then scan? text
    else
      match _h : read? (c :: text) with
      | none => none
      | some (token, rest) => (scan? rest).map (token :: ·)
termination_by text => text.length
decreasing_by
  · simp
  · exact read?_length _h

end JsonToken

end SocketWatch
