import Mathlib.Tactic.SplitIfs
import SocketWatch.Json.Basic
import SocketWatch.Proofs.Json.Tokens
import SocketWatch.Proofs.Text.Numeral

namespace SocketWatch

namespace JsonToken

section Body

variable {c : Char} (rest : List Char)

theorem unit?_control : ∀ n < 0x20,
    unit? '0' '0' (JsonString.hexDigit (n / 16)) (JsonString.hexDigit (n % 16)) = some n := by
  decide

theorem body?_unit (h : c.toNat < 0x20) :
    body? ('\\' :: 'u' :: '0' :: '0' :: JsonString.hexDigit (c.toNat / 16) ::
      JsonString.hexDigit (c.toNat % 16) :: rest) =
    Body.onto ['\\', 'u', '0', '0', JsonString.hexDigit (c.toNat / 16),
      JsonString.hexDigit (c.toNat % 16)] c (body? rest) := by
  have hhigh : isHighSurrogate c.toNat = false := by simp [isHighSurrogate]; omega
  have hlow : isLowSurrogate c.toNat = false := by simp [isLowSurrogate]; omega
  rw [body?]
  simp [unit?_control c.toNat h, hhigh, hlow]

theorem body?_plain (hquote : c ≠ '"') (hback : c ≠ '\\') (h : ¬c.toNat < 0x20) :
    body? (c :: rest) = Body.onto [c] c (body? rest) := by
  rw [body?.eq_def]
  split
  · next heq => exact absurd heq (List.cons_ne_nil c rest)
  · next heq => exact absurd (List.cons.inj heq).1 hquote
  · next heq => exact absurd (List.cons.inj heq).1 hback
  · next heq => exact absurd (List.cons.inj heq).1 hback
  · next heq =>
    obtain ⟨rfl, rfl⟩ := List.cons.inj heq
    exact if_neg (by simp [hback, h])

theorem body?_escape (c : Char) :
    body? (JsonString.escape c ++ rest) = Body.onto (JsonString.escape c) c (body? rest) := by
  unfold JsonString.escape
  split_ifs with hquote hback hb hf hn hr ht hcontrol
  · subst hquote; rfl
  · subst hback; rfl
  · subst hb; rfl
  · subst hf; rfl
  · subst hn; rfl
  · subst hr; rfl
  · subst ht; rfl
  · exact body?_unit rest hcontrol
  · exact body?_plain rest hquote hback hcontrol

theorem body?_escaped (text : List Char) : body? (text.flatMap JsonString.escape ++ '"' :: rest) =
    some (⟨text.flatMap JsonString.escape, some text⟩, rest) := by
  induction text with
  | nil => rfl
  | cons c text ih =>
    rw [List.flatMap_cons, List.append_assoc, body?_escape, ih]
    rfl

end Body

section Number

variable {c : Char} {rest : List Char}

def Ends (rest : List Char) : Prop := ∀ c ∈ rest.head?, c = ',' ∨ c = '\n'

theorem ends_comma (rest : List Char) : Ends (',' :: rest) := by simp [Ends]

theorem ends_newLine (depth : Nat) (rest : List Char) :
    Ends (JsonValue.newLine depth ++ rest) := by simp [Ends, JsonValue.newLine]

theorem digits?_append {digits : List Char} (hne : digits ≠ [])
    (hdigits : ∀ c ∈ digits, Text.isDigit c) (h : Ends rest) :
    digits? (digits ++ rest) = some (digits, rest) := by
  have hstop : ∀ c ∈ rest.head?, Text.isDigit c = false := by
    intro c hc
    rcases h c hc with rfl | rfl <;> decide
  have hempty : digits.isEmpty = false := by simpa using hne
  simp [digits?, Text.takeWhile_append_of_stop hdigits hstop,
    Text.dropWhile_append_of_stop hdigits hstop, hempty]

theorem integer?_toDigits (n : Nat) (h : Ends rest) :
    integer? (Nat.toDigits 10 n ++ rest) = some (Nat.toDigits 10 n, rest) := by
  by_cases hn : n = 0
  · subst hn
    rfl
  · have hread : digits? (Nat.toDigits 10 n ++ rest) = some (Nat.toDigits 10 n, rest) :=
      digits?_append Nat.toDigits_ne_nil (fun c => Text.isDigit_of_mem_toDigits) h
    have hzero := Text.head?_toDigits_ne_zero hn
    rw [integer?.eq_def]
    split
    · next more heq =>
      obtain ⟨c, digits, hdigits⟩ :=
        List.exists_cons_of_ne_nil (Nat.toDigits_ne_nil (n := n) (b := 10))
      rw [hdigits] at heq hzero
      exact absurd (congrArg some (List.cons.inj heq).1) hzero
    · exact hread

theorem fraction?_of_ends (h : Ends rest) : fraction? rest = some ([], rest) := by
  rw [fraction?.eq_def]
  split
  · exact absurd (h '.' rfl) (by decide)
  · rfl

theorem exponent?_of_ends (h : Ends rest) : exponent? rest = some ([], rest) := by
  cases rest with
  | nil => rfl
  | cons c rest => rcases h c rfl with rfl | rfl <;> rfl

theorem magnitude?_toDigits (n : Nat) (h : Ends rest) :
    magnitude? (Nat.toDigits 10 n ++ rest) = some (Nat.toDigits 10 n, rest) := by
  simp [magnitude?, integer?_toDigits n h, fraction?_of_ends h, exponent?_of_ends h]

theorem ne_of_isDigit {d : Char} (h : Text.isDigit c) (hd : Text.isDigit d = false) : c ≠ d := by
  rintro rfl
  simp [h] at hd

theorem isBlank_of_isDigit (h : Text.isDigit c) : isBlank c = false := by
  simp [isBlank, ne_of_isDigit h (d := ' ') rfl, ne_of_isDigit h (d := '\n') rfl,
    ne_of_isDigit h (d := '\t') rfl, ne_of_isDigit h (d := '\r') rfl]

theorem read?_of_isDigit {text : List Char} (h : Text.isDigit c) : read? (c :: text) =
    (magnitude? (c :: text)).map fun (written, rest) => (.number written, rest) := by
  have hnumber : number? (c :: text) = magnitude? (c :: text) := by
    rw [number?.eq_def]
    split
    · next heq => exact absurd (List.cons.inj heq).1 (ne_of_isDigit h (by decide))
    · rfl
  rw [read?.eq_def]
  split
  case h_11 =>
    rw [hnumber]
    cases magnitude? (c :: text) <;> rfl
  -- Every other token begins with a character of its own, which is no digit.
  all_goals exact absurd (List.cons.inj ‹_ = _›).1 (ne_of_isDigit h (by decide))

end Number

section Scan

variable (rest : List Char)

theorem scan?_blank {c : Char} (h : isBlank c) : scan? (c :: rest) = scan? rest := by
  rw [scan?, if_pos h]

theorem scan?_read {c : Char} {text : List Char} {token : JsonToken} {rest : List Char}
    (hblank : isBlank c = false) (h : read? (c :: text) = some (token, rest)) :
    scan? (c :: text) = (scan? rest).map (token :: ·) := by
  rw [scan?, hblank]
  simp only [Bool.false_eq_true, if_false]
  split
  · next hnone => simp [h] at hnone
  · next hsome =>
    rw [h] at hsome
    cases hsome
    rfl

theorem scan?_newLine (depth : Nat) : scan? (JsonValue.newLine depth ++ rest) = scan? rest := by
  rw [JsonValue.newLine, List.cons_append, scan?_blank _ rfl]
  generalize 2 * depth = n
  induction n with
  | zero => rfl
  | succ n ih => rw [List.replicate_succ, List.cons_append, scan?_blank _ rfl, ih]

theorem scan?_text (text : String) : scan? ((JsonString.text text).print ++ rest) =
    (scan? rest).map (.string (.text text) :: ·) := by
  rw [JsonString.print, List.append_assoc, List.append_assoc, List.singleton_append,
    List.singleton_append]
  apply scan?_read rfl
  rw [read?, body?_escaped]
  simp [Body.toJsonString]

theorem scan?_toDigits (n : Nat) (h : Ends rest) : scan? (Nat.toDigits 10 n ++ rest) =
    (scan? rest).map (.number (Nat.toDigits 10 n) :: ·) := by
  have hread := magnitude?_toDigits n h
  have hdigit := fun c => Text.isDigit_of_mem_toDigits (n := n) (c := c)
  obtain ⟨c, digits, hdigits⟩ := List.exists_cons_of_ne_nil (Nat.toDigits_ne_nil (n := n) (b := 10))
  rw [hdigits] at hread hdigit ⊢
  have hc := hdigit c List.mem_cons_self
  apply scan?_read (isBlank_of_isDigit hc)
  rw [read?_of_isDigit hc]
  exact congrArg _ hread

end Scan

end JsonToken

namespace JsonValue

open JsonToken (Ends ends_comma ends_newLine scan? scan?_read scan?_newLine scan?_text
  scan?_toDigits)

def named (fields : List (String × JsonValue)) : List (JsonString × JsonValue) :=
  fields.map fun (name, value) => (.text name, value)

theorem named_cons (field : String × JsonValue) (fields : List (String × JsonValue)) :
    named (field :: fields) = (.text field.1, field.2) :: named fields := rfl

theorem ofFields_eq (fields : List (String × JsonValue)) :
    ofFields fields = .object (named fields) := rfl

inductive Plain : JsonValue → Prop
  | null : Plain .null
  | bool (value : Bool) : Plain (.bool value)
  | nat (n : Nat) : Plain (.ofNat n)
  | text (text : String) : Plain (.ofText text)
  | array {items : List JsonValue} (h : ∀ item ∈ items, Plain item) : Plain (.array items)
  | object {fields : List (String × JsonValue)} (h : ∀ field ∈ fields, Plain field.2) :
    Plain (.ofFields fields)

def Scans (v : JsonValue) : Prop := ∀ (depth : Nat) (rest : List Char), Ends rest →
  scan? (v.print depth ++ rest) = (scan? rest).map (v.tokens ++ ·)

theorem ends_printItems (depth : Nat) (items : List JsonValue) (rest : List Char) :
    Ends (printItems depth items ++ rest) := by
  cases items with
  | nil =>
    rw [printItems, List.append_assoc]
    exact ends_newLine _ _
  | cons item items =>
    rw [printItems]
    exact ends_comma _

theorem ends_printFields (depth : Nat) (fields : List (JsonString × JsonValue))
    (rest : List Char) : Ends (printFields depth fields ++ rest) := by
  cases fields with
  | nil =>
    rw [printFields, List.append_assoc]
    exact ends_newLine _ _
  | cons field fields =>
    rw [printFields]
    exact ends_comma _

theorem scan?_printItems {items : List JsonValue} (h : ∀ item ∈ items, item.Scans) (depth : Nat)
    (rest : List Char) : scan? (printItems depth items ++ rest) =
      (scan? rest).map (itemTokens items ++ ·) := by
  induction items with
  | nil =>
    rw [printItems, List.append_assoc, scan?_newLine, List.singleton_append, scan?_read rfl rfl]
    rfl
  | cons item items ih =>
    have hitem := h item List.mem_cons_self
    have hitems := ih fun other hother => h other (List.mem_cons_of_mem item hother)
    simp only [printItems, itemTokens, List.cons_append, List.append_assoc]
    rw [scan?_read rfl rfl, scan?_newLine, hitem _ _ (ends_printItems _ _ _), hitems]
    simp [Function.comp_def]

theorem scan?_field {v : JsonValue} (h : v.Scans) (name : String) (depth : Nat)
    {rest : List Char} (hrest : Ends rest) :
    scan? ((JsonString.text name).print ++ ':' :: ' ' :: (v.print depth ++ rest)) =
      (scan? rest).map (.string (.text name) :: .colon :: v.tokens ++ ·) := by
  rw [scan?_text, scan?_read rfl rfl, JsonToken.scan?_blank _ rfl, h _ _ hrest]
  simp [Function.comp_def]

theorem scan?_printFields {fields : List (String × JsonValue)}
    (h : ∀ field ∈ fields, field.2.Scans) (depth : Nat) (rest : List Char) :
    scan? (printFields depth (named fields) ++ rest) =
      (scan? rest).map (fieldTokens (named fields) ++ ·) := by
  induction fields with
  | nil =>
    rw [named, List.map_nil, printFields, List.append_assoc, scan?_newLine, List.singleton_append,
      scan?_read rfl rfl]
    rfl
  | cons field fields ih =>
    have hfield := h field List.mem_cons_self
    have hfields := ih fun other hother => h other (List.mem_cons_of_mem field hother)
    have hends := ends_printFields depth (named fields) rest
    simp only [named_cons, printFields, fieldTokens, List.cons_append, List.append_assoc,
      List.nil_append]
    rw [scan?_read rfl rfl, scan?_newLine, scan?_field hfield _ _ hends, hfields]
    simp [Function.comp_def]

theorem Plain.scans {v : JsonValue} (h : v.Plain) : v.Scans := by
  induction h with
  | null =>
    intro depth rest _
    exact scan?_read rfl rfl
  | bool value =>
    intro depth rest _
    cases value <;> exact scan?_read rfl rfl
  | nat n =>
    intro depth rest hrest
    exact scan?_toDigits rest n hrest
  | text text =>
    intro depth rest _
    exact scan?_text rest text
  | @array items _ ih =>
    intro depth rest _
    cases items with
    | nil =>
      rw [print, tokens, List.cons_append, scan?_read rfl rfl, List.singleton_append,
        scan?_read rfl rfl]
      simp [Function.comp_def]
    | cons item items =>
      have hitem := ih item List.mem_cons_self
      have hitems := scan?_printItems fun other hother => ih other (List.mem_cons_of_mem item hother)
      simp only [print, tokens, List.cons_append, List.append_assoc]
      rw [scan?_read rfl rfl, scan?_newLine, hitem _ _ (ends_printItems _ _ _), hitems]
      simp [Function.comp_def]
  | @object fields _ ih =>
    intro depth rest _
    cases fields with
    | nil =>
      rw [ofFields, List.map_nil, print, tokens, List.cons_append, scan?_read rfl rfl,
        List.singleton_append, scan?_read rfl rfl]
      simp [Function.comp_def]
    | cons field fields =>
      have hfield := ih field List.mem_cons_self
      have hfields := scan?_printFields fun other hother =>
        ih other (List.mem_cons_of_mem field hother)
      have hends := ends_printFields depth (named fields) rest
      rw [ofFields_eq, named_cons]
      simp only [print, tokens, List.cons_append, List.append_assoc, List.nil_append]
      rw [scan?_read rfl rfl, scan?_newLine, scan?_field hfield _ _ hends, hfields]
      simp [Function.comp_def]

theorem parse?_document {v : JsonValue} (h : v.Plain) : parse? v.document.toList = some v := by
  have hscan : scan? (v.print 0) = some v.tokens := by
    have hends : Ends [] := by simp [Ends]
    have hv := h.scans 0 [] hends
    rwa [List.append_nil, scan?, Option.map_some, List.append_nil] at hv
  rw [document, String.toList_ofList, parse?, hscan]
  exact ofTokens?_tokens v

end JsonValue

end SocketWatch
