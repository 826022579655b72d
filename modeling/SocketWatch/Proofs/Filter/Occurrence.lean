import SocketWatch.Filter.Matching

namespace SocketWatch

namespace Text

def encoded (cs : List Char) : List UInt8 := cs.flatMap String.utf8EncodeChar

theorem eq_of_encodeChar_append {c d : Char} {s t : List UInt8}
    (h : String.utf8EncodeChar c ++ s = String.utf8EncodeChar d ++ t) : c = d := by
  have hdecode := congrArg (fun bytes => bytes.toByteArray.utf8DecodeChar? 0) h
  simpa [List.toByteArray_append, ByteArray.utf8DecodeChar?_utf8EncodeChar_append] using hdecode

theorem encoded_prefix_iff {w l : List Char} : encoded w <+: encoded l ↔ w <+: l := by
  constructor
  · intro h
    induction w generalizing l with
    | nil => exact List.nil_prefix
    | cons d w ih =>
      obtain ⟨after, h⟩ := h
      cases l with
      | nil => simp [encoded, String.utf8EncodeChar_ne_nil] at h
      | cons c l =>
        rw [encoded, encoded, List.flatMap_cons, List.flatMap_cons, List.append_assoc] at h
        obtain rfl := eq_of_encodeChar_append h
        exact (List.prefix_cons_inj d).mpr (ih ⟨after, List.append_cancel_left h⟩)
  · rintro ⟨after, rfl⟩
    exact ⟨encoded after, List.flatMap_append.symm⟩

theorem eq_nil_of_firstByte {c : Char} {before rest : List UInt8} {b : UInt8}
    (h : String.utf8EncodeChar c = before ++ b :: rest) (hb : b.IsUTF8FirstByte) :
    before = [] := by
  have hlt : before.length < (String.utf8EncodeChar c).length := by simp [h]
  have hget : (String.utf8EncodeChar c)[before.length] = b := by simp [h]
  rw [← hget, UInt8.isUTF8FirstByte_getElem_utf8EncodeChar] at hb
  exact List.eq_nil_of_length_eq_zero hb

theorem exists_firstByte (c : Char) : ∃ b rest, String.utf8EncodeChar c = b :: rest ∧
    b.IsUTF8FirstByte := by
  obtain ⟨b, rest, h⟩ := List.exists_cons_of_ne_nil (String.utf8EncodeChar_ne_nil (c := c))
  have hlt : 0 < (String.utf8EncodeChar c).length := by simp [h]
  have hget : (String.utf8EncodeChar c)[0] = b := by simp [h]
  exact ⟨b, rest, h, hget ▸ UInt8.isUTF8FirstByte_getElem_zero_utf8EncodeChar⟩

theorem encoded_infix_cons {w l : List Char} {c : Char}
    (h : encoded w <:+: encoded (c :: l)) :
    encoded w <+: encoded (c :: l) ∨ encoded w <:+: encoded l := by
  cases w with
  | nil => exact .inl List.nil_prefix
  | cons d w =>
    obtain ⟨before, after, h⟩ := h
    obtain ⟨b, rest, hd, hb⟩ := exists_firstByte d
    have hcons : before ++ (encoded (d :: w) ++ after) =
        String.utf8EncodeChar c ++ encoded l := by
      rw [← List.append_assoc, h, encoded, encoded, List.flatMap_cons]
    rcases List.append_eq_append_iff.mp hcons with ⟨later, hc, hlater⟩ | ⟨later, rfl, hlater⟩
    · cases later with
      | nil => exact .inr ⟨[], after, hlater⟩
      | cons b' later =>
        -- The literal would start inside of `c`, and does at its first byte only.
        obtain rfl : b = b' := by
          rw [encoded, List.flatMap_cons, hd] at hlater
          exact (List.cons.inj hlater).1
        obtain rfl := eq_nil_of_firstByte hc hb
        exact .inl ⟨after, h⟩
    · exact .inr ⟨later, after, by rw [List.append_assoc, ← hlater]⟩

theorem encoded_infix_iff {w l : List Char} : encoded w <:+: encoded l ↔ w <:+: l := by
  constructor
  · intro h
    induction l with
    | nil => exact (encoded_prefix_iff.mp (List.prefix_nil.mpr (List.infix_nil.mp h))).isInfix
    | cons c l ih =>
      rcases encoded_infix_cons h with hprefix | hinfix
      · exact (encoded_prefix_iff.mp hprefix).isInfix
      · exact List.infix_cons (ih hinfix)
  · rintro ⟨before, after, rfl⟩
    exact ⟨encoded before, encoded after, by simp [encoded]⟩

theorem lowerByte_of_le {b : UInt8} (h : 128 ≤ b.toNat) : lowerByte b = b := by
  rw [lowerByte, if_neg]
  rintro ⟨-, hle⟩
  rw [UInt8.le_iff_toNat_le] at hle
  exact absurd (Nat.le_trans h hle) (by decide)

theorem le_of_mem_encodeChar {c : Char} (h : 128 ≤ c.toNat) {b : UInt8}
    (hb : b ∈ String.utf8EncodeChar c) : 128 ≤ b.toNat := by
  have hle : ∀ n, 128 ≤ n → n < 256 → 128 ≤ (UInt8.ofNat n).toNat := by
    intro n hn hlt
    rwa [UInt8.toNat_ofNat_of_lt' hlt]
  have hval : ¬ c.val.toNat ≤ 127 := Nat.not_le.mpr h
  simp only [String.utf8EncodeChar, if_neg hval] at hb
  split at hb
  · simp only [List.mem_cons, List.not_mem_nil, or_false] at hb
    rcases hb with rfl | rfl <;> exact hle _ (by omega) (by omega)
  · split at hb
    · simp only [List.mem_cons, List.not_mem_nil, or_false] at hb
      rcases hb with rfl | rfl | rfl <;> exact hle _ (by omega) (by omega)
    · simp only [List.mem_cons, List.not_mem_nil, or_false] at hb
      rcases hb with rfl | rfl | rfl | rfl <;> exact hle _ (by omega) (by omega)

theorem toLower_of_le {c : Char} (h : 128 ≤ c.toNat) : c.toLower = c := by
  apply dif_neg
  rintro ⟨-, hle⟩
  rw [UInt32.le_iff_toNat_le] at hle
  exact absurd (Nat.le_trans h hle) (by decide)

theorem of_ascii {P : Char → Prop} (h : ∀ n ∈ List.range 128, P (Char.ofNat n)) {c : Char}
    (hc : c.toNat < 128) : P c := by
  have hn := h c.toNat (List.mem_range.mpr hc)
  rwa [Char.ofNat_toNat] at hn

theorem lowerByte_encodeChar (c : Char) :
    (String.utf8EncodeChar c).map lowerByte = String.utf8EncodeChar c.toLower := by
  by_cases h : c.toNat < 128
  · apply of_ascii _ h
    decide +kernel
  · rw [Nat.not_lt] at h
    have hsame : ∀ b ∈ String.utf8EncodeChar c, lowerByte b = b := fun b hb =>
      lowerByte_of_le (le_of_mem_encodeChar h hb)
    rw [toLower_of_le h, List.map_congr_left hsame, List.map_id']

theorem lowerByte_encoded (cs : List Char) :
    (encoded cs).map lowerByte = encoded (cs.map Char.toLower) := by
  rw [encoded, encoded, List.map_flatMap, List.flatMap_map]
  simp only [lowerByte_encodeChar]

theorem length_bytes (text : String) : (bytes text).length = text.utf8ByteSize := by
  rw [← String.size_toByteArray, ← String.utf8Encode_toList, List.utf8Encode,
    List.size_toByteArray, bytes]

theorem startsIgnoringAscii_iff {wanted bytes : List UInt8} :
    startsIgnoringAscii wanted bytes ↔ wanted.map lowerByte <+: bytes.map lowerByte := by
  fun_induction startsIgnoringAscii wanted bytes with
  | case1 => simp
  | case2 => simp
  | case3 a wanted b rest ih => simp [ih, List.cons_prefix_cons]

theorem occursIgnoringAscii_iff {wanted bytes : List UInt8} :
    occursIgnoringAscii wanted bytes ↔ wanted.map lowerByte <:+: bytes.map lowerByte := by
  induction bytes with
  | nil => simp [occursIgnoringAscii]
  | cons b bytes ih =>
    rw [occursIgnoringAscii, Bool.or_eq_true, startsIgnoringAscii_iff, ih, List.map_cons,
      List.infix_cons_iff]

end Text

namespace CaseMode

def letter : CaseMode → Char → Char
  | .exact => id
  | .ignoringAscii => Char.toLower

theorem occurs_bytes_iff {text literal : String} :
    ignoringAscii.occurs text literal ↔
      Text.occursIgnoringAscii (Text.bytes literal) (Text.bytes text) := by
  have hsize : Text.occursIgnoringAscii (Text.bytes literal) (Text.bytes text) →
      literal.utf8ByteSize ≤ text.utf8ByteSize := by
    intro h
    have hlength := (Text.occursIgnoringAscii_iff.mp h).length_le
    rwa [List.length_map, List.length_map, Text.length_bytes, Text.length_bytes] at hlength
  rw [occurs, Bool.and_eq_true, decide_eq_true_eq, and_iff_right_of_imp hsize]

theorem occurs_iff {mode : CaseMode} {text literal : String} :
    mode.occurs text literal ↔ literal.toList.map mode.letter <:+: text.toList.map mode.letter := by
  cases mode with
  | exact => simpa [letter] using occurs_exact_iff
  | ignoringAscii =>
    rw [occurs_bytes_iff]
    change Text.occursIgnoringAscii (Text.encoded literal.toList) (Text.encoded text.toList) ↔ _
    rw [Text.occursIgnoringAscii_iff, Text.lowerByte_encoded, Text.lowerByte_encoded,
      Text.encoded_infix_iff, letter]

end CaseMode

end SocketWatch
