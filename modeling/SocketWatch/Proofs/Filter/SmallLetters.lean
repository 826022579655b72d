import SocketWatch.Proofs.Filter.Literals
import SocketWatch.Proofs.Filter.Occurrence

namespace SocketWatch

namespace Text

def small (text : String) : String := text.map Char.toLower

theorem toList_small (text : String) : (small text).toList = text.toList.map Char.toLower :=
  String.toList_map

theorem eq_append_of_encoded {cs : List Char} {before after : List UInt8} {b : UInt8}
    (hb : b.IsUTF8FirstByte) (h : encoded cs = before ++ b :: after) :
    ∃ head tail, cs = head ++ tail ∧ encoded head = before ∧ encoded tail = b :: after := by
  induction cs generalizing before with
  | nil => simp [encoded] at h
  | cons c cs ih =>
    have hcons : String.utf8EncodeChar c ++ encoded cs = before ++ b :: after := by
      rw [← h, encoded, encoded, List.flatMap_cons]
    rcases List.append_eq_append_iff.mp hcons with ⟨later, rfl, hlater⟩ | ⟨later, hc, hlater⟩
    · obtain ⟨head, tail, rfl, rfl, htail⟩ := ih hlater
      exact ⟨c :: head, tail, rfl, by rw [encoded, encoded, List.flatMap_cons], htail⟩
    · cases later with
      | nil =>
        rw [List.append_nil] at hc
        refine ⟨[c], cs, rfl, ?_, by simpa using hlater.symm⟩
        rw [encoded, List.flatMap_singleton, hc]
      | cons b' later =>
        obtain ⟨rfl, -⟩ := List.cons.inj hlater
        obtain rfl := eq_nil_of_firstByte hc hb
        exact ⟨[], c :: cs, rfl, rfl, h⟩

theorem encoded_append (cs ds : List Char) : encoded (cs ++ ds) = encoded cs ++ encoded ds :=
  List.flatMap_append

theorem exists_firstByte_of_prefix {cs : List Char} (hne : cs ≠ []) {bytes : List UInt8}
    (h : encoded cs <+: bytes) : ∃ b rest, bytes = b :: rest ∧ b.IsUTF8FirstByte := by
  obtain ⟨c, more, rfl⟩ := List.exists_cons_of_ne_nil hne
  obtain ⟨b, rest, hc, hb⟩ := exists_firstByte c
  obtain ⟨after, rfl⟩ := h
  exact ⟨b, rest ++ (encoded more ++ after), by simp [encoded, hc], hb⟩

theorem exists_found {text literal : List Char} {before rest : List UInt8} (hne : literal ≠ [])
    (htext : encoded text = before ++ rest)
    (hstarts : startsIgnoringAscii (encoded literal) rest) :
    ∃ head found tail, text = head ++ (found ++ tail) ∧ encoded head = before ∧
      encoded (found ++ tail) = rest ∧ found.map Char.toLower = literal.map Char.toLower := by
  rw [startsIgnoringAscii_iff, lowerByte_encoded] at hstarts
  have hsmall : encoded (text.map Char.toLower) = before.map lowerByte ++ rest.map lowerByte := by
    rw [← lowerByte_encoded, htext, List.map_append]
  obtain ⟨b, after, hrest, hb⟩ := exists_firstByte_of_prefix (by simpa using hne) hstarts
  rw [hrest] at hsmall
  obtain ⟨head', tail', hsplit, hhead, htail⟩ := eq_append_of_encoded hb hsmall
  obtain ⟨head, tail, rfl, rfl, rfl⟩ := List.map_eq_append_iff.mp hsplit
  have hlength : (encoded head).length = before.length := by
    rw [← lowerByte_encoded] at hhead
    simpa using congrArg List.length hhead
  rw [encoded_append] at htext
  obtain ⟨hbefore, rfl⟩ := List.append_inj htext hlength
  rw [hrest, ← htail, encoded_prefix_iff] at hstarts
  obtain ⟨more, hmore⟩ := hstarts
  obtain ⟨found, tail, rfl, hfound, -⟩ := List.map_eq_append_iff.mp hmore.symm
  exact ⟨head, found, tail, rfl, hbefore, rfl, hfound⟩

theorem startsIgnoringAscii_at_iff {text literal : List Char} {before rest : List UInt8}
    (hne : literal ≠ []) (htext : encoded text = before ++ rest) :
    startsIgnoringAscii (encoded literal) rest ↔
      ∃ head found tail, text = head ++ (found ++ tail) ∧ encoded head = before ∧
        encoded found = rest.take (encoded literal).length ∧
        found.map Char.toLower = literal.map Char.toLower := by
  have hsize {found : List Char} (h : found.map Char.toLower = literal.map Char.toLower) :
      (encoded found).length = (encoded literal).length := by
    have hbytes := congrArg (List.length ∘ encoded) h
    simpa [← lowerByte_encoded] using hbytes
  constructor
  · intro hstarts
    obtain ⟨head, found, tail, hsplit, hhead, rfl, hfound⟩ := exists_found hne htext hstarts
    refine ⟨head, found, tail, hsplit, hhead, ?_, hfound⟩
    rw [encoded_append, ← hsize hfound, List.take_left]
  · rintro ⟨head, found, tail, rfl, rfl, -, hfound⟩
    rw [encoded_append, List.append_cancel_left_eq] at htext
    rw [startsIgnoringAscii_iff, lowerByte_encoded, ← hfound, ← htext, lowerByte_encoded,
      List.map_append, encoded_append]
    exact List.prefix_append _ _

theorem occursIgnoringAscii_iff_starts {wanted bytes : List UInt8} :
    occursIgnoringAscii wanted bytes ↔
      ∃ before rest, bytes = before ++ rest ∧ startsIgnoringAscii wanted rest := by
  simp only [startsIgnoringAscii_iff, occursIgnoringAscii_iff]
  constructor
  · rintro ⟨small, after, h⟩
    rw [List.append_assoc] at h
    obtain ⟨before, rest, rfl, -, hrest⟩ := List.map_eq_append_iff.mp h.symm
    exact ⟨before, rest, rfl, after, hrest.symm⟩
  · rintro ⟨before, rest, rfl, hprefix⟩
    rw [List.map_append]
    exact hprefix.isInfix.trans (List.suffix_append _ _).isInfix

end Text

theorem CaseMode.occurs_small (text literal : String) :
    ignoringAscii.occurs text literal = exact.occurs (Text.small text) (Text.small literal) := by
  rw [Bool.eq_iff_iff, occurs_iff, occurs_exact_iff, Text.toList_small, Text.toList_small]
  rfl

theorem CaseMode.occurs_empty (mode : CaseMode) (text : String) : mode.occurs text "" := by
  rw [occurs_iff]
  exact (List.nil_prefix).isInfix

theorem CaseMode.occurs_of_longer (mode : CaseMode) {text literal : String}
    (h : text.utf8ByteSize < literal.utf8ByteSize) : mode.occurs text literal = false := by
  simp only [occurs, decide_eq_false (Nat.not_le.mpr h), Bool.false_and]

/-- A filter whose literals are looked for whatever their case passes what it passes with small
letters on both sides. A literal is found where a window of the bytes matches it, and the bytes of
such a window are those of whole characters. -/
theorem Filter.passes_small (f : Filter) (text : String) :
    f.passes text .ignoringAscii = (f.mapTexts Text.small).passes (Text.small text) .exact ∧
      ∀ literal : String,
        (CaseMode.ignoringAscii.occurs text literal ↔
          ∃ before rest, Text.bytes text = before ++ rest ∧
            Text.startsIgnoringAscii (Text.bytes literal) rest) ∧
        (literal = "" → CaseMode.ignoringAscii.occurs text literal) ∧
        (text.utf8ByteSize < literal.utf8ByteSize →
          CaseMode.ignoringAscii.occurs text literal = false) ∧
        ∀ before rest, literal ≠ "" → Text.bytes text = before ++ rest →
          (Text.startsIgnoringAscii (Text.bytes literal) rest ↔
            ∃ head found tail, text.toList = head ++ (found ++ tail) ∧
              Text.encoded head = before ∧
              Text.encoded found = rest.take (Text.bytes literal).length ∧
              found.map Char.toLower = literal.toList.map Char.toLower) := by
  refine ⟨?_, fun literal => ⟨?_, ?_, CaseMode.occurs_of_longer _, ?_⟩⟩
  · rw [passes, passes, holds_mapTexts]
    congr 1
    funext literal
    exact CaseMode.occurs_small text literal
  · rw [CaseMode.occurs_bytes_iff, Text.occursIgnoringAscii_iff_starts]
  · rintro rfl
    exact CaseMode.occurs_empty _ text
  · intro before rest hne htext
    exact Text.startsIgnoringAscii_at_iff (by simpa using hne) htext

theorem Filter.passes_small_of_diaeresis :
    let f : Filter := .chain (.literal true "OË") (.next .and (.literal false "Oë") .done)
    let text := "Zoë"
    f.passes text .ignoringAscii ∧ (f.mapTexts Text.small).passes (Text.small text) .exact ∧
      CaseMode.ignoringAscii.occurs text "" ∧
      text.utf8ByteSize < "zoology".utf8ByteSize ∧
      CaseMode.ignoringAscii.occurs text "zoology" = false ∧
      "Oë" ≠ "" ∧ Text.bytes text = [90] ++ [111, 195, 171] ∧
      ∃ head found tail, text.toList = head ++ (found ++ tail) ∧ Text.encoded head = [90] ∧
        Text.encoded found = [111, 195, 171] ∧ found.map Char.toLower = ['o', 'ë'] := by
  intro f text
  obtain ⟨hpasses, hliteral⟩ := passes_small f text
  have hfound : f.passes text .ignoringAscii := by decide +kernel
  have hlonger : text.utf8ByteSize < "zoology".utf8ByteSize := by decide
  have hne : "Oë" ≠ "" := by decide
  have hbytes : Text.bytes text = [90] ++ [111, 195, 171] := by decide +kernel
  have hstarts : Text.startsIgnoringAscii (Text.bytes "Oë") [111, 195, 171] := by decide +kernel
  refine ⟨hfound, hpasses ▸ hfound, (hliteral "").2.1 rfl, hlonger,
    (hliteral "zoology").2.2.1 hlonger, hne, hbytes, ?_⟩
  exact ((hliteral "Oë").2.2.2 _ _ hne hbytes).mp hstarts

end SocketWatch
