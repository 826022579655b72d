import SocketWatch.Proofs.Address.Order
import SocketWatch.Proofs.Snapshot.KernelLine

namespace SocketWatch

namespace Address

def bigEndian (octets : List UInt8) : Nat :=
  octets.foldl (fun n octet => n * 256 + octet.toNat) 0

theorem bigEndian_concat (octets : List UInt8) (octet : UInt8) :
    bigEndian (octets ++ [octet]) = bigEndian octets * 256 + octet.toNat := by
  simp [bigEndian]

theorem eq_of_bigEndian_eq {l m : List UInt8} (hlength : l.length = m.length)
    (h : bigEndian l = bigEndian m) : l = m := by
  induction l using List.reverseRecOn generalizing m with
  | nil => exact (List.length_eq_zero_iff.mp hlength.symm).symm
  | append_singleton l a ih =>
    rcases List.eq_nil_or_concat m with rfl | ⟨m, b, rfl⟩
    · simp at hlength
    · rw [List.concat_eq_append] at hlength h ⊢
      rw [bigEndian_concat, bigEndian_concat] at h
      have ha := a.toNat_lt
      have hb := b.toNat_lt
      have hrest : bigEndian l = bigEndian m := by omega
      have hlast : a.toNat = b.toNat := by omega
      rw [ih (by simpa using hlength) hrest, UInt8.toNat_inj.mp hlast]

theorem V4.value_eq (v : V4) : v.value = bigEndian v.octets := rfl

theorem V6.value_eq (v : V6) : v.value = bigEndian v.octets := by
  have hfold (groups : List UInt16) (n : Nat) :
      (groups.flatMap fun group => [(halves group).1, (halves group).2]).foldl
        (fun n octet => n * 256 + octet.toNat) n =
          groups.foldl (fun n group => n * 65536 + group.toNat) n := by
    induction groups generalizing n with
    | nil => rfl
    | cons group groups ih =>
      obtain ⟨hhigh, hlow⟩ := toNat_halves group
      have hnumber : (n * 256 + (halves group).1.toNat) * 256 + (halves group).2.toNat =
          n * 65536 + group.toNat := by omega
      rw [List.flatMap_cons, List.foldl_append, List.foldl_cons, List.foldl_cons, List.foldl_nil,
        hnumber, ih, List.foldl_cons]
  exact (hfold v.groups 0).symm

theorem V4.value_injective : Function.Injective V4.value := by
  intro v w h
  have hoctets : v.octets = w.octets := eq_of_bigEndian_eq rfl h
  cases v
  cases w
  simpa [octets] using hoctets

theorem V6.value_injective : Function.Injective V6.value := by
  intro v w h
  rw [value_eq, value_eq] at h
  have hlength : v.octets.length = w.octets.length := by
    rw [KernelTable.length_octets_v6, KernelTable.length_octets_v6]
  have hoctets := eq_of_bigEndian_eq hlength h
  rw [← ofGroups_groups v, ← KernelTable.groups_octets, hoctets, KernelTable.groups_octets,
    ofGroups_groups]

theorem long_of_parse? {a : String}
    (h : (V4.parse? a.toList).isSome ∨ (V6.parse? a.toList).isSome) : ¬IsShort a ∧ "*" < a := by
  rcases regular_of_parse? h with rfl | rfl | ⟨hlong, hle⟩
  · exact absurd h (by decide)
  · exact absurd h (by decide)
  · exact ⟨hlong, lt_of_le_of_ne hle (ne_of_short (by decide) hlong)⟩

def V4.text (v : V4) : String := String.ofList v.print

def V6.text (v : V6) : String := String.ofList v.print

theorem V4.parse?_text (v : V4) : V4.parse? v.text.toList = some v := by
  rw [text, String.toList_ofList, parse?_print]

theorem V6.parse?_text (v : V6) : V6.parse? v.text.toList = some v := by
  rw [text, String.toList_ofList, parse?_print]

theorem V4.long_text (v : V4) : ¬IsShort v.text ∧ "*" < v.text :=
  long_of_parse? (.inl (by rw [parse?_text, Option.isSome_some]))

theorem V6.long_text (v : V6) : ¬IsShort v.text ∧ "*" < v.text :=
  long_of_parse? (.inr (by rw [parse?_text, Option.isSome_some]))

theorem V4.contains_text (v : V4) : v.text.contains ':' = false := by
  have hdigits (octet : UInt8) : ':' ∉ Nat.toDigits 10 octet.toNat := by
    intro hmem
    exact absurd (Text.isDigit_of_mem_toDigits hmem) (by decide)
  rw [String.contains_char_eq, text, String.toList_ofList, print_eq]
  simp [hdigits]

theorem V6.colon_mem_printGroups {groups : List UInt16} (h : 1 < groups.length) :
    ':' ∈ printGroups groups := by
  cases groups with
  | nil => simp at h
  | cons group more =>
    cases more with
    | nil => simp at h
    | cons next more =>
      rw [printGroups_cons, printMore]
      simp

theorem V6.contains_text (v : V6) : v.text.contains ':' = true := by
  rw [String.contains_char_eq, text, String.toList_ofList, decide_eq_true_iff, print.eq_def]
  split
  · simp
  · split
    split
    · simp
    · apply colon_mem_printGroups
      rw [v.length_groups]
      decide

theorem V4.number_text (v : V4) : number v.text = v.value := by
  rw [number, contains_text, if_neg (by decide), v4Value, parse?_text, Option.elim_some]

theorem V6.number_text (v : V6) : number v.text = v.value := by
  rw [number, contains_text, if_pos rfl, v6Value, parse?_text, Option.elim_some]

theorem compare_any {a : String} (h : "*" < a) : compare "*" a = .lt := by
  rw [compare_of_short (.inl (by decide))]
  exact compare_lt_iff_lt.mpr h

theorem compare_of_same_version {a b : String} (ha : ¬IsShort a) (hb : ¬IsShort b)
    (hversion : a.contains ':' = b.contains ':') :
    compare a b = Ord.compare (number a) (number b) := by
  rw [compare_of_long ha hb, compareNumbers, compareLex, compareOn, compareOn, hversion]
  have hsame : Ord.compare (b.contains ':') (b.contains ':') = .eq := Std.ReflOrd.compare_self
  rw [hsame, Ordering.eq_then]

theorem V4.compare_text (v w : V4) : compare v.text w.text = Ord.compare v.value w.value := by
  have hversion : v.text.contains ':' = w.text.contains ':' := by
    rw [contains_text, contains_text]
  rw [compare_of_same_version v.long_text.1 w.long_text.1 hversion, number_text, number_text]

theorem V6.compare_text (v w : V6) : compare v.text w.text = Ord.compare v.value w.value := by
  have hversion : v.text.contains ':' = w.text.contains ':' := by
    rw [contains_text, contains_text]
  rw [compare_of_same_version v.long_text.1 w.long_text.1 hversion, number_text, number_text]

theorem compare_versions (v : V4) (w : V6) : compare v.text w.text = .lt := by
  rw [compare_of_long v.long_text.1 w.long_text.1, compareNumbers, compareLex, compareOn,
    V4.contains_text, V6.contains_text]
  rfl

inductive Meaning where
  | any
  | v4 (v : V4)
  | v6 (v : V6)

namespace Meaning

def text : Meaning → String
  | any => "*"
  | v4 v => v.text
  | v6 v => v.text

def version : Meaning → Nat
  | any => 0
  | v4 _ => 4
  | v6 _ => 6

def number : Meaning → Nat
  | any => 0
  | v4 v => v.value
  | v6 v => v.value

theorem compare_text : ∀ a b : Meaning, compare a.text b.text =
    (Ord.compare a.version b.version).then (Ord.compare a.number b.number)
  | any, any => Std.ReflCmp.compare_self
  | any, v4 w => compare_any w.long_text.2
  | any, v6 w => compare_any w.long_text.2
  | v4 v, any => Std.OrientedCmp.gt_of_lt (compare_any v.long_text.2)
  | v4 v, v4 w => V4.compare_text v w
  | v4 v, v6 w => compare_versions v w
  | v6 v, any => Std.OrientedCmp.gt_of_lt (compare_any v.long_text.2)
  | v6 v, v4 w => Std.OrientedCmp.gt_of_lt (compare_versions w v)
  | v6 v, v6 w => V6.compare_text v w

theorem eq_of_number_eq {a b : Meaning} (hversion : a.version = b.version)
    (hnumber : a.number = b.number) : a = b := by
  cases a <;> cases b <;> simp [version] at hversion
  · rfl
  · rw [V4.value_injective hnumber]
  · rw [V6.value_injective hnumber]

end Meaning

end Address

namespace KernelTable

open Address

structure AddressField where
  digits : List Char
  hex : IsHex 8 digits ∨ IsHex 32 digits

namespace AddressField

variable (f g : AddressField)

def text : String := String.ofList (addressText f.digits)

def version : Nat :=
  if f.digits.all (· == '0') then 0 else if f.digits.length = 8 then 4 else 6

def number : Nat := bigEndian (turnWords (digitOctets f.digits))

theorem length_digits : f.digits.length = 8 ∨ f.digits.length = 32 :=
  f.hex.imp And.left And.left

theorem length_turned :
    (turnWords (digitOctets f.digits)).length = f.digits.length / 8 * 4 := by
  rw [← octets_eq, length_octets]

theorem number_of_zeros (h : ∀ c ∈ f.digits, c = '0') : f.number = 0 := by
  have hdigits : f.digits = List.replicate f.digits.length '0' :=
    List.eq_replicate_iff.mpr ⟨rfl, h⟩
  rcases f.length_digits with hlength | hlength <;> rw [number, hdigits, hlength] <;> decide

theorem exists_meaning : ∃ a : Meaning,
    f.text = a.text ∧ f.version = a.version ∧ f.number = a.number := by
  have hshown := shown_addressText f.length_digits
  have hlength := f.length_turned
  generalize htext : addressText f.digits = shown at hshown
  cases hshown with
  | any hzero =>
    refine ⟨.any, by rw [text, htext]; rfl, ?_, f.number_of_zeros hzero⟩
    exact if_pos (by simpa using hzero)
  | @v4 v hother hoctets =>
    refine ⟨.v4 v, by rw [text, htext]; rfl, ?_, by rw [number, ← hoctets]; rfl⟩
    have hsize : v.octets.length = 4 := rfl
    rw [← hoctets, hsize] at hlength
    rw [version, if_neg (by simpa using hother), if_pos]
    · rfl
    · have hdigits := f.length_digits
      omega
  | @v6 v hother hoctets =>
    refine ⟨.v6 v, by rw [text, htext]; rfl, ?_, by rw [number, ← hoctets, ← V6.value_eq]; rfl⟩
    rw [← hoctets, length_octets_v6] at hlength
    rw [version, if_neg (by simpa using hother), if_neg]
    · rfl
    · omega

theorem compare_text : Address.compare f.text g.text =
    (Ord.compare f.version g.version).then (Ord.compare f.number g.number) := by
  obtain ⟨a, hf, hversion, hnumber⟩ := f.exists_meaning
  obtain ⟨b, hg, hother, hm⟩ := g.exists_meaning
  rw [hf, hg, hversion, hother, hnumber, hm]
  exact a.compare_text b

theorem compare_text_eq_iff : Address.compare f.text g.text = .eq ↔ f.text = g.text := by
  constructor
  · intro h
    rw [compare_text, Ordering.then_eq_eq] at h
    obtain ⟨a, hf, hversion, hnumber⟩ := f.exists_meaning
    obtain ⟨b, hg, hother, hm⟩ := g.exists_meaning
    rw [hversion, hother, hnumber, hm] at h
    rw [hf, hg, Meaning.eq_of_number_eq (Nat.compare_eq_eq.mp h.1) (Nat.compare_eq_eq.mp h.2)]
  · intro h
    rw [h]
    exact Std.ReflCmp.compare_self

theorem compare_text_trans {f g h : AddressField} (hfg : Address.compare f.text g.text = .lt)
    (hgh : Address.compare g.text h.text = .lt) : Address.compare f.text h.text = .lt := by
  let byNumber : AddressField → AddressField → Ordering :=
    compareLex (compareOn version) (compareOn number)
  have htrans : Std.TransCmp byNumber := inferInstanceAs (Std.TransCmp (compareLex _ _))
  rw [compare_text] at hfg hgh ⊢
  exact htrans.lt_trans hfg hgh

theorem spells : f.text = "*" ∧ f.version = 0 ∨
    (∃ v, V4.parse? f.text.toList = some v ∧ f.version = 4 ∧ f.number = v.value) ∨
    ∃ v, V6.parse? f.text.toList = some v ∧ f.version = 6 ∧ f.number = v.value := by
  obtain ⟨a, htext, hversion, hnumber⟩ := f.exists_meaning
  rw [htext, hversion, hnumber]
  cases a with
  | any => exact .inl ⟨rfl, rfl⟩
  | v4 v => exact .inr (.inl ⟨v, v.parse?_text, rfl, rfl⟩)
  | v6 v => exact .inr (.inr ⟨v, v.parse?_text, rfl, rfl⟩)

/-- The addresses of tables are in a strict order, in which only a text equals itself. Any address
comes first, then those of version 4, then those of version 6, and both versions by the number that
is spelt. -/
theorem compare_sorts_by_number :
    (∀ f g : AddressField, Address.compare f.text g.text = .eq ↔ f.text = g.text) ∧
    (∀ f g : AddressField,
      Address.compare g.text f.text = (Address.compare f.text g.text).swap) ∧
    (∀ f g h : AddressField, Address.compare f.text g.text = .lt →
      Address.compare g.text h.text = .lt → Address.compare f.text h.text = .lt) ∧
    (∀ f g : AddressField, Address.compare f.text g.text =
      (Ord.compare f.version g.version).then (Ord.compare f.number g.number)) ∧
    ∀ f : AddressField, f.text = "*" ∧ f.version = 0 ∨
      (∃ v, V4.parse? f.text.toList = some v ∧ f.version = 4 ∧ f.number = v.value) ∨
      ∃ v, V6.parse? f.text.toList = some v ∧ f.version = 6 ∧ f.number = v.value := by
  refine ⟨compare_text_eq_iff, fun f g => Std.OrientedCmp.eq_swap, ?_, compare_text, spells⟩
  intro f g h
  exact compare_text_trans

theorem compare_sorts_by_number_of_mapped :
    let high : AddressField := ⟨"010000FF".toList, .inl ⟨rfl, List.all_eq_true.mp (by decide)⟩⟩
    let own : AddressField :=
      ⟨"00000000000000000000000001000000".toList, .inr ⟨rfl, List.all_eq_true.mp (by decide)⟩⟩
    let mapped : AddressField :=
      ⟨"0000000000000000FFFF00000100007F".toList, .inr ⟨rfl, List.all_eq_true.mp (by decide)⟩⟩
    high.text = "255.0.0.1" ∧ own.text = "::1" ∧ mapped.text = "::ffff:127.0.0.1" ∧
      Address.compare high.text own.text = .lt ∧ Address.compare own.text mapped.text = .lt ∧
      Address.compare high.text mapped.text = .lt := by
  intro high own mapped
  obtain ⟨-, -, htrans, hnumber, -⟩ := compare_sorts_by_number
  have hfirst : Address.compare high.text own.text = .lt := by
    rw [hnumber]
    decide
  have hsecond : Address.compare own.text mapped.text = .lt := by
    rw [hnumber]
    decide
  exact ⟨by decide +kernel, by decide +kernel, by decide +kernel, hfirst, hsecond,
    htrans _ _ _ hfirst hsecond⟩

end AddressField

end KernelTable

end SocketWatch
