import SocketWatch.Address.Basic
import SocketWatch.Proofs.Text.Numeral

namespace SocketWatch.Address

variable {rest : List Char}

namespace V4

theorem octet?_toDigits (octet : UInt8) (hrest : ∀ c ∈ rest.head?, Text.isDigit c = false) :
    octet? (Nat.toDigits 10 octet.toNat ++ rest) = some (octet, rest) := by
  have hdigits : ∀ c ∈ Nat.toDigits 10 octet.toNat, Text.isDigit c :=
    fun _ => Text.isDigit_of_mem_toDigits
  have hvalue : Text.valueOf 10 (Nat.toDigits 10 octet.toNat) = octet.toNat :=
    Text.valueOf_toDigits (by decide) (by decide) _
  have hsize : octet.toNat < 256 := octet.toNat_lt
  have hempty : (Nat.toDigits 10 octet.toNat).isEmpty = false := by
    simp [Nat.toDigits_ne_nil]
  have hlength : (Nat.toDigits 10 octet.toNat).length ≤ 3 :=
    (Nat.length_toDigits_le_iff (by decide) (by decide)).mpr (by omega)
  have hzero : 1 < (Nat.toDigits 10 octet.toNat).length →
      (Nat.toDigits 10 octet.toNat).head? ≠ some '0' := by
    intro hlong
    apply Text.head?_toDigits_ne_zero
    intro hnil
    rw [hnil] at hlong
    exact absurd hlong (by decide)
  have hfits : ¬(3 < (Nat.toDigits 10 octet.toNat).length) ∧ ¬(255 < octet.toNat) := by omega
  simp only [octet?, Text.takeWhile_append_of_stop hdigits hrest,
    Text.dropWhile_append_of_stop hdigits hrest, hvalue, hempty]
  simpa [hfits] using hzero

theorem print_eq (v : V4) : v.print = Nat.toDigits 10 v.a.toNat ++ '.' ::
    (Nat.toDigits 10 v.b.toNat ++ '.' :: (Nat.toDigits 10 v.c.toNat ++ '.' ::
      Nat.toDigits 10 v.d.toNat)) := by
  simp [print, octets, List.intercalate, List.intersperse]

theorem read?_print (v : V4) : read? v.print = some (v, []) := by
  have hlast : octet? (Nat.toDigits 10 v.d.toNat ++ []) = some (v.d, []) :=
    octet?_toDigits v.d (by simp)
  rw [List.append_nil] at hlast
  have hoctet (octet : UInt8) (text : List Char) :
      octet? (Nat.toDigits 10 octet.toNat ++ '.' :: text) = some (octet, '.' :: text) :=
    octet?_toDigits octet (by rintro c ⟨⟩; decide)
  simp [read?, print_eq, dotted?, hoctet, hlast]

theorem parse?_print (v : V4) : parse? v.print = some v := by
  rw [parse?, read?_print]

theorem read?_eq_none {text : List Char}
    (h : (text.dropWhile Text.isHexDigit).head? ≠ some '.') : read? text = none := by
  have hdot : (text.dropWhile Text.isDigit).head? ≠ some '.' := by
    -- Where decimal digits end, either the others go on or both end before the same character.
    induction text with
    | nil => simp
    | cons c text ih =>
      cases hc : Text.isDigit c with
      | true =>
        rw [List.dropWhile_cons_of_pos (Text.isHexDigit_of_isDigit hc)] at h
        rw [List.dropWhile_cons_of_pos hc]
        exact ih h
      | false =>
        rw [List.dropWhile_cons_of_neg (by simp [hc])]
        rintro ⟨⟩
        exact h rfl
  have hdotted : dotted? (text.dropWhile Text.isDigit) = none := by
    rw [dotted?.eq_def]
    split
    · next more heq => simp [heq] at hdot
    · rfl
  cases hoctet : octet? text with
  | none => simp [read?, hoctet]
  | some read =>
    obtain ⟨a, left⟩ := read
    have hleft : left = text.dropWhile Text.isDigit := by
      simp only [octet?] at hoctet
      split at hoctet
      · cases hoctet
      · simpa [eq_comm] using (Prod.mk.inj (Option.some.inj hoctet)).2
    simp [read?, hoctet, hleft, hdotted]

end V4

namespace V6

theorem toNat_join (high low : UInt8) : (join high low).toNat = high.toNat * 256 + low.toNat := by
  have hhigh := high.toNat_lt
  have hlow := low.toNat_lt
  have hshift := Nat.shiftLeft_add_eq_or_of_lt (show low.toNat < 2 ^ 8 from hlow) high.toNat
  have hfits : high.toNat <<< 8 < 65536 := by
    rw [Nat.shiftLeft_eq]
    omega
  simp only [join, UInt16.toNat_or, UInt16.toNat_shiftLeft, UInt8.toNat_toUInt16]
  rw [show (8 : UInt16).toNat % 16 = 8 from rfl, Nat.mod_eq_of_lt hfits, ← hshift,
    Nat.shiftLeft_eq]

theorem toNat_halves (group : UInt16) : (halves group).1.toNat = group.toNat / 256 ∧
    (halves group).2.toNat = group.toNat % 256 := by
  have hgroup := group.toNat_lt
  have hhigh : group.toNat / 256 < 256 := by omega
  simp [halves, Nat.shiftRight_eq_div_pow, Nat.mod_eq_of_lt hhigh]

theorem join_halves (group : UInt16) : join (halves group).1 (halves group).2 = group := by
  obtain ⟨hhigh, hlow⟩ := toNat_halves group
  apply UInt16.toNat_inj.mp
  rw [toNat_join, hhigh, hlow]
  omega

theorem halves_join (high low : UInt8) : halves (join high low) = (high, low) := by
  obtain ⟨hhigh, hlow⟩ := toNat_halves (join high low)
  have hsize : low.toNat < 256 := low.toNat_lt
  rw [toNat_join] at hhigh hlow
  have hfirst : (halves (join high low)).1 = high := UInt8.toNat_inj.mp (by omega)
  have hsecond : (halves (join high low)).2 = low := UInt8.toNat_inj.mp (by omega)
  exact Prod.ext hfirst hsecond

theorem groups_ofGroups {groups : List UInt16} (h : groups.length = 8) :
    (ofGroups groups).groups = groups := by
  simp [ofGroups, List.take_of_length_le (Nat.le_of_eq h), h]

theorem ofGroups_groups (v : V6) : ofGroups v.groups = v := by
  have hgroups := groups_ofGroups v.length_groups
  cases v
  simpa [ofGroups] using hgroups

theorem exists_longestZeros (groups : List UInt16) : ∃ before after,
    groups = before ++ (List.replicate (longestZeros groups).2 0 ++ after) ∧
      before.length = (longestZeros groups).1 := by
  induction groups with
  | nil => exact ⟨[], [], rfl, rfl⟩
  | cons group rest ih =>
    simp only [longestZeros]
    split
    · have hzeros : (group :: rest).takeWhile (· == 0) =
          List.replicate ((group :: rest).takeWhile (· == 0)).length 0 := by
        refine List.eq_replicate_iff.mpr ⟨rfl, fun g hg => ?_⟩
        exact eq_of_beq (List.all_eq_true.mp List.all_takeWhile g hg)
      refine ⟨[], (group :: rest).dropWhile (· == 0), ?_, rfl⟩
      rw [← hzeros, List.nil_append, List.takeWhile_append_dropWhile]
    · obtain ⟨before, after, hsplit, hstart⟩ := ih
      refine ⟨group :: before, after, ?_, ?_⟩
      · rw [List.cons_append, ← hsplit]
      · rw [List.length_cons, hstart]

section Reading

def Stops (rest : List Char) : Prop := ∀ c ∈ rest.head?, Text.isHexDigit c = false ∧ c ≠ '.'

theorem stops_nil : Stops [] := by simp [Stops]

theorem stops_colon (rest : List Char) : Stops (':' :: rest) := by
  rintro c ⟨⟩
  decide

theorem group?_hexText (group : UInt16) (hrest : Stops rest) :
    group? (Text.hexText group.toNat ++ rest) = some (group, rest) := by
  have hdigits : ∀ c ∈ Text.hexText group.toNat, Text.isHexDigit c :=
    fun _ => Text.isHexDigit_of_mem_hexText
  have hstop : ∀ c ∈ rest.head?, Text.isHexDigit c = false := fun c hc => (hrest c hc).1
  have hvalue : Text.valueOf 16 (Text.hexText group.toNat) = group.toNat :=
    Text.valueOf_toDigits (by decide) (by decide) _
  have hsize : group.toNat < 65536 := group.toNat_lt
  have hempty : (Text.hexText group.toNat).isEmpty = false := by
    simp [Text.hexText, Nat.toDigits_ne_nil]
  have hlength : ¬ 4 < (Text.hexText group.toNat).length :=
    Nat.not_lt.mpr ((Nat.length_toDigits_le_iff (by decide) (by decide)).mpr (by omega))
  simp only [group?, Text.takeWhile_append_of_stop hdigits hstop,
    Text.dropWhile_append_of_stop hdigits hstop, hvalue, hempty]
  simp [hlength]

theorem read?_hexText (group : UInt16) (hrest : Stops rest) :
    V4.read? (Text.hexText group.toNat ++ rest) = none := by
  have hdigits : ∀ c ∈ Text.hexText group.toNat, Text.isHexDigit c :=
    fun _ => Text.isHexDigit_of_mem_hexText
  apply V4.read?_eq_none
  rw [Text.dropWhile_append_of_stop hdigits fun c hc => (hrest c hc).1]
  exact fun hdot => (hrest '.' hdot).2 rfl

variable {limit : Nat}

theorem readGroups_first (group : UInt16) (hrest : Stops rest) :
    readGroups true (Text.hexText group.toNat ++ rest) (limit + 1) =
      { readGroups false rest limit with
        groups := group :: (readGroups false rest limit).groups } := by
  simp [readGroups, read?_hexText group hrest, group?_hexText group hrest]

theorem readGroups_next (group : UInt16) (hrest : Stops rest) :
    readGroups false (':' :: (Text.hexText group.toNat ++ rest)) (limit + 1) =
      { readGroups false rest limit with
        groups := group :: (readGroups false rest limit).groups } := by
  simp [readGroups, read?_hexText group hrest, group?_hexText group hrest]

def Ends (rest : List Char) : Prop := rest = [] ∨ ∃ text, rest = ':' :: ':' :: text

theorem Ends.stops (h : Ends rest) : Stops rest := by
  rcases h with rfl | ⟨text, rfl⟩
  · exact stops_nil
  · exact stops_colon _

theorem Ends.readGroups_eq (first : Bool) (h : Ends rest) :
    readGroups first rest limit = { rest } := by
  have hread (text : List Char) : V4.read? (':' :: text) = none :=
    V4.read?_eq_none (by simp [show Text.isHexDigit ':' = false by decide])
  have hgroup (text : List Char) : group? (':' :: text) = none := by
    simp [group?, show Text.isHexDigit ':' = false by decide]
  have hread_nil : V4.read? [] = none := V4.read?_eq_none (by simp)
  have hgroup_nil : group? [] = none := rfl
  cases limit with
  | zero => rfl
  | succ limit =>
    rcases h with rfl | ⟨text, rfl⟩ <;> cases first <;>
      simp [readGroups, hread, hgroup, hread_nil, hgroup_nil]

def printMore (groups : List UInt16) : List Char :=
  groups.flatMap fun group => ':' :: Text.hexText group.toNat

theorem printGroups_cons (group : UInt16) (groups : List UInt16) :
    printGroups (group :: groups) = Text.hexText group.toNat ++ printMore groups := by
  induction groups generalizing group with
  | nil => simp [printGroups, printMore, List.intercalate]
  | cons next groups ih =>
    have hnext := ih next
    simp only [printGroups, printMore, List.map_cons, List.intercalate_cons_cons,
      List.flatMap_cons, List.append_assoc] at hnext ⊢
    rw [hnext]
    rfl

theorem Stops.printMore_append (h : Stops rest) (groups : List UInt16) :
    Stops (printMore groups ++ rest) := by
  cases groups with
  | nil => exact h
  | cons group groups => exact stops_colon _

theorem readGroups_printMore {groups : List UInt16} (hlimit : groups.length ≤ limit)
    (h : Ends rest) : readGroups false (printMore groups ++ rest) limit = { groups, rest } := by
  induction groups generalizing limit with
  | nil => exact h.readGroups_eq false
  | cons group groups ih =>
    obtain ⟨limit, rfl⟩ := Nat.exists_eq_add_of_le' (Nat.lt_of_lt_of_le (Nat.succ_pos _) hlimit)
    have hmore := ih (Nat.le_of_succ_le_succ hlimit)
    have hprint : printMore (group :: groups) ++ rest =
        ':' :: (Text.hexText group.toNat ++ (printMore groups ++ rest)) := by
      simp [printMore]
    rw [hprint, readGroups_next group (h.stops.printMore_append groups), hmore]

theorem readGroups_printGroups {groups : List UInt16} (hlimit : groups.length ≤ limit)
    (h : Ends rest) : readGroups true (printGroups groups ++ rest) limit = { groups, rest } := by
  cases groups with
  | nil => exact h.readGroups_eq true
  | cons group groups =>
    obtain ⟨limit, rfl⟩ := Nat.exists_eq_add_of_le' (Nat.lt_of_lt_of_le (Nat.succ_pos _) hlimit)
    have hmore := readGroups_printMore (Nat.le_of_succ_le_succ hlimit) h
    rw [printGroups_cons, List.append_assoc,
      readGroups_first group (h.stops.printMore_append groups), hmore]

theorem readGroups_all {groups : List UInt16} (hlimit : groups.length ≤ limit) :
    readGroups true (printGroups groups) limit = { groups, rest := [] } := by
  have hread := readGroups_printGroups hlimit (.inl rfl)
  rwa [List.append_nil] at hread

theorem readGroups_dotted (v : V4) :
    readGroups false (':' :: v.print) (limit + 2) =
      { groups := [join v.a v.b, join v.c v.d], dotted := true, rest := [] } := by
  simp [readGroups, V4.read?_print]

end Reading

theorem parse?_printGroups (v : V6) : parse? (printGroups v.groups) = some v := by
  have hread := readGroups_all (Nat.le_of_eq v.length_groups)
  simp [parse?, hread, v.length_groups, ofGroups_groups]

theorem parse?_zeros {before after : List UInt16} {length : Nat}
    (h : before.length + length + after.length = 8) (hlength : 0 < length) :
    parse? (printGroups before ++ "::".toList ++ printGroups after) =
      some (ofGroups (before ++ (List.replicate length 0 ++ after))) := by
  have hlimit : before.length ≤ 8 := by omega
  have hroom : after.length ≤ 7 - before.length := by omega
  have hfront := readGroups_printGroups hlimit (.inr ⟨printGroups after, rfl⟩)
  have hback := readGroups_all hroom
  have hshort : before.length ≠ 8 := by omega
  have hzeros : 8 - before.length - after.length = length := by omega
  simp [parse?, hfront, hback, hshort, hzeros]

theorem parse?_dotted (g h : UInt16) (v : V4) (hg : join v.a v.b = g) (hh : join v.c v.d = h) :
    parse? ("::ffff:".toList ++ v.print) = some (ofGroups [0, 0, 0, 0, 0, 0xFFFF, g, h]) := by
  let text := Text.hexText (0xFFFF : UInt16).toNat ++ ':' :: v.print
  have htext : "::ffff:".toList ++ v.print = ':' :: ':' :: text := rfl
  have hfront : readGroups true (':' :: ':' :: text) 8 = { rest := ':' :: ':' :: text } :=
    Ends.readGroups_eq true (.inr ⟨text, rfl⟩)
  have hback : readGroups true text (6 + 1) =
      { groups := [0xFFFF, join v.a v.b, join v.c v.d], dotted := true, rest := [] } := by
    rw [readGroups_first 0xFFFF (stops_colon v.print), readGroups_dotted]
  have hseven : 7 - ([] : List UInt16).length = 6 + 1 := rfl
  rw [htext, parse?]
  simp only [hfront, hseven, hback, hg, hh]
  rfl

theorem parse?_print (v : V6) : parse? v.print = some v := by
  -- The three forms: dotted at the end, with a run of zeros left out, and in full.
  rw [print.eq_def]
  split
  · next g h hgroups =>
    have hread := parse?_dotted g h ⟨(halves g).1, (halves g).2, (halves h).1, (halves h).2⟩
      (join_halves g) (join_halves h)
    rwa [← hgroups, ofGroups_groups] at hread
  · obtain ⟨before, after, hsplit, hstart⟩ := exists_longestZeros v.groups
    split
    · next start length hlongest =>
      simp only [hlongest] at hsplit hstart
      split
      · next hlength =>
        have htake : v.groups.take start = before := by
          rw [hsplit, ← hstart, List.take_left]
        have hdrop : v.groups.drop (start + length) = after := by
          rw [hsplit, ← hstart, ← List.append_assoc]
          exact List.drop_left' (by simp)
        have hsize : before.length + length + after.length = 8 := by
          rw [← v.length_groups, hsplit]
          simp
          omega
        rw [htake, hdrop, parse?_zeros hsize (by omega), ← hsplit, ofGroups_groups]
      · exact parse?_printGroups v

end V6

end SocketWatch.Address
