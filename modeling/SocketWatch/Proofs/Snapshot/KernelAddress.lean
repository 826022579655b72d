import SocketWatch.Snapshot.KernelTable
import SocketWatch.Proofs.Address.RoundTrip

namespace SocketWatch

namespace Address.V6

def octets (v : V6) : List UInt8 :=
  v.groups.flatMap fun group => [(halves group).1, (halves group).2]

end Address.V6

namespace KernelTable

open Address

def digitOctets : List Char → List UInt8
  | high :: low :: rest => octet high low :: digitOctets rest
  | _ => []

def turnWords : List UInt8 → List UInt8
  | a :: b :: c :: d :: rest => d :: c :: b :: a :: turnWords rest
  | _ => []

/-- What is shown of the address that digits write: nothing but zeros is any address, and the text
of any other spells the octets of the digits with their words turned round. -/
inductive Shown (digits : List Char) : List Char → Prop where
  | any (hzero : ∀ c ∈ digits, c = '0') : Shown digits ['*']
  | v4 {v : V4} (hother : ∃ c ∈ digits, c ≠ '0')
    (hoctets : v.octets = turnWords (digitOctets digits))
    (hread : V4.parse? v.print = some v) : Shown digits v.print
  | v6 {v : V6} (hother : ∃ c ∈ digits, c ≠ '0')
    (hoctets : v.octets = turnWords (digitOctets digits))
    (hread : V6.parse? v.print = some v) : Shown digits v.print

theorem octets_eq : ∀ digits, octets digits = turnWords (digitOctets digits)
  | [] | [_] | [_, _] | [_, _, _] | [_, _, _, _] | [_, _, _, _, _] | [_, _, _, _, _, _]
  | [_, _, _, _, _, _, _] => rfl
  | a :: b :: c :: d :: e :: f :: g :: h :: rest => by
    simp [octets, digitOctets, turnWords, octets_eq rest]

theorem length_octets : ∀ digits, (octets digits).length = digits.length / 8 * 4
  | [] | [_] | [_, _] | [_, _, _] | [_, _, _, _] | [_, _, _, _, _] | [_, _, _, _, _, _]
  | [_, _, _, _, _, _, _] => by simp [octets]
  | a :: b :: c :: d :: e :: f :: g :: h :: rest => by
    simp only [octets, List.length_cons, length_octets rest]
    omega

theorem groups_octets (v : V6) : groups v.octets = v.groups := by
  rw [V6.octets]
  induction v.groups with
  | nil => rfl
  | cons group rest ih => simp [groups, V6.join_halves, ih]

theorem length_groups : ∀ octets, (groups octets).length = octets.length / 2
  | [] | [_] => by simp [groups]
  | high :: low :: rest => by
    simp only [groups, List.length_cons, length_groups rest]
    omega

theorem flatMap_groups {n : Nat} {octets : List UInt8} (h : octets.length = 2 * n) :
    ((groups octets).flatMap fun group => [(V6.halves group).1, (V6.halves group).2]) = octets := by
  induction n generalizing octets with
  | zero => simp [List.length_eq_zero_iff.mp h, groups]
  | succ n ih =>
    match octets, h with
    | high :: low :: rest, h =>
      have hrest : rest.length = 2 * n := by
        simp only [List.length_cons] at h
        omega
      simp [groups, V6.halves_join, ih hrest]

theorem exists_v4 {octets : List UInt8} (h : octets.length = 4) : ∃ v : V4, v.octets = octets := by
  match octets, h with
  | [a, b, c, d], _ => exact ⟨⟨a, b, c, d⟩, rfl⟩

theorem exists_v6 {octets : List UInt8} (h : octets.length = 16) :
    ∃ v : V6, v.octets = octets := by
  have hgroups : (groups octets).length = 8 := by rw [length_groups, h]
  refine ⟨V6.ofGroups (groups octets), ?_⟩
  rw [V6.octets, V6.groups_ofGroups hgroups]
  exact flatMap_groups (n := 8) h

theorem length_octets_v6 (v : V6) : v.octets.length = 16 := by
  simp [V6.octets, List.map_const', v.length_groups]

theorem addressText_of_v4 {digits : List Char} {v : V4} (hother : ∃ c ∈ digits, c ≠ '0')
    (h : octets digits = v.octets) : addressText digits = v.print := by
  have hsome : ¬(digits.all (· == '0')) := by simpa using hother
  rw [addressText, if_neg hsome, h, V4.octets]

theorem addressText_of_v6 {digits : List Char} {v : V6} (hother : ∃ c ∈ digits, c ≠ '0')
    (h : octets digits = v.octets) : addressText digits = v.print := by
  have hsome : ¬(digits.all (· == '0')) := by simpa using hother
  rw [addressText, if_neg hsome]
  split
  · next hoctets =>
    have hlength := congrArg List.length (h.symm.trans hoctets)
    simp [length_octets_v6] at hlength
  · rw [h, groups_octets, V6.ofGroups_groups]

theorem shown_addressText {digits : List Char} (h : digits.length = 8 ∨ digits.length = 32) :
    Shown digits (addressText digits) := by
  by_cases hzero : ∀ c ∈ digits, c = '0'
  · have hall : digits.all (· == '0') := by simpa using hzero
    rw [addressText, if_pos hall]
    exact .any hzero
  · have hother : ∃ c ∈ digits, c ≠ '0' := by simpa using hzero
    have hlength := length_octets digits
    rcases h with h | h
    · have hfour : (octets digits).length = 4 := by rw [hlength, h]
      obtain ⟨v, hv⟩ := exists_v4 hfour
      rw [addressText_of_v4 hother hv.symm]
      exact .v4 hother (by rw [hv, octets_eq]) (V4.parse?_print v)
    · have hsixteen : (octets digits).length = 16 := by rw [hlength, h]
      obtain ⟨v, hv⟩ := exists_v6 hsixteen
      rw [addressText_of_v6 hother hv.symm]
      exact .v6 hother (by rw [hv, octets_eq]) (V6.parse?_print v)

theorem shown_iff {digits text : List Char} (h : digits.length = 8 ∨ digits.length = 32) :
    Shown digits text ↔ text = addressText digits := by
  constructor
  · intro hshown
    cases hshown with
    | any hzero =>
      have hall : digits.all (· == '0') := by simpa using hzero
      rw [addressText, if_pos hall]
    | v4 hother hoctets => rw [addressText_of_v4 hother (by rw [octets_eq, hoctets])]
    | v6 hother hoctets => rw [addressText_of_v6 hother (by rw [octets_eq, hoctets])]
  · rintro rfl
    exact shown_addressText h

example : addressText "0000000000000000FFFF00000100007F".toList = "::ffff:127.0.0.1".toList := by
  decide +kernel

end KernelTable

end SocketWatch
