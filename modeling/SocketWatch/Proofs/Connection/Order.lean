import SocketWatch.Connection.Order
import SocketWatch.Proofs.Address.Order
import SocketWatch.Proofs.Snapshot.RoundTrip

namespace SocketWatch

open Address (Coherent IsShort Regular)
open Std (OrientedCmp TransCmp)

def compareVia {α β : Type} (cmp : β → β → Ordering) (part : α → β) (a b : α) : Ordering :=
  cmp (part a) (part b)

section Via

variable {α β : Type} {cmp : β → β → Ordering} {part : α → β}

instance [OrientedCmp cmp] : OrientedCmp (compareVia cmp part) where
  eq_swap := OrientedCmp.eq_swap (α := β)

instance [TransCmp cmp] : TransCmp (compareVia cmp part) where
  isLE_trans hab hbc := TransCmp.isLE_trans (α := β) hab hbc

end Via

namespace Connection

section Parts

variable {α β γ : Type} (socket : γ → Connection) (own : γ → α) (peer : γ → β)
  (compareOwn : α → α → Ordering) (comparePeer : β → β → Ordering)

def compareParts : γ → γ → Ordering :=
  compareLex (compareLex (compareLex (compareLex (compareLex
    (compareOn fun c => (socket c).protocol.name)
    (compareVia compareOwn own))
    (compareOn fun c => (socket c).own.port))
    (compareVia Host.compare fun c => (socket c).peer.host.getD ""))
    (compareVia comparePeer peer))
    (compareOn fun c => (socket c).peer.port)

instance [OrientedCmp compareOwn] [OrientedCmp comparePeer] :
    OrientedCmp (compareParts socket own peer compareOwn comparePeer) := by
  unfold compareParts
  infer_instance

instance [TransCmp compareOwn] [TransCmp comparePeer] :
    TransCmp (compareParts socket own peer compareOwn comparePeer) := by
  unfold compareParts
  infer_instance

end Parts

instance : OrientedCmp compare :=
  inferInstanceAs (OrientedCmp (compareParts id (fun c => c.own.address) (fun c => c.peer.address)
    Address.compare Address.compare))

def Between (own peer : Set String) (c : Connection) : Prop :=
  c.own.address ∈ own ∧ c.peer.address ∈ peer

section Between

variable {own peer : Set String}

theorem isLE_trans_of_coherent (hown : Coherent own) (hpeer : Coherent peer) {a b c : Connection}
    (ha : a.Between own peer) (hb : b.Between own peer) (hc : c.Between own peer)
    (hab : (a.compare b).isLE) (hbc : (b.compare c).isLE) : (a.compare c).isLE := by
  have _ := hown.transCmp
  have _ := hpeer.transCmp
  have htrans : TransCmp fun a b : { c : Connection // c.Between own peer } => a.1.compare b.1 :=
    inferInstanceAs (TransCmp (compareParts Subtype.val
      (fun c => (⟨c.1.own.address, c.2.1⟩ : own)) (fun c => (⟨c.1.peer.address, c.2.2⟩ : peer))
      (Address.compareIn own) (Address.compareIn peer)))
  exact @TransCmp.isLE_trans _ _ htrans ⟨a, ha⟩ ⟨b, hb⟩ ⟨c, hc⟩ hab hbc

theorem compare_own (a b peer : String) :
    compare { own := { address := a }, peer := { address := peer } }
      { own := { address := b }, peer := { address := peer } } = Address.compare a b := by
  have hpeer : Address.compare peer peer = .eq := Std.ReflCmp.compare_self
  have hhost : Host.compare "" "" = .eq := Std.ReflCmp.compare_self
  simp [compare, hpeer, hhost]

theorem compare_peer (a b own : String) :
    compare { own := { address := own }, peer := { address := a } }
      { own := { address := own }, peer := { address := b } } = Address.compare a b := by
  have hown : Address.compare own own = .eq := Std.ReflCmp.compare_self
  have hhost : Host.compare "" "" = .eq := Std.ReflCmp.compare_self
  simp [compare, hown, hhost]

def Transitive (own peer : Set String) : Prop := ∀ a b c : Connection, a.Between own peer →
  b.Between own peer → c.Between own peer → (a.compare b).isLE → (b.compare c).isLE →
    (a.compare c).isLE

theorem Transitive.coherent_own (h : Transitive own peer) (hpeer : peer.Nonempty) :
    Coherent own := by
  obtain ⟨p, hp⟩ := hpeer
  apply Address.coherent_of_isLE_trans
  intro a ha b hb c hc hab hbc
  rw [← compare_own _ _ p] at hab hbc ⊢
  exact h _ _ _ ⟨ha, hp⟩ ⟨hb, hp⟩ ⟨hc, hp⟩ hab hbc

theorem Transitive.coherent_peer (h : Transitive own peer) (hown : own.Nonempty) :
    Coherent peer := by
  obtain ⟨o, ho⟩ := hown
  apply Address.coherent_of_isLE_trans
  intro a ha b hb c hc hab hbc
  rw [← compare_peer _ _ o] at hab hbc ⊢
  exact h _ _ _ ⟨ho, ha⟩ ⟨ho, hb⟩ ⟨ho, hc⟩ hab hbc

theorem transitive_iff (hown : own.Nonempty) (hpeer : peer.Nonempty) :
    Transitive own peer ↔ Coherent own ∧ Coherent peer := by
  constructor
  · intro h
    exact ⟨h.coherent_own hpeer, h.coherent_peer hown⟩
  · rintro ⟨hown, hpeer⟩ a b c ha hb hc
    exact isLE_trans_of_coherent hown hpeer ha hb hc

end Between

/-- Sockets that snapshots can hold and that no sorting can put in order: `9` comes before `9.0.0.1`
and behind `10.0.0.1`, as text, but `9.0.0.1` comes before `10.0.0.1`, as a number. -/
theorem compare_one_digit_address :
    let digit : Connection := { own := { address := "9" } }
    let nine : Connection := { own := { address := "9.0.0.1" } }
    let ten : Connection := { own := { address := "10.0.0.1" } }
    (∃ document, readSnapshot document = .ok [digit, nine, ten]) ∧
      digit.compare nine = .lt ∧ nine.compare ten = .lt ∧ digit.compare ten = .gt := by
  intro digit nine ten
  have hread := readSnapshot_printRows [⟨digit, .none, none⟩, ⟨nine, .none, none⟩, ⟨ten, .none, none⟩]
  refine ⟨⟨_, hread⟩, ?_, ?_, ?_⟩
  · rw [compare_own]
    decide
  · rw [compare_own, Address.compare, String.contains_char_eq, String.contains_char_eq]
    decide
  · rw [compare_own]
    decide

/-- A socket equals itself, the answer for two sockets turned around is the answer turned around,
and the order is transitive on the sockets between two sets of addresses just where no short
address parts the longer ones. It parts none where all addresses are regular. -/
theorem compare_total_preorder :
    (∀ a : Connection, a.compare a = .eq) ∧
    (∀ a b : Connection, b.compare a = (a.compare b).swap) ∧
    (∀ own peer : Set String, own.Nonempty → peer.Nonempty →
      (Transitive own peer ↔ Coherent own ∧ Coherent peer)) ∧
    (∀ A : Set String, (∀ a ∈ A, Regular a) → Coherent A) ∧
    ∀ a : String, (Address.V4.parse? a.toList).isSome ∨ (Address.V6.parse? a.toList).isSome →
      Regular a := by
  refine ⟨fun a => Std.ReflCmp.compare_self, fun a b => OrientedCmp.eq_swap, ?_, ?_, ?_⟩
  · intro own peer
    exact transitive_iff
  · intro A
    exact Address.coherent_of_regular
  · intro a
    exact Address.regular_of_parse?

theorem compare_total_preorder_of_addresses :
    let addresses : Set String := {"*", "10.0.0.1", "9.0.0.1", "::1"}
    addresses.Nonempty ∧ (∀ a ∈ addresses, Regular a) ∧ Transitive addresses addresses := by
  intro addresses
  have hregular : ∀ a ∈ addresses, Regular a := by
    rintro a (rfl | rfl | rfl | rfl) <;> decide
  have hnonempty : addresses.Nonempty := ⟨"*", .inl rfl⟩
  obtain ⟨-, -, htransitive, hcoherent, -⟩ := compare_total_preorder
  have h := hcoherent addresses hregular
  exact ⟨hnonempty, hregular, (htransitive _ _ hnonempty hnonempty).mpr ⟨h, h⟩⟩

end Connection

end SocketWatch
