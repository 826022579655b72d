import SocketWatch.Proofs.Tracking.Roster

namespace SocketWatch

structure Endpoint.Keeps (later earlier : Endpoint) : Prop where
  address : later.address = earlier.address
  port : later.port = earlier.port
  service : later.service = earlier.service
  host : ∀ name, earlier.host = some name → later.host = some name

structure Program.Keeps (later earlier : Program) : Prop where
  pid : earlier.pid ≠ 0 → later.pid ≠ 0
  name : earlier.name.isSome → later.name.isSome
  command : earlier.command.isSome → later.command.isSome

structure Connection.Keeps (later earlier : Connection) : Prop where
  protocol : later.protocol = earlier.protocol
  own : later.own.Keeps earlier.own
  peer : later.peer.Keeps earlier.peer
  program : later.program.Keeps earlier.program

section Keeps

theorem Endpoint.Keeps.refl (e : Endpoint) : e.Keeps e := ⟨rfl, rfl, rfl, fun _ => id⟩

theorem Endpoint.Keeps.trans {a b c : Endpoint} (hab : a.Keeps b) (hbc : b.Keeps c) :
    a.Keeps c where
  address := hab.address.trans hbc.address
  port := hab.port.trans hbc.port
  service := hab.service.trans hbc.service
  host name h := hab.host name (hbc.host name h)

theorem Program.Keeps.refl (p : Program) : p.Keeps p := ⟨id, id, id⟩

theorem Program.Keeps.trans {a b c : Program} (hab : a.Keeps b) (hbc : b.Keeps c) : a.Keeps c where
  pid h := hab.pid (hbc.pid h)
  name h := hab.name (hbc.name h)
  command h := hab.command (hbc.command h)

namespace Connection

theorem Keeps.refl (c : Connection) : c.Keeps c := ⟨rfl, .refl _, .refl _, .refl _⟩

theorem Keeps.trans {a b c : Connection} (hab : a.Keeps b) (hbc : b.Keeps c) : a.Keeps c where
  protocol := hab.protocol.trans hbc.protocol
  own := hab.own.trans hbc.own
  peer := hab.peer.trans hbc.peer
  program := hab.program.trans hbc.program

theorem keeps_merge (old newer : Connection) : (old.merge newer).Keeps old where
  protocol := rfl
  own := ⟨rfl, rfl, rfl, fun name h => by simp [merge, h]⟩
  peer := ⟨rfl, rfl, rfl, fun name h => by simp [merge, h]⟩
  program := by
    refine ⟨fun h => ?_, fun h => ?_, fun h => ?_⟩
    · simp only [merge]
      split_ifs with hunknown
      · exact h
      · exact hunknown
    · simp [merge, Option.isSome_or, h]
    · simp [merge, Option.isSome_or, h]

end Connection

theorem Slot.keeps_settle (slot : Slot) : slot.settle.connection.Keeps slot.row.connection := by
  cases slot with
  | past row => exact .refl _
  | free row => exact .refl _
  | paired row seen =>
    simp only [settle]
    split_ifs
    · exact .refl _
    · exact row.connection.keeps_merge seen

theorem TrackedSet.keeps_markRow (now : Moment) (row : Row) :
    (markRow now row).connection.Keeps row.connection := by
  unfold markRow
  split_ifs
  · exact ⟨rfl, .refl _, .refl _, .refl _⟩
  · exact .refl _

end Keeps

namespace Roster

open TrackedSet (Call markRow)

/-- Whatever is called and whatever the snapshots claim: a row that is still tracked keeps what has
been known of its socket. -/
theorem knowledge_stays (roster : Roster) (calls : List Call) :
    (roster.run calls).set = roster.set.run calls ∧
      ∀ entry ∈ roster.entries, ∀ later ∈ (roster.run calls).entries,
        later.number = entry.number → later.row.connection.Keeps entry.row.connection := by
  refine ⟨roster.set_run calls, ?_⟩
  intro entry hentry
  have hmark (now : Moment) (row : Row) (h : row.connection.Keeps entry.row.connection) :
      (markRow now row).connection.Keeps entry.row.connection :=
    (TrackedSet.keeps_markRow now row).trans h
  have hsettle (slot : Slot) (_ : slot.Sound)
      (h : slot.row.connection.Keeps entry.row.connection) :
      slot.settle.connection.Keeps entry.row.connection :=
    slot.keeps_settle.trans h
  exact ((invariant_follows hmark hsettle).run (follows_of_mem hentry (.refl _)) calls).2

theorem knowledge_stays_of_poorer_record :
    let rich : Connection :=
      { own.service := some "ssh", peer.host := some "a", pid := 9
        program := ⟨9, some "sshd", none⟩, inode := 7 }
    let poor : Connection := { own.service := some "telnet" }
    let calls : List Call := [.reconcile [poor], .applySnapshot [] {} 5 true]
    let roster := empty.run [.reconcile [rich]]
    (roster.run calls).rows =
        [⟨{ rich with state := .closed, pid := 0, inode := 0 }, .delete, some 5⟩] ∧
      ∀ entry ∈ roster.entries, ∀ later ∈ (roster.run calls).entries,
        later.number = entry.number → later.row.connection.Keeps entry.row.connection :=
  ⟨by decide, (knowledge_stays _ _).2⟩

end Roster

end SocketWatch
