import Mathlib.Data.Option.Basic
import SocketWatch.Proofs.Snapshot.KernelAddress
import SocketWatch.Proofs.Text.Columns

/-!
The form of the lines in the socket tables of the kernel, said without the reader of tables. Main
statement: a table gives one socket for each line of that form after the first, in their order, and
nothing for any other line.
-/

namespace SocketWatch.KernelTable

def IsHex (width : Nat) (field : List Char) : Prop :=
  field.length = width ∧ ∀ c ∈ field, Text.isHexDigit c

def IsNumber (field : List Char) : Prop := field ≠ [] ∧ ∀ c ∈ field, Text.isDecimalDigit c

def Leads (digits text : List Char) : Prop :=
  ∃ rest, text = digits ++ rest ∧ ∀ c ∈ rest.head?, Text.isDecimalDigit c = false

structure EndColumn where
  address : List Char
  port : List Char
  address_hex : IsHex 8 address ∨ IsHex 32 address
  port_hex : IsHex 4 port

namespace EndColumn

def text (e : EndColumn) : List Char := e.address ++ ':' :: e.port

structure Tells (e : EndColumn) (endpoint : Endpoint) : Prop where
  address : Shown e.address endpoint.address.toList
  port : endpoint.port.toNat = Text.valueOf 16 e.port
  host : endpoint.host = none
  service : endpoint.service = none

variable (e : EndColumn)

theorem length_address : e.address.length = 8 ∨ e.address.length = 32 :=
  e.address_hex.imp And.left And.left

theorem address_digits : ∀ c ∈ e.address, Text.isHexDigit c :=
  e.address_hex.elim And.right And.right

theorem tells_iff {endpoint : Endpoint} : e.Tells endpoint ↔
    endpoint = { address := String.ofList (addressText e.address)
                 port := (Text.valueOf 16 e.port).toUInt16 } := by
  have hvalue : Text.valueOf 16 e.port < UInt16.size := by
    have hlt : Text.valueOf 16 e.port < 16 ^ e.port.length := Text.valueOf_lt (by decide) e.port
    rwa [e.port_hex.1] at hlt
  constructor
  · rintro ⟨haddress, hport, hhost, hservice⟩
    have haddress := (shown_iff e.length_address).mp haddress
    have hnumber : endpoint.port = (Text.valueOf 16 e.port).toUInt16 := by
      rw [← hport]
      exact (UInt16.ofNat_toNat).symm
    cases endpoint with
    | mk address port host service =>
      simp only at haddress hnumber hhost hservice
      rw [hnumber, hhost, hservice, ← haddress, String.ofList_toList]
  · rintro rfl
    refine ⟨?_, UInt16.toNat_ofNat_of_lt' hvalue, rfl, rfl⟩
    rw [String.toList_ofList]
    exact shown_addressText e.length_address

end EndColumn

structure SocketLine where
  number : List Char
  own : EndColumn
  peer : EndColumn
  state : List Char
  queues : List Char
  timer : List Char
  retransmits : List Char
  user : List Char
  timeout : List Char
  inode : List Char
  number_digits : IsNumber number
  state_hex : IsHex 2 state
  queues_field : Text.IsField queues
  timer_field : Text.IsField timer
  retransmits_field : Text.IsField retransmits
  user_digits : IsNumber user
  timeout_digits : IsNumber timeout
  inode_ne_nil : inode ≠ []
  inode_digits : ∀ c ∈ inode, Text.isDigit c
  inode_lt : Text.valueOf 10 inode < UInt64.size

namespace SocketLine

def columns (l : SocketLine) : List (List Char) :=
  [l.number ++ [':'], l.own.text, l.peer.text, l.state, l.queues, l.timer, l.retransmits, l.user,
    l.timeout]

/-- The line has these columns, with blanks between them, and anything behind the inode that does
not go on with its digits. -/
def Spells (l : SocketLine) (line : List Char) : Prop :=
  ∃ indent body rest, line = indent ++ body ∧ (∀ c ∈ indent, Text.isBlank c) ∧
    Text.Spaced rest l.columns body ∧ Leads l.inode rest

structure Tells (l : SocketLine) (protocol : Protocol) (c : Connection) : Prop where
  protocol : c.protocol = protocol
  own : l.own.Tells c.own
  peer : l.peer.Tells c.peer
  state : c.state = .ofKernel (Text.valueOf 16 l.state)
  inode : c.inode.toNat = Text.valueOf 10 l.inode
  pid : c.pid = 0
  program : c.program = {}

end SocketLine

inductive Yields (protocol : Protocol) : List (List Char) → List Connection → Prop where
  | done : Yields protocol [] []
  | socket {l : SocketLine} {line : List Char} {c : Connection} {lines : List (List Char)}
    {sockets : List Connection} (hspells : l.Spells line) (htells : l.Tells protocol c)
    (h : Yields protocol lines sockets) : Yields protocol (line :: lines) (c :: sockets)
  | other {line : List Char} {lines : List (List Char)} {sockets : List Connection}
    (hother : ∀ l : SocketLine, ¬l.Spells line) (h : Yields protocol lines sockets) :
    Yields protocol (line :: lines) sockets

section Reading

variable {field : List Char}

theorem IsNumber.isField (h : IsNumber field) : Text.IsField field :=
  ⟨h.1, fun c hc => Text.isBlank_of_isDecimalDigit (h.2 c hc)⟩

theorem IsHex.isField {width : Nat} (hwidth : 0 < width) (h : IsHex width field) :
    Text.IsField field := by
  refine ⟨?_, fun c hc => Text.isBlank_of_isHexDigit (h.2 c hc)⟩
  rintro rfl
  exact absurd h.1 (Nat.ne_of_lt hwidth)

theorem isField_append_colon {left right : List Char} (hleft : ∀ c ∈ left, Text.isBlank c = false)
    (hright : ∀ c ∈ right, Text.isBlank c = false) : Text.IsField (left ++ ':' :: right) := by
  refine ⟨by simp, fun c hc => ?_⟩
  rcases List.mem_append.mp hc with hc | hc
  · exact hleft c hc
  · rcases List.mem_cons.mp hc with rfl | hc
    · decide
    · exact hright c hc

theorem colon_notMem {p : Char → Bool} (hcolon : p ':' = false) (h : ∀ c ∈ field, p c) :
    ':' ∉ field := by
  intro hmem
  simp [h ':' hmem] at hcolon

theorem isLineNumber_iff :
    isLineNumber field ↔ ∃ digits, IsNumber digits ∧ field = digits ++ [':'] := by
  constructor
  · intro h
    rw [isLineNumber] at h
    split at h
    · next digits rest hcut =>
      obtain ⟨rfl, -⟩ := Text.cut?_eq_some_iff.mp hcut
      simp only [Bool.and_eq_true, Bool.not_eq_true', List.isEmpty_eq_false_iff, List.all_eq_true,
        List.isEmpty_iff] at h
      obtain ⟨⟨hne, hdigits⟩, rfl⟩ := h
      exact ⟨digits, ⟨hne, hdigits⟩, rfl⟩
    · cases h
  · rintro ⟨digits, ⟨hne, hdigits⟩, rfl⟩
    have hcut : Text.cut? ':' (digits ++ [':']) = some (digits, []) :=
      Text.cut?_eq_some_iff.mpr ⟨rfl, colon_notMem (by decide) hdigits⟩
    simp [isLineNumber, hcut, hne]
    exact hdigits

theorem endpoint?_eq_some_iff {endpoint : Endpoint} :
    endpoint? field = some endpoint ↔ ∃ e : EndColumn, field = e.text ∧ e.Tells endpoint := by
  constructor
  · intro h
    rw [endpoint?] at h
    split at h
    · next address port hcut =>
      obtain ⟨rfl, -⟩ := Text.cut?_eq_some_iff.mp hcut
      split at h
      · next hform =>
        simp only [Bool.and_eq_true, Bool.or_eq_true, decide_eq_true_eq, List.all_eq_true] at hform
        obtain ⟨⟨⟨hlength, haddress⟩, hport⟩, hdigits⟩ := hform
        obtain rfl := Option.some.inj h
        let e : EndColumn :=
          { address, port
            address_hex := hlength.imp (fun h => ⟨h, haddress⟩) fun h => ⟨h, haddress⟩
            port_hex := ⟨hport, hdigits⟩ }
        exact ⟨e, rfl, e.tells_iff.mpr rfl⟩
      · cases h
    · cases h
  · rintro ⟨e, rfl, htells⟩
    have hcut : Text.cut? ':' e.text = some (e.address, e.port) :=
      Text.cut?_eq_some_iff.mpr ⟨rfl, colon_notMem (by decide) e.address_digits⟩
    have hform : ((e.address.length = 8 || e.address.length = 32) &&
        e.address.all Text.isHexDigit && e.port.length = 4 &&
          e.port.all Text.isHexDigit) = true := by
      simpa [e.port_hex.1] using ⟨⟨e.length_address, e.address_digits⟩, e.port_hex.2⟩
    simp only [endpoint?, hcut, hform, if_true, e.tells_iff.mp htells]

theorem state?_eq_some_iff {state : SocketState} :
    state? field = some state ↔ IsHex 2 field ∧ .ofKernel (Text.valueOf 16 field) = state := by
  simp [state?, IsHex]

theorem leads_takeWhile (text : List Char) : Leads (text.takeWhile Text.isDecimalDigit) text :=
  ⟨_, List.takeWhile_append_dropWhile.symm, Text.stop_dropWhile Text.isDecimalDigit text⟩

theorem Leads.takeWhile_eq {digits text : List Char} (h : Leads digits text)
    (hdigits : ∀ c ∈ digits, Text.isDigit c) : text.takeWhile Text.isDecimalDigit = digits := by
  obtain ⟨rest, rfl, hrest⟩ := h
  exact Text.takeWhile_append_of_stop
    (fun c hc => Text.isDecimalDigit_of_isDigit (hdigits c hc)) hrest

theorem inode?_eq_some_iff {inode : UInt64} : inode? field = some inode ↔
    ∃ digits, Leads digits field ∧ (digits ≠ [] ∧ (∀ c ∈ digits, Text.isDigit c) ∧
      Text.valueOf 10 digits < UInt64.size) ∧ inode.toNat = Text.valueOf 10 digits := by
  have hplus : (field.takeWhile Text.isDecimalDigit).head? ≠ some '+' := by
    intro hhead
    have hdigit : Text.isDecimalDigit '+' :=
      List.all_eq_true.mp List.all_takeWhile '+' (List.mem_of_mem_head? hhead)
    exact absurd hdigit (by decide)
  simp only [inode?, Option.map_eq_some_iff, Text.numeral?_eq_some_iff hplus]
  constructor
  · rintro ⟨n, ⟨hform, rfl⟩, rfl⟩
    exact ⟨_, leads_takeWhile field, hform, UInt64.toNat_ofNat_of_lt' hform.2.2⟩
  · rintro ⟨digits, hleads, hform, hvalue⟩
    refine ⟨_, ⟨?_, rfl⟩, ?_⟩
    · rw [hleads.takeWhile_eq hform.2.1]
      exact hform
    · rw [hleads.takeWhile_eq hform.2.1, ← hvalue]
      exact UInt64.ofNat_toNat

end Reading

theorem Leads.exists_fields {digits text : List Char} (hne : digits ≠ [])
    (hplain : ∀ c ∈ digits, Text.isBlank c = false) (h : Leads digits text) :
    ∃ field more, Text.fields text = field :: more ∧ Leads digits field := by
  obtain ⟨rest, rfl, hrest⟩ := h
  let p : Char → Bool := fun c => !Text.isBlank c
  have hfield : ∀ c ∈ digits ++ rest.takeWhile p, Text.isBlank c = false := by
    intro c hc
    rcases List.mem_append.mp hc with hc | hc
    · exact hplain c hc
    · have hp : p c := List.all_eq_true.mp List.all_takeWhile c hc
      simpa [p] using hp
  have hstop : ∀ c ∈ (rest.dropWhile p).head?, Text.isBlank c := by
    intro c hc
    simpa [p] using Text.stop_dropWhile p rest c hc
  have hsplit : digits ++ rest = (digits ++ rest.takeWhile p) ++ rest.dropWhile p := by
    rw [List.append_assoc, List.takeWhile_append_dropWhile]
  have hrun : Text.fields (digits ++ rest) =
      (digits ++ rest.takeWhile p) :: Text.fields (rest.dropWhile p) := by
    rw [hsplit]
    exact Text.runs_of_run (by simp [hne]) hfield hstop
  refine ⟨_, _, hrun, rest.takeWhile p, rfl, fun c hc => ?_⟩
  rw [List.head?_takeWhile] at hc
  exact hrest c (Option.filter_eq_some_iff.mp hc).1

namespace SocketLine

variable (l : SocketLine) {line : List Char}

theorem isField_columns : ∀ column ∈ l.columns, Text.IsField column := by
  have hend (e : EndColumn) : Text.IsField e.text :=
    isField_append_colon (fun c hc => Text.isBlank_of_isHexDigit (e.address_digits c hc))
      fun c hc => Text.isBlank_of_isHexDigit (e.port_hex.2 c hc)
  have hnumber : Text.IsField (l.number ++ [':']) :=
    isField_append_colon l.number_digits.isField.2 (by simp)
  simp [columns, hnumber, hend, l.state_hex.isField, l.queues_field, l.timer_field,
    l.retransmits_field, l.user_digits.isField, l.timeout_digits.isField]

theorem spells_iff : l.Spells line ↔
    ∃ field more, Text.fields line = l.columns ++ field :: more ∧ Leads l.inode field := by
  constructor
  · rintro ⟨indent, body, rest, rfl, hindent, hbody, hleads⟩
    have hinode : ∀ c ∈ l.inode, Text.isBlank c = false := fun c hc =>
      Text.isBlank_of_isDecimalDigit (Text.isDecimalDigit_of_isDigit (l.inode_digits c hc))
    obtain ⟨field, more, hfields, hfield⟩ := hleads.exists_fields l.inode_ne_nil hinode
    refine ⟨field, more, ?_, hfield⟩
    have hskip : Text.fields (indent ++ body) = Text.fields body := Text.runs_of_gap hindent body
    rw [hskip, hbody.fields_eq l.isField_columns, hfields]
  · rintro ⟨field, more, hfields, tail, rfl, htail⟩
    obtain ⟨indent, body, rest, hline, hindent, -, hbody, hrest⟩ := Text.exists_spaced hfields
    refine ⟨indent, body, _, hline, hindent, hbody, tail ++ rest, by simp, fun c hc => ?_⟩
    -- Where the digits fill their field, a blank follows them, which is no digit of any script.
    cases tail with
    | nil =>
      by_contra hdigit
      have hplain := Text.isBlank_of_isDecimalDigit (by simpa using hdigit)
      simp [hrest c hc] at hplain
    | cons d tail => exact htail c hc

variable {l} {protocol : Protocol} {c : Connection}

theorem Tells.eq (h : l.Tells protocol c) :
    { protocol, own := c.own, peer := c.peer, state := c.state, inode := c.inode } = c := by
  obtain ⟨hprotocol, -, -, -, -, hpid, hprogram⟩ := h
  cases c
  simp only at hprotocol hpid hprogram
  rw [hprotocol, hpid, hprogram]

theorem exists_tells (l : SocketLine) (protocol : Protocol) : ∃ c, l.Tells protocol c := by
  let inode := (Text.valueOf 10 l.inode).toUInt64
  have hinode : inode.toNat = Text.valueOf 10 l.inode := UInt64.toNat_ofNat_of_lt' l.inode_lt
  exact ⟨{ protocol, own := _, peer := _, state := _, inode }, rfl, l.own.tells_iff.mpr rfl,
    l.peer.tells_iff.mpr rfl, rfl, hinode, rfl, rfl⟩

end SocketLine

theorem connection?_eq_some_iff {protocol : Protocol} {line : List Char} {c : Connection} :
    connection? protocol line = some c ↔ ∃ l : SocketLine, l.Spells line ∧ l.Tells protocol c := by
  simp only [SocketLine.spells_iff]
  constructor
  · intro h
    rw [connection?.eq_def] at h
    split at h
    · next number own peer state queues timer retransmits user timeout inode more hfields =>
      have hfield : ∀ field ∈ Text.fields line, Text.IsField field :=
        fun field hmem => Text.isField_of_mem_fields hmem
      rw [hfields] at hfield
      simp only [List.forall_mem_cons] at hfield
      obtain ⟨-, -, -, -, hqueues, htimer, hretransmits, huser, htimeout, -⟩ := hfield
      simp only [Option.bind_eq_bind, Option.bind_eq_some_iff, Option.guard_eq_some',
        Bool.and_eq_true, List.all_eq_true, Option.pure_def, Option.some.injEq, exists_const,
        endpoint?_eq_some_iff, state?_eq_some_iff, inode?_eq_some_iff, isLineNumber_iff] at h
      obtain ⟨⟨⟨⟨digits, hnumber, rfl⟩, huserDigits⟩, htimeoutDigits⟩, ownEnd,
        ⟨own, rfl, hown⟩, peerEnd, ⟨peer, rfl, hpeer⟩, _, ⟨hstate, rfl⟩, value,
        ⟨inode, hleads, hform, hvalue⟩, rfl⟩ := h
      let l : SocketLine :=
        { number := digits, own, peer, state, queues, timer, retransmits, user, timeout, inode
          number_digits := hnumber
          state_hex := hstate
          queues_field := hqueues
          timer_field := htimer
          retransmits_field := hretransmits
          user_digits := ⟨huser.1, huserDigits⟩
          timeout_digits := ⟨htimeout.1, htimeoutDigits⟩
          inode_ne_nil := hform.1
          inode_digits := hform.2.1
          inode_lt := hform.2.2 }
      exact ⟨l, ⟨_, more, hfields, hleads⟩, rfl, hown, hpeer, rfl, hvalue, rfl, rfl⟩
    · cases h
  · rintro ⟨l, ⟨field, more, hfields, hleads⟩, htells⟩
    have hnumber : isLineNumber (l.number ++ [':']) :=
      isLineNumber_iff.mpr ⟨_, l.number_digits, rfl⟩
    have hown := endpoint?_eq_some_iff.mpr ⟨l.own, rfl, htells.own⟩
    have hpeer := endpoint?_eq_some_iff.mpr ⟨l.peer, rfl, htells.peer⟩
    have hstate := state?_eq_some_iff.mpr ⟨l.state_hex, htells.state.symm⟩
    have hinode := inode?_eq_some_iff.mpr
      ⟨l.inode, hleads, ⟨l.inode_ne_nil, l.inode_digits, l.inode_lt⟩, htells.inode⟩
    have huser := List.all_eq_true.mpr l.user_digits.2
    have htimeout := List.all_eq_true.mpr l.timeout_digits.2
    rw [connection?.eq_def, hfields]
    simpa [SocketLine.columns, hnumber, hown, hpeer, hstate, hinode, huser, htimeout, guard]
      using htells.eq

example : connection? .tcp "  1: 0100007F:1F90 00000000:0000 0A a b c 1000 0 4242 1".toList =
    some { own := { address := "127.0.0.1", port := 8080 }, peer := { address := "*" },
           state := .listen, inode := 4242 } := by decide +kernel

theorem connection?_eq_none_iff {protocol : Protocol} {line : List Char} :
    connection? protocol line = none ↔ ∀ l : SocketLine, ¬l.Spells line := by
  constructor
  · intro hnone l hspells
    obtain ⟨c, htells⟩ := l.exists_tells protocol
    have hsome := connection?_eq_some_iff.mpr ⟨l, hspells, htells⟩
    rw [hnone] at hsome
    cases hsome
  · intro hother
    cases h : connection? protocol line with
    | none => rfl
    | some c =>
      obtain ⟨l, hspells, -⟩ := connection?_eq_some_iff.mp h
      exact absurd hspells (hother l)

theorem filterMap_eq_iff {protocol : Protocol} {lines : List (List Char)}
    {sockets : List Connection} :
    lines.filterMap (connection? protocol) = sockets ↔ Yields protocol lines sockets := by
  constructor
  · rintro rfl
    induction lines with
    | nil => exact .done
    | cons line lines ih =>
      cases h : connection? protocol line with
      | none =>
        rw [List.filterMap_cons_none h]
        exact .other (connection?_eq_none_iff.mp h) ih
      | some c =>
        obtain ⟨l, hspells, htells⟩ := connection?_eq_some_iff.mp h
        rw [List.filterMap_cons_some h]
        exact .socket hspells htells ih
  · intro h
    induction h with
    | done => rfl
    | socket hspells htells _ ih =>
      rw [List.filterMap_cons_some (connection?_eq_some_iff.mpr ⟨_, hspells, htells⟩), ih]
    | other hother _ ih => rw [List.filterMap_cons_none (connection?_eq_none_iff.mpr hother), ih]

/-- A table yields the sockets that its lines spell, without the first line, which is a heading. -/
theorem parse_eq_iff_yields (protocol : Protocol) (table : String) (sockets : List Connection) :
    parse protocol table = sockets ↔
      Yields protocol ((Text.lines table.toList).drop 1) sockets :=
  filterMap_eq_iff

end SocketWatch.KernelTable
