import Mathlib.Data.List.Induction
import Mathlib.Logic.Function.Basic
import SocketWatch.Snapshot.Services
import SocketWatch.Proofs.Text.Columns

namespace SocketWatch

namespace Text

theorem lines_append (a b : List Char) :
    lines (a ++ '\n' :: b) = (a.splitOn '\n').map dropReturn ++ lines b := by
  obtain ⟨last, hlast⟩ : ∃ last, (b.splitOn '\n').getLast? = some last :=
    Option.ne_none_iff_exists'.mp (by simp)
  have hne : b.splitOn '\n' ≠ [] := List.splitOn_ne_nil _ _
  simp only [lines, List.splitOn_append_cons_self, List.dropLast_append_of_ne_nil hne,
    List.getLast?_append, hlast, Option.some_or, List.map_append, List.append_assoc]

theorem lines_append_newLine (a b : List Char) :
    lines (a ++ '\n' :: b) = lines (a ++ ['\n']) ++ lines b := by
  have hend := lines_append a []
  rw [lines_append, hend]
  simp [lines]

end Text

namespace ServiceEntry

def WrittenIn (line : List Char) (entry : ServiceEntry) : Prop :=
  ∃ body comment numeral more, line = body ++ comment ∧ '#' ∉ body ∧
    (∀ c ∈ comment.head?, c = '#') ∧
    Text.Runs Text.isBlank (entry.name :: (numeral ++ '/' :: entry.protocol) :: more) body ∧
    Text.IsNumeral numeral entry.port ∧ entry.port < UInt16.size

theorem slash_notMem_of_isNumeral {numeral : List Char} {n : Nat}
    (h : Text.IsNumeral numeral n) : '/' ∉ numeral := by
  obtain ⟨digits, hnumeral, -, hdigits, -⟩ := h
  have hslash : '/' ∉ digits := fun hmem => absurd (hdigits '/' hmem) (by decide)
  rcases hnumeral with rfl | rfl
  · exact hslash
  · simpa using hslash

theorem ofLine?_eq_some_iff {line : List Char} {entry : ServiceEntry} :
    ofLine? line = some entry ↔ entry.WrittenIn line := by
  constructor
  · intro h
    rw [ofLine?.eq_def] at h
    split at h
    · next name target more hfields =>
      simp only [Option.bind_eq_bind, Option.bind_eq_some_iff, Prod.exists, Option.pure_def,
        Option.some.injEq] at h
      obtain ⟨numeral, protocol, hcut, port, hport, rfl⟩ := h
      obtain ⟨rfl, -⟩ := Text.cut?_eq_some_iff.mp hcut
      obtain ⟨hnumeral, hbound⟩ := Text.numeral?_eq_some_iff_isNumeral.mp hport
      refine ⟨line.takeWhile (· != '#'), line.dropWhile (· != '#'), numeral, more,
        List.takeWhile_append_dropWhile.symm, ?_, ?_, Text.runs_eq_iff.mp hfields, hnumeral, hbound⟩
      · intro hmem
        have hplain := List.all_eq_true.mp List.all_takeWhile '#' hmem
        simp at hplain
      · intro c hc
        simpa using Text.stop_dropWhile (· != '#') line c hc
    · cases h
  · rintro ⟨body, comment, numeral, more, rfl, hbody, hcomment, hruns, hnumeral, hbound⟩
    have htake : (body ++ comment).takeWhile (· != '#') = body := by
      apply Text.takeWhile_append_of_stop
      · intro c hc
        simpa using ne_of_mem_of_not_mem hc hbody
      · intro c hc
        simp [hcomment c hc]
    have hfields : Text.fields body = _ := hruns.eq
    have hcut : Text.cut? '/' (numeral ++ '/' :: entry.protocol) = some (numeral, entry.protocol) :=
      Text.cut?_eq_some_iff.mpr ⟨rfl, slash_notMem_of_isNumeral hnumeral⟩
    have hport := Text.numeral?_eq_some_iff_isNumeral.mpr ⟨hnumeral, hbound⟩
    simp [ofLine?, htake, hfields, hcut, hport]

theorem WrittenIn.eq {line : List Char} {entry other : ServiceEntry} (hentry : entry.WrittenIn line)
    (hother : other.WrittenIn line) : entry = other := by
  rw [← ofLine?_eq_some_iff] at hentry hother
  exact Option.some.inj (hentry.symm.trans hother)

theorem ofLine?_comment (line comment : List Char) :
    ofLine? (line ++ '#' :: comment) = ofLine? line := by
  have htake : (line ++ '#' :: comment).takeWhile (· != '#') = line.takeWhile (· != '#') := by
    induction line with
    | nil => rfl
    | cons c line ih => by_cases h : c = '#' <;> simp [h, ih]
  rw [ofLine?, htake]
  rfl

def keyText (entry : ServiceEntry) : List Char :=
  Nat.toDigits 10 entry.port ++ '/' :: entry.protocol

theorem keyText_eq_iff {entry other : ServiceEntry} :
    entry.keyText = other.keyText ↔ entry.key = other.key := by
  have hcut (entry : ServiceEntry) : Text.cut? '/' entry.keyText =
      some (Nat.toDigits 10 entry.port, entry.protocol) :=
    Text.cut?_eq_some_iff.mpr
      ⟨rfl, fun hmem => absurd (Text.isDigit_of_mem_toDigits hmem) (by decide)⟩
  constructor
  · intro h
    have hparts := (hcut entry).symm.trans (h ▸ hcut other)
    obtain ⟨hport, hprotocol⟩ := Prod.mk.inj (Option.some.inj hparts)
    have hvalue := congrArg (Text.valueOf 10) hport
    rw [Text.valueOf_toDigits (by decide) (by decide),
      Text.valueOf_toDigits (by decide) (by decide)] at hvalue
    exact Prod.ext hvalue hprotocol
  · intro h
    obtain ⟨hport, hprotocol⟩ := Prod.mk.inj h
    rw [keyText, keyText, hport, hprotocol]

end ServiceEntry

namespace ServiceTable

variable {protocol : Protocol} {port : UInt16} {line : List Char} {name : String}

def entryFor (protocol : Protocol) (port : UInt16) (name : String) : ServiceEntry :=
  { port := port.toNat, protocol := protocol.serviceName.toList, name := name.toList }

def named (protocol : Protocol) (port : UInt16) (line : List Char) : Option String :=
  ((ServiceEntry.ofLine? line).filter fun entry =>
    entry.key == (port.toNat, protocol.serviceName.toList)).map
      fun entry => String.ofList entry.name

theorem named_eq_some_iff :
    named protocol port line = some name ↔ (entryFor protocol port name).WrittenIn line := by
  rw [← ServiceEntry.ofLine?_eq_some_iff]
  constructor
  · intro h
    obtain ⟨entry, hentry, rfl⟩ := Option.map_eq_some_iff.mp h
    obtain ⟨hline, hkey⟩ := Option.filter_eq_some_iff.mp hentry
    obtain ⟨hport, hprotocol⟩ := Prod.mk.inj (eq_of_beq hkey)
    rw [hline, entryFor, ← hport, ← hprotocol, String.toList_ofList]
  · intro h
    simp [named, h, entryFor, ServiceEntry.key]

theorem lookup_parse (text : String) (hport : port ≠ 0) :
    (parse text).lookup protocol port =
      (Text.lines text.toList).reverse.findSome? (named protocol port) := by
  rw [lookup, if_neg hport, parse]
  dsimp only
  rw [← List.filterMap_reverse]
  induction (Text.lines text.toList).reverse with
  | nil => rfl
  | cons line lines ih =>
    rw [List.findSome?_cons, ← ih]
    cases hline : ServiceEntry.ofLine? line with
    | none => simp [named, hline]
    | some entry =>
      rw [List.filterMap_cons_some hline, List.find?_cons, named, hline, Option.filter_some]
      cases entry.key == (port.toNat, protocol.serviceName.toList) <;> rfl

theorem named_eq_none_iff :
    named protocol port line = none ↔ ∀ name, ¬(entryFor protocol port name).WrittenIn line := by
  simp only [Option.eq_none_iff_forall_ne_some, Ne, named_eq_some_iff]

theorem named_comment (line comment : List Char) :
    named protocol port (line ++ '#' :: comment) = named protocol port line := by
  rw [named, ServiceEntry.ofLine?_comment, named]

theorem lookup_congr {text other : String}
    (h : (Text.lines text.toList).reverse.findSome? (named protocol port) =
      (Text.lines other.toList).reverse.findSome? (named protocol port)) :
    (parse text).lookup protocol port = (parse other).lookup protocol port := by
  by_cases hport : port = 0
  · rw [lookup, lookup, if_pos hport, if_pos hport]
  · rw [lookup_parse text hport, lookup_parse other hport, h]

theorem lookup_eq_some_iff (text name : String) :
    (parse text).lookup protocol port = some name ↔ port ≠ 0 ∧ ∃ before line after,
      Text.lines text.toList = before ++ line :: after ∧
      (entryFor protocol port name).WrittenIn line ∧
      ∀ later ∈ after, ∀ other, ¬(entryFor protocol port other).WrittenIn later := by
  by_cases hport : port = 0
  · simp [lookup, hport]
  · simp only [lookup_parse text hport, List.findSome?_eq_some_iff, named_eq_some_iff,
      named_eq_none_iff]
    constructor
    · rintro ⟨after, line, before, hlines, hline, hafter⟩
      refine ⟨hport, before.reverse, line, after.reverse, ?_, hline, ?_⟩
      · simpa using congrArg List.reverse hlines
      · intro later hlater
        exact hafter later (List.mem_reverse.mp hlater)
    · rintro ⟨-, before, line, after, hlines, hline, hafter⟩
      refine ⟨after.reverse, line, before.reverse, by simp [hlines], hline, ?_⟩
      intro later hlater
      exact hafter later (List.mem_reverse.mp hlater)

theorem lookup_eq_none_iff (text : String) :
    (parse text).lookup protocol port = none ↔ port = 0 ∨
      ∀ line ∈ Text.lines text.toList, ∀ name, ¬(entryFor protocol port name).WrittenIn line := by
  by_cases hport : port = 0
  · simp [lookup, hport]
  · simp only [lookup_parse text hport, List.findSome?_eq_none_iff, List.mem_reverse,
      named_eq_none_iff, hport, false_or]

theorem lookup_append (a b : String) : (parse (a ++ "\n" ++ b)).lookup protocol port =
    ((parse b).lookup protocol port).or ((parse (a ++ "\n")).lookup protocol port) := by
  by_cases hport : port = 0
  · simp [lookup, hport]
  · have hlines : Text.lines (a ++ "\n" ++ b).toList =
        Text.lines (a ++ "\n").toList ++ Text.lines b.toList := by
      simpa using Text.lines_append_newLine a.toList b.toList
    rw [lookup_parse _ hport, lookup_parse _ hport, lookup_parse _ hport, hlines,
      List.reverse_append, List.findSome?_append]

theorem lookup_of_line_left_out {text other : String} {before after : List (List Char)}
    (htext : Text.lines text.toList = before ++ line :: after)
    (hother : Text.lines other.toList = before ++ after)
    (hline : ∀ name, ¬(entryFor protocol port name).WrittenIn line) :
    (parse text).lookup protocol port = (parse other).lookup protocol port := by
  apply lookup_congr
  simp [htext, hother, List.findSome?_append, named_eq_none_iff.mpr hline]

theorem lookup_of_comment_left_out {text other : String} {before after : List (List Char)}
    {comment : List Char}
    (htext : Text.lines text.toList = before ++ (line ++ '#' :: comment) :: after)
    (hother : Text.lines other.toList = before ++ line :: after) :
    (parse text).lookup protocol port = (parse other).lookup protocol port := by
  apply lookup_congr
  simp [htext, hother, List.findSome?_append, List.findSome?_cons, named_comment]

/-- A map from the texts of keys to names, filled line by line, where a later name takes the place
of an earlier one. -/
def filled (entries : List ServiceEntry) : List Char → Option (List Char) :=
  entries.foldl (fun names entry => Function.update names entry.keyText (some entry.name))
    fun _ => none

theorem filled_eq (entries : List ServiceEntry) (key : List Char) :
    filled entries key = (entries.reverse.find? (·.keyText == key)).map (·.name) := by
  induction entries using List.reverseRecOn with
  | nil => rfl
  | append_singleton entries entry ih =>
    rw [List.reverse_append, List.reverse_singleton, List.singleton_append, List.find?_cons, filled,
      List.foldl_append, List.foldl_cons, List.foldl_nil, ← filled]
    by_cases hkey : entry.keyText = key
    · simp [hkey]
    · have hbeq : (entry.keyText == key) = false := by simpa using hkey
      rw [Function.update_of_ne (Ne.symm hkey), ih, hbeq]

theorem lookup_eq_filled (text : String) (hport : port ≠ 0) :
    (parse text).lookup protocol port =
      (filled ((Text.lines text.toList).filterMap ServiceEntry.ofLine?)
        (Nat.toDigits 10 port.toNat ++ '/' :: protocol.serviceName.toList)).map String.ofList := by
  let key : ServiceEntry := entryFor protocol port ""
  have hkeys : (fun entry : ServiceEntry => entry.keyText == key.keyText) =
      fun entry => entry.key == key.key := by
    funext entry
    rw [Bool.eq_iff_iff, beq_iff_eq, beq_iff_eq]
    exact ServiceEntry.keyText_eq_iff
  have hfilled := filled_eq ((Text.lines text.toList).filterMap ServiceEntry.ofLine?) key.keyText
  rw [hkeys] at hfilled
  change _ = (filled _ key.keyText).map _
  rw [hfilled, lookup, if_neg hport, Option.map_map]
  rfl

/-- The last line that writes an entry for a port and its protocol names the port. A text behind
another one goes before it, lines that write no such entry and comments can be left out, and a line
writes no more than one entry. A map filled line by line gives the same names. -/
theorem lookup_last_line (protocol : Protocol) (port : UInt16) :
    (∀ text name, (parse text).lookup protocol port = some name ↔ port ≠ 0 ∧
      ∃ before line after, Text.lines text.toList = before ++ line :: after ∧
        (entryFor protocol port name).WrittenIn line ∧
        ∀ later ∈ after, ∀ other, ¬(entryFor protocol port other).WrittenIn later) ∧
    (∀ text, (parse text).lookup protocol port = none ↔ port = 0 ∨
      ∀ line ∈ Text.lines text.toList, ∀ name, ¬(entryFor protocol port name).WrittenIn line) ∧
    (∀ a b, (parse (a ++ "\n" ++ b)).lookup protocol port =
      ((parse b).lookup protocol port).or ((parse (a ++ "\n")).lookup protocol port)) ∧
    (∀ text other before line after, Text.lines text.toList = before ++ line :: after →
      Text.lines other.toList = before ++ after →
      (∀ name, ¬(entryFor protocol port name).WrittenIn line) →
      (parse text).lookup protocol port = (parse other).lookup protocol port) ∧
    (∀ text other before line comment after,
      Text.lines text.toList = before ++ (line ++ '#' :: comment) :: after →
      Text.lines other.toList = before ++ line :: after →
      (parse text).lookup protocol port = (parse other).lookup protocol port) ∧
    (∀ line (entry other : ServiceEntry), entry.WrittenIn line → other.WrittenIn line →
      entry = other) ∧
    (port ≠ 0 → ∀ text, (parse text).lookup protocol port =
      (filled ((Text.lines text.toList).filterMap ServiceEntry.ofLine?)
        (Nat.toDigits 10 port.toNat ++ '/' :: protocol.serviceName.toList)).map String.ofList) := by
  refine ⟨lookup_eq_some_iff, lookup_eq_none_iff, lookup_append, ?_, ?_, ?_, ?_⟩
  · intro text other before line after
    exact lookup_of_line_left_out
  · intro text other before line comment after
    exact lookup_of_comment_left_out
  · intro line entry other
    exact ServiceEntry.WrittenIn.eq
  · intro hport text
    exact lookup_eq_filled text hport

theorem lookup_last_line_of_padded_port :
    let text := "old 80/tcp\n#new 80/tcp\nweb +0080/tcp alias\nweb6 80/tcp6\n"
    let other := "old 80/tcp\nweb +0080/tcp alias\nweb6 80/tcp6\n"
    (∀ name, ¬(entryFor .tcp6 80 name).WrittenIn "#new 80/tcp".toList) ∧
      (parse text).lookup .tcp6 80 = (parse other).lookup .tcp6 80 ∧
      (parse other).lookup .tcp6 80 = some "web" ∧
      ∃ before line after, Text.lines other.toList = before ++ line :: after ∧
        (entryFor .tcp6 80 "web").WrittenIn line ∧
        ∀ later ∈ after, ∀ other, ¬(entryFor .tcp6 80 other).WrittenIn later := by
  intro text other
  obtain ⟨hsome, -, -, hleft, -⟩ := lookup_last_line .tcp6 80
  have hcomment : ∀ name, ¬(entryFor .tcp6 80 name).WrittenIn "#new 80/tcp".toList :=
    named_eq_none_iff.mp (by decide +kernel)
  have hlines : Text.lines text.toList = ["old 80/tcp".toList] ++ "#new 80/tcp".toList ::
      ["web +0080/tcp alias".toList, "web6 80/tcp6".toList] := by decide +kernel
  have hother : Text.lines other.toList = ["old 80/tcp".toList] ++
      ["web +0080/tcp alias".toList, "web6 80/tcp6".toList] := by decide +kernel
  have hweb : (parse other).lookup .tcp6 80 = some "web" := by decide +kernel
  exact ⟨hcomment, hleft text other _ _ _ hlines hother hcomment, hweb,
    ((hsome other "web").mp hweb).2⟩

end ServiceTable

end SocketWatch
