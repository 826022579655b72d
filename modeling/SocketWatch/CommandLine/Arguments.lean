import SocketWatch.CommandLine.Options
import SocketWatch.Text.Basic

namespace SocketWatch

inductive Refusal where
  | usage
  | help
  | version
deriving DecidableEq, Repr

inductive SwitchKind where
  | once
  | counted
  | valued (accepts : String → Bool)
  | answered (refusal : Refusal)

structure Switch where
  long : String
  short : Option Char := none
  kind : SwitchKind := .once

abbrev Uses := List (String × String)

namespace Uses

def has (uses : Uses) (name : String) : Bool := (uses.lookup name).isSome

def count (uses : Uses) (name : String) : Nat := uses.countP fun use => use.1 == name

def add (uses : Uses) (switch : Switch) (value : String) : Except Refusal Uses :=
  match switch.kind with
  | .answered refusal => .error refusal
  | .counted => .ok ((switch.long, value) :: uses)
  | .once => if uses.has switch.long then .error .usage else .ok ((switch.long, value) :: uses)
  | .valued accepts =>
    if uses.has switch.long || !accepts value then .error .usage
    else .ok ((switch.long, value) :: uses)

end Uses

inductive ArgumentForm where
  | ending
  | long (name : String) (value : Option String)
  | short (letters : List Char)
  | plain
deriving DecidableEq, Repr

def ArgumentForm.ofText (text : String) : ArgumentForm :=
  match text.toList with
  | ['-', '-'] => .ending
  | '-' :: '-' :: text =>
    match Text.cut? '=' text with
    | some (name, value) => .long (String.ofList name) (some (String.ofList value))
    | none => .long (String.ofList text) none
  | '-' :: c :: letters => .short (c :: letters)
  | _ => .plain

namespace Uses

/-- Reads letters behind one hyphen. The first that has a value takes what follows, less an equals
sign in front of it; if nothing follows, the value is still to come. -/
def readLetters (switches : List Switch) (uses : Uses) :
    List Char → Except Refusal (Uses × Option Switch)
  | [] => .ok (uses, none)
  | letter :: letters =>
    match switches.find? fun switch => switch.short == some letter with
    | none => .error .usage
    | some switch =>
      match switch.kind, letters with
      | .valued _, [] => .ok (uses, some switch)
      | .valued _, '=' :: value => return (← uses.add switch (String.ofList value), none)
      | .valued _, value => return (← uses.add switch (String.ofList value), none)
      | _, letters => do (← uses.add switch "").readLetters switches letters

/-- Reads switches up to the name of a command, and hands back the name with what follows it. While
a switch is `pending` its value is to come, which no switch can be. -/
def read (switches : List Switch) (commands : List String) (uses : Uses)
    (pending : Option Switch) : List String → Except Refusal (Uses × List String)
  | [] => if pending.isNone then .ok (uses, []) else .error .usage
  | argument :: rest =>
    match ArgumentForm.ofText argument, pending with
    | .plain, some switch => do (← uses.add switch argument).read switches commands none rest
    | .plain, none =>
      if argument ∈ commands then .ok (uses, argument :: rest) else .error .usage
    | _, some _ => .error .usage
    | .ending, none => if rest.isEmpty then .ok (uses, []) else .error .usage
    | .long name value, none =>
      match switches.find? fun switch => switch.long == name with
      | none => .error .usage
      | some switch =>
        match switch.kind, value with
        | .valued _, none => uses.read switches commands (some switch) rest
        | .valued _, some value => do (← uses.add switch value).read switches commands none rest
        | _, none => do (← uses.add switch "").read switches commands none rest
        | _, some _ => .error .usage
    | .short letters, none => do
      let (uses, pending) ← uses.readLetters switches letters
      uses.read switches commands pending rest

end Uses

namespace Switch

def isPath (text : String) : Bool := text ≠ ""

def isNumber (text : String) : Bool := (Text.numeral? UInt64.size text.toList).isSome

def isSource (text : String) : Bool := (SnapshotSource.parse? text).isSome

def isFormat (text : String) : Bool := (OutputFormat.ofName? text).isSome

def shared : List Switch := [
  { long := "config", kind := .valued isPath },
  { long := "filter", short := 'f', kind := .valued fun _ => true },
  { long := "ignore-case", short := 'i' },
  { long := "operators", short := 'o' },
  { long := "format", kind := .valued isFormat },
  { long := "no-color" },
  { long := "verbose", short := 'v', kind := .counted },
  { long := "quiet", short := 'q' },
  { long := "help", short := 'h', kind := .answered .help }]

def leading : List Switch :=
  { long := "version", short := 'V', kind := .answered .version } :: shared

def source : Switch := { long := "source", short := 's', kind := .valued isSource }

def establishedOnly : Switch := { long := "established-only" }

end Switch

structure CommandForm where
  name : String
  switches : List Switch
  command? : Uses → Option Command

namespace Uses

def source (uses : Uses) : SnapshotSource :=
  ((uses.lookup "source").bind SnapshotSource.parse?).getD .kernel

def number? (uses : Uses) (name : String) : Option Nat :=
  (uses.lookup name).bind fun value => Text.numeral? UInt64.size value.toList

end Uses

def CommandForm.all : List CommandForm := [
  { name := "watch"
    switches := [.source, .establishedOnly,
      { long := "iterations", short := 'n', kind := .valued Switch.isNumber },
      { long := "interval-ms", kind := .valued Switch.isNumber }]
    command? := fun uses => some <| .watch uses.source (uses.number? "iterations")
      (uses.number? "interval-ms") (uses.has "established-only") },
  { name := "list"
    switches := [.source, .establishedOnly]
    command? := fun uses => some <| .list uses.source (uses.has "established-only") },
  { name := "reconcile"
    switches := [
      { long := "before", short := 'a', kind := .valued Switch.isPath },
      { long := "after", short := 'b', kind := .valued Switch.isPath }]
    command? := fun uses => do
      return .reconcile (← uses.lookup "before") (← uses.lookup "after") },
  { name := "filter"
    switches := [{ long := "file", kind := .valued Switch.isPath }]
    command? := fun uses => some <| .filter (uses.lookup "file") },
  { name := "print-filter"
    switches := [{ long := "mask" }]
    command? := fun uses => some <| .printFilter (uses.has "mask") }]

namespace Options

def version : String := "connview 0.1.0"

/-- What holds for the switches on either side of the name of the command: nobody asks for more and
for less to be logged, and a path of the settings from the environment, which counts where no switch
gives one, is not empty. -/
def agree (uses : Uses) (config : Option String) : Bool :=
  !(uses.has "quiet" && uses.has "verbose") && (uses.has "config" || config != some "")

def help (topics : List String) : Refusal :=
  match topics with
  | [] => .help
  | [topic] =>
    if topic = "help" || CommandForm.all.any fun form => form.name == topic then .help else .usage
  | _ => .usage

def ofArguments (arguments : List String) (config : Option String) : Except Refusal Options := do
  let names := CommandForm.all.map CommandForm.name
  let (before, rest) ← Uses.read Switch.leading ("help" :: names) [] none arguments
  match rest with
  | [] => .error .usage
  | name :: rest =>
    match CommandForm.all.find? fun form => form.name == name with
    | none => .error (help rest)
    | some form =>
      let (behind, _) ← Uses.read (form.switches ++ Switch.shared) [] [] none rest
      let value? (name : String) := (behind.lookup name).or (before.lookup name)
      let has (name : String) := behind.has name || before.has name
      match form.command? behind with
      | none => .error .usage
      | some command =>
        if !agree behind config || !agree before config then .error .usage
        else
          let verbose := if behind.has "verbose" then behind else before
          return {
            command
            config := (value? "config").or config
            filter := value? "filter"
            ignoreCase := has "ignore-case"
            operators := has "operators"
            format := ((value? "format").bind OutputFormat.ofName?).getD .text
            noColour := has "no-color"
            logLevel := .ofVerbosity (verbose.count "verbose") (has "quiet") }

end Options

end SocketWatch
