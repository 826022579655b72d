import SocketWatch.CommandLine.Options
import SocketWatch.Settings
import SocketWatch.Connection.Order
import SocketWatch.Tracking.Visible
import SocketWatch.Snapshot.KernelTable
import SocketWatch.Snapshot.Record
import SocketWatch.Snapshot.Services
import SocketWatch.Display.Line
import SocketWatch.Display.Table
import SocketWatch.Traffic.Meter
import SocketWatch.Polling.Poller

namespace SocketWatch

structure Facilities (m : Type → Type) where
  file : (path : String) → m FileContent
  input : m ByteArray
  print : String → m Unit
  /-- Nanoseconds on a clock. -/
  now : m Nat
  /-- Lets so many milliseconds pass. -/
  pause : Nat → m Unit
  forever {σ : Type} : (step : σ → m σ) → (start : σ) → m Unit

inductive Failure where
  | settings (error : SettingsError)
  | filter (error : FilterError)
  | snapshot (path : String) (error : SnapshotError)
  | noFile (path : String)
  | input
deriving DecidableEq, Repr

def Failure.message : Failure → String
  | .settings _ => "Failed to load config"
  | .filter error => error.message
  | .snapshot path .unreadable => "Failed to read '" ++ path ++ "'"
  | .snapshot path .malformed => "Failed to parse snapshot '" ++ path ++ "'"
  | .noFile path => "Failed to open '" ++ path ++ "'"
  | .input => "Failed to read input"

structure Context where
  settings : Settings
  filter : LiveFilter
  services : ServiceTable
  format : OutputFormat
  colours : Bool

namespace Options

def filterSettings (o : Options) (s : FilterSettings) : FilterSettings where
  enabled := s.enabled || o.filter.isSome
  text := o.filter.getD s.text
  caseSensitive := s.caseSensitive && !o.ignoreCase
  operators := s.operators || o.operators

end Options

namespace Context

def shows (context : Context) (showUnestablished : Bool) (c : Connection) : Bool :=
  c.isVisible showUnestablished context.filter Column.standard

def printRows (context : Context) (rows : List Row) : List String :=
  match context.format with
  | .text => rows.map (Row.print context.colours)
  | .json => [SocketWatch.printRows rows]

def printSummary (context : Context) (summary : Summary) (set : TrackedSet) : List String :=
  match context.format with
  | .text =>
    let (live, established) := set.counts
    [summary.print context.colours live established]
  | .json => []

def printList (context : Context) (establishedOnly : Bool) (snapshot : List Connection) :
    List String :=
  let showUnestablished := context.settings.view.showUnestablished && !establishedOnly
  let shown := sortStable Connection.compare (snapshot.filter (context.shows showUnestablished))
  match context.format with
  | .text =>
    Table.ofConnections shown Column.standard ++ [toString shown.length ++ " connections"]
  | .json => [SocketWatch.printRows (shown.map fun connection => { connection })]

def printChanges (context : Context) (before after : List Connection) : List String :=
  let annotate (snapshot : List Connection) := snapshot.map context.services.annotate
  let (set, _) := TrackedSet.reconcile {} (annotate before)
  let (set, summary) := set.reconcile (annotate after)
  let shown := set.rows.filter fun row => context.shows true row.connection
  context.printRows shown ++ context.printSummary summary set

def printFilter (context : Context) (mask : Bool) : Except FilterError (List String) := do
  let text := context.filter.text
  let canonical := context.filter.tree.print
  let mask ← if mask then (Filter.mask text).map fun mask => some mask.print else pure none
  return match context.format with
    | .text => canonical :: mask.elim [] fun mask => [text, mask]
    | .json =>
      let fields : List (String × JsonValue) := [
        ("canonical", .ofText canonical),
        ("case_sensitive", .bool context.filter.caseSensitive),
        ("mask", .ofText? mask),
        ("operators", .bool context.filter.operators),
        ("text", .ofText text)]
      [(JsonValue.ofFields fields).document]

end Context

def readableLines (content : ByteArray) : List String × Bool :=
  match String.fromUTF8? content with
  | some text => ((Text.lines text.toList).map String.ofList, true)
  | none =>
    let lines := (content.toList.splitOn 10).map fun line => String.fromUTF8? ⟨line.toArray⟩
    let readable := (lines.takeWhile Option.isSome).filterMap id
    (readable.map fun line => String.ofList (Text.dropReturn line.toList), false)

def nanoseconds (milliseconds : Nat) : Nat := milliseconds * 1000000

structure Watching where
  poller : Poller (List Connection) := {}
  due : Moment := 0
  tracked : TrackedSet := {}
  traffic : Option Meter := none

namespace Facilities

variable {m : Type → Type} [Monad m]

def printAll (system : Facilities m) (lines : List String) : m Unit := lines.forM system.print

def kernelPath (name : String) : String := "/proc/net/" ++ name

def poll (system : Facilities m) (source : SnapshotSource) :
    m (Except Failure (List Connection)) := do
  match source with
  | .file path =>
    return (readSnapshotFile (← system.file path)).mapError (Failure.snapshot path)
  | .kernel =>
    let tables ← Protocol.all.mapM fun protocol => do
      return (protocol, ← system.file (kernelPath protocol.name))
    return (KernelTable.snapshot fun protocol => (tables.lookup protocol).getD .missing).mapError
      fun protocol => .snapshot (kernelPath protocol.name) .unreadable

def printTraffic (system : Facilities m) (meter : Meter) : m (Option Meter) := do
  match (← system.file (kernelPath "dev")).text with
  | .ok counters =>
    let (meter, report) := meter.update (Counters.parse counters) (← system.now)
    system.print report.print
    return some meter
  | .error _ => return none

def pauseUntil (system : Facilities m) (moment : Moment) : m Unit := do
  let left := moment - (← system.now)
  -- Rounded up, or the moment would not have come when the pause is over.
  system.pause ((left + nanoseconds 1 - 1) / nanoseconds 1)

/-- Waits for the snapshot of a poll until the deadline. A poll that fails, or one that ends too
late, leaves it to a later one. -/
def waitLatest (system : Facilities m) (source : SnapshotSource) (interval : Nat)
    (deadline : Moment) : (rounds : Nat) → Watching → m (Watching × Option (List Connection))
  | 0, watching => return (watching, none)
  | rounds + 1, watching => do
    if deadline < (← system.now) then return (watching, none)
    match watching.poller.step .take with
    | (poller, some latest) => return ({ watching with poller }, some latest)
    | (poller, none) =>
      if deadline < watching.due then
        system.pauseUntil deadline
        return (watching, none)
      system.pauseUntil watching.due
      let (poller, _) := poller.step (.woken true)
      let snapshot ← system.poll source
      let (poller, _) := poller.step (.polled snapshot.toOption)
      let due := (← system.now) + nanoseconds interval
      waitLatest system source interval deadline rounds { watching with poller, due }

def cycle (system : Facilities m) (context : Context) (source : SnapshotSource) (interval : Nat)
    (establishedOnly : Bool) (watching : Watching) : m Watching := do
  let timeout := 2 * interval + 1000
  let deadline := (← system.now) + nanoseconds timeout
  -- Polls begin an interval apart, so no more rounds than these fit in the time; one of no length
  -- is taken for a millisecond.
  let interval := max interval 1
  let (watching, latest) ←
    system.waitLatest source interval deadline (timeout / interval + 2) watching
  match latest with
  | none => return watching
  | some snapshot =>
    let view := context.settings.view
    let policy := { view.retention with linger := nanoseconds view.retention.linger }
    let (tracked, summary) := watching.tracked.applySnapshot
      (snapshot.map context.services.annotate) policy (← system.now) false
    let shown := tracked.rows.filter fun row => row.change != .none &&
      context.shows (view.showUnestablished && !establishedOnly) row.connection
    system.printAll (context.printRows shown ++ context.printSummary summary tracked)
    let traffic ← match watching.traffic with
      | some meter => system.printTraffic meter
      | none => pure none
    return { watching with tracked, traffic }

def times {σ : Type} (step : σ → m σ) : Nat → σ → m Unit
  | 0, _ => pure ()
  | n + 1, s => do times step n (← step s)

def printLines (system : Facilities m) (context : Context) (content : ByteArray) :
    m (Except Failure Unit) := do
  let (lines, complete) := readableLines content
  system.printAll (lines.filter context.filter.passes)
  return if complete then .ok () else .error .input

def runCommand (system : Facilities m) (context : Context) :
    Command → m (Except Failure Unit)
  | .watch source cycles interval establishedOnly => do
    let view := context.settings.view
    let interval := interval.getD context.settings.poll.interval
    let traffic :=
      if view.showTraffic && source == .kernel && context.format == .text then some {} else none
    let cycle := system.cycle context source interval establishedOnly
    match cycles with
    | some n => times cycle n { traffic }
    | none => system.forever cycle { traffic }
    return .ok ()
  | .list source establishedOnly => do
    match ← system.poll source with
    | .error failure => return .error failure
    | .ok snapshot =>
      let snapshot := snapshot.map context.services.annotate
      system.printAll (context.printList establishedOnly snapshot)
      return .ok ()
  | .reconcile before after => do
    match ← system.poll (.file before) with
    | .error failure => return .error failure
    | .ok before =>
      match ← system.poll (.file after) with
      | .error failure => return .error failure
      | .ok after =>
        system.printAll (context.printChanges before after)
        return .ok ()
  | .filter none => do system.printLines context (← system.input)
  | .filter (some path) => do
    match ← system.file path with
    | .missing => return .error (.noFile path)
    | .directory => return .error .input
    | .bytes content => system.printLines context content
  | .printFilter mask =>
    match context.printFilter mask with
    | .error error => return .error (.filter error)
    | .ok lines => do
      system.printAll lines
      return .ok ()

def run (system : Facilities m) (options : Options) (colours : Bool) : m (Except Failure Unit) := do
  let settings : Except SettingsError Settings ← match options.config with
    | none => pure (.ok {})
    | some path => Settings.ofFile <$> system.file path
  match settings with
  | .error error => return .error (.settings error)
  | .ok settings =>
    match (options.filterSettings settings.filter).live with
    | .error error => return .error (.filter error)
    | .ok filter =>
      let services := ServiceTable.ofFile (← system.file settings.view.servicesFile)
      system.runCommand { settings, filter, services, format := options.format, colours }
        options.command

end Facilities

end SocketWatch
