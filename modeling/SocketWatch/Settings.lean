import SocketWatch.Filter.Live
import SocketWatch.Tracking.TrackedSet
import SocketWatch.Text.Basic
import SocketWatch.Toml.Document

namespace SocketWatch

structure FilterSettings where
  enabled : Bool := false
  text : String := ""
  caseSensitive : Bool := true
  operators : Bool := false
deriving DecidableEq, Repr

structure ViewSettings where
  showUnestablished : Bool := true
  showClosed : Bool := true
  keepClosed : Bool := true
  /-- Seconds that closed sockets are shown for. -/
  linger : Nat := 3
  servicesFile : String := "/etc/services"
  showTraffic : Bool := true
deriving DecidableEq, Repr

structure PollSettings where
  interval : Nat := 1000
deriving DecidableEq, Repr

structure Settings where
  filter : FilterSettings := {}
  view : ViewSettings := {}
  poll : PollSettings := {}
deriving DecidableEq, Repr

def FilterSettings.live (s : FilterSettings) : Except FilterError LiveFilter :=
  (LiveFilter.new s.text s.caseSensitive s.operators).map fun live => live.setEnabled s.enabled

def ViewSettings.retention (s : ViewSettings) : Retention where
  showClosed := s.showClosed
  keepClosed := s.keepClosed
  linger := s.linger * 1000

namespace TomlValue

def text? : TomlValue → Option String
  | .text value => some value
  | _ => none

def boolean? : TomlValue → Option Bool
  | .boolean value => some value
  | _ => none

def nat? : TomlValue → Option Nat
  | .integer value => if 0 ≤ value then some value.toNat else none
  | _ => none

end TomlValue

structure Setting (σ : Type) where
  name : String
  decode? : TomlValue → σ → Option σ

namespace Setting

variable {σ α : Type}

def named (name : String) (value? : TomlValue → Option α) (set : σ → α → σ) : Setting σ where
  name := name
  decode? value part := (value? value).map (set part)

def ofTable? (all : List (Setting σ)) (default : σ) (fields : TomlFields) : Option σ :=
  fields.foldlM
    (fun part (name, value) =>
      match all.find? fun setting => setting.name == name with
      | some setting => setting.decode? value part
      | none => some part)
    default

def ofItems? (all : List (Setting σ)) (default : σ) (items : List TomlValue) : Option σ :=
  (all.zip items).foldlM (fun part (setting, value) => setting.decode? value part) default

def ofValue? (all : List (Setting σ)) (default : σ) : TomlValue → Option σ
  | .table _ fields => ofTable? all default fields
  | .array items => ofItems? all default items
  | .tables tables => ofItems? all default (tables.reverse.map (.table .heading))
  | .dateTime => some default
  | _ => none

def ofSection (name : String) (all : List (Setting α)) (default : α) (set : σ → α → σ) :
    Setting σ :=
  named name (ofValue? all default) set

end Setting

def FilterSettings.all : List (Setting FilterSettings) := [
  .named "enabled" TomlValue.boolean? fun s enabled => { s with enabled },
  .named "text" TomlValue.text? fun s text => { s with text },
  .named "case_sensitive" TomlValue.boolean? fun s caseSensitive => { s with caseSensitive },
  .named "operators" TomlValue.boolean? fun s operators => { s with operators }]

def ViewSettings.all : List (Setting ViewSettings) := [
  .named "show_unestablished" TomlValue.boolean? fun s showUnestablished =>
    { s with showUnestablished },
  .named "show_closed" TomlValue.boolean? fun s showClosed => { s with showClosed },
  .named "keep_closed" TomlValue.boolean? fun s keepClosed => { s with keepClosed },
  .named "closed_linger_secs" TomlValue.nat? fun s linger => { s with linger },
  .named "services_file" TomlValue.text? fun s servicesFile => { s with servicesFile },
  .named "show_traffic" TomlValue.boolean? fun s showTraffic => { s with showTraffic }]

def PollSettings.all : List (Setting PollSettings) := [
  .named "interval_ms" TomlValue.nat? fun s interval => { s with interval }]

def Settings.all : List (Setting Settings) := [
  .ofSection "filter" FilterSettings.all {} fun s filter => { s with filter },
  .ofSection "view" ViewSettings.all {} fun s view => { s with view },
  .ofSection "poll" PollSettings.all {} fun s poll => { s with poll }]

inductive SettingsError where
  | unreadable
  | malformed
deriving DecidableEq, Repr

def Settings.ofFile (file : FileContent) : Except SettingsError Settings :=
  match file.text with
  | .error _ => .error .unreadable
  | .ok document =>
    match Toml.parse? document >>= Setting.ofTable? Settings.all {} with
    | some settings => .ok settings
    | none => .error .malformed

end SocketWatch
