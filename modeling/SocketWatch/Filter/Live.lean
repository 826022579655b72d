import SocketWatch.Filter.Reading
import SocketWatch.Filter.Basic
import SocketWatch.Filter.Matching

/-!
The filter of a view while it is edited: its text and switches, and what has been read from them.
Every edit reads the text again. An edit that fails leaves what it had set before it failed, so
each edit answers with the filter as it now is, and with the error if there was one.
-/

namespace SocketWatch

structure LiveFilter where
  text : String := ""
  enabled : Bool := false
  caseSensitive : Bool := true
  operators : Bool := false
  tree : Filter := .empty
  folded : Option Filter := none
  mask : Mask := []
deriving DecidableEq

structure Edited where
  live : LiveFilter
  failure : Option FilterError := none
deriving DecidableEq

def distinctValues : List String → List String
  | [] => []
  | value :: rest =>
    if value = "" ∨ value ∈ rest then distinctValues rest else value :: distinctValues rest

namespace LiveFilter

def read (live : LiveFilter) : Except FilterError (Filter × Mask) :=
  if live.operators then Filter.parseWithMask live.text
  else (Filter.parseWords live.text).map fun tree => (tree, [])

/-- Brings what is derived from the text and the switches up to date. A text that is refused leaves
all of it as it was, a folding that is refused only the folded tree. -/
def rebuild (live : LiveFilter) : Edited :=
  match live.read with
  | .error failure => { live, failure }
  | .ok (tree, mask) =>
    let live := { live with tree, mask }
    if live.caseSensitive then { live := { live with folded := none } }
    else
      match tree.caseFolded with
      | .ok folded => { live := { live with folded } }
      | .error failure => { live, failure }

def new (text : String) (caseSensitive operators : Bool) : Except FilterError LiveFilter :=
  let edited := rebuild { text, enabled := true, caseSensitive, operators }
  match edited.failure with
  | none => .ok edited.live
  | some failure => .error failure

def setEnabled (live : LiveFilter) (enabled : Bool) : LiveFilter := { live with enabled }

def setText (live : LiveFilter) (text : String) : Edited :=
  rebuild { live with text }

def setCaseSensitive (live : LiveFilter) (caseSensitive : Bool) : Edited :=
  rebuild { live with caseSensitive }

def setOperators (live : LiveFilter) (operators : Bool) : Edited :=
  rebuild { live with operators }

def addValues (tree : Filter) (negate : Bool) : List String → Except FilterError Filter
  | [] => .ok tree
  | [value] => tree.addLiteral .and negate value
  | values => do
    let group ← values.foldlM (fun group value => group.addLiteral .or false value) Filter.empty
    return tree.addGroup .and negate group

/-- Keeps the rows that hold one of the values, or drops them where `negate` is set. The filter is
then enabled and has operators, and its text is the canonical one of the longer tree. -/
def addColumnValues (live : LiveFilter) (values : List String) (negate : Bool) : Edited :=
  match addValues live.tree negate (distinctValues values) with
  | .error failure => { live, failure }
  | .ok tree => setText { live with tree, enabled := true, operators := true } tree.print

def passes (live : LiveFilter) (candidate : String) : Bool :=
  if live.enabled then
    match live.folded with
    | some folded => folded.passes (Text.caseFold candidate) .exact
    | none => live.tree.passes candidate .exact
  else true

end LiveFilter

end SocketWatch
