import PadRelay.Observation
import PadRelay.Text.Blank
import PadRelay.Text.Utf8

/-!
# PadRelay.Diagnostics

Which lines of diagnostics are shown, and how they look.

* `Filter.parse?`: a filter from text such as `info` or `glasscoder_pad=debug,warn`.
* `Filter.shows`: whether a line passes; the directive with the longest matching target decides.
* `lines`: the shown lines of a run, those of the work on an update marked with its machine.
-/

namespace PadRelay

def Level.detail : Level → Nat
  | .error => 1
  | .warn => 2
  | .info => 3
  | .debug => 4

namespace Filter

/-- Lines of a target are shown up to this detail. The empty target is every target. -/
structure Directive where
  target : String
  detail : Nat
  deriving DecidableEq, Repr

end Filter

abbrev Filter := List Filter.Directive

namespace Filter

/-- The detail of a level, by name in any case or by number. -/
def detail? (level : String) : Option Nat :=
  let word := String.ofList (level.toList.map Char.toLower)
  if word = "off" ∨ word = "0" then some 0
  else if word = "error" ∨ word = "1" then some 1
  else if word = "warn" ∨ word = "2" then some 2
  else if word = "info" ∨ word = "3" then some 3
  else if word = "debug" ∨ word = "4" then some 4
  else if word = "trace" ∨ word = "5" then some 5
  else none

def isTargetChar (c : Char) : Bool := c.isAlphanum || c = '_' || c = ':' || c = '-'

/-- One directive: a level, a target, or both with an equals sign between. -/
def directive? (text : String) : Option Directive :=
  match detail? text with
  | some d => some ⟨"", d⟩
  | none =>
    let cs := text.toList
    let target := cs.takeWhile (· != '=')
    if target.isEmpty || !target.all isTargetChar then none
    else
      match cs.dropWhile (· != '=') with
      | [] | ['='] => some ⟨String.ofList target, 5⟩
      | _ :: level => (detail? (String.ofList level)).map (⟨String.ofList target, ·⟩)

/-- Errors only, which is what no directive at all means. -/
def errorsOnly : Filter := [⟨"", 1⟩]

def parse? (text : String) : Option Filter :=
  match ((text.splitOn ",").filter (· != "")).mapM directive? with
  | none => none
  | some [] => some errorsOnly
  | some ds => some ds

/-- The filter of the environment if it has one that can be read, else of the command line. -/
def choose (environment : Option String) (directive : String) : Filter :=
  match environment.bind parse? with
  | some f => f
  | none => (parse? directive).getD errorsOnly

/-- The better of two directives for a target: the one whose own target is longer. -/
def better (target : String) (best : Option Directive) (d : Directive) : Option Directive :=
  if d.target.toList.isPrefixOf target.toList then
    match best with
    | some b => if b.target.length ≤ d.target.length then some d else best
    | none => some d
  else best

def shows (f : Filter) (d : Diagnostic) : Bool :=
  match f.foldl (better d.origin.target) none with
  | some best => d.level.detail ≤ best.detail
  | none => false

end Filter

/-- A line as it is shown. `machine` is the machine of the update that is being worked on. -/
def Diagnostic.line (machine : Option UInt32) (d : Diagnostic) : String :=
  let span := match machine with
    | some m => "pad_update\x7bupdate_id=* machine=" ++ toString m.toNat ++ "\x7d: "
    | none => ""
  let fields := d.fields.map fun (key, value) => " " ++ key ++ "=" ++ value
  d.level.name ++ " " ++ span ++ d.origin.target ++ ": " ++ d.message ++ String.join fields

/-- The shown lines of a run that begins within the work on an update of `machine`, if any. The
lines of such work are marked only if lines of information are shown at all. -/
def linesFrom (f : Filter) (machine : Option UInt32) : List Observation → List String
  | [] => []
  | .began m :: rest =>
    let shown := f.shows ⟨.receiver, .info, "", []⟩
    linesFrom f (if shown then some m else none) rest
  | .finished :: rest => linesFrom f none rest
  | o :: rest =>
    match o.diagnostic? with
    | some d =>
      if f.shows d then d.line machine :: linesFrom f machine rest else linesFrom f machine rest
    | none => linesFrom f machine rest

def lines (f : Filter) (run : List Observation) : List String := linesFrom f none run

end PadRelay
