/-!
# PadRelay.Severity

How grave a logged message is.

* `Severity`: the eight grades of system logs, the gravest first.
* `Level`: the four levels of the program's own diagnostics, and `Severity.level` between them.
-/

namespace PadRelay

/-- The grades of system logs. -/
inductive Severity where
  | emergency
  | alert
  | critical
  | error
  | warning
  | notice
  | info
  | debug
  deriving DecidableEq, Repr

namespace Severity

def name : Severity → String
  | .emergency => "emerg"
  | .alert => "alert"
  | .critical => "crit"
  | .error => "err"
  | .warning => "warning"
  | .notice => "notice"
  | .info => "info"
  | .debug => "debug"

/-- The rank of a grade; the gravest has the lowest. -/
def rank : Severity → Nat
  | .emergency => 0
  | .alert => 1
  | .critical => 2
  | .error => 3
  | .warning => 4
  | .notice => 5
  | .info => 6
  | .debug => 7

/-- Graver grades come first. -/
def compare (a b : Severity) : Ordering := Ord.compare a.rank b.rank

def sort (xs : List Severity) : List Severity := xs.mergeSort fun a b => a.rank ≤ b.rank

end Severity

inductive Level where
  | error
  | warn
  | info
  | debug
  deriving DecidableEq, Repr

def Level.name : Level → String
  | .error => "ERROR"
  | .warn => "WARN"
  | .info => "INFO"
  | .debug => "DEBUG"

/-- The level at which a message of this severity is shown. -/
def Severity.level : Severity → Level
  | .emergency | .alert | .critical | .error => .error
  | .warning => .warn
  | .notice | .info => .info
  | .debug => .debug

end PadRelay
