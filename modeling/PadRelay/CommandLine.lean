import PadRelay.SocketAddress

/-!
# PadRelay.CommandLine

The arguments of the program: a host, a port and a configuration file, and two options.

* `CommandLine.parse`: the options that the arguments give, or the first problem met
  (`CommandLine.Problem`).

A value is looked at only when the next argument has been recognised, so an argument of a wrong
shape is reported before a wrong value that stands in front of it.
-/

namespace PadRelay
namespace CommandLine

structure Options where
  hostname : String
  port : Nat
  config : String
  logLevel : String
  metricsAddress : Option SocketAddress
  deriving DecidableEq, Repr

/-- Why the arguments do not give that. Asking for help or the version counts as a reason. -/
inductive Problem where
  | help
  | version
  | invalidValue
  | valueValidation
  | unknownArgument
  | tooManyValues
  | argumentConflict
  | missingArgument
  deriving DecidableEq, Repr

/-- The name and version of the program. -/
def versionText : String := "glasscoder-pad 0.1.0\n"

/-- What stands on the error output below a problem. -/
def usage : String := "glasscoder-pad: USAGE: cmd <hostname> <port> <config>"

/-- What an argument gives a value to. -/
inductive Parameter where
  | hostname
  | port
  | config
  | logLevel
  | metricsAddress
  deriving DecidableEq, Repr

structure Values where
  hostname : Option String
  port : Option Nat
  config : Option String
  logLevel : Option String
  metricsAddress : Option SocketAddress
  deriving DecidableEq, Repr

namespace Values

def none : Values := ⟨.none, .none, .none, .none, .none⟩

def has (v : Values) : Parameter → Bool
  | .hostname => v.hostname.isSome
  | .port => v.port.isSome
  | .config => v.config.isSome
  | .logLevel => v.logLevel.isSome
  | .metricsAddress => v.metricsAddress.isSome

end Values

/-- A port: a whole number of 16 bits. -/
def port? (value : String) : Option Nat :=
  match Text.int64? value.toList with
  | some n => if 0 ≤ n ∧ n ≤ 65535 then some n.toNat else none
  | none => none

def accept (v : Values) (parameter : Parameter) (value : String) : Except Problem Values :=
  match parameter with
  | .hostname => .ok { v with hostname := some value }
  | .port =>
    match port? value with
    | some n => .ok { v with port := some n }
    | none => .error .valueValidation
  | .config => if value = "" then .error .invalidValue else .ok { v with config := some value }
  | .logLevel => .ok { v with logLevel := some value }
  | .metricsAddress =>
    match SocketAddress.parse value with
    | some a => .ok { v with metricsAddress := some a }
    | none => .error .valueValidation

structure State where
  values : Values
  /-- A parameter that was named and its value, if that has come, both not yet looked at. -/
  pending : Option (Parameter × Option String)
  /-- The positional parameters that have not had their argument. -/
  positionals : List Parameter
  /-- Whether all further arguments are positional. -/
  trailing : Bool
  deriving DecidableEq, Repr

inductive Shape where
  | escape
  | long (name : String) (value : Option String)
  | short (flags : List Char)
  | plain
  deriving DecidableEq, Repr

/-- The shape of an argument. A single dash is plain. -/
def Shape.of (arg : String) : Shape :=
  match arg.toList with
  | ['-', '-'] => .escape
  | '-' :: '-' :: rest =>
    let name := String.ofList (rest.takeWhile (· != '='))
    match rest.dropWhile (· != '=') with
    | _ :: value => .long name (some (String.ofList value))
    | [] => .long name none
  | '-' :: c :: rest => .short (c :: rest)
  | _ => .plain

namespace State

def start : State := ⟨.none, none, [.hostname, .port, .config], false⟩

/-- Gives a parameter its value. It must have one, and only once. -/
def assign (s : State) (parameter : Parameter) (value : Option String) : Except Problem State :=
  match value with
  | none => .error .invalidValue
  | some value =>
    if s.values.has parameter then .error .argumentConflict
    else (accept s.values parameter value).map fun v => { s with values := v }

/-- Looks at the pending value. -/
def settle (s : State) : Except Problem State :=
  match s.pending with
  | none => .ok s
  | some (parameter, value) => { s with pending := none }.assign parameter value

/-- A problem that shows once the pending value has been looked at. -/
def settleThen (s : State) (problem : Problem) : Except Problem State :=
  match s.settle with
  | .error e => .error e
  | .ok _ => .error problem

/-- An option with its value behind an equals sign, or to come as the next argument. -/
def readOption (s : State) (parameter : Parameter) (value : Option String) :
    Except Problem State := do
  let s ← s.settle
  match value with
  | some v => s.assign parameter (some v)
  | none => return { s with pending := some (parameter, none) }

def readFlag (s : State) (problem : Problem) (value : Option String) : Except Problem State :=
  match value with
  | some _ => .error .tooManyValues
  | none => s.settleThen problem

/-- An argument with two dashes. -/
def readLong (s : State) (name : String) (value : Option String) : Except Problem State :=
  if name = "log-level" then s.readOption .logLevel value
  else if name = "metrics-address" then s.readOption .metricsAddress value
  else if name = "help" then s.readFlag .help value
  else if name = "version" then s.readFlag .version value
  else .error .unknownArgument

/-- An argument with one dash. The first letter decides, as every flag ends the reading. -/
def readShort (s : State) : List Char → Except Problem State
  | 'h' :: _ => s.settleThen .help
  | 'V' :: _ => s.settleThen .version
  | _ => .error .unknownArgument

def readPositional (s : State) (arg : String) : Except Problem State :=
  match s.positionals with
  | [] => .error .unknownArgument
  | parameter :: rest => do
    let s ← s.settle
    return { s with pending := some (parameter, some arg), positionals := rest }

/-- An argument without dashes: the value of the option before it, else positional. -/
def readPlain (s : State) (arg : String) : Except Problem State :=
  match s.pending with
  | some (parameter, none) => .ok { s with pending := some (parameter, some arg) }
  | _ => s.readPositional arg

def read (s : State) (arg : String) : Except Problem State :=
  if s.trailing then s.readPositional arg
  else
    match Shape.of arg with
    | .escape => .ok { s with trailing := true }
    | .long name value => s.readLong name value
    | .short flags => s.readShort flags
    | .plain => s.readPlain arg

def finish (s : State) : Except Problem Options := do
  let s ← s.settle
  match s.values with
  | ⟨some hostname, some port, some config, logLevel, metricsAddress⟩ =>
    return ⟨hostname, port, config, logLevel.getD "info", metricsAddress⟩
  | _ => throw .missingArgument

end State

def parse (args : List String) : Except Problem Options := do
  (← args.foldlM State.read State.start).finish

/-- The filter of diagnostics for a level: it concerns this program only. -/
def directive (level : String) : String := "glasscoder_pad=" ++ level

end CommandLine
end PadRelay
