import PadRelay.Severity

/-!
# PadRelay.Observation

What the outside sees of a run, in order: messages, counters and the requests that were sent.

* `Counter`: what is counted, with the names and labels under which it is published.
* `Request`: what is posted to an encoder.
* `Observation`: one thing seen. `Observation.diagnostic?` gives it as a line of diagnostics when
  logged messages go there too.
* `countOf`, `loggedAt`: how often something was counted or logged in a run.
-/

namespace PadRelay

/-- Why an update was not posted. -/
inductive SkipReason where
  | unconfigured
  | filtered
  | invalidConfig
  deriving DecidableEq, Repr

/-- How a post ended. -/
inductive PostResult where
  | response
  | transportError
  deriving DecidableEq, Repr

inductive Counter where
  | updatesReceived
  | documentsRejected
  | updatesSkipped (reason : SkipReason)
  | posts (result : PostResult)
  deriving DecidableEq, Repr

namespace Counter

def all : List Counter :=
  [.updatesReceived, .documentsRejected, .updatesSkipped .unconfigured, .updatesSkipped .filtered,
    .updatesSkipped .invalidConfig, .posts .response, .posts .transportError]

def name : Counter → String
  | .updatesReceived => "pad_updates_received_total"
  | .documentsRejected => "pad_documents_rejected_total"
  | .updatesSkipped _ => "pad_updates_skipped_total"
  | .posts _ => "pad_posts_total"

/-- The label and its value, where there is one. -/
def label? : Counter → Option (String × String)
  | .updatesReceived | .documentsRejected => none
  | .updatesSkipped .unconfigured => some ("reason", "unconfigured")
  | .updatesSkipped .filtered => some ("reason", "filtered")
  | .updatesSkipped .invalidConfig => some ("reason", "invalid_config")
  | .posts .response => some ("outcome", "response")
  | .posts .transportError => some ("outcome", "transport_error")

/-- The name with the label in braces. -/
def text (c : Counter) : String :=
  match c.label? with
  | none => c.name
  | some (key, value) => c.name ++ "\x7b" ++ key ++ "=" ++ value ++ "\x7d"

end Counter

structure Request where
  url : String
  body : String
  deriving DecidableEq, Repr

def Request.method : String := "POST"

def Request.contentType : String := "application/json"

/-- The part of the program that a diagnostic comes from. -/
inductive Origin where
  | program
  | metrics
  | loader
  | receiver
  | relay
  | log
  | signals
  deriving DecidableEq, Repr

/-- The name under which a part of the program reports. -/
def Origin.target : Origin → String
  | .program => "glasscoder_pad"
  | .metrics => "glasscoder_pad::observability::metrics"
  | .loader => "glasscoder_pad::config::loader"
  | .receiver => "glasscoder_pad::pad::receiver"
  | .relay => "glasscoder_pad::relay::processor"
  | .log => "glasscoder_pad::pad::log"
  | .signals => "glasscoder_pad::lifecycle::signals"

structure Diagnostic where
  origin : Origin
  level : Level
  message : String
  fields : List (String × String)
  deriving DecidableEq, Repr

/-- A message for the log as a line of diagnostics. -/
def Diagnostic.ofLog (severity : Severity) (message : String) : Diagnostic :=
  ⟨.log, severity.level, message, [("severity", severity.name)]⟩

/-- One thing that is seen of a run. -/
inductive Observation where
  /-- The work on an update of this log machine begins. -/
  | began (machine : UInt32)
  /-- That work is over. -/
  | finished
  | logged (severity : Severity) (message : String)
  | counted (counter : Counter)
  | noted (diagnostic : Diagnostic)
  /-- A request was sent; the status of its answer, if one came. -/
  | sent (request : Request) (status : Option Nat)
  deriving DecidableEq, Repr

namespace Observation

def logged? : Observation → Option (Severity × String)
  | .logged severity message => some (severity, message)
  | _ => none

/-- The counter that goes up by one. -/
def counted? : Observation → Option Counter
  | .counted c => some c
  | _ => none

def sent? : Observation → Option Request
  | .sent r _ => some r
  | _ => none

def answered? : Observation → Option Request
  | .sent r (some _) => some r
  | _ => none

/-- The line of diagnostics, messages for the log included. -/
def diagnostic? : Observation → Option Diagnostic
  | .noted d => some d
  | .logged severity message => some (Diagnostic.ofLog severity message)
  | _ => none

end Observation

def countOf (c : Counter) (run : List Observation) : Nat :=
  (run.filterMap Observation.counted?).count c

theorem countOf_append (c : Counter) (first later : List Observation) :
    countOf c (first ++ later) = countOf c first + countOf c later := by
  rw [countOf, List.filterMap_append, List.count_append]
  rfl

def loggedAt (severity : Severity) (run : List Observation) : Nat :=
  (run.filterMap Observation.logged?).countP fun line => line.1 == severity

theorem loggedAt_append (severity : Severity) (first later : List Observation) :
    loggedAt severity (first ++ later) = loggedAt severity first + loggedAt severity later := by
  rw [loggedAt, List.filterMap_append, List.countP_append]
  rfl

end PadRelay
