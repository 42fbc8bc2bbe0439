import PadRelay.Payload
import PadRelay.Receiver
import PadRelay.Selection
import PadRelay.Url.Target

/-!
# PadRelay.Relay

From updates to posts: at most one request for each update, and a word on how it went.

* `Relay.decide`: what the configuration wants done with an update.
* `Relay.process`: the same done, with the encoder's answer; never more than one request.
* `Relay.observe`: everything seen of a run of the receiver whose updates are relayed.

What an encoder answers is given as a `Network`: the status of the n-th request, or none.
-/

namespace PadRelay

open Ini (Profile)
open Pad (Update)

inductive Outcome where
  | unconfigured
  | filtered
  | delivered (status : Nat)
  | invalidConfig
  | transportFailed
  deriving DecidableEq, Repr

/-- Why a request was not answered. -/
inductive TransportError where
  | unparsableUrl
  | refusedUrl (url : String)
  | unanswered (url : String)
  deriving DecidableEq, Repr

def TransportError.message : TransportError → String
  | .unparsableUrl => "builder error"
  | .refusedUrl url => "builder error for url (" ++ url ++ ")"
  | .unanswered url => "error sending request for url (" ++ url ++ ")"

/-- The status with which the n-th request is answered, if it is. -/
abbrev Network := Nat → Request → Option Nat

namespace Network

def unreachable : Network := fun _ _ => none

/-- Answers from a list, the last one again and again. -/
def scripted (answers : List (Option Nat)) : Network := fun n _ =>
  (answers[n]?.getD (answers.getLast?.getD none))

end Network

namespace Relay

/-- What stands behind the encoder's address in every request. -/
def path : String := "/json_pad"

def request (s : EncoderSettings) (u : Update) : Request :=
  ⟨s.updateUrl ++ path, (Payload.ofUpdate s u).toJson⟩

inductive Decision where
  | unconfigured
  | filtered
  | invalid (e : SettingsError)
  | post (request : Request) (fields : Nat)
  deriving DecidableEq, Repr

/-- What a configuration wants done with an update. A filtered update is passed over before the
settings are looked at. -/
def decide (p : Profile) (u : Update) : Decision :=
  if !p.hasSection encoderSection then .unconfigured
  else if !Selection.shouldProcess p encoderSection u then .filtered
  else
    match EncoderSettings.ofProfile p with
    | .error e => .invalid e
    | .ok none => .unconfigured
    | .ok (some s) => .post (request s u) s.lines.length

/-- The answer to the n-th request, none being sent to a URL that no request can go to; and how
many requests were sent then. -/
def send (network : Network) (n : Nat) (r : Request) : Except TransportError Nat × Nat :=
  match Url.target r.url with
  | .unparsable => (.error .unparsableUrl, n)
  | .refused url => (.error (.refusedUrl url), n)
  | .usable url =>
    match network n r with
    | some status => (.ok status, n + 1)
    | none => (.error (.unanswered url), n + 1)

/-- An update dealt with: what became of it, what is seen of it, and how many requests were sent
so far. -/
structure Processed where
  outcome : Outcome
  observations : List Observation
  sent : Nat
  deriving DecidableEq, Repr

/-- What is seen of a request and its answer. -/
def posted (r : Request) (fields : Nat) (answer : Except TransportError Nat) (sent : Nat) :
    Processed :=
  let note : Observation :=
    .noted ⟨.relay, .debug, "Posting metadata", [("url", r.url), ("fields", toString fields)]⟩
  match answer with
  | .ok status =>
    ⟨.delivered status,
      [note, .sent r (some status), .counted (.posts .response),
        .logged .info ("update sent to " ++ r.url ++ ", status code: " ++ toString status)],
      sent⟩
  | .error e =>
    ⟨.transportFailed,
      [note, .sent r none, .counted (.posts .transportError),
        .logged .warning ("update failed: " ++ e.message)],
      sent⟩

/-- Deals with an update when `n` requests were sent before. -/
def process (p : Profile) (network : Network) (n : Nat) (u : Update) : Processed :=
  match decide p u with
  | .unconfigured => ⟨.unconfigured, [.counted (.updatesSkipped .unconfigured)], n⟩
  | .filtered =>
    ⟨.filtered,
      [.noted ⟨.relay, .debug, "Update filtered by [Glasscoder] settings", []⟩,
        .counted (.updatesSkipped .filtered)],
      n⟩
  | .invalid e =>
    ⟨.invalidConfig,
      [.counted (.updatesSkipped .invalidConfig),
        .logged .warning ("invalid configuration: " ++ e.message)],
      n⟩
  | .post r fields =>
    let (answer, sent) := send network n r
    posted r fields answer sent

def processAll (p : Profile) (network : Network) (n : Nat) : List Update → List Processed
  | [] => []
  | u :: us =>
    let done := process p network n u
    done :: processAll p network done.sent us

/-- The handler that relays updates. Its state is the number of requests sent. -/
def handler (p : Profile) (network : Network) : Handler Nat := fun n u =>
  let done := process p network n u
  (done.observations, done.sent)

/-- Everything seen of what the receiver's loop gave, its updates relayed. -/
def observe (p : Profile) (network : Network) (occurrences : List Occurrence) :
    List Observation := PadRelay.observe (handler p network) 0 occurrences

end Relay
end PadRelay
