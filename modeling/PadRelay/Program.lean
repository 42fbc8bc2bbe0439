import PadRelay.CommandLine
import PadRelay.Diagnostics
import PadRelay.Loader
import PadRelay.Relay

/-!
# PadRelay.Program

The whole program, given what the world around it does.

* `World`: the files, the source of updates, and the network.
* `settingsObservations`: what is said of the settings when the program starts.
* `run`: everything that is seen of a run, and whether it ended well.
-/

namespace PadRelay
namespace Program

open CommandLine (Options)
open Ini (Profile)

/-- What the program meets. -/
structure World where
  readFile : String → Except ReadFailure Bytes
  /-- What comes from the source of updates, or why there is no connection to it. -/
  source : Except ReadFailure (List Input)
  network : Network
  /-- The name of the system's signal that asks the program to stop, if one comes. -/
  stopSignal : Option String

def settingsObservations (config : String) (p : Profile) : List Observation :=
  match EncoderSettings.ofProfile p with
  | .ok (some s) =>
    .noted ⟨.program, .info, "Configuration loaded",
        [("config", config), ("update_url", s.updateUrl), ("lines", toString s.lines.length)]⟩ ::
      s.unescapedLiteralLines.map fun (n, line) =>
        .noted ⟨.program, .warn,
          "Template text contains '\"' or '\\' outside wildcards; posted JSON will be invalid",
          [("line", toString n), ("key", line.key), ("template", line.value)]⟩
  | .ok none =>
    [.noted ⟨.program, .warn, "No [Glasscoder] section; updates will be ignored",
      [("config", config)]⟩]
  | .error e =>
    [.noted ⟨.program, .warn, "Configuration incomplete; updates will be rejected",
      [("config", config), ("error", e.message)]⟩]

/-- The last words of a run that failed. -/
def exiting (message : String) : Observation :=
  .noted ⟨.program, .error, "Exiting", [("error", message)]⟩

/-- Everything seen of receiving and relaying, and whether it ended well. A source that sends no
more without an ending counts as closed. -/
def relay (addr : String) (p : Profile) (w : World) (inputs : List Input) :
    List Observation × Bool :=
  let (occurrences, ending) :=
    (Receiver.start defaultMaxDocument).run (inputs ++ [.closed])
  let seen := Relay.observe p w.network occurrences
  match ending with
  | some .stopped =>
    (seen ++
      (w.stopSignal.toList.map fun name => .noted ⟨.signals, .info, name ++ " received", []⟩) ++
      Ending.stopped.observations addr ++ [.noted ⟨.program, .info, "Shutdown complete", []⟩],
      true)
  | some (.failed reason) => (seen ++ [exiting (ReceiveError.read reason).message], false)
  | some (.disconnected pending) =>
    (seen ++ (Ending.disconnected pending).observations addr ++
      [exiting (ReceiveError.disconnected addr).message], false)
  | some (.broken _) | none => (seen, false)

/-- Everything seen of a run, and whether it ended well. -/
def run (o : Options) (w : World) : List Observation × Bool :=
  let addr := o.hostname ++ ":" ++ toString o.port
  let started : List Observation :=
    .noted ⟨.program, .info, "glasscoder-pad v0.1.0 starting", []⟩ ::
      o.metricsAddress.toList.map fun a =>
        .noted ⟨.metrics, .info, "Metrics endpoint listening", [("address", a.text)]⟩
  match load w.readFile o.config with
  | .error e => (started ++ [exiting e.message], false)
  | .ok p =>
    let loaded := started ++
      .noted ⟨.loader, .debug, "Configuration parsed",
          [("path", o.config), ("sections", toString p.sections.length)]⟩ ::
        settingsObservations o.config p
    match w.source with
    | .error failure =>
      (loaded ++ [exiting (ReceiveError.connect addr failure.message).message], false)
    | .ok inputs =>
      let (seen, well) := relay addr p w inputs
      (loaded ++
        .noted ⟨.receiver, .info, "Connected to PAD source", [("addr", addr)]⟩ :: seen, well)

end Program
end PadRelay
