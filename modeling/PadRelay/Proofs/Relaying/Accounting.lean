import PadRelay.Proofs.Receiving.Reports
import PadRelay.Relay

/-!
# PadRelay.Proofs.Relaying.Accounting

What the counters and the log say of a run whose updates are relayed.

* `Relay.process_seen`: what becomes of an update decides what is counted and logged.
* `Balanced`: the counters agree with each other and with the log.
* `Balanced.append`, `Relay.balanced_update`, `balanced_rejection`: its steps.
* `balanced_of_run`: a run of any inputs is balanced.
-/

namespace PadRelay

open Ini (Profile)
open Pad (Update)

/-! ## One update -/

def Outcome.counter : Outcome → Counter
  | .unconfigured => .updatesSkipped .unconfigured
  | .filtered => .updatesSkipped .filtered
  | .invalidConfig => .updatesSkipped .invalidConfig
  | .delivered _ => .posts .response
  | .transportFailed => .posts .transportError

def Outcome.severity? : Outcome → Option Severity
  | .unconfigured | .filtered => none
  | .delivered _ => some .info
  | .invalidConfig | .transportFailed => some .warning

def severities (seen : List Observation) : List Severity :=
  (seen.filterMap Observation.logged?).map (·.1)

theorem severities_append (first later : List Observation) :
    severities (first ++ later) = severities first ++ severities later := by
  rw [severities, List.filterMap_append, List.map_append]
  rfl

theorem loggedAt_eq_count (severity : Severity) (seen : List Observation) :
    loggedAt severity seen = (severities seen).count severity := by
  rw [severities, List.count, List.countP_map]
  rfl

theorem Relay.process_seen (p : Profile) (network : Network) (n : Nat) (u : Update) :
    (process p network n u).observations.filterMap Observation.counted? =
        [(process p network n u).outcome.counter] ∧
      severities (process p network n u).observations =
        (process p network n u).outcome.severity?.toList := by
  unfold process
  cases decide p u with
  | unconfigured => exact ⟨rfl, rfl⟩
  | filtered => exact ⟨rfl, rfl⟩
  | invalid e => exact ⟨rfl, rfl⟩
  | post r fields =>
    simp only [posted]
    split
    · exact ⟨rfl, rfl⟩
    · exact ⟨rfl, rfl⟩

/-! ## The balance -/

/-- The counters agree with each other and with the log. -/
structure Balanced (seen : List Observation) : Prop where
  /-- Each update is skipped for some reason or posted with some result. -/
  received : countOf .updatesReceived seen =
    countOf (.updatesSkipped .unconfigured) seen + countOf (.updatesSkipped .filtered) seen +
        countOf (.updatesSkipped .invalidConfig) seen +
      (countOf (.posts .response) seen + countOf (.posts .transportError) seen)
  info : loggedAt .info seen = countOf (.posts .response) seen
  warning : loggedAt .warning seen =
    countOf .documentsRejected seen + countOf (.updatesSkipped .invalidConfig) seen +
      countOf (.posts .transportError) seen
  nothingElse : ∀ severity ∈ severities seen, severity = .info ∨ severity = .warning

theorem balanced_of_tally {seen : List Observation} {counters : List Counter}
    {logged : List Severity} (hcounted : seen.filterMap Observation.counted? = counters)
    (hlogged : severities seen = logged)
    (hreceived : counters.count .updatesReceived =
      counters.count (.updatesSkipped .unconfigured) + counters.count (.updatesSkipped .filtered) +
          counters.count (.updatesSkipped .invalidConfig) +
        (counters.count (.posts .response) + counters.count (.posts .transportError)))
    (hinfo : logged.count .info = counters.count (.posts .response))
    (hwarning : logged.count .warning =
      counters.count .documentsRejected + counters.count (.updatesSkipped .invalidConfig) +
        counters.count (.posts .transportError))
    (helse : ∀ severity ∈ logged, severity = .info ∨ severity = .warning) : Balanced seen := by
  subst hcounted hlogged
  rw [← loggedAt_eq_count] at hinfo hwarning
  exact ⟨hreceived, hinfo, hwarning, helse⟩

theorem Balanced.append {first later : List Observation} (h₁ : Balanced first)
    (h₂ : Balanced later) : Balanced (first ++ later) where
  received := by
    have := h₁.received
    have := h₂.received
    simp only [countOf_append]
    omega
  info := by rw [loggedAt_append, countOf_append, h₁.info, h₂.info]
  warning := by
    have := h₁.warning
    have := h₂.warning
    simp only [loggedAt_append, countOf_append]
    omega
  nothingElse := by
    intro severity h
    rw [severities_append, List.mem_append] at h
    exact h.elim (h₁.nothingElse severity) (h₂.nothingElse severity)

/-- An update's receipt and what became of it balance each other. -/
theorem balanced_of_outcome {seen : List Observation} (o : Outcome)
    (hcounted : seen.filterMap Observation.counted? = [.updatesReceived, o.counter])
    (hlogged : severities seen = o.severity?.toList) : Balanced seen := by
  cases o with
  | unconfigured => exact balanced_of_tally hcounted hlogged rfl rfl rfl (by decide)
  | filtered => exact balanced_of_tally hcounted hlogged rfl rfl rfl (by decide)
  | delivered status =>
    exact balanced_of_tally hcounted hlogged rfl rfl rfl (by simp [Outcome.severity?])
  | invalidConfig => exact balanced_of_tally hcounted hlogged rfl rfl rfl (by decide)
  | transportFailed => exact balanced_of_tally hcounted hlogged rfl rfl rfl (by decide)

theorem Relay.balanced_update (p : Profile) (network : Network) (n : Nat) (u : Update) :
    Balanced ((Occurrence.update u).observations ++
      .began u.machine :: ((process p network n u).observations ++ [.finished])) := by
  obtain ⟨hcounted, hlogged⟩ := process_seen p network n u
  refine balanced_of_outcome (process p network n u).outcome ?_ ?_
  · simp [Occurrence.observations, List.filterMap_cons, Observation.counted?, hcounted]
  · rw [← hlogged]
    simp [severities, Occurrence.observations, List.filterMap_cons, Observation.logged?]

/-- A document that gives no update is counted once and gives one warning. -/
theorem balanced_rejection {o : Occurrence} (h : o.update? = none) : Balanced o.observations := by
  have hseen : o.observations.filterMap Observation.counted? = [.documentsRejected] ∧
      severities o.observations = [.warning] := by
    cases o with
    | update u => cases h
    | rejected e => exact ⟨rfl, rfl⟩
    | oversized maxDocument dropped => exact ⟨rfl, rfl⟩
  exact balanced_of_tally hseen.1 hseen.2 rfl rfl rfl (by decide)

/-- What is neither counted nor logged is balanced. -/
theorem balanced_of_silent {seen : List Observation}
    (hcounted : seen.filterMap Observation.counted? = []) (hlogged : severities seen = []) :
    Balanced seen :=
  balanced_of_tally hcounted hlogged rfl rfl rfl (by decide)

theorem Relay.balanced_observe (p : Profile) (network : Network) (n : Nat)
    (occurrences : List Occurrence) :
    Balanced (PadRelay.observe (handler p network) n occurrences) := by
  induction occurrences generalizing n with
  | nil => exact balanced_of_silent rfl rfl
  | cons o rest ih =>
    cases o with
    | update u =>
      have h := (balanced_update p network n u).append (ih (process p network n u).sent)
      simpa [PadRelay.observe, handler] using h
    | rejected e => exact (balanced_rejection rfl).append (ih n)
    | oversized maxDocument dropped => exact (balanced_rejection rfl).append (ih n)

theorem Ending.balanced_observations (addr : String) (ending : Ending) :
    Balanced (ending.observations addr) := by
  cases ending <;> exact balanced_of_silent rfl rfl

/-! ## A whole run -/

variable {maxDocument : Nat}

/-- **The accounts of a run balance.** Whatever the configuration is, the inputs are and the
encoder answers, the loop does not break, and in the end the updates received are those skipped and
those posted, each answered post is logged as info, each rejected document, invalid configuration
and failed post as a warning, and nothing else is logged. -/
theorem balanced_of_run (hmax : 2 ≤ maxDocument) (p : Profile) (network : Network) (addr : String)
    (inputs : List Input) :
    let run := (Receiver.start maxDocument).run inputs
    Balanced (Relay.observe p network run.1 ++ run.2.toList.flatMap (·.observations addr)) ∧
      ∀ fault, run.2 ≠ some (.broken fault) := by
  intro run
  have hstart : (Receiver.start maxDocument).framer.Waits maxDocument []
      ([] : List Bytes).flatten := Framer.waits_start maxDocument
  refine ⟨(Relay.balanced_observe p network 0 run.1).append ?_,
    Receiver.run_ne_broken hmax hstart inputs⟩
  cases run.2 with
  | none => exact balanced_of_silent rfl rfl
  | some ending => simpa using ending.balanced_observations addr

/-- One update is filtered and two are posted, of which the first is not answered; one document is
malformed and one is too large. A signal after the release is not heard. -/
theorem balanced_of_run_of_mixed :
    let p : Profile := ⟨⟨"DEFAULT", []⟩,
      [⟨"Glasscoder", [("updateurl", "http://h"), ("masterlog", "no")]⟩,
        ⟨"Line1", [("key", "t"), ("value", "%t")]⟩]⟩
    let inputs : List Input := [
      .received (Text.utf8 "\x7b\"padUpdate\":\x7b\"machine\":1\x7d\x7d\r\n\r\n[\r\n\r"),
      .received (Text.utf8
        "\n\x7b\"padUpdate\":\x7b\"now\":\x7b\"title\":\"A\"\x7d\x7d\x7d\r\n\r\n"),
      .received (List.replicate 100 120), .released, .signalled, .received [13, 10, 13, 10],
      .received (Text.utf8
        "\x7b\"padUpdate\":\x7b\"now\":\x7b\"title\":\"B\"\x7d\x7d\x7d\r\n\r\n"),
      .closed]
    let run := (Receiver.start 60).run inputs
    let seen := Relay.observe p (Network.scripted [none, some 500]) run.1 ++
      run.2.toList.flatMap (·.observations "h:1")
    2 ≤ 60 ∧ seen.filterMap Observation.counted? = [.updatesReceived, .updatesSkipped .filtered,
        .documentsRejected, .updatesReceived, .posts .transportError, .documentsRejected,
        .updatesReceived, .posts .response] ∧
      countOf .updatesReceived seen = 3 ∧ loggedAt .info seen = 1 ∧ loggedAt .warning seen = 3 := by
  intro p inputs run seen
  have hbalanced : Balanced seen :=
    (balanced_of_run (by decide) p (Network.scripted [none, some 500]) "h:1" inputs).1
  have hcounted : seen.filterMap Observation.counted? = [.updatesReceived,
      .updatesSkipped .filtered, .documentsRejected, .updatesReceived, .posts .transportError,
      .documentsRejected, .updatesReceived, .posts .response] := by
    decide +kernel
  refine ⟨by decide, hcounted, hbalanced.received.trans ?_, hbalanced.info.trans ?_,
    hbalanced.warning.trans ?_⟩
  · simp only [countOf, hcounted]
    rfl
  · simp only [countOf, hcounted]
    rfl
  · simp only [countOf, hcounted]
    rfl

end PadRelay
