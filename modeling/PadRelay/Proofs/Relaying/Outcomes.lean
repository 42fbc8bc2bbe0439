import PadRelay.Proofs.Relaying.Accounting
import PadRelay.Proofs.Relaying.Sends
import PadRelay.Proofs.Settings.Complete

/-!
# PadRelay.Proofs.Relaying.Outcomes

One update has one outcome, and is accounted for accordingly.

* `Account`: an outcome with the requests and their answers, how many went out, the log lines and
  the counters that go with it.
* `Posts`: the request for an update that is neither filtered nor without complete settings.
* `Accounts`: which account an update has. An update that is posted has the account that the
  encoder's URL and the network's answer to this request give it.
* `decide_of_filtered` to `process_of_posts`: the order in which the configuration is looked at.
* `accounts_iff`: the relay keeps exactly this account.
-/

namespace PadRelay

open Ini (Profile)
open Pad (Update)

/-! ## Accounts -/

/-- What becomes of an update, and what is seen of that outside. -/
structure Account where
  outcome : Outcome
  exchanges : List (Request × Option Nat)
  /-- How many requests went out so far, earlier updates' included. -/
  sent : Nat
  logged : List (Severity × String)
  counted : List Counter
  deriving DecidableEq

def Relay.Processed.account (done : Relay.Processed) : Account where
  outcome := done.outcome
  exchanges := done.observations.filterMap Observation.exchange?
  sent := done.sent
  logged := done.observations.filterMap Observation.logged?
  counted := done.observations.filterMap Observation.counted?

variable {p : Profile} {u : Update} {r : Request}

/-- An update that is to be sent, and the request with which it is. -/
inductive Posts (p : Profile) (u : Update) : Request → Prop where
  | complete {s : EncoderSettings} :
      Selection.shouldProcess p encoderSection u = true → Complete p s →
        Posts p u ⟨s.updateUrl ++ "/json_pad", (Payload.ofUpdate s u).toJson⟩

/-- The account of an update when `n` requests went out before. A filtered update is accounted for
without a look at the settings, and nothing goes out to a URL that no request can go to. -/
inductive Accounts (p : Profile) (network : Network) (n : Nat) (u : Update) : Account → Prop where
  | unconfigured :
      p.hasSection encoderSection = false →
        Accounts p network n u ⟨.unconfigured, [], n, [], [.updatesSkipped .unconfigured]⟩
  | filtered :
      p.hasSection encoderSection = true →
        Selection.shouldProcess p encoderSection u = false →
          Accounts p network n u ⟨.filtered, [], n, [], [.updatesSkipped .filtered]⟩
  | invalid {name key : String} :
      Selection.shouldProcess p encoderSection u = true → LacksFirst p name key →
        Accounts p network n u ⟨.invalidConfig, [], n,
          [(.warning, "invalid configuration: section [" ++ name ++ "] is missing " ++ key)],
          [.updatesSkipped .invalidConfig]⟩
  | delivered {r : Request} {url : String} {status : Nat} :
      Posts p u r → Url.target r.url = .usable url → network n r = some status →
        Accounts p network n u ⟨.delivered status, [(r, some status)], n + 1,
          [(.info, "update sent to " ++ r.url ++ ", status code: " ++ toString status)],
          [.posts .response]⟩
  | unanswered {r : Request} {url : String} :
      Posts p u r → Url.target r.url = .usable url → network n r = none →
        Accounts p network n u ⟨.transportFailed, [(r, none)], n + 1,
          [(.warning, "update failed: error sending request for url (" ++ url ++ ")")],
          [.posts .transportError]⟩
  | refused {r : Request} {url : String} :
      Posts p u r → Url.target r.url = .refused url →
        Accounts p network n u ⟨.transportFailed, [(r, none)], n,
          [(.warning, "update failed: builder error for url (" ++ url ++ ")")],
          [.posts .transportError]⟩
  | unparsable {r : Request} :
      Posts p u r → Url.target r.url = .unparsable →
        Accounts p network n u ⟨.transportFailed, [(r, none)], n,
          [(.warning, "update failed: builder error")], [.posts .transportError]⟩

/-! ## The order of the checks -/

theorem hasSection_of_shouldProcess {name : String}
    (h : Selection.shouldProcess p name u = true) : p.hasSection name = true := by
  rw [Selection.shouldProcess] at h
  split at h
  · assumption
  · cases h

namespace Relay

theorem decide_of_not_hasSection (h : p.hasSection encoderSection = false) :
    decide p u = .unconfigured := by
  simp [decide, h]

theorem decide_of_filtered (hsection : p.hasSection encoderSection = true)
    (h : Selection.shouldProcess p encoderSection u = false) : decide p u = .filtered := by
  simp [decide, hsection, h]

section

variable (h : Selection.shouldProcess p encoderSection u = true)

include h

theorem decide_of_lacksFirst {name key : String} (hlacks : LacksFirst p name key) :
    decide p u = .invalid (.missing name key) := by
  have hsection := hasSection_of_shouldProcess h
  have herror := (ofProfile_eq_error_iff hsection).mpr ⟨name, key, rfl, hlacks⟩
  simp [decide, hsection, h, herror]

theorem posts_or_lacksFirst : (∃ r, Posts p u r) ∨ ∃ name key, LacksFirst p name key := by
  have hsection := hasSection_of_shouldProcess h
  cases hs : EncoderSettings.ofProfile p with
  | error e =>
    obtain ⟨name, key, -, hlacks⟩ := (ofProfile_eq_error_iff hsection).mp hs
    exact .inr ⟨name, key, hlacks⟩
  | ok found =>
    cases found with
    | none => exact absurd hs (ofProfile_ne_none hsection)
    | some s => exact .inl ⟨_, .complete h ((ofProfile_eq_ok_iff hsection).mp hs)⟩

end

theorem process_of_posts (h : Posts p u r) (network : Network) (n : Nat) :
    ∃ fields, process p network n u =
      posted r fields (send network n r).1 (send network n r).2 := by
  obtain @⟨s, h, hs⟩ := h
  have hok := (ofProfile_eq_ok_iff (hasSection_of_shouldProcess h)).mpr hs
  refine ⟨s.lines.length, ?_⟩
  rw [process, decide_eq_post_iff.mpr ⟨s, hok, h, rfl, rfl⟩]
  rfl

end Relay

/-! ## What is accounted for -/

variable {network : Network} {n : Nat} {account : Account}

namespace Relay

theorem account_of_ok (h : Posts p u r) {status sent : Nat}
    (hsend : send network n r = (.ok status, sent)) :
    (process p network n u).account = ⟨.delivered status, [(r, some status)], sent,
      [(.info, "update sent to " ++ r.url ++ ", status code: " ++ toString status)],
      [.posts .response]⟩ := by
  obtain ⟨fields, hprocess⟩ := process_of_posts h network n
  rw [hprocess, hsend]
  rfl

theorem account_of_error (h : Posts p u r) {e : TransportError} {sent : Nat}
    (hsend : send network n r = (.error e, sent)) :
    (process p network n u).account = ⟨.transportFailed, [(r, none)], sent,
      [(.warning, "update failed: " ++ e.message)], [.posts .transportError]⟩ := by
  obtain ⟨fields, hprocess⟩ := process_of_posts h network n
  rw [hprocess, hsend]
  rfl

theorem warning_unanswered (url : String) :
    "update failed: " ++ (TransportError.unanswered url).message =
      "update failed: error sending request for url (" ++ url ++ ")" := by
  change "update failed: " ++ ("error sending request for url (" ++ url ++ ")") = _
  simp only [← String.append_assoc, String.reduceAppend]

theorem warning_refused (url : String) :
    "update failed: " ++ (TransportError.refusedUrl url).message =
      "update failed: builder error for url (" ++ url ++ ")" := by
  change "update failed: " ++ ("builder error for url (" ++ url ++ ")") = _
  simp only [← String.append_assoc, String.reduceAppend]

end Relay

theorem Accounts.eq_account (h : Accounts p network n u account) :
    account = (Relay.process p network n u).account := by
  cases h with
  | unconfigured h =>
    rw [Relay.process, Relay.decide_of_not_hasSection h]
    rfl
  | filtered hsection h =>
    rw [Relay.process, Relay.decide_of_filtered hsection h]
    rfl
  | invalid h hlacks =>
    rw [Relay.process, Relay.decide_of_lacksFirst h hlacks]
    simp only [Relay.Processed.account, SettingsError.message, ← String.append_assoc]
    rfl
  | @delivered r url status hr htarget hanswer =>
    have hsend : Relay.send network n r = (.ok status, n + 1) := by
      simp only [Relay.send, htarget, hanswer]
    rw [Relay.account_of_ok hr hsend]
  | @unanswered r url hr htarget hanswer =>
    have hsend : Relay.send network n r = (.error (.unanswered url), n + 1) := by
      simp only [Relay.send, htarget, hanswer]
    rw [Relay.account_of_error hr hsend, Relay.warning_unanswered]
  | @refused r url hr htarget =>
    have hsend : Relay.send network n r = (.error (.refusedUrl url), n) := by
      simp only [Relay.send, htarget]
    rw [Relay.account_of_error hr hsend, Relay.warning_refused]
  | @unparsable r hr htarget =>
    have hsend : Relay.send network n r = (.error .unparsableUrl, n) := by
      simp only [Relay.send, htarget]
    rw [Relay.account_of_error hr hsend]
    rfl

theorem Posts.exists_accounts (hr : Posts p u r) (network : Network) (n : Nat) :
    ∃ account, Accounts p network n u account := by
  cases htarget : Url.target r.url with
  | unparsable => exact ⟨_, .unparsable hr htarget⟩
  | refused url => exact ⟨_, .refused hr htarget⟩
  | usable url =>
    cases hanswer : network n r with
    | none => exact ⟨_, .unanswered hr htarget hanswer⟩
    | some status => exact ⟨_, .delivered hr htarget hanswer⟩

theorem exists_accounts (p : Profile) (network : Network) (n : Nat) (u : Update) :
    ∃ account, Accounts p network n u account := by
  cases hsection : p.hasSection encoderSection with
  | false => exact ⟨_, .unconfigured hsection⟩
  | true =>
    cases h : Selection.shouldProcess p encoderSection u with
    | false => exact ⟨_, .filtered hsection h⟩
    | true =>
      obtain ⟨r, hr⟩ | ⟨name, key, hlacks⟩ := Relay.posts_or_lacksFirst h
      · exact hr.exists_accounts network n
      · exact ⟨_, .invalid h hlacks⟩

theorem accounts_iff :
    Accounts p network n u account ↔ account = (Relay.process p network n u).account := by
  constructor
  · exact Accounts.eq_account
  · rintro rfl
    obtain ⟨account, h⟩ := exists_accounts p network n u
    rw [← h.eq_account]
    exact h

/-- In no case more than one request and one line, and always one counter, that of the outcome. -/
theorem Accounts.bounded (h : Accounts p network n u account) :
    account.exchanges.length ≤ 1 ∧ n ≤ account.sent ∧
      account.sent ≤ n + account.exchanges.length ∧ account.logged.length ≤ 1 ∧
      account.counted = [account.outcome.counter] := by
  cases h with
  | unconfigured _ => simp [Outcome.counter]
  | filtered _ _ => simp [Outcome.counter]
  | invalid _ _ => simp [Outcome.counter]
  | delivered _ _ _ => simp [Outcome.counter]
  | unanswered _ _ _ => simp [Outcome.counter]
  | refused _ _ => simp [Outcome.counter]
  | unparsable _ _ => simp [Outcome.counter]

/-- **One update has one outcome.** Whatever the configuration, the update and the network are, one
of the cases holds, and what is sent, answered, logged and counted is what it says. That is one
request and one line at most, and one counter. Behind the check for the encoder's section it is
never found missing again. -/
theorem one_outcome (p : Profile) (network : Network) (n : Nat) (u : Update) :
    let done := (Relay.process p network n u).account
    (∀ account, Accounts p network n u account ↔ account = done) ∧
    done.exchanges.length ≤ 1 ∧ n ≤ done.sent ∧ done.sent ≤ n + done.exchanges.length ∧
    done.logged.length ≤ 1 ∧ done.counted = [done.outcome.counter] ∧
    (p.hasSection encoderSection = true → EncoderSettings.ofProfile p ≠ .ok none) := by
  intro done
  obtain ⟨hexchanges, hle, hsent, hlogged, hcounted⟩ :=
    (accounts_iff.mpr rfl : Accounts p network n u done).bounded
  exact ⟨fun _ => accounts_iff, hexchanges, hle, hsent, hlogged, hcounted, ofProfile_ne_none⟩

/-- Two incomplete lines only show when an update is not filtered; then the first one is named.
With a complete line the first post is answered and the second is not. To a URL of another scheme
nothing goes out. -/
theorem one_outcome_of_lines :
    let incomplete : Profile := ⟨⟨"DEFAULT", []⟩,
      [⟨"Line2", []⟩, ⟨"Glasscoder", [("masterlog", "no"), ("updateurl", "http://h")]⟩,
        ⟨"Line1", [("key", "t")]⟩]⟩
    let complete (url : String) : Profile := ⟨⟨"DEFAULT", []⟩,
      [⟨"Glasscoder", [("masterlog", "no"), ("updateurl", url)]⟩,
        ⟨"Line1", [("key", "t"), ("value", "%t")]⟩]⟩
    let network := Network.scripted [some 500, none]
    let body := Payload.toJson ⟨[("t", "")]⟩
    incomplete.hasSection encoderSection = true ∧ EncoderSettings.ofProfile incomplete ≠ .ok none ∧
      (Relay.process incomplete network 0 { Update.blank with machine := 1 }).account =
        ⟨.filtered, [], 0, [], [.updatesSkipped .filtered]⟩ ∧
      (Relay.process incomplete network 0 Update.blank).account =
        ⟨.invalidConfig, [], 0,
          [(.warning, "invalid configuration: section [Line1] is missing Value")],
          [.updatesSkipped .invalidConfig]⟩ ∧
      (Relay.process (complete "http://h") network 0 Update.blank).account =
        ⟨.delivered 500, [(⟨"http://h/json_pad", body⟩, some 500)], 1,
          [(.info, "update sent to http://h/json_pad, status code: 500")], [.posts .response]⟩ ∧
      (Relay.process (complete "http://h") network 1 Update.blank).account =
        ⟨.transportFailed, [(⟨"http://h/json_pad", body⟩, none)], 2,
          [(.warning, "update failed: error sending request for url (http://h/json_pad)")],
          [.posts .transportError]⟩ ∧
      (Relay.process (complete "ftp://h") network 0 Update.blank).account =
        ⟨.transportFailed, [(⟨"ftp://h/json_pad", body⟩, none)], 0,
          [(.warning, "update failed: builder error for url (ftp://h/json_pad)")],
          [.posts .transportError]⟩ := by
  intro incomplete complete network body
  have hsection : incomplete.hasSection encoderSection = true := by decide
  have hrow : Unbroken incomplete 1 := by
    intro i hone hle
    obtain rfl : i = 1 := Nat.le_antisymm hle hone
    decide
  have hlacks : LacksFirst incomplete (lineSection 1) "Value" :=
    @LacksFirst.line incomplete "http://h" 1 "Value" (by decide) (Nat.le_refl 1) hrow
      (fun j hj hlt => absurd hj (Nat.not_le_of_lt hlt)) (.inr ⟨rfl, by decide, by decide⟩)
  have hposts (url : String) : Posts (complete url) Update.blank ⟨url ++ "/json_pad", body⟩ := by
    have hs : Complete (complete url) ⟨url, [⟨"t", "%t"⟩]⟩ := (ofProfile_eq_ok_iff rfl).mp rfl
    have hbody : Payload.ofUpdate ⟨url, [⟨"t", "%t"⟩]⟩ Update.blank = ⟨[("t", "")]⟩ := by cbv
    have h : Selection.shouldProcess (complete url) encoderSection Update.blank = true := rfl
    simpa only [hbody] using Posts.complete h hs
  have hweb : Url.target "http://h/json_pad" = .usable "http://h/json_pad" := by decide +kernel
  have hother : Url.target "ftp://h/json_pad" = .refused "ftp://h/json_pad" := by decide +kernel
  obtain ⟨hfiltered, -⟩ := one_outcome incomplete network 0 { Update.blank with machine := 1 }
  obtain ⟨hinvalid, -, -, -, -, -, hnone⟩ := one_outcome incomplete network 0 Update.blank
  obtain ⟨hfirst, -⟩ := one_outcome (complete "http://h") network 0 Update.blank
  obtain ⟨hsecond, -⟩ := one_outcome (complete "http://h") network 1 Update.blank
  obtain ⟨hrefused, -⟩ := one_outcome (complete "ftp://h") network 0 Update.blank
  refine ⟨hsection, hnone hsection, ?_, ?_, ?_, ?_, ?_⟩
  · exact ((hfiltered _).mp (.filtered hsection (by decide))).symm
  · exact ((hinvalid _).mp (.invalid (by decide) hlacks)).symm
  · exact ((hfirst _).mp (.delivered (hposts "http://h") hweb rfl)).symm
  · exact ((hsecond _).mp (.unanswered (hposts "http://h") hweb rfl)).symm
  · exact ((hrefused _).mp (.refused (hposts "ftp://h") hother)).symm

end PadRelay
