import PadRelay.Proofs.Receiving.Stream
import PadRelay.Relay

/-!
# PadRelay.Proofs.Relaying.Sends

What is sent in a run whose updates are relayed.

* `Relay.wanted`: the request that a configuration wants for an update, if it wants one.
* `Relay.process_of_wanted_none`, `Relay.process_of_wanted`: dealing with an update sends that
  request once, or nothing, whatever becomes of it.
* `Relay.exchanges_eachAlone`: over the pieces of a stream, the requests of those that decode.
* `sends_of_run`: over a whole run of the receive loop.
-/

namespace PadRelay

open Framing
open Ini (Profile)
open Pad (Update)

/-- A request that was sent, with the status of its answer. -/
def Observation.exchange? : Observation → Option (Request × Option Nat)
  | .sent r status => some (r, status)
  | _ => none

namespace Relay

/-- The request that a configuration wants for an update. -/
def wanted (p : Profile) (u : Update) : Option Request :=
  match EncoderSettings.ofProfile p with
  | .ok (some s) => if Selection.shouldProcess p encoderSection u then some (request s u) else none
  | .ok none | .error _ => none

/-- The status that comes back when `n` requests were sent before: none from a URL to which no
request can go. -/
def answer (network : Network) (n : Nat) (r : Request) : Option Nat :=
  match Url.target r.url with
  | .usable _ => network n r
  | .unparsable | .refused _ => none

theorem hasSection_of_ofProfile {p : Profile} {s : EncoderSettings}
    (h : EncoderSettings.ofProfile p = .ok (some s)) : p.hasSection encoderSection = true := by
  unfold EncoderSettings.ofProfile at h
  split at h
  · assumption
  · cases h

theorem decide_eq_post_iff {p : Profile} {u : Update} {r : Request} {fields : Nat} :
    decide p u = .post r fields ↔ ∃ s, EncoderSettings.ofProfile p = .ok (some s) ∧
      Selection.shouldProcess p encoderSection u = true ∧ r = request s u ∧
        fields = s.lines.length := by
  unfold decide
  constructor
  · intro h
    split at h
    · cases h
    split at h
    · cases h
    · next hsel =>
      split at h
      · cases h
      · cases h
      · next s hs =>
        cases h
        exact ⟨s, hs, by simpa using hsel, rfl, rfl⟩
  · rintro ⟨s, hs, hsel, rfl, rfl⟩
    simp [hasSection_of_ofProfile hs, hsel, hs]

theorem exchanges_posted (r : Request) (fields : Nat) (network : Network) (n : Nat) :
    (posted r fields (send network n r).1 (send network n r).2).observations.filterMap
      Observation.exchange? = [(r, answer network n r)] := by
  cases h : Url.target r.url with
  | unparsable => simp only [send, answer, h]; rfl
  | refused url => simp only [send, answer, h]; rfl
  | usable url =>
    cases hn : network n r with
    | none => simp only [send, answer, h, hn]; rfl
    | some status => simp only [send, answer, h, hn]; rfl

theorem decide_of_wanted_none {p : Profile} {u : Update} (h : wanted p u = none) :
    ∀ r fields, decide p u ≠ .post r fields := by
  intro r fields hd
  obtain ⟨s, hs, hsel, -, -⟩ := decide_eq_post_iff.mp hd
  rw [wanted, hs] at h
  simp only [hsel, if_true, reduceCtorEq] at h

theorem process_of_wanted_none {p : Profile} {u : Update} (h : wanted p u = none)
    (network : Network) (n : Nat) :
    (process p network n u).observations.filterMap Observation.exchange? = [] ∧
      (process p network n u).sent = n := by
  have hne := decide_of_wanted_none h
  unfold process
  cases hd : decide p u with
  | unconfigured => exact ⟨rfl, rfl⟩
  | filtered => exact ⟨rfl, rfl⟩
  | invalid e => exact ⟨rfl, rfl⟩
  | post r fields => exact absurd hd (hne r fields)

/-- The request that is wanted for an update is sent once, whatever becomes of it. -/
theorem process_of_wanted {p : Profile} {u : Update} {r : Request} (h : wanted p u = some r)
    (network : Network) (n : Nat) :
    (process p network n u).observations.filterMap Observation.exchange? =
        [(r, answer network n r)] ∧
      (process p network n u).sent = (send network n r).2 := by
  unfold wanted at h
  split at h
  · next s hs =>
    split at h
    · next hsel =>
      cases h
      have hd := decide_eq_post_iff.mpr ⟨s, hs, hsel, rfl, rfl⟩
      unfold process
      rw [hd]
      refine ⟨exchanges_posted _ _ _ _, ?_⟩
      simp only [posted]
      split <;> rfl
    · cases h
  · cases h
  · cases h

/-- Requests sent in order, with the statuses that come back, when `n` were sent before. -/
def exchange (network : Network) (n : Nat) : List Request → List (Request × Option Nat)
  | [] => []
  | r :: rs => (r, answer network n r) :: exchange network (send network n r).2 rs

/-- Requests to one URL are answered by their turn. The count stands still only where no answer
depends on it. -/
theorem exchange_eq_zipIdx (network : Network) {rs : List Request} {url : String}
    (h : ∀ r ∈ rs, r.url = url) {n m : Nat} (hm : ∀ x, Url.target url = .usable x → n = m) :
    exchange network n rs = (rs.zipIdx m).map fun x => (x.1, answer network x.2 x.1) := by
  induction rs generalizing n m with
  | nil => rfl
  | cons r rs ih =>
    obtain ⟨rfl, hrs⟩ := List.forall_mem_cons.mp h
    have hfirst : answer network n r = answer network m r := by
      cases ht : Url.target r.url with
      | unparsable => simp only [answer, ht]
      | refused x => simp only [answer, ht]
      | usable x => rw [hm x ht]
    have hnext : ∀ x, Url.target r.url = .usable x → (send network n r).2 = m + 1 := by
      intro x hx
      rw [← hm x hx]
      simp only [send, hx]
      split <;> rfl
    rw [exchange, hfirst, ih hrs hnext, List.zipIdx_cons, List.map_cons]

/-- The updates that pieces of a stream carry. -/
def carried (pieces : List Bytes) : List Update :=
  pieces.filterMap fun piece => (Pad.document.decode piece).toOption

theorem exchanges_eachAlone (p : Profile) (network : Network) (n : Nat) (pieces : List Bytes) :
    (eachAlone (handler p network) n pieces).filterMap Observation.exchange? =
      exchange network n ((carried pieces).filterMap (wanted p)) := by
  induction pieces generalizing n with
  | nil => rfl
  | cons piece pieces ih =>
    unfold eachAlone
    split
    · next hblank =>
      rw [ih]
      simp only [carried, List.filterMap_cons, decode_of_blank hblank]
    · split
      · next e hd =>
        have hc : carried (piece :: pieces) = carried pieces := by
          simp [carried, hd, Except.toOption]
        rw [hc, ← ih]
        rfl
      · next u hd =>
        have hc : carried (piece :: pieces) = u :: carried pieces := by
          simp [carried, hd, Except.toOption]
        simp only [hc, List.filterMap_cons, List.filterMap_append, Observation.exchange?, ih,
          handler]
        cases hw : wanted p u with
        | none =>
          obtain ⟨hobs, hsent⟩ := process_of_wanted_none hw network n
          rw [hobs, hsent]
          rfl
        | some r =>
          obtain ⟨hobs, hsent⟩ := process_of_wanted hw network n
          rw [hobs, hsent]
          rfl

/-- What is sent for the pieces of a stream: a request for each wanted update, if the configuration
says where to. -/
def requests (p : Profile) (pieces : List Bytes) : List Request :=
  match EncoderSettings.ofProfile p with
  | .ok (some s) =>
    ((carried pieces).filter (Selection.shouldProcess p encoderSection)).map fun u =>
      ⟨s.updateUrl ++ "/json_pad", (Payload.ofUpdate s u).toJson⟩
  | .ok none | .error _ => []

theorem filterMap_wanted (p : Profile) (pieces : List Bytes) :
    (carried pieces).filterMap (wanted p) = requests p pieces := by
  have hnone : (∀ s, EncoderSettings.ofProfile p ≠ .ok (some s)) → ∀ u, wanted p u = none := by
    intro hne u
    unfold wanted
    split
    · next s hs => exact absurd hs (hne s)
    · rfl
    · rfl
  unfold requests
  split
  · next s hs =>
    have hw : wanted p = fun u =>
        if Selection.shouldProcess p encoderSection u then some (request s u) else none := by
      funext u
      rw [wanted, hs]
    rw [hw]
    induction carried pieces with
    | nil => rfl
    | cons u us ih =>
      rw [List.filterMap_cons, List.filter_cons, ih]
      by_cases hsel : Selection.shouldProcess p encoderSection u = true
      · rw [if_pos hsel, if_pos hsel]
        rfl
      · rw [if_neg hsel, if_neg hsel]
  · next hs => exact List.filterMap_eq_nil_iff.mpr fun u _ => hnone (by simp [hs]) u
  · next e hs => exact List.filterMap_eq_nil_iff.mpr fun u _ => hnone (by simp [hs]) u

theorem url_of_mem_requests (p : Profile) (pieces : List Bytes) :
    ∃ url, ∀ r ∈ requests p pieces, r.url = url := by
  unfold requests
  split
  · next s _ =>
    refine ⟨s.updateUrl ++ "/json_pad", fun r hr => ?_⟩
    obtain ⟨u, -, rfl⟩ := List.mem_map.mp hr
    rfl
  · exact ⟨"", by simp⟩
  · exact ⟨"", by simp⟩

end Relay

theorem filterMap_sent? (seen : List Observation) :
    seen.filterMap Observation.sent? = (seen.filterMap Observation.exchange?).map (·.1) := by
  rw [List.map_filterMap]
  congr 1
  funext o
  cases o <;> rfl

/-- **A run posts each wanted update once, in stream order, and nothing else.** The requests
depend on the configuration and on the pieces of the stream, not on the reads, on what stops the
run or on what the encoder answers; the n-th of them gets the n-th answer. -/
theorem sends_of_run (p : Profile) (network : Network) {maxDocument : Nat} {reads : List Bytes}
    (hk : (Receiver.start maxDocument).KeepsAll reads) (stop : Stop) (later : List Input) :
    let run := (Receiver.start maxDocument).run (reads.map .received ++ stop.input :: later)
    let requests := Relay.requests p (cut reads.flatten).1
    (Relay.observe p network run.1).filterMap Observation.sent? = requests ∧
      (Relay.observe p network run.1).filterMap Observation.exchange? =
        requests.zipIdx.map fun x => (x.1, Relay.answer network x.2 x.1) := by
  intro run requests
  obtain ⟨url, hurl⟩ := Relay.url_of_mem_requests p (cut reads.flatten).1
  have hseen : (Relay.observe p network run.1).filterMap Observation.exchange? =
      requests.zipIdx.map fun x => (x.1, Relay.answer network x.2 x.1) := by
    have hrun : run = _ := Receiver.run_start hk stop later
    rw [hrun, Relay.observe, observe_filterMap_dispatch, Relay.exchanges_eachAlone,
      Relay.filterMap_wanted, Relay.exchange_eq_zipIdx network hurl (m := 0) (fun _ _ => rfl)]
  refine ⟨?_, hseen⟩
  rw [filterMap_sent?, hseen, List.map_map]
  exact List.zipIdx_map_fst 0 requests

/-- Of four documents the first is filtered and the second malformed. The other two are posted,
though the first post fails. -/
theorem sends_of_run_of_failing_encoder :
    let p : Profile := ⟨⟨"DEFAULT", []⟩,
      [⟨"Glasscoder", [("updateurl", "http://h"), ("masterlog", "no")]⟩,
        ⟨"Line1", [("key", "t"), ("value", "%t")]⟩]⟩
    let reads : List Bytes := [
      Text.utf8 "\x7b\"padUpdate\":\x7b\"machine\":1\x7d\x7d\r\n\r\n[\r\n\r",
      Text.utf8 "\n\x7b\"padUpdate\":\x7b\"now\":\x7b\"title\":\"A\"\x7d\x7d\x7d\r\n\r\n",
      Text.utf8 "\x7b\"padUpdate\":\x7b\"now\":\x7b\"title\":\"B\"\x7d\x7d\x7d\r\n\r\n"]
    let run := (Receiver.start 150).run (reads.map .received ++ [Stop.shutdown.input])
    (Receiver.start 150).KeepsAll reads ∧
      ((Relay.observe p (Network.scripted [none, some 500]) run.1).filterMap
          Observation.exchange?).map (fun x => (x.1.url, x.1.body, x.2)) =
        [("http://h/json_pad", Payload.toJson ⟨[("t", "A")]⟩, none),
          ("http://h/json_pad", Payload.toJson ⟨[("t", "B")]⟩, some 500)] := by
  intro p reads run
  have hk : (Receiver.start 150).KeepsAll reads :=
    Receiver.keepsAll_of_length_le (by decide +kernel)
  obtain ⟨_, hseen⟩ := sends_of_run p (Network.scripted [none, some 500]) hk .shutdown []
  refine ⟨hk, (congrArg _ hseen).trans ?_⟩
  decide +kernel

end PadRelay
