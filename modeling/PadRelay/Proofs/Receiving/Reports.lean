import PadRelay.Proofs.Framing.Limit
import PadRelay.Proofs.Receiving.Stream

/-!
# PadRelay.Proofs.Receiving.Reports

The receive loop over reads of any sizes, and what it says of documents that are too large.

* `Receiver.accept_of_served`, `Receiver.run_of_serve`: the loop dispatches the documents that its
  framer returns, and behind those of each read it reports the drop.
* `Receiver.run_ne_broken_of_two_le`: no input breaks the loop.
* `Framer.Served.filterMap_dropped?`, `Framer.Served.filter_dropped?`,
  `Framer.Served.countP_update?`: what occurs in one read.
* `countOf_observations`, `loggedAt_observations`: whatever is no update is counted once and gives
  one warning.
* `reports_of_run`: which documents are reported over a whole run, and how often.
-/

namespace PadRelay

open Framing

/-- What the loop makes of a served read. -/
def Framer.Served.occurrences (maxDocument : Nat) (served : Framer.Served) : List Occurrence :=
  served.documents.filterMap dispatch ++ served.dropped.toList.map (.oversized maxDocument)

def Occurrence.dropped? : Occurrence → Option Nat
  | .oversized _ dropped => some dropped
  | .update _ | .rejected _ => none

/-- Whether a piece is neither blank nor an update. -/
def malformed (piece : Bytes) : Bool :=
  !piece.all isAsciiBlank && (Pad.document.decode piece).toOption.isNone

/-! ## The loop over reads -/

namespace Receiver

variable {maxDocument : Nat}

theorem accept_of_served {r : Receiver} {bytes : Bytes} {dropped : Option Nat} {k : Framer}
    (h : (r.framer.push bytes).drain.2.discard = .ok (dropped, k)) :
    r.accept bytes =
      (Framer.Served.occurrences r.framer.maxDocument ⟨(r.framer.push bytes).drain.1, dropped⟩,
        .ok { r with framer := k }) := by
  have hmax : k.maxDocument = r.framer.maxDocument :=
    (Framer.maxDocument_discard h).trans (Framer.maxDocument_drain _)
  simp only [accept, h]
  cases dropped with
  | none => simp [Framer.Served.occurrences]
  | some n => simp [Framer.Served.occurrences, hmax]

theorem run_of_serve {r : Receiver} {reads : List Bytes} {served : List Framer.Served}
    {f : Framer} (h : r.framer.serve reads = .ok (served, f)) (inputs : List Input) :
    r.run (reads.map .received ++ inputs) =
      (served.flatMap (·.occurrences r.framer.maxDocument) ++
          (run { r with framer := f } inputs).1,
        (run { r with framer := f } inputs).2) := by
  induction reads generalizing r served with
  | nil =>
    cases h
    rfl
  | cons bytes reads ih =>
    obtain ⟨dropped, k, later, hdiscard, hserve, rfl⟩ := Framer.serve_cons h
    have hmax : k.maxDocument = r.framer.maxDocument :=
      (Framer.maxDocument_discard hdiscard).trans (Framer.maxDocument_drain _)
    have hlater := ih (r := { r with framer := k }) hserve
    rw [List.map_cons, List.cons_append, run, step, accept_of_served hdiscard]
    simp only [hlater, hmax, List.flatMap_cons, List.append_assoc]

/-- A discard that finds too much finds more than the three bytes that it leaves, so no input breaks
the loop. -/
theorem run_ne_broken_of_two_le {r : Receiver} (hmax : 2 ≤ r.framer.maxDocument)
    (inputs : List Input) (fault : Framer.Fault) : (r.run inputs).2 ≠ some (.broken fault) := by
  induction inputs generalizing r with
  | nil => simp [run]
  | cons input inputs ih =>
    cases input with
    | received bytes =>
      have hlimit : (r.framer.push bytes).drain.2.maxDocument = r.framer.maxDocument :=
        Framer.maxDocument_drain _
      obtain ⟨dropped, k, hdiscard⟩ := Framer.exists_discard (hlimit.symm ▸ hmax)
      have hk : k.maxDocument = r.framer.maxDocument :=
        (Framer.maxDocument_discard hdiscard).trans hlimit
      rw [run, step, accept_of_served hdiscard]
      exact ih (r := { r with framer := k }) (hk.symm ▸ hmax)
    | closed => simp [run, step]
    | failed reason => simp [run, step]
    | signalled =>
      by_cases hlistening : r.listening = true
      · simp [run, step, hlistening]
      · simpa [run, step, hlistening] using ih hmax
    | released =>
      rw [run, step]
      exact ih (r := { r with listening := false }) hmax

theorem run_ne_broken (hmax : 2 ≤ maxDocument) {reads : List Bytes} {r : Receiver}
    (h : r.framer.Waits maxDocument reads reads.flatten) (inputs : List Input)
    (fault : Framer.Fault) : (r.run inputs).2 ≠ some (.broken fault) :=
  run_ne_broken_of_two_le (h.limit.symm ▸ hmax) inputs fault

end Receiver

/-! ## What occurs -/

variable {maxDocument : Nat}

theorem dropped?_of_dispatch {piece : Bytes} {o : Occurrence} (h : dispatch piece = some o) :
    o.dropped? = none := by
  unfold dispatch at h
  split at h
  · cases h
  · split at h <;> cases h <;> rfl

theorem filterMap_dropped?_dispatch (pieces : List Bytes) :
    (pieces.filterMap dispatch).filterMap Occurrence.dropped? = [] := by
  rw [List.filterMap_eq_nil_iff]
  intro o ho
  obtain ⟨piece, -, hpiece⟩ := List.mem_filterMap.mp ho
  exact dropped?_of_dispatch hpiece

theorem filter_dropped?_dispatch (pieces : List Bytes) :
    (pieces.filterMap dispatch).filter (·.dropped?.isNone) = pieces.filterMap dispatch := by
  rw [List.filter_eq_self]
  intro o ho
  obtain ⟨piece, -, hpiece⟩ := List.mem_filterMap.mp ho
  rw [dropped?_of_dispatch hpiece]
  rfl

/-- The drop of a read is what is dropped in it. -/
theorem Framer.Served.filterMap_dropped? (served : Framer.Served) :
    (served.occurrences maxDocument).filterMap Occurrence.dropped? = served.dropped.toList := by
  rw [occurrences, List.filterMap_append, filterMap_dropped?_dispatch, List.nil_append]
  cases served.dropped <;> rfl

/-- Besides the drop of a read, its documents are dispatched. -/
theorem Framer.Served.filter_dropped? (served : Framer.Served) :
    (served.occurrences maxDocument).filter (·.dropped?.isNone) =
      served.documents.filterMap dispatch := by
  rw [occurrences, List.filter_append, filter_dropped?_dispatch]
  cases served.dropped <;> exact List.append_nil _

theorem filterMap_dropped?_occurrences (served : List Framer.Served) :
    (served.flatMap (·.occurrences maxDocument)).filterMap Occurrence.dropped? =
      served.filterMap (·.dropped) := by
  rw [List.filterMap_flatMap, List.filterMap_eq_flatMap_toList]
  exact List.flatMap_congr fun first _ => first.filterMap_dropped?

theorem filter_dropped?_occurrences (served : List Framer.Served) :
    (served.flatMap (·.occurrences maxDocument)).filter (·.dropped?.isNone) =
      (served.flatMap (·.documents)).filterMap dispatch := by
  rw [List.filter_flatMap, List.filterMap_flatMap]
  exact List.flatMap_congr fun first _ => first.filter_dropped?

theorem update?_dispatch (piece : Bytes) :
    ((dispatch piece).map (·.update?.isNone)).getD false = malformed piece := by
  unfold dispatch malformed
  by_cases hblank : piece.all isAsciiBlank = true
  · simp [hblank]
  · rw [if_neg hblank]
    cases Pad.document.decode piece <;> simp [hblank, Occurrence.update?, Except.toOption]

theorem Framer.Served.countP_update? (served : Framer.Served) :
    (served.occurrences maxDocument).countP (·.update?.isNone) =
      served.documents.countP malformed + served.dropped.toList.length := by
  have hdispatch : (served.documents.filterMap dispatch).countP (·.update?.isNone) =
      served.documents.countP malformed := by
    rw [List.countP_filterMap]
    exact List.countP_congr fun piece _ => by rw [update?_dispatch]
  rw [occurrences, List.countP_append, hdispatch]
  cases served.dropped <;> rfl

/-- No update comes of the malformed documents and of the drops. -/
theorem countP_occurrences (served : List Framer.Served) :
    (served.flatMap (·.occurrences maxDocument)).countP (·.update?.isNone) =
      (served.flatMap (·.documents)).countP malformed + (served.filterMap (·.dropped)).length := by
  rw [List.filterMap_eq_flatMap_toList]
  induction served with
  | nil => rfl
  | cons first later ih =>
    simp only [List.flatMap_cons, List.countP_append, List.length_append, ih,
      Framer.Served.countP_update?]
    omega

/-! ## What is seen of it -/

theorem countOf_observations (occurrences : List Occurrence) :
    countOf .documentsRejected (occurrences.flatMap Occurrence.observations) =
      occurrences.countP (·.update?.isNone) := by
  induction occurrences with
  | nil => rfl
  | cons o rest ih =>
    rw [List.flatMap_cons, countOf_append, ih, List.countP_cons, Nat.add_comm]
    cases o <;> rfl

theorem loggedAt_observations (occurrences : List Occurrence) :
    loggedAt .warning (occurrences.flatMap Occurrence.observations) =
      occurrences.countP (·.update?.isNone) := by
  induction occurrences with
  | nil => rfl
  | cons o rest ih =>
    rw [List.flatMap_cons, loggedAt_append, ih, List.countP_cons, Nat.add_comm]
    cases o <;> rfl

/-- **A document that is withheld for its size is reported at each drop.** The drops of a run are
those of its pieces, one piece after the other, and each is counted once and gives one warning. A
piece is withheld exactly if it is dropped from, and dropped from once exactly if, after the first
size over the limit, no more of it comes than fits beside the three bytes that were left. -/
theorem reports_of_run (hmax : 2 ≤ maxDocument) (reads : List Bytes) (stop : Stop)
    (later : List Input) :
    let run := (Receiver.start maxDocument).run (reads.map .received ++ stop.input :: later)
    let seen := run.1.flatMap Occurrence.observations
    let returned := kept (overgrown maxDocument reads) (cut reads.flatten).1
    let numbers := List.range ((cut reads.flatten).1.length + 1)
    let dropped := fun n => drops maxDocument 0 (sizes reads n)
    (∃ pending, run.2 = some (stop.ending pending)) ∧
      run.1.filter (·.dropped?.isNone) = returned.filterMap dispatch ∧
      run.1.filterMap Occurrence.dropped? = numbers.flatMap dropped ∧
      countOf .documentsRejected seen =
        returned.countP malformed + (numbers.map fun n => (dropped n).length).sum ∧
      loggedAt .warning seen =
        returned.countP malformed + (numbers.map fun n => (dropped n).length).sum ∧
      ∀ n, (n ∈ overgrown maxDocument reads ↔ 1 ≤ (dropped n).length) ∧
        ((dropped n).length = 1 ↔ ∃ before size after, sizes reads n = before ++ size :: after ∧
          (∀ s ∈ before, s ≤ maxDocument) ∧ maxDocument < size ∧
          ∀ s ∈ after, s + 3 ≤ size + maxDocument) := by
  intro run seen returned numbers dropped
  obtain ⟨served, f, hserve, hdocuments, hdrops⟩ := Framer.serve_start hmax reads
  obtain ⟨pending, hstop⟩ : ∃ pending,
      Receiver.run ⟨f, true⟩ (stop.input :: later) = ([], some (stop.ending pending)) := by
    cases stop with
    | endOfStream => exact ⟨f.pending, rfl⟩
    | readError reason => exact ⟨0, rfl⟩
    | shutdown => exact ⟨0, rfl⟩
  have hrun : run = (served.flatMap (·.occurrences maxDocument), some (stop.ending pending)) := by
    have h := Receiver.run_of_serve (r := Receiver.start maxDocument) hserve (stop.input :: later)
    simp only [Receiver.start] at h
    rw [hstop, List.append_nil] at h
    exact h
  have hcount : run.1.countP (·.update?.isNone) =
      returned.countP malformed + (numbers.map fun n => (dropped n).length).sum := by
    rw [hrun, countP_occurrences, hdocuments, hdrops, reports, List.length_flatMap]
  refine ⟨⟨pending, by rw [hrun]⟩, ?_, ?_, ?_, ?_, fun n => ⟨?_, ?_⟩⟩
  · rw [hrun, filter_dropped?_occurrences, hdocuments]
  · rw [hrun, filterMap_dropped?_occurrences, hdrops]
    rfl
  · exact (countOf_observations run.1).trans hcount
  · exact (loggedAt_observations run.1).trans hcount
  · rw [mem_overgrown_iff_drops, ← List.length_pos_iff]
    exact Iff.rfl
  · exact length_drops_eq_one_iff hmax

/-- A document of which twenty bytes come in each of three reads is reported three times within a
limit of sixteen bytes; one that comes in a single read is reported once. -/
theorem reports_of_run_of_long_documents :
    let part : Bytes := List.replicate 20 120
    let reads : List Bytes := [part, part, part, [13, 10, 13, 10], part, [13, 10, 13, 10]]
    let run := (Receiver.start 16).run (reads.map .received ++ [Stop.endOfStream.input])
    2 ≤ 16 ∧ run.1 = [.oversized 16 17, .oversized 16 20, .oversized 16 20, .oversized 16 17] ∧
      (drops 16 0 (sizes reads 0)).length = 3 ∧ (drops 16 0 (sizes reads 1)).length = 1 ∧
      countOf .documentsRejected (run.1.flatMap Occurrence.observations) = 4 ∧
      loggedAt .warning (run.1.flatMap Occurrence.observations) = 4 := by
  intro part reads run
  obtain ⟨-, -, -, hcounted, hlogged, -⟩ :=
    reports_of_run (by decide : 2 ≤ 16) reads .endOfStream []
  refine ⟨by decide, by decide +kernel, by decide +kernel, by decide +kernel,
    hcounted.trans (by decide +kernel), hlogged.trans (by decide +kernel)⟩

end PadRelay
