import PadRelay.Proofs.Framing.Checked
import PadRelay.Proofs.Receiving.Reports

/-!
# PadRelay.Proofs.Receiving.Checked

A receive loop that stops at an access out of range, and how it agrees with the loop that runs.

* `Receiver.Checked.accept`, `Receiver.Checked.step`, `Receiver.Checked.run`: the loop over a framer
  whose accesses are checked.
* `Receiver.Checked.step_eq`, `Receiver.Checked.run_eq`: the loop stops exactly where the other one
  breaks, and else they do the same.
* `perform_stops_iff`: which operation of a framer stops, hence that a loop with a limit of two
  bytes or more never does.
-/

namespace PadRelay

open Framing (Panic)
open Framing.Checked (Sound shortfall)

namespace Receiver.Checked

/-! ## The loop -/

def accept (wraps : Bool) (r : Receiver) (bytes : Bytes) :
    Except Panic (List Occurrence × Receiver) := do
  let (documents, f) ← Framing.Checked.drain (r.framer.push bytes)
  let (dropped, f) ← Framing.Checked.discard wraps f
  return (documents.filterMap dispatch ++ dropped.toList.map (.oversized f.maxDocument),
    { r with framer := f })

/-- After one input. Only a read has bytes accessed. -/
def step (wraps : Bool) (r : Receiver) :
    Input → Except Panic (List Occurrence × Except Ending Receiver)
  | .received bytes => do
    let (occurrences, r) ← accept wraps r bytes
    return (occurrences, .ok r)
  | .closed => .ok (r.step .closed)
  | .failed reason => .ok (r.step (.failed reason))
  | .signalled => .ok (r.step .signalled)
  | .released => .ok (r.step .released)

def run (wraps : Bool) (r : Receiver) :
    List Input → Except Panic (List Occurrence × Option Ending)
  | [] => .ok ([], none)
  | input :: inputs => do
    match ← step wraps r input with
    | (occurrences, .error ending) => return (occurrences, some ending)
    | (occurrences, .ok r) =>
      let (more, ending) ← run wraps r inputs
      return (occurrences ++ more, ending)

variable {maxDocument : Nat} {wraps : Bool} {r : Receiver}

/-- An input stops the loop exactly where it breaks the other one. -/
theorem step_eq (h : Sound maxDocument r.framer) (input : Input) :
    step wraps r input =
      match r.step input with
      | (_, .error (.broken _)) => .error (shortfall wraps)
      | result => .ok result := by
  cases input with
  | received bytes =>
    rw [step, accept, (h.push bytes).drain_eq, Receiver.step, Receiver.accept]
    simp only [bind, Except.bind, pure, Except.pure, Framing.Checked.discard_eq]
    cases (r.framer.push bytes).drain.2.discard with
    | error fault => rfl
    | ok x =>
      obtain ⟨dropped, f⟩ := x
      cases dropped with
      | none => simp [Except.mapError]
      | some n => simp [Except.mapError]
  | closed => rfl
  | failed reason => rfl
  | signalled =>
    simp only [step, Receiver.step]
    split <;> rfl
  | released => rfl

theorem sound_step (h : Sound maxDocument r.framer) {input : Input}
    {occurrences : List Occurrence} {t : Receiver}
    (hstep : r.step input = (occurrences, .ok t)) : Sound maxDocument t.framer := by
  cases input with
  | received bytes =>
    rw [Receiver.step, Receiver.accept] at hstep
    simp only at hstep
    split at hstep
    · cases hstep
    · next hd => cases hstep; exact (h.push bytes).drained.discard hd
    · next hd => cases hstep; exact (h.push bytes).drained.discard hd
  | closed => cases hstep
  | failed reason => cases hstep
  | signalled =>
    rw [Receiver.step] at hstep
    split at hstep
    · cases hstep
    · cases hstep; exact h
  | released => cases hstep; exact h

/-- The loop stops exactly if the other one breaks, and otherwise does what that does. -/
theorem run_eq (h : Sound maxDocument r.framer) (inputs : List Input) :
    run wraps r inputs =
      match r.run inputs with
      | (_, some (.broken _)) => .error (shortfall wraps)
      | result => .ok result := by
  induction inputs generalizing r with
  | nil => rfl
  | cons input inputs ih =>
    rw [run, step_eq h, Receiver.run]
    cases hstep : r.step input with
    | mk occurrences result =>
      cases result with
      | error ending => cases ending <;> rfl
      | ok t =>
        simp only [bind, Except.bind, pure, Except.pure, ih (sound_step h hstep)]
        cases hrun : t.run inputs with
        | mk more ending? =>
          cases ending? with
          | none => rfl
          | some ending => cases ending <;> rfl

end Receiver.Checked

/-- **Accesses are in range but for a discard with too few bytes.** Whatever was done with a framer
before, searching it agrees with the checked search, and an operation stops exactly if it is a
discard, the buffer is over the limit and shorter than the three bytes to keep. So with a limit of
two bytes or more no operations stop, and a loop over any inputs does not stop either. -/
theorem perform_stops_iff (maxDocument : Nat) (wraps : Bool) :
    (∀ ops f, Framing.Checked.run wraps (Framer.start maxDocument) ops = .ok f →
      Framing.Checked.next f = .ok f.next ∧
      Framing.Checked.discard wraps f = f.discard.mapError (fun _ => shortfall wraps) ∧
      ∀ op p, Framing.Checked.perform wraps f op = .error p ↔
        op = .discard ∧ p = shortfall wraps ∧ maxDocument < f.pending ∧ f.pending < 3) ∧
    (2 ≤ maxDocument →
      (∀ ops, ∃ f, Framing.Checked.run wraps (Framer.start maxDocument) ops = .ok f) ∧
      ∀ inputs, Receiver.Checked.run wraps (Receiver.start maxDocument) inputs =
        .ok ((Receiver.start maxDocument).run inputs)) := by
  have hstart : Sound maxDocument (Framer.start maxDocument) :=
    Framing.Checked.sound_start maxDocument
  refine ⟨fun ops f hops => ?_, fun hmax => ⟨hstart.exists_run hmax, fun inputs => ?_⟩⟩
  · have hf : Sound maxDocument f := hstart.run hops
    exact ⟨hf.next_eq, Framing.Checked.discard_eq wraps f, fun op p => hf.perform_eq_error_iff⟩
  · have hunbroken := Receiver.run_ne_broken_of_two_le (r := Receiver.start maxDocument) hmax inputs
    rw [Receiver.Checked.run_eq hstart inputs]
    split
    · next hbroken => exact absurd (congrArg Prod.snd hbroken) (hunbroken _)
    · rfl

/-- Two bytes are over a limit of one byte and too few to keep three of. Three bytes, over a limit
of two, are all kept. -/
theorem perform_stops_iff_of_short_buffer :
    let f : Framer := ⟨#[97, 13], 0, 1, false⟩
    Framing.Checked.run false (Framer.start 1) [.push [97, 13]] = .ok f ∧
      Framing.Checked.perform false f .discard = .error .subtraction ∧
      2 ≤ 2 ∧
      ∃ g, Framing.Checked.run false (Framer.start 2)
        [.push [97, 13], .next, .discard, .push [10], .discard] = .ok g := by
  intro f
  have hops : Framing.Checked.run false (Framer.start 1) [.push [97, 13]] = .ok f := rfl
  have hdiscard := ((perform_stops_iff 1 false).1 _ f hops).2.2 .discard .subtraction
  refine ⟨hops, hdiscard.mpr ⟨rfl, rfl, ?_, ?_⟩, by decide, ?_⟩
  · decide
  · decide
  · exact ((perform_stops_iff 2 false).2 (by decide)).1 _

end PadRelay
