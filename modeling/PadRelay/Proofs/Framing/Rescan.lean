import PadRelay.Proofs.Framing.Session

/-!
# PadRelay.Proofs.Framing.Rescan

A framer that starts every search at the front of its buffer, and how the framer that goes on where
its last search ended agrees with it.

* `firstTerminator?`: the leftmost terminator, all places tried from the front on.
* `Framer.Searched.findTerminator_eq`: going on three bytes before the end of the last search, no
  terminator is missed and no later one is taken for the first.
* `Rescanner`: a framer that remembers nothing of its searches. `Framer.forget`: what such a framer
  knows of another one.
* `Framer.Searched.forget_next`, `Framer.forget_discard`: every operation gives the same and leaves
  the same.
* `Session.searched_step`, `Session.searched_run`: whatever is done, what was searched lies in the
  buffer and holds no terminator.
* `resumed_eq_rescanned`: hence both framers do the same in any use.
-/

namespace PadRelay
namespace Framing

/-! ## The first terminator -/

/-- The first place of a terminator, all places tried from the front on. -/
def firstTerminator? (s : Bytes) : Option Nat :=
  (List.range s.length).find? fun i => terminator.isPrefixOf (s.drop i)

theorem add_four_le_of_prefix {s : Bytes} {i : Nat} (h : terminator <+: s.drop i) :
    i + 4 ≤ s.length := by
  have hlen : 4 ≤ (s.drop i).length := h.length_le
  rw [List.length_drop] at hlen
  omega

theorem firstTerminator?_eq_some_iff {s : Bytes} {pos : Nat} :
    firstTerminator? s = some pos ↔
      terminator <+: s.drop pos ∧ ∀ i < pos, ¬ terminator <+: s.drop i := by
  rw [firstTerminator?, List.find?_range_eq_some]
  simp only [List.isPrefixOf_iff_prefix, List.mem_range, Bool.not_eq_true', ← Bool.not_eq_true]
  refine and_congr_right fun hpos => and_iff_right ?_
  have hle := add_four_le_of_prefix hpos
  omega

theorem firstTerminator?_eq_none_iff {s : Bytes} :
    firstTerminator? s = none ↔ ∀ i, ¬ terminator <+: s.drop i := by
  rw [firstTerminator?, List.find?_range_eq_none]
  simp only [List.isPrefixOf_iff_prefix, Bool.not_eq_true', ← Bool.not_eq_true]
  refine ⟨fun h i hi => ?_, fun h i _ => h i⟩
  have hle := add_four_le_of_prefix hi
  exact h i (by omega) hi

/-! ## A framer without a memory -/

/-- A framer that remembers nothing of its searches. -/
structure Rescanner where
  buffer : Bytes
  maxDocument : Nat
  discarding : Bool
  deriving DecidableEq, Repr

namespace Rescanner

def start (maxDocument : Nat) : Rescanner := ⟨[], maxDocument, false⟩

def push (r : Rescanner) (bytes : Bytes) : Rescanner := { r with buffer := r.buffer ++ bytes }

/-- Takes the next complete document. Behind the rest of a dropped one the search starts over. -/
def next (r : Rescanner) : Option Bytes × Rescanner :=
  match _h : firstTerminator? r.buffer with
  | none => (none, r)
  | some pos =>
    let rest := r.buffer.drop (pos + 4)
    if r.discarding then next { r with buffer := rest, discarding := false }
    else (some (r.buffer.take pos), { r with buffer := rest })
termination_by r.buffer.length
decreasing_by
  have hle := add_four_le_of_prefix (firstTerminator?_eq_some_iff.mp _h).1
  simp only [List.length_drop]
  omega

/-- Drops an unfinished document that has outgrown the limit, but for its last three bytes. -/
def discard (r : Rescanner) : Except Framer.Fault (Option Nat × Rescanner) :=
  if r.buffer.length ≤ r.maxDocument then .ok (none, r)
  else if r.buffer.length < 3 then .error .tooFewBytes
  else
    let dropped := r.buffer.length - 3
    .ok (some dropped, { r with buffer := r.buffer.drop dropped, discarding := true })

/-- What an operation returns, and the framer behind it. -/
def step (r : Rescanner) : Operation → Except Framer.Fault (List Bytes × Rescanner)
  | .push bytes => .ok ([], r.push bytes)
  | .next => .ok (r.next.1.toList, r.next.2)
  | .discard => r.discard.map fun x => ([], x.2)

def run (r : Rescanner) : List Operation → Except Framer.Fault (List Bytes × Rescanner)
  | [] => .ok ([], r)
  | op :: ops => do
    let (documents, t) ← r.step op
    let (more, u) ← t.run ops
    return (documents ++ more, u)

theorem next_of_none {r : Rescanner} (h : firstTerminator? r.buffer = none) :
    r.next = (none, r) := by
  rw [next]
  split
  · rfl
  · next hp => rw [h] at hp; cases hp

theorem next_of_some {r : Rescanner} {pos : Nat} (h : firstTerminator? r.buffer = some pos) :
    r.next = if r.discarding then
        ({ r with buffer := r.buffer.drop (pos + 4), discarding := false } : Rescanner).next
      else (some (r.buffer.take pos), { r with buffer := r.buffer.drop (pos + 4) }) := by
  rw [next]
  split
  · next hp => rw [h] at hp; cases hp
  · next hp => rw [h] at hp; cases hp; rfl

end Rescanner
end Framing

/-! ## The same operations -/

namespace Framer

open Framing

/-- What is left of a framer without the place where its search goes on. -/
def forget (f : Framer) : Rescanner := ⟨f.buffer.toList, f.maxDocument, f.discarding⟩

variable {f : Framer}

/-- A search that goes on where the last one ended, less the bytes that a terminator may have there,
finds the first terminator of the whole buffer. -/
theorem Searched.findTerminator_eq (h : f.Searched) :
    findTerminator f.buffer (f.scanned - overlap) = firstTerminator? f.buffer.toList := by
  cases hf : findTerminator f.buffer (f.scanned - overlap) with
  | none =>
    refine (firstTerminator?_eq_none_iff.mpr fun i hi => ?_).symm
    have hat := isTerminatorAt_iff.mpr hi
    rw [findTerminator_none hf (h.le_of_isTerminatorAt hat)] at hat
    cases hat
  | some pos =>
    obtain ⟨hpos, hmin⟩ := findTerminator_some hf
    refine (firstTerminator?_eq_some_iff.mpr ⟨isTerminatorAt_iff.mp hpos, fun i hi hat => ?_⟩).symm
    have hat := isTerminatorAt_iff.mpr hat
    rw [hmin i (h.le_of_isTerminatorAt hat) hi] at hat
    cases hat

theorem Searched.take_of_none (h : f.Searched) (hf : firstTerminator? f.buffer.toList = none) :
    f.take = (none, { f with scanned := f.buffer.size }) := by
  rw [take, h.findTerminator_eq, hf]

theorem Searched.take_of_some (h : f.Searched) {pos : Nat}
    (hf : firstTerminator? f.buffer.toList = some pos) :
    f.take = (some (f.buffer.toList.take pos), { f with
      buffer := (f.buffer.toList.drop (pos + 4)).toArray
      scanned := 0 }) := by
  have hrest : f.buffer.extract (pos + terminatorLength) f.buffer.size =
      (f.buffer.toList.drop (pos + 4)).toArray := by
    apply Array.toList_inj.mp
    rw [toList_extract_size]
    rfl
  rw [take, h.findTerminator_eq, hf]
  simp only [hrest, Array.toList_extract, List.extract_eq_take_drop, Nat.sub_zero, List.drop_zero]

theorem Searched.forget_take (h : f.Searched) (hd : f.discarding = false) :
    f.forget.next = (f.take.1, f.take.2.forget) := by
  cases hf : firstTerminator? f.buffer.toList with
  | none => rw [Rescanner.next_of_none (r := f.forget) hf, h.take_of_none hf]; rfl
  | some pos =>
    rw [Rescanner.next_of_some (r := f.forget) hf, h.take_of_some hf]
    simp [forget, hd]

/-- **The next document is that of a search from the front**, and so is the framer behind it. -/
theorem Searched.forget_next (h : f.Searched) :
    f.forget.next = (f.next.1, f.next.2.forget) := by
  cases hf : firstTerminator? f.buffer.toList with
  | none =>
    rw [Rescanner.next_of_none (r := f.forget) hf, Framer.next, h.take_of_none hf]
    rfl
  | some pos =>
    cases hd : f.discarding with
    | false =>
      rw [h.forget_take hd, Framer.next, h.take_of_some hf]
      simp [hd]
    | true =>
      have hrest := searched_of_scanned_eq_zero (f := { f with
        buffer := (f.buffer.toList.drop (pos + 4)).toArray
        scanned := 0
        discarding := false }) rfl
      have hnext := hrest.forget_take rfl
      rw [Rescanner.next_of_some (r := f.forget) hf, Framer.next, h.take_of_some hf]
      simp only [forget, hd, if_true] at hnext ⊢
      exact hnext

theorem forget_push (f : Framer) (bytes : Bytes) : (f.push bytes).forget = f.forget.push bytes := by
  simp [forget, push, Rescanner.push]

theorem forget_discard (f : Framer) :
    f.forget.discard = f.discard.map fun x => (x.1, x.2.forget) := by
  have hlength : f.forget.buffer.length = f.buffer.size := Array.length_toList
  have hoverlap : overlap = 3 := rfl
  rw [Rescanner.discard, discard, hlength, hoverlap]
  by_cases hsize : f.buffer.size ≤ f.maxDocument
  · rw [if_pos hsize, if_pos (show f.buffer.size ≤ f.forget.maxDocument from hsize)]
    rfl
  rw [if_neg hsize, if_neg (show ¬ f.buffer.size ≤ f.forget.maxDocument from hsize)]
  by_cases hfew : f.buffer.size < 3
  · rw [if_pos hfew, if_pos hfew]
    rfl
  · rw [if_neg hfew, if_neg hfew]
    simp only [forget, Except.map, toList_extract_size]

end Framer

/-! ## Any use -/

namespace Framing
namespace Session

variable {s t : Session}

theorem searched_step (h : s.framer.Searched) {op : Operation} (hstep : s.step op = .ok t) :
    t.framer.Searched := by
  cases op with
  | push bytes => cases hstep; exact h.push bytes
  | next => cases hstep; exact h.next
  | discard =>
    simp only [step] at hstep
    split at hstep
    · cases hstep
    · next hd => cases hstep; exact h.discard hd
    · next hd => cases hstep; exact h.discard hd

theorem searched_run (h : s.framer.Searched) {ops : List Operation} (hrun : s.run ops = .ok t) :
    t.framer.Searched := by
  induction ops generalizing s with
  | nil => cases hrun; exact h
  | cons op ops ih =>
    simp only [run] at hrun
    split at hrun
    · cases hrun
    · next hstep => exact ih (searched_step h hstep) hrun

/-- All that was returned, and what is left without the place where the search goes on. -/
def outcome (s : Session) : List Bytes × Rescanner := (s.returned, s.framer.forget)

theorem outcome_step (h : s.framer.Searched) (op : Operation) :
    (s.step op).map outcome =
      (s.framer.forget.step op).map fun x => (s.returned ++ x.1, x.2) := by
  cases op with
  | push bytes => simp [step, Rescanner.step, Except.map, outcome, Framer.forget_push]
  | next => simp [step, Rescanner.step, Except.map, outcome, h.forget_next]
  | discard =>
    rw [Rescanner.step, Framer.forget_discard, step]
    split
    · next hd => rw [hd]; rfl
    · next hd => rw [hd]; simp [Except.map, outcome]
    · next hd => rw [hd]; simp [Except.map, outcome]

theorem outcome_run (h : s.framer.Searched) (ops : List Operation) :
    (s.run ops).map outcome =
      (s.framer.forget.run ops).map fun x => (s.returned ++ x.1, x.2) := by
  induction ops generalizing s with
  | nil => simp [run, Rescanner.run, Except.map, outcome]
  | cons op ops ih =>
    have hone := outcome_step h op
    rw [run, Rescanner.run]
    cases hs : s.step op with
    | error fault =>
      rw [hs] at hone
      cases hr : s.framer.forget.step op with
      | error fault' => rw [hr] at hone; cases hone; rfl
      | ok x => rw [hr] at hone; cases hone
    | ok t =>
      rw [hs] at hone
      cases hr : s.framer.forget.step op with
      | error fault' => rw [hr] at hone; cases hone
      | ok x =>
        obtain ⟨documents, r⟩ := x
        rw [hr] at hone
        obtain ⟨hreturned, hframer⟩ :
            t.returned = s.returned ++ documents ∧ t.framer.forget = r := by
          simpa [Except.map, outcome] using hone
        simp only [ih (searched_step h hs), hreturned, hframer, bind, Except.bind, pure,
          Except.pure]
        cases r.run ops with
        | error fault => rfl
        | ok y => simp [Except.map]

end Session

/-- **A search that goes on is as good as one that starts over.** Whatever was done with a framer,
the bytes that it takes for searched are in its buffer and hold no terminator, so going on three
bytes before their end finds the first terminator of all. Asking for the next document gives what a
framer gives that searches its whole buffer from the front, with the same bytes left and the same
documents passed over. So in any use both return the same, and both fail or neither does. -/
theorem resumed_eq_rescanned (maxDocument : Nat) (ops : List Operation) :
    (∀ s, (Session.start maxDocument).run ops = .ok s →
      s.framer.scanned ≤ s.framer.pending ∧
      ¬ terminator <:+: s.framer.buffer.toList.take s.framer.scanned ∧
      Framer.findTerminator s.framer.buffer (s.framer.scanned - 3) =
        firstTerminator? s.framer.buffer.toList ∧
      s.framer.forget.next = (s.framer.next.1, s.framer.next.2.forget)) ∧
    (Rescanner.start maxDocument).run ops =
      ((Session.start maxDocument).run ops).map fun s => (s.returned, s.framer.forget) := by
  have hstart : (Session.start maxDocument).framer.Searched := Framer.searched_start maxDocument
  refine ⟨fun s hs => ?_, ?_⟩
  · have hsearched := Session.searched_run hstart hs
    exact ⟨hsearched.scanned_le, hsearched.free, hsearched.findTerminator_eq,
      hsearched.forget_next⟩
  · have hself : ∀ e : Except Framer.Fault (List Bytes × Rescanner),
        e.map (fun x => ([] ++ x.1, x.2)) = e := by
      rintro (fault | x) <;> rfl
    exact ((Session.outcome_run hstart ops).trans (hself _)).symm

/-- The terminator of a dropped document comes in two parts, the first of which was searched. It is
found across the place where the search goes on, and the document behind it is returned. -/
theorem resumed_eq_rescanned_of_straddled_terminator :
    let ops : List Operation :=
      [.push [1, 2, 3, 13], .discard, .next, .push [10, 13, 10, 97, 13, 10, 13, 10, 98]]
    let f : Framer := ⟨#[2, 3, 13, 10, 13, 10, 97, 13, 10, 13, 10, 98], 3, 3, true⟩
    let s : Session := ⟨f, [1, 2, 3, 13, 10, 13, 10, 97, 13, 10, 13, 10, 98], [], [0]⟩
    (Session.start 3).run ops = .ok s ∧
      f.next = (some [97], ⟨#[98], 0, 3, false⟩) ∧
      f.scanned ≤ f.pending ∧ ¬ terminator <:+: f.buffer.toList.take f.scanned ∧
      firstTerminator? f.buffer.toList = some 2 ∧
      f.forget.next = (some [97], ⟨[98], 3, false⟩) := by
  intro ops f s
  have hrun : (Session.start 3).run ops = .ok s := by decide +kernel
  have hnext : f.next = (some [97], ⟨#[98], 0, 3, false⟩) := by decide +kernel
  have hfind : Framer.findTerminator f.buffer (f.scanned - 3) = some 2 := by decide +kernel
  obtain ⟨hle, hfree, hfirst, hagree⟩ := (resumed_eq_rescanned 3 ops).1 s hrun
  have hforget : f.forget.next = (f.next.1, f.next.2.forget) := hagree
  rw [hnext] at hforget
  exact ⟨hrun, hnext, hle, hfree, hfirst.symm.trans hfind, hforget⟩

end Framing
end PadRelay
