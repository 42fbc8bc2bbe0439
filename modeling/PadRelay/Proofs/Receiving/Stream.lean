import PadRelay.Proofs.Framing.Drain
import PadRelay.Receiver

/-!
# PadRelay.Proofs.Receiving.Stream

The receive loop against the processing of each document alone, for reads after which nothing is
discarded.

* `Receiver.KeepsAll`: no read is followed by a discard. `Receiver.keepsAll_iff` says this of the
  bytes: what waits for its terminator behind a read never exceeds the limit.
* `eachAlone`: everything seen when each piece of a stream is dealt with alone.
* `decode_of_blank`: a blank piece is no update.
* `Receiver.run_reads`: the loop invariant. Behind some reads the loop waits with the remainder
  of their bytes, and what came of them is what came of each piece.
* `run_eq_eachAlone`: a whole run, whatever stops it, and hence any two cuttings of one stream.
-/

namespace PadRelay

open Framing
open Pad (Update)

/-- What makes the loop end. -/
inductive Stop where
  | endOfStream
  | readError (reason : String)
  | shutdown
  deriving DecidableEq, Repr

namespace Stop

def input : Stop → Input
  | .endOfStream => .closed
  | .readError reason => .failed reason
  | .shutdown => .signalled

def ending (pending : Nat) : Stop → Ending
  | .endOfStream => .disconnected pending
  | .readError reason => .failed reason
  | .shutdown => .stopped

end Stop

/-- Everything seen when each piece is dealt with alone: nothing of a blank one, a rejection of
one that does not decode, else the work on its update. -/
def eachAlone {σ : Type} (handle : Handler σ) (state : σ) : List Bytes → List Observation
  | [] => []
  | piece :: pieces =>
    if piece.all isAsciiBlank then eachAlone handle state pieces
    else
      match Pad.document.decode piece with
      | .error e =>
        .counted .documentsRejected ::
          .logged .warning ("invalid PAD document: " ++ e.message) ::
          eachAlone handle state pieces
      | .ok u =>
        .counted .updatesReceived :: .began u.machine :: (handle state u).1 ++
          .finished :: eachAlone handle (handle state u).2 pieces

theorem observe_filterMap_dispatch {σ : Type} (handle : Handler σ) (state : σ)
    (pieces : List Bytes) :
    observe handle state (pieces.filterMap dispatch) = eachAlone handle state pieces := by
  induction pieces generalizing state with
  | nil => rfl
  | cons piece pieces ih =>
    rw [eachAlone]
    split
    · next hblank =>
      rw [List.filterMap_cons_none (by rw [dispatch, if_pos hblank]), ih]
    · next hblank =>
      cases hd : Pad.document.decode piece with
      | error e =>
        rw [List.filterMap_cons_some (b := .rejected e) (by rw [dispatch, if_neg hblank, hd])]
        simp only [observe, Occurrence.observations, ih]
        rfl
      | ok u =>
        rw [List.filterMap_cons_some (b := .update u) (by rw [dispatch, if_neg hblank, hd])]
        simp only [observe, Occurrence.observations, ih]
        rfl

theorem decode_of_blank {piece : Bytes} (h : piece.all isAsciiBlank = true) :
    (Pad.document.decode piece).toOption = none := by
  have hread : ∃ e, Pad.document.read piece = .error e := by
    show ∃ e, Pad.documentSchema.read piece = .error e
    unfold Json.Schema.read
    cases hs : Json.skipBlank piece with
    | nil => exact ⟨_, rfl⟩
    | cons b rest =>
      have hb : isAsciiBlank b = true :=
        List.all_eq_true.mp h b ((List.dropWhile_suffix _).mem (hs ▸ List.mem_cons_self))
      have hobject : b ≠ Json.Container.opening .object := by
        rintro rfl
        exact absurd hb (by decide)
      have hlist : b ≠ Json.Container.opening .list := by
        rintro rfl
        exact absurd hb (by decide)
      refine ⟨Json.mismatch Pad.documentSchema.kind (b :: rest), ?_⟩
      simp only [if_neg hobject, if_neg hlist]
  obtain ⟨e, he⟩ := hread
  rw [Json.Codec.decode, he]
  rfl

namespace Receiver

/-- No read is followed by a discard. -/
def KeepsAll (r : Receiver) : List Bytes → Prop
  | [] => True
  | bytes :: reads =>
    (r.framer.push bytes).drain.2.discard = .ok (none, (r.framer.push bytes).drain.2) ∧
      KeepsAll { r with framer := (r.framer.push bytes).drain.2 } reads

/-- The loop behind some reads: it waits for the terminator of these bytes. -/
def waiting (maxDocument : Nat) (rest : Bytes) : Receiver where
  framer := ⟨rest.toArray, rest.length, maxDocument, false⟩
  listening := true

variable {maxDocument : Nat} {rest : Bytes}

theorem searched_waiting (h : ¬ terminator <:+: rest) :
    (waiting maxDocument rest).framer.Searched where
  scanned_le := by simp [waiting]
  free := by simpa [waiting] using h

theorem drain_waiting (h : ¬ terminator <:+: rest) (bytes : Bytes) :
    ((waiting maxDocument rest).framer.push bytes).drain =
      ((cut (rest ++ bytes)).1, (waiting maxDocument (cut (rest ++ bytes)).2).framer) := by
  rw [((searched_waiting h).push bytes).drain_eq, Framer.documents_push]
  simp [Framer.drained, Framer.push, waiting]

theorem discard_waiting_iff :
    (waiting maxDocument rest).framer.discard = .ok (none, (waiting maxDocument rest).framer) ↔
      rest.length ≤ maxDocument := by
  simp only [Framer.discard, waiting, List.size_toArray]
  constructor
  · intro h
    split at h
    · assumption
    · split at h <;> cases h
  · intro h
    rw [if_pos h]

theorem keepsAll_iff (h : ¬ terminator <:+: rest) {reads : List Bytes} :
    (waiting maxDocument rest).KeepsAll reads ↔
      ∀ t, t <+: reads → t ≠ [] → (cut (rest ++ t.flatten)).2.length ≤ maxDocument := by
  induction reads generalizing rest with
  | nil =>
    refine ⟨fun _ t ht hne => absurd (List.prefix_nil.mp ht) hne, fun _ => trivial⟩
  | cons bytes reads ih =>
    have hrest := remainder_free (rest ++ bytes)
    have happ : ∀ t : List Bytes, (cut (rest ++ (bytes :: t).flatten)).2 =
        (cut ((cut (rest ++ bytes)).2 ++ t.flatten)).2 := fun t => by
      rw [List.flatten_cons, ← List.append_assoc, cut_append]
    simp only [KeepsAll, drain_waiting h, discard_waiting_iff]
    refine Iff.trans (and_congr_right fun _ => ih hrest) ?_
    constructor
    · rintro ⟨hfirst, hmore⟩ t ht hne
      cases t with
      | nil => exact absurd rfl hne
      | cons first t =>
        obtain ⟨rfl, hpre⟩ := List.cons_prefix_cons.mp ht
        rw [happ]
        cases t with
        | nil => simpa [cut_of_free hrest] using hfirst
        | cons second t => exact hmore _ hpre (by simp)
    · intro hall
      refine ⟨?_, fun t ht _ => ?_⟩
      · simpa using hall [bytes] (by simp) (by simp)
      · rw [← happ]
        exact hall (bytes :: t) (List.cons_prefix_cons.mpr ⟨rfl, ht⟩) (by simp)

theorem run_reads (h : ¬ terminator <:+: rest) {reads : List Bytes}
    (hk : (waiting maxDocument rest).KeepsAll reads) (inputs : List Input) :
    (waiting maxDocument rest).run (reads.map .received ++ inputs) =
      ((cut (rest ++ reads.flatten)).1.filterMap dispatch ++
          ((waiting maxDocument (cut (rest ++ reads.flatten)).2).run inputs).1,
        ((waiting maxDocument (cut (rest ++ reads.flatten)).2).run inputs).2) := by
  induction reads generalizing rest with
  | nil => simp [cut_of_free h]
  | cons bytes reads ih =>
    obtain ⟨hfirst, hmore⟩ := hk
    rw [drain_waiting h] at hfirst
    simp only [drain_waiting h] at hmore
    have hstep : (waiting maxDocument rest).step (.received bytes) =
        ((cut (rest ++ bytes)).1.filterMap dispatch,
          .ok (waiting maxDocument (cut (rest ++ bytes)).2)) := by
      simp only [step, accept, drain_waiting h, hfirst]
      rfl
    have happ := cut_append (rest ++ bytes) reads.flatten
    rw [List.append_assoc] at happ
    rw [List.map_cons, List.cons_append, run, hstep, List.flatten_cons, happ]
    simp only
    rw [ih (remainder_free _) hmore]
    simp

theorem start_eq_waiting (maxDocument : Nat) : start maxDocument = waiting maxDocument [] := rfl

theorem run_stop (maxDocument : Nat) (rest : Bytes) (stop : Stop) (later : List Input) :
    (waiting maxDocument rest).run (stop.input :: later) =
      ([], some (stop.ending rest.length)) := by
  cases stop <;> simp [run, step, Stop.input, Stop.ending, waiting, Framer.pending]

theorem keepsAll_of_length_le {reads : List Bytes} (h : reads.flatten.length ≤ maxDocument) :
    (start maxDocument).KeepsAll reads := by
  rw [start_eq_waiting, keepsAll_iff (by simp [terminator])]
  rintro t ⟨more, rfl⟩ -
  calc (cut ([] ++ t.flatten)).2.length
      ≤ t.flatten.length := by simpa using (remainder_suffix t.flatten).length_le
    _ ≤ (t ++ more).flatten.length := by simp
    _ ≤ maxDocument := h

theorem run_start {reads : List Bytes} (hk : (start maxDocument).KeepsAll reads) (stop : Stop)
    (later : List Input) :
    (start maxDocument).run (reads.map .received ++ stop.input :: later) =
      ((cut reads.flatten).1.filterMap dispatch,
        some (stop.ending (cut reads.flatten).2.length)) := by
  rw [start_eq_waiting] at hk ⊢
  rw [run_reads (by simp [terminator]) hk, run_stop]
  simp

end Receiver

/-- **The receive loop deals with each document alone, wherever the reads are cut.** Everything
seen of a run is what is seen of the pieces of the stream one by one, its remainder left out; the
ending is the one that stops it, and any other cutting of the stream gives the same run. -/
theorem run_eq_eachAlone {maxDocument : Nat} {reads : List Bytes}
    (hk : (Receiver.start maxDocument).KeepsAll reads) (stop : Stop) (later : List Input) :
    let run := (Receiver.start maxDocument).run (reads.map .received ++ stop.input :: later)
    run.2 = some (stop.ending (cut reads.flatten).2.length) ∧
      (∀ (σ : Type) (handle : Handler σ) (state : σ),
        observe handle state run.1 = eachAlone handle state (cut reads.flatten).1) ∧
      ∀ other : List Bytes, other.flatten = reads.flatten →
        (Receiver.start maxDocument).KeepsAll other →
          (Receiver.start maxDocument).run (other.map .received ++ stop.input :: later) = run := by
  intro run
  have hrun : run = _ := Receiver.run_start hk stop later
  refine ⟨by rw [hrun], fun σ handle state => ?_, fun other hflat hother => ?_⟩
  · rw [hrun]
    exact observe_filterMap_dispatch handle state _
  · rw [hrun, Receiver.run_start hother, hflat]

/-- An update, a blank document and a malformed one, their terminators cut by the reads, and a
remainder. -/
theorem run_eq_eachAlone_of_mixed :
    let reads : List Bytes := [Text.utf8 "\x7b\"padUpdate\":\x7b\"machine\":2\x7d\x7d\r\n\r",
      Text.utf8 "\n \r\n\r", Text.utf8 "\nnot json\r\n\r\n\x7b\"pad"]
    let run := (Receiver.start 64).run (reads.map .received ++ [Stop.endOfStream.input])
    (Receiver.start 64).KeepsAll reads ∧ run.2 = some (.disconnected 5) ∧
      observe (fun (seen : List UInt32) u => ([], seen ++ [u.machine])) [] run.1 =
        [.counted .updatesReceived, .began 2, .finished, .counted .documentsRejected,
          .logged .warning "invalid PAD document: expected ident"] := by
  intro reads run
  have hk : (Receiver.start 64).KeepsAll reads :=
    Receiver.keepsAll_of_length_le (by decide +kernel)
  obtain ⟨hending, hseen, _⟩ := run_eq_eachAlone hk .endOfStream []
  refine ⟨hk, hending.trans (by decide +kernel), (hseen _ _ _).trans ?_⟩
  decide +kernel

end PadRelay
