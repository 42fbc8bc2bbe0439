import PadRelay.Proofs.Receiving.Reports

/-!
# PadRelay.Proofs.Receiving.Bounded

How many bytes the receive loop holds, and how long a document it can dispatch.

* `Framer.pending_of_take`: what a search takes out of the buffer is a document and its terminator,
  and nothing else changes how much is held.
* `Framer.Passes`: the framers that a read passes through. Each is made by one operation of the
  loop, so none holds more than the bytes before the read and those of it.
* `Receiver.Bounded`: the invariant. Behind a drop, and so behind each input, no more than the limit
  is held.
* `Receiver.after`, `Receiver.dispatched`: the loop behind some inputs, and the documents it was
  given on the way.
* `bounded_of_run`: the bounds over a whole run. `exists_run_of_length`: they are attained.
-/

namespace PadRelay

open Framing

/-! ## One operation -/

namespace Framer

variable {f g : Framer}

@[simp] theorem pending_push (f : Framer) (bytes : Bytes) :
    (f.push bytes).pending = f.pending + bytes.length := by
  rw [pending, ← Array.length_toList, toList_push, List.length_append, Array.length_toList, pending]

theorem pending_of_take {document : Bytes} (h : f.take = (some document, g)) :
    document.length + terminatorLength + g.pending = f.pending := by
  unfold take at h
  split at h
  · cases h
  · next pos hpos =>
    have hle := findTerminator_le hpos
    cases h
    simp only [pending, Array.length_toList, Array.size_extract]
    omega

theorem pending_take_le (f : Framer) : f.take.2.pending ≤ f.pending := by
  cases h : f.take with
  | mk document g =>
    cases document with
    | some document =>
      have := pending_of_take h
      simp only
      omega
    | none =>
      unfold take at h
      split at h
      · cases h; exact Nat.le_refl _
      · cases h

theorem pending_of_next {document : Bytes} (h : f.next = (some document, g)) :
    document.length + terminatorLength + g.pending ≤ f.pending := by
  unfold next at h
  split at h
  · cases h
  · next first k ht =>
    have hfirst := pending_of_take ht
    split at h
    · have hsecond := pending_of_take h
      simp only [pending] at hfirst hsecond ⊢
      omega
    · cases h
      omega

/-- Each document was in the buffer, and so was its terminator. -/
theorem length_of_mem_drain {document : Bytes} (h : document ∈ f.drain.1) :
    document.length + terminatorLength ≤ f.pending := by
  have hfrom : ∀ done, document ∈ (drainFrom done f).1 → document ∈ done ∨
      document.length + terminatorLength ≤ f.pending := by
    clear h
    intro done hmem
    fun_induction drainFrom done f with
    | case1 done f g hn => exact Or.inl (List.mem_reverse.mp hmem)
    | case2 done f first g hn ih =>
      have hfirst := pending_of_next hn
      rcases ih hmem with hdone | hle
      · rcases List.mem_cons.mp hdone with rfl | hold
        · exact Or.inr (by omega)
        · exact Or.inl hold
      · exact Or.inr (by omega)
  exact (hfrom [] h).resolve_left List.not_mem_nil

/-- Behind a drop no more than the limit is held, if the limit leaves room for what a drop keeps. -/
theorem pending_discard_le (hmax : overlap ≤ f.maxDocument) {dropped : Option Nat}
    (h : f.discard = .ok (dropped, g)) : g.pending ≤ f.maxDocument ∧ g.pending ≤ f.pending := by
  rcases Nat.lt_or_ge f.maxDocument f.pending with hlt | hle
  · rw [discard_of_lt (Nat.le_trans (by decide) hmax) hlt] at h
    cases h
    have hkept : f.shed.pending = overlap := by
      have hthree : overlap ≤ f.buffer.size := Nat.le_trans hmax (Nat.le_of_lt hlt)
      simp only [pending, shed, List.size_toArray, List.length_drop, Array.length_toList, overlap,
        terminatorLength] at hthree ⊢
      omega
    rw [hkept]
    exact ⟨hmax, Nat.le_trans hmax (Nat.le_of_lt hlt)⟩
  · rw [discard_of_le hle] at h
    cases h
    exact ⟨hle, Nat.le_refl _⟩

/-! ## One read -/

/-- The framers that a read passes through: with its bytes behind those that wait, behind each
search of `next`, and behind the drop. -/
inductive Passes (f : Framer) (bytes : Bytes) : Framer → Prop
  | pushed : Passes f bytes (f.push bytes)
  | searched {g : Framer} : Passes f bytes g → Passes f bytes g.take.2
  | passedOver {g : Framer} : Passes f bytes g → Passes f bytes { g with discarding := false }
  | discarded {g k : Framer} {dropped : Option Nat} :
    Passes f bytes g → g.discard = .ok (dropped, k) → Passes f bytes k

variable {bytes : Bytes}

theorem Passes.next (h : f.Passes bytes g) : f.Passes bytes g.next.2 := by
  have hfirst := h.searched
  unfold Framer.next
  split
  · next ht =>
    rw [ht] at hfirst
    exact hfirst
  · next k ht =>
    rw [ht] at hfirst
    split
    · exact hfirst.passedOver.searched
    · exact hfirst

theorem passes_drain (f : Framer) (bytes : Bytes) : f.Passes bytes (f.push bytes).drain.2 := by
  have hfrom : ∀ g done, f.Passes bytes g → f.Passes bytes (drainFrom done g).2 := by
    intro g done h
    fun_induction drainFrom done g with
    | case1 done g k hn =>
      have hk := h.next
      rw [hn] at hk
      exact hk
    | case2 done g document k hn ih =>
      have hk := h.next
      rw [hn] at hk
      exact ih hk
  exact hfrom _ [] .pushed

theorem Passes.maxDocument_eq (h : f.Passes bytes g) : g.maxDocument = f.maxDocument := by
  induction h with
  | pushed => rfl
  | searched _ ih => exact (maxDocument_take _).trans ih
  | passedOver _ ih => exact ih
  | discarded _ hdiscard ih => exact (maxDocument_discard hdiscard).trans ih

/-- At no time of a read is more held than what waited and the bytes of the read. -/
theorem Passes.pending_le (hmax : overlap ≤ f.maxDocument) (h : f.Passes bytes g) :
    g.pending ≤ f.pending + bytes.length := by
  induction h with
  | pushed => exact Nat.le_of_eq (pending_push f bytes)
  | searched _ ih => exact Nat.le_trans (pending_take_le _) ih
  | passedOver _ ih => exact ih
  | discarded hpasses hdiscard ih =>
    exact Nat.le_trans (pending_discard_le (hpasses.maxDocument_eq ▸ hmax) hdiscard).2 ih

end Framer

/-! ## One input -/

namespace Receiver

def completed (r : Receiver) : Input → List Bytes
  | .received bytes => (r.framer.push bytes).drain.1
  | .closed | .failed _ | .signalled | .released => []

/-- No more is held than the limit, which leaves room for what a drop keeps. -/
structure Bounded (maxDocument : Nat) (r : Receiver) : Prop where
  limit : r.framer.maxDocument = maxDocument
  overlap_le : Framer.overlap ≤ maxDocument
  pending_le : r.framer.pending ≤ maxDocument

variable {maxDocument : Nat} {r s : Receiver} {bytes : Bytes}

theorem bounded_start (hmax : Framer.overlap ≤ maxDocument) :
    (start maxDocument).Bounded maxDocument where
  limit := rfl
  overlap_le := hmax
  pending_le := Nat.zero_le _

/-- A read is served to its end, and the invariant holds again behind it. -/
theorem Bounded.accept (h : r.Bounded maxDocument) (bytes : Bytes) :
    ∃ dropped s, r.accept bytes = (Framer.Served.occurrences maxDocument
        ⟨(r.framer.push bytes).drain.1, dropped⟩, .ok s) ∧
      r.framer.Passes bytes s.framer ∧ s.Bounded maxDocument := by
  have hdrain := Framer.passes_drain r.framer bytes
  have hlimit : (r.framer.push bytes).drain.2.maxDocument = maxDocument :=
    hdrain.maxDocument_eq.trans h.limit
  have hmax : Framer.overlap ≤ (r.framer.push bytes).drain.2.maxDocument :=
    hlimit.symm ▸ h.overlap_le
  obtain ⟨dropped, g, hdiscard⟩ := Framer.exists_discard (Nat.le_trans (by decide) hmax)
  refine ⟨dropped, { r with framer := g }, ?_, hdrain.discarded hdiscard, ?_⟩
  · rw [accept_of_served hdiscard, h.limit]
  · refine ⟨(Framer.maxDocument_discard hdiscard).trans hlimit, h.overlap_le, ?_⟩
    exact hlimit ▸ (Framer.pending_discard_le hmax hdiscard).1

theorem Bounded.step (h : r.Bounded maxDocument) {input : Input} (hs : (r.step input).2 = .ok s) :
    s.Bounded maxDocument := by
  cases input with
  | received bytes =>
    obtain ⟨_, t, haccept, -, ht⟩ := h.accept bytes
    rw [Receiver.step, haccept] at hs
    cases hs
    exact ht
  | closed => cases hs
  | failed reason => cases hs
  | signalled =>
    simp only [Receiver.step] at hs
    split at hs
    · cases hs
    · cases hs
      exact h
  | released =>
    cases hs
    exact ⟨h.limit, h.overlap_le, h.pending_le⟩

/-- A document was held with its terminator when its read was pushed. -/
theorem Bounded.length_of_mem_completed (h : r.Bounded maxDocument) {input : Input}
    (hread : ∀ bytes, input = .received bytes → bytes.length ≤ readSize) {document : Bytes}
    (hd : document ∈ r.completed input) : document.length ≤ maxDocument + 4092 := by
  cases input with
  | received bytes =>
    have hlen := Framer.length_of_mem_drain hd
    have hheld := h.pending_le
    have hsize : bytes.length ≤ 4096 := hread bytes rfl
    rw [Framer.pending_push, show Framer.terminatorLength = 4 from rfl] at hlen
    omega
  | closed | failed | signalled | released => cases hd

/-- Besides the drop, what comes of an input is what its documents are dispatched to. -/
theorem Bounded.filter_step (h : r.Bounded maxDocument) (input : Input) :
    (r.step input).1.filter (·.dropped?.isNone) = (r.completed input).filterMap dispatch := by
  cases input with
  | received bytes =>
    obtain ⟨_, _, haccept, -, -⟩ := h.accept bytes
    rw [Receiver.step, haccept]
    exact Framer.Served.filter_dropped? _
  | closed | failed | signalled | released => rfl

/-! ## A run -/

def after (r : Receiver) : List Input → Except Ending Receiver
  | [] => .ok r
  | input :: inputs =>
    match (r.step input).2 with
    | .error ending => .error ending
    | .ok s => s.after inputs

/-- The documents that some inputs complete before the loop ends. -/
def dispatched (r : Receiver) : List Input → List Bytes
  | [] => []
  | input :: inputs =>
    r.completed input ++
      match (r.step input).2 with
      | .error _ => []
      | .ok s => s.dispatched inputs

theorem Bounded.after (h : r.Bounded maxDocument) {inputs : List Input}
    (hs : r.after inputs = .ok s) : s.Bounded maxDocument := by
  induction inputs generalizing r with
  | nil =>
    cases hs
    exact h
  | cons input inputs ih =>
    rw [Receiver.after] at hs
    split at hs
    · cases hs
    · next t ht => exact ih (h.step ht) hs

theorem Bounded.length_of_mem_dispatched (h : r.Bounded maxDocument) {inputs : List Input}
    (hreads : ∀ bytes, .received bytes ∈ inputs → bytes.length ≤ readSize) {document : Bytes}
    (hd : document ∈ r.dispatched inputs) : document.length ≤ maxDocument + 4092 := by
  induction inputs generalizing r with
  | nil => cases hd
  | cons input inputs ih =>
    rcases List.mem_append.mp hd with hfirst | hmore
    · refine h.length_of_mem_completed (fun bytes hinput => hreads bytes ?_) hfirst
      exact hinput ▸ List.mem_cons_self
    · split at hmore
      · cases hmore
      · next t ht =>
        exact ih (h.step ht) (fun bytes hb => hreads bytes (List.mem_cons_of_mem _ hb)) hmore

theorem Bounded.filter_run (h : r.Bounded maxDocument) (inputs : List Input) :
    (r.run inputs).1.filter (·.dropped?.isNone) = (r.dispatched inputs).filterMap dispatch := by
  induction inputs generalizing r with
  | nil => rfl
  | cons input inputs ih =>
    have hfirst := h.filter_step input
    rw [run, dispatched, List.filterMap_append, ← hfirst]
    cases hstep : r.step input with
    | mk occurrences result =>
      cases result with
      | error ending => simp
      | ok t =>
        have ht : (r.step input).2 = .ok t := by rw [hstep]
        simp only [List.filter_append, ih (h.step ht)]

theorem Bounded.run_ne_broken (h : r.Bounded maxDocument) (inputs : List Input)
    (fault : Framer.Fault) : (r.run inputs).2 ≠ some (.broken fault) := by
  have hmax : 2 ≤ r.framer.maxDocument := by
    rw [h.limit]
    exact Nat.le_trans (by decide) h.overlap_le
  exact run_ne_broken_of_two_le hmax inputs fault

end Receiver

/-- **The receive loop holds a bounded part of its stream, wherever the reads are cut.** Behind each
input it holds no more than the limit, and at no time of a read more than that and a full read. So
no document longer than the limit and a full read but for the terminator is ever dispatched, and
only what is dispatched is decoded. -/
theorem bounded_of_run {maxDocument : Nat} (hmax : 3 ≤ maxDocument) {inputs : List Input}
    (hreads : ∀ bytes, .received bytes ∈ inputs → bytes.length ≤ readSize) :
    let loop := Receiver.start maxDocument
    (∀ before r, before <+: inputs → loop.after before = .ok r →
      r.framer.pending ≤ maxDocument ∧
        ∀ bytes g, before ++ [.received bytes] <+: inputs → r.framer.Passes bytes g →
          g.pending ≤ maxDocument + 4096) ∧
      (∀ document ∈ loop.dispatched inputs, document.length ≤ maxDocument + 4092) ∧
      (loop.run inputs).1.filter (·.dropped?.isNone) =
        (loop.dispatched inputs).filterMap dispatch ∧
      ∀ fault, (loop.run inputs).2 ≠ some (.broken fault) := by
  intro loop
  have hstart : loop.Bounded maxDocument := Receiver.bounded_start hmax
  refine ⟨fun before r _ hr => ?_, fun document hd => hstart.length_of_mem_dispatched hreads hd,
    hstart.filter_run inputs, hstart.run_ne_broken inputs⟩
  have hr := hstart.after hr
  refine ⟨hr.pending_le, fun bytes g hpre hg => ?_⟩
  have hsize : bytes.length ≤ 4096 := hreads bytes (hpre.subset (by simp))
  have hheld := hr.pending_le
  have hpasses := hg.pending_le (hr.limit.symm ▸ hr.overlap_le)
  omega

/-- Two documents in one read behind a drop, the first of them the rest of what was dropped. The
second one is longer than the limit, and is dispatched all the same. -/
theorem bounded_of_run_of_dropped_document :
    let inputs : List Input := [.received (Text.utf8 "abcd"), .released,
      .received (Text.utf8 "e\r\n\r\nfghij\r\n\r\nk"), .closed]
    let loop := Receiver.start 3
    3 ≤ 3 ∧ (∀ bytes, .received bytes ∈ inputs → bytes.length ≤ readSize) ∧
      (∃ r, loop.after (inputs.take 3) = .ok r ∧ r.framer.pending = 1) ∧
      loop.dispatched inputs = [Text.utf8 "fghij"] ∧
      (∀ document ∈ loop.dispatched inputs, document.length ≤ 3 + 4092) ∧
      (loop.run inputs).2 = some (.disconnected 1) := by
  intro inputs loop
  have hreads : ∀ bytes, .received bytes ∈ inputs → bytes.length ≤ readSize := by
    intro bytes hb
    simp only [inputs, List.mem_cons, Input.received.injEq, reduceCtorEq, List.not_mem_nil,
      false_or, or_false] at hb
    rcases hb with rfl | rfl
    · decide +kernel
    · decide +kernel
  obtain ⟨-, hlength, -, -⟩ := bounded_of_run (by decide : 3 ≤ 3) hreads
  refine ⟨by decide, hreads, ⟨⟨⟨#[107], 1, 3, false⟩, false⟩, ?_, rfl⟩, ?_, hlength, ?_⟩
  · decide +kernel
  · decide +kernel
  · decide +kernel

/-! ## The bounds are attained -/

private theorem free_of_count {s : Bytes} (h : s.count 10 < 2) : ¬ terminator <:+: s :=
  fun hin => Nat.not_le.mpr h (hin.sublist.count_le 10)

/-- Bytes that come one by one wait up to the limit. -/
theorem Receiver.after_replicate {maxDocument k n : Nat} (h : k + n ≤ maxDocument) :
    (waiting maxDocument (List.replicate k 97)).after (List.replicate n (.received [97])) =
      .ok (waiting maxDocument (List.replicate (k + n) 97)) := by
  have hfree : ∀ m, ¬ terminator <:+: List.replicate m (97 : UInt8) :=
    fun m => free_of_count (by simp [List.count_replicate])
  induction n generalizing k with
  | zero => rfl
  | succ n ih =>
    have hnext : List.replicate k (97 : UInt8) ++ [97] = List.replicate (k + 1) 97 :=
      List.replicate_succ'.symm
    have hstep : ((waiting maxDocument (List.replicate k 97)).step (.received [97])).2 =
        .ok (waiting maxDocument (List.replicate (k + 1) 97)) := by
      have hkept : (waiting maxDocument (List.replicate (k + 1) 97)).framer.discard =
          .ok (none, (waiting maxDocument (List.replicate (k + 1) 97)).framer) :=
        discard_waiting_iff.mpr (by rw [List.length_replicate]; omega)
      simp only [step, accept, drain_waiting (hfree k), hnext, cut_of_free (hfree (k + 1)), hkept]
      rfl
    rw [List.replicate_succ, after, hstep]
    simp only
    rw [ih (by omega), Nat.add_assoc, Nat.add_comm 1 n]

/-- **The bounds are attained at every limit.** As many bytes as the limit allows may wait for a
read that completes their document with all but its last four bytes. -/
theorem exists_run_of_length (maxDocument : Nat) :
    ∃ inputs last r, (∀ bytes, .received bytes ∈ inputs → bytes.length ≤ readSize) ∧
      last.length = readSize ∧ (Receiver.start maxDocument).after inputs = .ok r ∧
      r.framer.pending = maxDocument ∧ (r.framer.push last).pending = maxDocument + 4096 ∧
      ∃ document, r.completed (.received last) = [document] ∧
        document.length = maxDocument + 4092 := by
  have hafter : (Receiver.start maxDocument).after (List.replicate maxDocument (.received [97])) =
      .ok (Receiver.waiting maxDocument (List.replicate (0 + maxDocument) 97)) :=
    Receiver.after_replicate (k := 0) (by omega)
  rw [Nat.zero_add] at hafter
  have hpiece : cut (List.replicate maxDocument 97 ++ (List.replicate 4092 97 ++ terminator)) =
      ([List.replicate (maxDocument + 4092) 97], []) := by
    rw [← List.append_assoc, List.replicate_append_replicate]
    have hfree :
        ¬ terminator <:+: List.replicate (maxDocument + 4092) (97 : UInt8) ++ [13, 10, 13] :=
      free_of_count (by simp [List.count_append, List.count_replicate])
    rw [← List.append_nil (_ ++ terminator), cut_piece hfree, cut_of_free (by simp [terminator])]
  have hlast : (List.replicate 4092 97 ++ terminator).length = 4096 := by
    rw [List.length_append, List.length_replicate]
    rfl
  have hheld : (Receiver.waiting maxDocument (List.replicate maxDocument 97)).framer.pending =
      maxDocument := List.length_replicate
  have hfree : ¬ terminator <:+: List.replicate maxDocument (97 : UInt8) :=
    free_of_count (by simp [List.count_replicate])
  refine ⟨_, List.replicate 4092 97 ++ terminator, _, ?_, hlast, hafter, hheld, ?_,
    List.replicate (maxDocument + 4092) 97, ?_, List.length_replicate⟩
  · intro bytes hb
    rw [Input.received.inj (List.eq_of_mem_replicate hb)]
    decide
  · rw [Framer.pending_push, hheld, hlast]
  · rw [Receiver.completed, Receiver.drain_waiting hfree, hpiece]

end PadRelay
