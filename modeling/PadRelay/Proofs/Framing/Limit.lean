import PadRelay.Proofs.Framing.Growth
import PadRelay.Proofs.Framing.Session

/-!
# PadRelay.Proofs.Framing.Limit

A framer that serves reads: each one is pushed, all complete documents are taken, and then what
has outgrown the limit is dropped.

* `Framer.serve`: what comes of some reads, the documents and the drop of each.
* `Framer.Waits`: the invariant. The buffer holds what is unfinished, less what was dropped of it,
  and the framer passes over a piece exactly if it was over the limit behind some read.
* `Framer.Waits.push`, `Framer.Waits.discard`: the two halves of a read keep it.
* `Framer.serve_start`: over all reads, the documents are the pieces that never were over the
  limit, and the drops are those that their sizes make necessary.
* `serve_withholds_iff`: a piece within the limit is withheld exactly if a read ends in its
  terminator and the bytes of that do not fit any more.
-/

namespace PadRelay
namespace Framer

open Framing

/-- What comes of a read. -/
structure Served where
  documents : List Bytes
  dropped : Option Nat
  deriving DecidableEq, Repr

/-- What comes of some reads, and the framer behind them. -/
def serve (f : Framer) : List Bytes → Except Fault (List Served × Framer)
  | [] => .ok ([], f)
  | bytes :: reads => do
    let (documents, f) := (f.push bytes).drain
    let (dropped, f) ← f.discard
    let (later, f) ← f.serve reads
    return (⟨documents, dropped⟩ :: later, f)

theorem serve_cons {f g : Framer} {bytes : Bytes} {reads : List Bytes} {served : List Served}
    (h : f.serve (bytes :: reads) = .ok (served, g)) :
    ∃ dropped k later, (f.push bytes).drain.2.discard = .ok (dropped, k) ∧
      k.serve reads = .ok (later, g) ∧ served = ⟨(f.push bytes).drain.1, dropped⟩ :: later := by
  simp only [serve, bind, Except.bind, pure, Except.pure] at h
  split at h
  · cases h
  · next x hdiscard =>
    split at h
    · cases h
    · next y hserve =>
      cases h
      exact ⟨x.1, x.2, y.1, hdiscard, hserve, rfl⟩

theorem maxDocument_take (f : Framer) : f.take.2.maxDocument = f.maxDocument := by
  unfold take
  split <;> rfl

theorem maxDocument_next (f : Framer) : f.next.2.maxDocument = f.maxDocument := by
  have hf := maxDocument_take f
  unfold next
  split
  · next ht => rw [ht] at hf; exact hf
  · next ht =>
    rw [ht] at hf
    split
    · exact (maxDocument_take _).trans hf
    · exact hf

theorem maxDocument_drain (f : Framer) : f.drain.2.maxDocument = f.maxDocument := by
  rw [drain]
  generalize [] = done
  fun_induction drainFrom done f with
  | case1 done f g hn => have := maxDocument_next f; rw [hn] at this; exact this
  | case2 done f document g hn ih =>
    have := maxDocument_next f
    rw [hn] at this
    exact ih.trans this

theorem maxDocument_discard {f g : Framer} {dropped : Option Nat}
    (h : f.discard = .ok (dropped, g)) : g.maxDocument = f.maxDocument := by
  unfold discard at h
  split at h
  · cases h; rfl
  · split at h
    · cases h
    · cases h; rfl

/-! ## What waits -/

variable {maxDocument : Nat} {reads : List Bytes} {s : Bytes} {f : Framer}

/-- The framer waits for the end of what is unfinished in a stream, of which pieces were dropped
behind some reads. -/
structure Waits (maxDocument : Nat) (reads : List Bytes) (s : Bytes) (f : Framer) : Prop where
  searched : f.Searched
  limit : f.maxDocument = maxDocument
  buffer : f.buffer.toList = (cut s).2.drop (gone maxDocument reads (cut s).1.length)
  discarding_iff : f.discarding = true ↔ (cut s).1.length ∈ overgrown maxDocument reads
  overlap_le : f.discarding = true → 3 ≤ f.buffer.toList.length

theorem waits_start (maxDocument : Nat) : (start maxDocument).Waits maxDocument [] [] := by
  have hcut : cut ([] : Bytes) = ([], []) := cut_of_free (by simp [terminator])
  refine ⟨searched_start _, rfl, ?_, ?_, ?_⟩
  · rw [hcut, List.drop_nil]
    rfl
  · simp [start, overgrown, growth, hcut]
  · simp [start]

theorem Waits.size_buffer (h : f.Waits maxDocument reads s) :
    f.buffer.size = (cut s).2.length - gone maxDocument reads (cut s).1.length := by
  rw [← Array.length_toList, h.buffer, List.length_drop]

theorem Waits.buffer_of_not_discarding (h : f.Waits maxDocument reads s)
    (hd : f.discarding = false) : f.buffer.toList = (cut s).2 := by
  have hout : (cut s).1.length ∉ overgrown maxDocument reads := by
    rw [← h.discarding_iff, hd]
    decide
  rw [h.buffer, gone_eq_zero hout, List.drop_zero]

/-- The piece that waits behind more bytes was over the limit before only if none was completed. -/
theorem Waits.mem_overgrown_iff (h : f.Waits maxDocument reads reads.flatten) (x : Bytes) :
    (cut (reads.flatten ++ x)).1.length ∈ overgrown maxDocument reads ↔
      f.discarding = true ∧ (cut ((cut reads.flatten).2 ++ x)).1 = [] := by
  rw [h.discarding_iff, cut_append, List.length_append]
  constructor
  · intro hin
    have hle := le_of_mem_overgrown hin
    have hnil : (cut ((cut reads.flatten).2 ++ x)).1 = [] :=
      List.eq_nil_of_length_eq_zero (by omega)
    rw [hnil] at hin
    exact ⟨hin, hnil⟩
  · rintro ⟨hin, hnil⟩
    rwa [hnil]

/-- More bytes complete in the buffer the pieces that they complete in the stream, but for the
front of the first one if that is passed over. -/
theorem Waits.cut_push (h : f.Waits maxDocument reads reads.flatten) (x : Bytes) :
    (if f.discarding then
        (cut (f.buffer.toList ++ x)).1.tail = (cut ((cut reads.flatten).2 ++ x)).1.tail
      else (cut (f.buffer.toList ++ x)).1 = (cut ((cut reads.flatten).2 ++ x)).1) ∧
    ((cut (f.buffer.toList ++ x)).1 = [] ↔ (cut ((cut reads.flatten).2 ++ x)).1 = []) ∧
    (cut (f.buffer.toList ++ x)).2 = (cut (reads.flatten ++ x)).2.drop
      (gone maxDocument reads (cut (reads.flatten ++ x)).1.length) := by
  have hmem := h.mem_overgrown_iff x
  have happ := cut_append reads.flatten x
  cases hd : f.discarding with
  | false =>
    have hout : (cut (reads.flatten ++ x)).1.length ∉ overgrown maxDocument reads := by
      rw [hmem, hd]
      simp
    rw [h.buffer_of_not_discarding hd, gone_eq_zero hout, List.drop_zero, happ]
    exact ⟨rfl, Iff.rfl, rfl⟩
  | true =>
    have hthree := h.overlap_le hd
    have hsplit : (cut reads.flatten).2.take
        (gone maxDocument reads (cut reads.flatten).1.length) ++ f.buffer.toList =
          (cut reads.flatten).2 := by
      rw [h.buffer, List.take_append_drop]
    have hfree := remainder_free reads.flatten
    rw [← hsplit] at hfree
    obtain ⟨htail, hlength, hrest⟩ := cut_overlap hfree hthree x
    rw [← List.append_assoc, hsplit] at htail hlength hrest
    have hnil : (cut (f.buffer.toList ++ x)).1 = [] ↔
        (cut ((cut reads.flatten).2 ++ x)).1 = [] := by
      rw [← List.length_eq_zero_iff, ← hlength, List.length_eq_zero_iff]
    refine ⟨htail.symm, hnil, ?_⟩
    by_cases hnone : (cut (f.buffer.toList ++ x)).1 = []
    · have hgone : ((cut reads.flatten).2.take
          (gone maxDocument reads (cut reads.flatten).1.length)).length =
            gone maxDocument reads (cut reads.flatten).1.length := by
        have hlen := congrArg List.length h.buffer
        rw [List.length_drop] at hlen
        exact List.length_take_of_le (by omega)
      rw [if_pos hnone] at hrest
      rw [happ, hnil.mp hnone, List.append_nil, hrest]
      exact (List.drop_left' hgone).symm
    · have hout : (cut (reads.flatten ++ x)).1.length ∉ overgrown maxDocument reads := by
        rw [hmem, ← hnil]
        exact fun hin => hnone hin.2
      rw [if_neg hnone] at hrest
      rw [gone_eq_zero hout, List.drop_zero, happ, hrest]

theorem Waits.push (h : f.Waits maxDocument reads reads.flatten) (x : Bytes) :
    (f.push x).drain = (if f.discarding then (cut ((cut reads.flatten).2 ++ x)).1.tail
        else (cut ((cut reads.flatten).2 ++ x)).1, (f.push x).drained) ∧
      (f.push x).drained.Waits maxDocument reads (reads.flatten ++ x) := by
  obtain ⟨hpieces, hnil, hrest⟩ := h.cut_push x
  have hbuffer : (f.push x).drained.buffer.toList = (cut (f.buffer.toList ++ x)).2 := by
    simp [drained]
  have hdiscarding : (f.push x).drained.discarding = true ↔
      f.discarding = true ∧ (cut (f.buffer.toList ++ x)).1 = [] := by
    rw [drained, toList_push, Bool.and_eq_true, List.isEmpty_iff]
    rfl
  constructor
  · rw [(h.searched.push x).drain_eq, documents_push]
    cases hd : f.discarding with
    | false => simpa [hd] using hpieces
    | true => simpa [hd] using hpieces
  · refine ⟨searched_drained _, h.limit, hbuffer.trans hrest, ?_, ?_⟩
    · rw [hdiscarding, h.mem_overgrown_iff x, hnil]
    · intro hd
      obtain ⟨hold, hnone⟩ := hdiscarding.mp hd
      have hthree := h.overlap_le hold
      rw [hbuffer, cut_snd_of_fst_eq_nil hnone, List.length_append]
      omega

theorem Waits.discard (hmax : 2 ≤ maxDocument) {x : Bytes}
    (h : f.Waits maxDocument reads (reads ++ [x]).flatten) :
    ∃ g, f.discard = .ok (excess maxDocument ((cut (reads ++ [x]).flatten).2.length -
        gone maxDocument reads (cut (reads ++ [x]).flatten).1.length), g) ∧
      g.Waits maxDocument (reads ++ [x]) (reads ++ [x]).flatten := by
  have hgone : gone maxDocument (reads ++ [x]) (cut (reads ++ [x]).flatten).1.length =
      gone maxDocument reads (cut (reads ++ [x]).flatten).1.length +
        (excess maxDocument f.buffer.size).toList.sum := by
    rw [gone, drops_sizes_concat hmax, List.sum_append, h.size_buffer, gone]
  rw [← h.size_buffer]
  by_cases hsize : f.buffer.size ≤ maxDocument
  · have hexcess : excess maxDocument f.buffer.size = none := if_pos hsize
    rw [hexcess, Option.toList_none, List.sum_nil, Nat.add_zero] at hgone
    refine ⟨f, by rw [discard_of_le (h.limit.symm ▸ hsize), hexcess], h.searched, h.limit, ?_, ?_,
      h.overlap_le⟩
    · rw [hgone, h.buffer]
    · rw [h.discarding_iff, overgrown_concat, List.mem_append]
      constructor
      · exact Or.inl
      · rintro (hin | hin)
        · exact hin
        · -- a piece over the limit whose buffer is not has been dropped from before
          by_contra hout
          rw [h.size_buffer, gone_eq_zero hout] at hsize
          rw [if_pos (by omega)] at hin
          cases hin
  · have hover : maxDocument < f.buffer.size := Nat.not_le.mp hsize
    have hexcess : excess maxDocument f.buffer.size = some (f.buffer.size - 3) := if_neg hsize
    have hdrop := discard_of_lt (h.limit.symm ▸ hmax) (h.limit.symm ▸ hover)
    have hbuffer : f.shed.buffer.toList = f.buffer.toList.drop (f.buffer.size - 3) := rfl
    rw [hexcess, Option.toList_some, List.sum_singleton] at hgone
    refine ⟨f.shed, by rw [hdrop, hexcess], searched_of_scanned_eq_zero rfl, h.limit,
      ?_, ?_, fun _ => ?_⟩
    · rw [hbuffer, hgone, h.buffer, List.drop_drop]
    · have hrest : ¬ (cut (reads ++ [x]).flatten).2.length ≤ maxDocument := by
        have hlen := h.size_buffer
        omega
      rw [overgrown_concat, if_neg hrest]
      exact iff_of_true rfl (List.mem_append_right _ List.mem_cons_self)
    · rw [hbuffer, List.length_drop, Array.length_toList]
      omega

/-- One read: the documents that it completes are returned but for one that was over the limit,
and what waits is dropped if it is now. -/
theorem Waits.read (hmax : 2 ≤ maxDocument) (h : f.Waits maxDocument reads reads.flatten)
    (x : Bytes) :
    ∃ documents dropped g k, (f.push x).drain = (documents, g) ∧ g.discard = .ok (dropped, k) ∧
      k.Waits maxDocument (reads ++ [x]) (reads ++ [x]).flatten ∧
      kept (overgrown maxDocument (reads ++ [x])) (cut (reads ++ [x]).flatten).1 =
        kept (overgrown maxDocument reads) (cut reads.flatten).1 ++ documents ∧
      reports maxDocument (reads ++ [x]) = reports maxDocument reads ++ dropped.toList := by
  have hflat : (reads ++ [x]).flatten = reads.flatten ++ x := by simp
  obtain ⟨hdrain, hwaits⟩ := h.push x
  rw [← hflat] at hwaits
  obtain ⟨k, hdiscard, hk⟩ := hwaits.discard hmax
  refine ⟨_, _, _, k, hdrain, hdiscard, hk, ?_, reports_concat hmax reads x⟩
  have hkept : kept (overgrown maxDocument (reads ++ [x])) (cut (reads ++ [x]).flatten).1 =
      kept (overgrown maxDocument reads) (cut (reads ++ [x]).flatten).1 := by
    rw [overgrown_concat]
    split
    · rw [List.append_nil]
    · exact kept_append_length _ _
  rw [hkept, hflat, cut_append, kept_append fun n hn => le_of_mem_overgrown hn]
  congr 1
  exact if_congr h.discarding_iff.symm rfl rfl

theorem serve_of_waits (hmax : 2 ≤ maxDocument) (h : f.Waits maxDocument reads reads.flatten)
    (later : List Bytes) :
    ∃ served g, f.serve later = .ok (served, g) ∧
      kept (overgrown maxDocument (reads ++ later)) (cut (reads ++ later).flatten).1 =
        kept (overgrown maxDocument reads) (cut reads.flatten).1 ++ served.flatMap (·.documents) ∧
      reports maxDocument (reads ++ later) =
        reports maxDocument reads ++ served.filterMap (·.dropped) := by
  induction later generalizing reads f with
  | nil => exact ⟨[], f, rfl, by simp, by simp⟩
  | cons x later ih =>
    obtain ⟨documents, dropped, g, k, hdrain, hdiscard, hk, hkept, hreports⟩ := h.read hmax x
    obtain ⟨served, l, hserve, hmore, hdrops⟩ := ih hk
    rw [List.append_assoc, List.singleton_append] at hmore hdrops
    refine ⟨⟨documents, dropped⟩ :: served, l, ?_, ?_, ?_⟩
    · rw [serve, hdrain]
      simp only [hdiscard, hserve, bind, Except.bind, pure, Except.pure]
    · rw [hmore, hkept, List.append_assoc, List.flatMap_cons]
    · rw [hdrops, hreports, List.append_assoc]
      cases dropped <;> rfl

/-- The documents are the pieces that never were over the limit behind a read, and the drops are
those that the sizes of the others make necessary. -/
theorem serve_start (hmax : 2 ≤ maxDocument) (reads : List Bytes) :
    ∃ served f, (start maxDocument).serve reads = .ok (served, f) ∧
      served.flatMap (·.documents) = kept (overgrown maxDocument reads) (cut reads.flatten).1 ∧
      served.filterMap (·.dropped) = reports maxDocument reads := by
  have hcut : cut ([] : Bytes) = ([], []) := cut_of_free (by simp [terminator])
  have hnone : kept (overgrown maxDocument []) (cut ([] : List Bytes).flatten).1 = [] := by
    rw [List.flatten_nil, hcut]
    rfl
  have hnodrop : reports maxDocument [] = [] := by
    simp [reports, sizes, growth, hcut, drops]
  have hstart : (start maxDocument).Waits maxDocument [] ([] : List Bytes).flatten :=
    waits_start maxDocument
  obtain ⟨served, f, hserve, hkept, hreports⟩ := serve_of_waits hmax hstart reads
  rw [List.nil_append, hnone, List.nil_append] at hkept
  rw [List.nil_append, hnodrop, List.nil_append] at hreports
  exact ⟨served, f, hserve, hkept.symm, hreports.symm⟩

end Framer

namespace Framing

/-- **A framer that serves reads withholds a piece within the limit exactly if a read ends in its
terminator and the bytes of that do not fit any more.** All other such pieces are returned, byte
for byte and in order, wherever the reads are cut; so a piece that leaves room for three bytes
always is. -/
theorem serve_withholds_iff {maxDocument : Nat} (hmax : 2 ≤ maxDocument) (reads : List Bytes) :
    ∃ served f, (Framer.start maxDocument).serve reads = .ok (served, f) ∧
      served.flatMap (·.documents) = kept (overgrown maxDocument reads) (cut reads.flatten).1 ∧
      ∀ n piece, (cut reads.flatten).1[n]? = some piece → piece.length ≤ maxDocument →
        (n ∈ overgrown maxDocument reads ↔ ∃ taken k, taken <+: reads ∧ k ≤ 3 ∧
          maxDocument < piece.length + k ∧ taken.flatten =
            terminated ((cut reads.flatten).1.take n) ++ piece ++ terminator.take k) := by
  obtain ⟨served, f, hserve, hdocuments, -⟩ := Framer.serve_start hmax reads
  refine ⟨served, f, hserve, hdocuments, ?_⟩
  intro n piece hpiece hle
  exact mem_overgrown_iff_of_length_le hpiece hle

/-- Three bytes are within a limit of three, and are lost when a read ends behind the first byte of
their terminator. -/
theorem serve_withholds_iff_of_split_terminator :
    let reads : List Bytes := [[97, 98, 99, 13], [10, 13, 10, 100, 13, 10, 13, 10]]
    2 ≤ 3 ∧ (cut reads.flatten).1 = [[97, 98, 99], [100]] ∧
      ∃ served f, (Framer.start 3).serve reads = .ok (served, f) ∧
        served.flatMap (·.documents) = [[100]] := by
  intro reads
  have hcut : (cut reads.flatten).1 = [[97, 98, 99], [100]] := by decide +kernel
  obtain ⟨served, f, hserve, hdocuments, hiff⟩ := serve_withholds_iff (by decide : 2 ≤ 3) reads
  rw [hcut] at hdocuments hiff
  have hfirst : 0 ∈ overgrown 3 reads := by
    refine (hiff 0 [97, 98, 99] rfl (by decide)).mpr ⟨[[97, 98, 99, 13]], 1, ?_, ?_, ?_, ?_⟩
    · decide
    · decide
    · decide
    · decide
  have hsecond : 1 ∉ overgrown 3 reads := by
    intro hin
    obtain ⟨taken, k, hpre, hk, hover, htaken⟩ := (hiff 1 [100] rfl (by decide)).mp hin
    rw [List.length_singleton] at hover
    have hends : ∀ t ∈ reads.inits, ∀ j ≤ 3, 3 < 1 + j →
        t.flatten ≠ terminated [[97, 98, 99]] ++ [100] ++ terminator.take j := by
      decide +kernel
    exact hends taken ((List.mem_inits _ _).mpr hpre) k hk hover htaken
  refine ⟨by decide, hcut, served, f, hserve, hdocuments.trans ?_⟩
  simp [kept, hfirst, hsecond]

end Framing
end PadRelay
