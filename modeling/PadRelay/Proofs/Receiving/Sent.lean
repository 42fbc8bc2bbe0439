import PadRelay.Proofs.Pad.Documents
import PadRelay.Proofs.Receiving.Stream

/-!
# PadRelay.Proofs.Receiving.Sent

What was sent is what is received.

* `sentStream`: updates as a sender writes them, with line ends between their documents.
* `cut_crlf`: line ends are cut off in pairs, an odd one stays with what follows.
* `cut_sentStream`: the pieces of such a stream.
* `run_sentStream`: a run over it, however it is cut into reads.
-/

namespace PadRelay

open Framing
open Pad (Update json)

def crlf : Nat → Bytes
  | 0 => []
  | k + 1 => 13 :: 10 :: crlf k

/-- Updates on the wire: some line ends, then documents, each with a terminator and some more line
ends behind it. -/
def sentStream (k : Nat) (sent : List (Update × Nat)) : Bytes :=
  crlf k ++ sent.flatMap fun x => json x.1 ++ terminator ++ crlf x.2

def sentPieces : Nat → List (Update × Nat) → List Bytes
  | k, [] => List.replicate (k / 2) []
  | k, (u, j) :: sent =>
    List.replicate (k / 2) [] ++ (crlf (k % 2) ++ json u) :: sentPieces j sent

theorem cut_crlf (k : Nat) (s : Bytes) :
    cut (crlf k ++ s) =
      (List.replicate (k / 2) [] ++ (cut (crlf (k % 2) ++ s)).1, (cut (crlf (k % 2) ++ s)).2) := by
  induction k using Nat.twoStepInduction with
  | zero => rfl
  | one => rfl
  | more k ih _ =>
    have hpair : crlf (k + 2) ++ s = [] ++ terminator ++ (crlf k ++ s) := rfl
    have hdiv : (k + 2) / 2 = k / 2 + 1 := by omega
    have hmod : (k + 2) % 2 = k % 2 := by omega
    rw [hpair, cut_piece (by decide), ih, hdiv, hmod, List.replicate_succ, List.cons_append]

/-- Bytes without control characters hold no terminator, also with most of one behind them. -/
theorem free_of_printable {s : Bytes} (h : ∀ b ∈ s, 32 ≤ b.toNat) :
    ¬ terminator <:+: s ++ [13, 10, 13] := by
  intro hin
  have hnone : s.count 10 = 0 := List.count_eq_zero.mpr fun hmem => absurd (h 10 hmem) (by decide)
  have hcount := hin.sublist.count_le 10
  rw [List.count_append, hnone] at hcount
  exact absurd hcount (by decide)

theorem free_of_json (k : Nat) (u : Update) :
    ¬ terminator <:+: crlf (k % 2) ++ json u ++ [13, 10, 13] := by
  have hfree := free_of_printable (Pad.le_of_mem_json u)
  rcases Nat.mod_two_eq_zero_or_one k with h | h
  · rw [h]
    exact hfree
  · obtain ⟨bs, hbs⟩ := Pad.json_eq_cons u
    rw [hbs] at hfree
    rw [h, hbs]
    show ¬ terminator <:+: 13 :: 10 :: Json.byte '\x7b' :: (bs ++ [13, 10, 13])
    rw [List.infix_cons_iff, List.infix_cons_iff]
    -- the bracket behind the line end breaks a terminator that starts with it
    rintro (hpre | hpre | hin)
    · obtain ⟨-, hpre⟩ := List.cons_prefix_cons.mp hpre
      obtain ⟨-, hpre⟩ := List.cons_prefix_cons.mp hpre
      exact absurd (List.cons_prefix_cons.mp hpre).1 (by decide)
    · exact absurd (List.cons_prefix_cons.mp hpre).1 (by decide)
    · exact hfree hin

theorem cut_sentStream (k : Nat) (sent : List (Update × Nat)) :
    (cut (sentStream k sent)).1 = sentPieces k sent ∧ (cut (sentStream k sent)).2.length ≤ 2 := by
  induction sent generalizing k with
  | nil =>
    have hfree : ∀ j < 2, ¬ terminator <:+: crlf j := by decide
    have hlen : ∀ j < 2, (crlf j).length ≤ 2 := by decide
    have hlt : k % 2 < 2 := Nat.mod_lt k (by decide)
    rw [sentStream, List.flatMap_nil, cut_crlf, List.append_nil, cut_of_free (hfree _ hlt),
      List.append_nil]
    exact ⟨rfl, hlen _ hlt⟩
  | cons x sent ih =>
    obtain ⟨u, j⟩ := x
    have hstream : crlf (k % 2) ++ List.flatMap (fun x => json x.1 ++ terminator ++ crlf x.2)
        ((u, j) :: sent) = (crlf (k % 2) ++ json u) ++ terminator ++ sentStream j sent := by
      simp only [sentStream, List.flatMap_cons, List.append_assoc]
    obtain ⟨hpieces, hlen⟩ := ih j
    rw [sentStream, cut_crlf, hstream, cut_piece (free_of_json k u)]
    exact ⟨by rw [hpieces, sentPieces], hlen⟩

theorem dispatch_json (k : Nat) (u : Update) :
    dispatch (crlf (k % 2) ++ json u) = some (.update u) := by
  have hblank : ∀ b ∈ crlf (k % 2), Json.isBlank b = true := by
    have hall : ∀ j < 2, ∀ b ∈ crlf j, Json.isBlank b = true := by decide +kernel
    exact hall _ (Nat.mod_lt k (by decide))
  have hsolid : (crlf (k % 2) ++ json u).all isAsciiBlank = false := by
    obtain ⟨bs, hbs⟩ := Pad.json_eq_cons u
    rw [hbs, List.all_append, List.all_cons]
    have hbracket : isAsciiBlank (Json.byte '\x7b') = false := by decide
    rw [hbracket, Bool.false_and, Bool.and_false]
  rw [dispatch, hsolid, Pad.decode_json hblank u]
  rfl

theorem filterMap_dispatch_sentPieces (k : Nat) (sent : List (Update × Nat)) :
    (sentPieces k sent).filterMap dispatch = sent.map fun x => .update x.1 := by
  have hempty : ∀ n, (List.replicate n ([] : Bytes)).filterMap dispatch = [] := by
    intro n
    rw [List.filterMap_eq_nil_iff]
    intro piece hpiece
    rw [List.eq_of_mem_replicate hpiece]
    rfl
  induction sent generalizing k with
  | nil => exact hempty _
  | cons x sent ih =>
    obtain ⟨u, j⟩ := x
    rw [sentPieces, List.filterMap_append, hempty, List.nil_append,
      List.filterMap_cons_some (dispatch_json k u), ih, List.map_cons]

variable {maxDocument : Nat}

theorem length_le_of_mem_sentPieces {k : Nat} {sent : List (Update × Nat)}
    (hmax : 3 ≤ maxDocument) (hsize : ∀ x ∈ sent, (json x.1).length + 5 ≤ maxDocument) :
    ∀ piece ∈ sentPieces k sent, piece.length + 3 ≤ maxDocument := by
  have hlen : ∀ j < 2, (crlf j).length ≤ 2 := by decide
  induction sent generalizing k with
  | nil =>
    intro piece hpiece
    rw [List.eq_of_mem_replicate hpiece]
    exact hmax
  | cons x sent ih =>
    obtain ⟨u, j⟩ := x
    obtain ⟨hu, hmore⟩ := List.forall_mem_cons.mp hsize
    change (json u).length + 5 ≤ maxDocument at hu
    intro piece hpiece
    rw [sentPieces, List.mem_append, List.mem_cons] at hpiece
    rcases hpiece with hpiece | rfl | hpiece
    · rw [List.eq_of_mem_replicate hpiece]
      exact hmax
    · have := hlen (k % 2) (Nat.mod_lt k (by decide))
      rw [List.length_append]
      omega
    · exact ih hmore piece hpiece

theorem keepsAll_of_sentStream {k : Nat} {sent : List (Update × Nat)} (hmax : 3 ≤ maxDocument)
    (hsize : ∀ x ∈ sent, (json x.1).length + 5 ≤ maxDocument) {reads : List Bytes}
    (hreads : reads.flatten = sentStream k sent) : (Receiver.start maxDocument).KeepsAll reads := by
  rw [Receiver.start_eq_waiting, Receiver.keepsAll_iff (by decide)]
  rintro t ⟨more, rfl⟩ -
  have hpre : t.flatten <+: sentStream k sent := by
    rw [← hreads, List.flatten_append]
    exact List.prefix_append _ _
  obtain ⟨hpieces, hlen⟩ := cut_sentStream k sent
  rw [List.nil_append]
  rcases remainder_le_of_prefix hpre with ⟨piece, hpiece, hle⟩ | hle
  · rw [hpieces] at hpiece
    exact Nat.le_trans hle (length_le_of_mem_sentPieces hmax hsize piece hpiece)
  · omega

/-- What a handler itself shows of its work on updates. -/
def Handler.work {σ : Type} (handle : Handler σ) (state : σ) : List Update → List Observation
  | [] => []
  | u :: us => (handle state u).1 ++ Handler.work handle (handle state u).2 us

section Observing

variable {σ : Type} (handle : Handler σ) (state : σ)

theorem observe_update_cons (u : Update) (rest : List Occurrence) :
    observe handle state (.update u :: rest) =
      .counted .updatesReceived :: .began u.machine :: ((handle state u).1 ++
        .finished :: observe handle (handle state u).2 rest) := rfl

theorem logged_observe_update (u : Update) (rest : List Occurrence) :
    (observe handle state (.update u :: rest)).filterMap Observation.logged? =
      (handle state u).1.filterMap Observation.logged? ++
        (observe handle (handle state u).2 rest).filterMap Observation.logged? := by
  rw [observe_update_cons, List.filterMap_cons_none rfl, List.filterMap_cons_none rfl,
    List.filterMap_append, List.filterMap_cons_none rfl]

theorem countOf_observe_update (c : Counter) (u : Update) (rest : List Occurrence) :
    countOf c (observe handle state (.update u :: rest)) =
      (if Counter.updatesReceived = c then 1 else 0) + countOf c (handle state u).1 +
        countOf c (observe handle (handle state u).2 rest) := by
  have hcounted : (observe handle state (.update u :: rest)).filterMap Observation.counted? =
      .updatesReceived :: ((handle state u).1.filterMap Observation.counted? ++
        (observe handle (handle state u).2 rest).filterMap Observation.counted?) := by
    rw [observe_update_cons,
      List.filterMap_cons_some (f := Observation.counted?) (b := Counter.updatesReceived) rfl,
      List.filterMap_cons_none rfl, List.filterMap_append, List.filterMap_cons_none rfl]
  rw [countOf, hcounted, List.count_cons, List.count_append]
  simp only [countOf, beq_iff_eq]
  omega

/-- Of the updates that a handler is given nothing is logged and only their receipt is counted,
besides what the handler itself logs and counts. -/
theorem observe_updates (us : List Update) :
    let seen := observe handle state (us.map .update)
    let work := handle.work state us
    seen.filterMap Observation.logged? = work.filterMap Observation.logged? ∧
      countOf .updatesReceived seen = us.length + countOf .updatesReceived work ∧
      countOf .documentsRejected seen = countOf .documentsRejected work := by
  induction us generalizing state with
  | nil => exact ⟨rfl, rfl, rfl⟩
  | cons u us ih =>
    obtain ⟨hlogged, hreceived, hrejected⟩ := ih (handle state u).2
    have hwork : ∀ c, countOf c (handle.work state (u :: us)) =
        countOf c (handle state u).1 + countOf c (handle.work (handle state u).2 us) := by
      intro c
      rw [Handler.work, countOf_append]
    rw [List.map_cons]
    refine ⟨?_, ?_, ?_⟩
    · rw [logged_observe_update, hlogged, Handler.work, List.filterMap_append]
    · rw [countOf_observe_update, hreceived, hwork, if_pos rfl, List.length_cons]
      omega
    · rw [countOf_observe_update, hrejected, hwork, if_neg (by decide), Nat.zero_add]

end Observing

/-- **What was sent is what is received.** However the stream of some updates is cut into reads,
a run over it hands out exactly these updates, in order, and ends when the stream does. Nothing is
logged and no document is rejected, besides what the handler does itself. -/
theorem run_sentStream (hmax : 3 ≤ maxDocument) (k : Nat) (sent : List (Update × Nat))
    (hsize : ∀ x ∈ sent, (json x.1).length + 5 ≤ maxDocument) (reads : List Bytes)
    (hreads : reads.flatten = sentStream k sent) :
    let run := (Receiver.start maxDocument).run (reads.map .received ++ [.closed])
    let updates := sent.map (·.1)
    run.1 = updates.map .update ∧ (∃ pending, run.2 = some (.disconnected pending)) ∧
      ∀ (σ : Type) (handle : Handler σ) (state : σ),
        let seen := observe handle state run.1
        let work := handle.work state updates
        seen.filterMap Observation.logged? = work.filterMap Observation.logged? ∧
          countOf .updatesReceived seen = updates.length + countOf .updatesReceived work ∧
          countOf .documentsRejected seen = countOf .documentsRejected work := by
  intro run updates
  have hk := keepsAll_of_sentStream hmax hsize hreads
  have hrun : run = _ := Receiver.run_start hk .endOfStream []
  have hoccurred : run.1 = updates.map .update := by
    obtain ⟨hpieces, -⟩ := cut_sentStream k sent
    rw [hrun, hreads, hpieces, filterMap_dispatch_sentPieces, List.map_map]
    rfl
  refine ⟨hoccurred, ⟨_, by rw [hrun]; rfl⟩, fun σ handle state => ?_⟩
  rw [hoccurred]
  exact observe_updates handle state updates

/-- A text that holds a terminator itself, odd line ends, and reads that end within terminators. -/
theorem run_sentStream_of_line_ends :
    let u : Update := { Update.blank with mode := some "\r\n\r\n\"é" }
    let sent := [(u, 1), (Update.blank, 2)]
    let stream := sentStream 3 sent
    let reads := [stream.take 3, (stream.drop 3).take 174, (stream.drop 3).drop 174]
    3 ≤ 174 ∧ (∀ x ∈ sent, (json x.1).length + 5 ≤ 174) ∧ reads.flatten = stream ∧
      ((Receiver.start 174).run (reads.map .received ++ [.closed])).1 =
        [.update u, .update Update.blank] := by
  intro u sent stream reads
  have hsize : ∀ x ∈ sent, (json x.1).length + 5 ≤ 174 := by decide +kernel
  have hreads : reads.flatten = stream := by
    simp only [reads, List.flatten_cons, List.flatten_nil, List.append_nil, List.take_append_drop]
  obtain ⟨hrun, -, -⟩ := run_sentStream (by decide) 3 sent hsize reads hreads
  exact ⟨by decide, hsize, hreads, hrun⟩

end PadRelay
