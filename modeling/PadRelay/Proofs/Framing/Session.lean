import PadRelay.Proofs.Framing.Drain

/-!
# PadRelay.Proofs.Framing.Session

A framer in use: bytes pushed, documents asked for and oversized ones discarded, in any order.

* `Session`: the framer with all bytes pushed, all documents returned, and the numbers of the
  pieces that were waiting for their terminator when a discard dropped bytes of them.
* `Session.Faithful`: the invariant. What was returned and what is due are the pieces of the
  pushed bytes without those that were hit; the framer passes over the piece in its buffer
  exactly if that piece was hit.
* `Session.faithful_step`, `Session.faithful_run`: every operation keeps it, hence every run.
* `returned_append_drain`: the pieces are returned byte for byte, in order, those that were hit
  left out.

A discard is only asked for while no terminator is complete in the buffer (`Session.Admits`).
-/

namespace PadRelay
namespace Framing

inductive Operation where
  | push (bytes : Bytes)
  | next
  | discard
  deriving DecidableEq, Repr

structure Session where
  framer : Framer
  pushed : Bytes
  returned : List Bytes
  /-- For each discard that dropped bytes, how many pieces were terminated before the one they
  were of. -/
  hits : List Nat
  deriving DecidableEq, Repr

/-- The pieces whose numbers are not among the hits. -/
def kept (hits : List Nat) (pieces : List Bytes) : List Bytes :=
  (pieces.zipIdx.filter fun x => x.2 ∉ hits).map (·.1)

def Operation.bytes : Operation → Bytes
  | .push bytes => bytes
  | .next | .discard => []

namespace Session

def start (maxDocument : Nat) : Session := ⟨Framer.start maxDocument, [], [], []⟩

def step (s : Session) : Operation → Except Framer.Fault Session
  | .push bytes => .ok { s with framer := s.framer.push bytes, pushed := s.pushed ++ bytes }
  | .next =>
    .ok { s with framer := s.framer.next.2, returned := s.returned ++ s.framer.next.1.toList }
  | .discard =>
    match s.framer.discard with
    | .error fault => .error fault
    | .ok (none, f) => .ok { s with framer := f }
    | .ok (some _, f) => .ok { s with framer := f, hits := s.hits ++ [(cut s.pushed).1.length] }

def run (s : Session) : List Operation → Except Framer.Fault Session
  | [] => .ok s
  | op :: ops =>
    match s.step op with
    | .error fault => .error fault
    | .ok t => t.run ops

/-- Whether an operation may be asked for: a discard only while no terminator is complete. -/
def Admits (s : Session) : Operation → Prop
  | .discard => ¬ terminator <:+: s.framer.buffer.toList
  | .push _ | .next => True

/-- Whether every operation may be asked for when its turn comes. -/
def Disciplined (s : Session) : List Operation → Prop
  | [] => True
  | op :: ops =>
    s.Admits op ∧
      match s.step op with
      | .error _ => True
      | .ok t => t.Disciplined ops

instance (s : Session) : (op : Operation) → Decidable (s.Admits op)
  | .discard => inferInstanceAs (Decidable (¬ terminator <:+: s.framer.buffer.toList))
  | .push _ | .next => inferInstanceAs (Decidable True)

instance decidableDisciplined (s : Session) : (ops : List Operation) → Decidable (s.Disciplined ops)
  | [] => inferInstanceAs (Decidable True)
  | op :: ops =>
    match h : s.step op with
    | .error _ => decidable_of_iff (s.Admits op) (by simp [Disciplined, h])
    | .ok t =>
      have := decidableDisciplined t ops
      decidable_of_iff (s.Admits op ∧ t.Disciplined ops) (by simp [Disciplined, h])

end Session

/-! ## Pieces that were hit -/

theorem filter_zipIdx_of_lt {hits : List Nat} {pieces : List Bytes} {n : Nat}
    (h : ∀ m ∈ hits, m < n) :
    ((pieces.zipIdx n).filter fun x => x.2 ∉ hits).map (·.1) = pieces := by
  have hall : ∀ x ∈ pieces.zipIdx n, decide (x.2 ∉ hits) = true := by
    rintro ⟨piece, i⟩ hx
    have hle := List.le_snd_of_mem_zipIdx hx
    exact decide_eq_true fun hi => absurd (h i hi) (Nat.not_lt.mpr hle)
  rw [List.filter_eq_self.mpr hall, List.zipIdx_map_fst]

/-- New pieces are kept, but for the first if it was hit while it was unfinished. -/
theorem kept_append {hits : List Nat} {pieces more : List Bytes}
    (h : ∀ n ∈ hits, n ≤ pieces.length) :
    kept hits (pieces ++ more) =
      kept hits pieces ++ if pieces.length ∈ hits then more.tail else more := by
  unfold kept
  rw [List.zipIdx_append, List.filter_append, List.map_append, Nat.zero_add]
  congr 1
  cases more with
  | nil => simp
  | cons piece more =>
    have htail : ((more.zipIdx (pieces.length + 1)).filter fun x => x.2 ∉ hits).map (·.1) = more :=
      filter_zipIdx_of_lt fun m hm => Nat.lt_succ_of_le (h m hm)
    by_cases hin : pieces.length ∈ hits
    · simp only [List.zipIdx_cons, hin, List.filter_cons, not_true, decide_false,
        Bool.false_eq_true, if_false, if_true, List.tail_cons]
      exact htail
    · simp only [List.zipIdx_cons, hin, List.filter_cons, not_false_eq_true, decide_true,
        if_true, if_false, List.map_cons]
      rw [htail]

theorem kept_append_length (hits : List Nat) (pieces : List Bytes) :
    kept (hits ++ [pieces.length]) pieces = kept hits pieces := by
  unfold kept
  congr 1
  apply List.filter_congr
  rintro ⟨piece, i⟩ hx
  have hne : i ≠ pieces.length := Nat.ne_of_lt (List.snd_lt_of_mem_zipIdx hx)
  simp [hne]

/-! ## The invariant -/

namespace Session

/-- What is returned and due is what was pushed, less the pieces that were hit. `front` is the
number of the piece at the front of the buffer. -/
structure Faithful (front : Nat) (s : Session) : Prop where
  two_le : 2 ≤ s.framer.maxDocument
  searched : s.framer.Searched
  returned : s.returned ++ s.framer.documents = kept s.hits (cut s.pushed).1
  front_add : front + (cut s.framer.buffer.toList).1.length = (cut s.pushed).1.length
  hits_le : ∀ n ∈ s.hits, n ≤ front
  discarding_iff : s.framer.discarding = true ↔ front ∈ s.hits
  /-- The buffer ends in the remainder; if that was hit, the buffer may be an end of it that is
  long enough for the start of a terminator. -/
  remainder : (cut s.framer.buffer.toList).2 = (cut s.pushed).2 ∨
    front ∈ s.hits ∧ (cut s.framer.buffer.toList).1 = [] ∧ 3 ≤ s.framer.buffer.toList.length ∧
      s.framer.buffer.toList <:+ (cut s.pushed).2

theorem faithful_start {maxDocument : Nat} (h : 2 ≤ maxDocument) :
    (start maxDocument).Faithful 0 := by
  have hcut : cut ([] : Bytes) = ([], []) := cut_of_free (by simp [terminator])
  refine ⟨h, Framer.searched_start _, ?_, ?_, ?_, ?_, ?_⟩ <;>
    simp [start, Framer.start, Framer.documents, hcut, kept]

variable {front : Nat} {s : Session}

theorem Faithful.length_mem_hits (h : s.Faithful front) (hin : (cut s.pushed).1.length ∈ s.hits) :
    front = (cut s.pushed).1.length ∧ (cut s.framer.buffer.toList).1 = [] := by
  have hle := h.hits_le _ hin
  have hadd := h.front_add
  exact ⟨by omega, List.eq_nil_of_length_eq_zero (by omega)⟩

theorem Faithful.hits_le_length (h : s.Faithful front) :
    ∀ n ∈ s.hits, n ≤ (cut s.pushed).1.length := fun n hn => by
  have hle := h.hits_le n hn
  have hadd := h.front_add
  omega

/-- The pieces that more bytes complete in the buffer are those that they complete in the stream,
but for the front of the first one if the remainder was hit. -/
theorem Faithful.cut_append (h : s.Faithful front) (x : Bytes) :
    (cut (s.framer.buffer.toList ++ x)).1.length =
        (cut s.framer.buffer.toList).1.length + (cut ((cut s.pushed).2 ++ x)).1.length ∧
      (if (cut s.pushed).1.length ∈ s.hits then
        (cut (s.framer.buffer.toList ++ x)).1.tail = (cut ((cut s.pushed).2 ++ x)).1.tail
      else (cut (s.framer.buffer.toList ++ x)).1 =
        (cut s.framer.buffer.toList).1 ++ (cut ((cut s.pushed).2 ++ x)).1) ∧
      ((cut (s.framer.buffer.toList ++ x)).2 = (cut ((cut s.pushed).2 ++ x)).2 ∨
        front ∈ s.hits ∧ (cut (s.framer.buffer.toList ++ x)).1 = [] ∧
          3 ≤ (s.framer.buffer.toList ++ x).length ∧
          s.framer.buffer.toList ++ x <:+ (cut ((cut s.pushed).2 ++ x)).2) := by
  rcases h.remainder with heq | ⟨hhit, hnil, hlen, a, ha⟩
  · have happ := Framing.cut_append s.framer.buffer.toList x
    rw [heq] at happ
    refine ⟨by rw [happ, List.length_append], ?_, .inl (by rw [happ])⟩
    split
    · next hin => rw [happ, (h.length_mem_hits hin).2, List.nil_append]
    · rw [happ]
  · have hfree : ¬ terminator <:+: a ++ s.framer.buffer.toList := by
      rw [ha]
      exact remainder_free s.pushed
    obtain ⟨htail, hlength, hrest⟩ := cut_overlap hfree hlen x
    rw [← List.append_assoc, ha] at htail hlength hrest
    have hfront : (cut s.pushed).1.length ∈ s.hits := by
      have hadd := h.front_add
      rw [hnil, List.length_nil, Nat.add_zero] at hadd
      rwa [← hadd]
    refine ⟨by rw [hnil, List.length_nil, Nat.zero_add, hlength], ?_, ?_⟩
    · rw [if_pos hfront]
      exact htail.symm
    · by_cases hmore : (cut (s.framer.buffer.toList ++ x)).1 = []
      · rw [if_pos hmore, cut_snd_of_fst_eq_nil hmore] at hrest
        refine .inr ⟨hhit, hmore, ?_, a, hrest.symm⟩
        rw [List.length_append]
        omega
      · rw [if_neg hmore] at hrest
        exact .inl hrest.symm

theorem Faithful.push (h : s.Faithful front) (x : Bytes) :
    ({ s with framer := s.framer.push x, pushed := s.pushed ++ x } : Session).Faithful front := by
  obtain ⟨hlength, hpieces, hremainder⟩ := h.cut_append x
  refine ⟨h.two_le, h.searched.push x, ?_, ?_, h.hits_le, h.discarding_iff, ?_⟩
  · rw [Framing.cut_append s.pushed x, kept_append h.hits_le_length, ← h.returned,
      List.append_assoc, Framer.documents_push]
    congr 1
    unfold Framer.documents
    by_cases hin : (cut s.pushed).1.length ∈ s.hits
    · obtain ⟨hfront, hnil⟩ := h.length_mem_hits hin
      have hdis : s.framer.discarding = true := h.discarding_iff.mpr (hfront ▸ hin)
      rw [if_pos hin] at hpieces
      simp only [hin, hdis, hnil, hpieces, if_true, List.tail_nil, List.nil_append]
    · rw [if_neg hin] at hpieces ⊢
      rw [hpieces]
      cases hd : s.framer.discarding with
      | false => simp
      | true =>
        -- the piece that is passed over is complete, as it is not the remainder
        have hne : (cut s.framer.buffer.toList).1 ≠ [] := by
          intro hnil
          have hadd := h.front_add
          rw [hnil, List.length_nil, Nat.add_zero] at hadd
          exact hin (hadd ▸ h.discarding_iff.mp hd)
        simp [List.tail_append_of_ne_nil hne]
  · have hadd := h.front_add
    rw [Framer.toList_push, hlength, Framing.cut_append s.pushed x, List.length_append]
    omega
  · rw [Framer.toList_push, Framing.cut_append s.pushed x]
    exact hremainder

/-- Without a document due, every piece that is complete in the buffer is passed over. -/
theorem Faithful.drained (h : s.Faithful front) (hd : s.framer.documents = []) :
    ({ s with framer := s.framer.drained } : Session).Faithful (cut s.pushed).1.length := by
  have hcut : cut s.framer.drained.buffer.toList = ([], (cut s.framer.buffer.toList).2) :=
    cut_of_free (remainder_free _)
  refine ⟨h.two_le, s.framer.searched_drained, ?_, by simp [hcut], h.hits_le_length, ?_, ?_⟩
  · have hret := h.returned
    rw [hd] at hret
    rw [Framer.documents, hcut, List.tail_nil, ite_self]
    exact hret
  · have hadd := h.front_add
    cases hp : (cut s.framer.buffer.toList).1 with
    | nil =>
      rw [hp, List.length_nil, Nat.add_zero] at hadd
      simpa [Framer.drained, hp, hadd] using h.discarding_iff
    | cons piece pieces =>
      have hout : (cut s.pushed).1.length ∉ s.hits := fun hin => by
        rw [(h.length_mem_hits hin).2] at hp
        cases hp
      simp [Framer.drained, hp, hout]
  · rw [hcut]
    rcases h.remainder with heq | ⟨hhit, hnil, hlen, hsuf⟩
    · exact .inl heq
    · have hadd := h.front_add
      rw [hnil, List.length_nil, Nat.add_zero] at hadd
      refine .inr ⟨hadd ▸ hhit, rfl, ?_⟩
      simpa [Framer.drained, cut_snd_of_fst_eq_nil hnil] using And.intro hlen hsuf

theorem Faithful.next (h : s.Faithful front) :
    ∃ front', ({ s with
      framer := s.framer.next.2
      returned := s.returned ++ s.framer.next.1.toList } : Session).Faithful front' := by
  cases hd : s.framer.documents with
  | nil =>
    refine ⟨(cut s.pushed).1.length, ?_⟩
    rw [h.searched.next_of_documents_nil hd, Option.toList_none, List.append_nil]
    exact h.drained hd
  | cons document documents =>
    obtain ⟨g, hn, hsearched, hdis, hdocs, hdrained⟩ := h.searched.next_of_documents_cons hd
    have hg : (cut g.buffer.toList).1 = documents := by
      simpa [Framer.documents, hdis] using hdocs
    have hrest : (cut g.buffer.toList).2 = (cut s.framer.buffer.toList).2 := by
      simpa [Framer.drained] using congrArg (·.buffer.toList) hdrained
    have hmax : g.maxDocument = s.framer.maxDocument := congrArg (·.maxDocument) hdrained
    obtain ⟨front', hlt, hadd⟩ : ∃ front', front < front' ∧
        front' + documents.length = (cut s.pushed).1.length := by
      have hadd := h.front_add
      refine ⟨(cut s.pushed).1.length - documents.length, ?_⟩
      have hlen := congrArg List.length hd
      simp only [Framer.documents, List.length_cons] at hlen
      split at hlen
      · rw [List.length_tail] at hlen
        omega
      · omega
    have hout : front' ∉ s.hits := fun hin => absurd (h.hits_le _ hin) (Nat.not_le.mpr hlt)
    refine ⟨front', ?_⟩
    rw [hn]
    refine ⟨hmax ▸ h.two_le, hsearched, ?_, by rw [hg]; exact hadd,
      fun n hn => Nat.le_of_lt (Nat.lt_of_le_of_lt (h.hits_le n hn) hlt), ?_, ?_⟩
    · rw [hdocs, ← h.returned, hd]
      simp
    · simp [hdis, hout]
    · rcases h.remainder with heq | ⟨_, hnil, _⟩
      · exact .inl (hrest.trans heq)
      · simp [Framer.documents, hnil] at hd

theorem Faithful.buffer_suffix (h : s.Faithful front)
    (hfree : ¬ terminator <:+: s.framer.buffer.toList) :
    s.framer.buffer.toList <:+ (cut s.pushed).2 := by
  rcases h.remainder with heq | ⟨_, _, _, hsuf⟩
  · rw [← heq, cut_of_free hfree]
  · exact hsuf

/-- What a discard leaves of a buffer without a terminator begins no document. -/
theorem Faithful.discard (h : s.Faithful front)
    (hfree : ¬ terminator <:+: s.framer.buffer.toList) :
    ∃ t, s.step .discard = .ok t ∧ ∃ front', t.Faithful front' := by
  have htwo := h.two_le
  by_cases hsize : s.framer.buffer.size ≤ s.framer.maxDocument
  · exact ⟨s, by simp only [step, Framer.discard_of_le hsize], front, h⟩
  · have hdrop := Framer.discard_of_lt htwo (Nat.not_le.mp hsize)
    have hnil := cut_fst_eq_nil_iff.mpr hfree
    have hadd := h.front_add
    rw [hnil, List.length_nil, Nat.add_zero] at hadd
    have hkeep : s.framer.shed.buffer.toList =
        s.framer.buffer.toList.drop (s.framer.buffer.size - 3) := rfl
    have hsuf : s.framer.shed.buffer.toList <:+ s.framer.buffer.toList := List.drop_suffix _ _
    have hcut := cut_of_free fun hin => hfree (hin.trans hsuf.isInfix)
    refine ⟨_, by simp only [step, hdrop]; rfl, (cut s.pushed).1.length, ?_⟩
    refine ⟨h.two_le, Framer.searched_of_scanned_eq_zero rfl, ?_, ?_, ?_, ?_, ?_⟩
    · have hret := h.returned
      rw [Framer.documents, hnil, List.tail_nil, ite_self] at hret
      rw [kept_append_length, Framer.documents, hcut]
      exact hret
    · rw [hcut]
      rfl
    · intro n hn
      rcases List.mem_append.mp hn with hn | hn
      · exact h.hits_le_length n hn
      · exact Nat.le_of_eq (List.mem_singleton.mp hn)
    · exact iff_of_true rfl (List.mem_append_right _ List.mem_cons_self)
    · rw [hcut]
      refine .inr ⟨by simp, rfl, ?_, hsuf.trans (h.buffer_suffix hfree)⟩
      rw [hkeep, List.length_drop, Array.length_toList]
      omega

theorem faithful_step {op : Operation} (h : s.Faithful front) (ha : s.Admits op) :
    ∃ t, s.step op = .ok t ∧ ∃ front', t.Faithful front' := by
  cases op with
  | push bytes => exact ⟨_, rfl, front, h.push bytes⟩
  | next => exact ⟨_, rfl, h.next⟩
  | discard => exact h.discard ha

theorem faithful_run {ops : List Operation} (h : s.Faithful front) (hd : s.Disciplined ops) :
    ∃ t, s.run ops = .ok t ∧ ∃ front', t.Faithful front' := by
  induction ops generalizing s front with
  | nil => exact ⟨s, rfl, front, h⟩
  | cons op ops ih =>
    obtain ⟨ha, hrest⟩ := hd
    obtain ⟨t, ht, front', hf⟩ := faithful_step h ha
    rw [ht] at hrest
    simp only [run, ht]
    exact ih hf hrest

theorem pushed_step {s t : Session} {op : Operation} (h : s.step op = .ok t) :
    t.pushed = s.pushed ++ op.bytes := by
  cases op with
  | push bytes => cases h; rfl
  | next => cases h; simp [Operation.bytes]
  | discard =>
    simp only [step] at h
    split at h <;> cases h <;> simp [Operation.bytes]

theorem pushed_run {s t : Session} {ops : List Operation} (h : s.run ops = .ok t) :
    t.pushed = s.pushed ++ ops.flatMap Operation.bytes := by
  induction ops generalizing s with
  | nil => cases h; simp
  | cons op ops ih =>
    simp only [run] at h
    split at h
    · cases h
    · next u hu => rw [ih h, pushed_step hu, List.flatMap_cons, List.append_assoc]

end Session

/-- **A framer returns the pieces of what is pushed, byte for byte and in order.** However pushes,
requests and discards alternate, a session succeeds, and the documents returned with those that a
full drain would give are the terminated pieces, save the pieces of which a discard dropped bytes
while they waited for their terminator. What is left is the remainder, or an end of it if a
discard hit it. -/
theorem returned_append_drain {maxDocument : Nat} (hmax : 2 ≤ maxDocument) {ops : List Operation}
    (hd : (Session.start maxDocument).Disciplined ops) :
    ∃ s, (Session.start maxDocument).run ops = .ok s ∧
      s.returned ++ s.framer.drain.1 = kept s.hits (cut (ops.flatMap Operation.bytes)).1 ∧
      s.framer.drain.2.buffer.toList <:+ (cut (ops.flatMap Operation.bytes)).2 ∧
      ((cut (ops.flatMap Operation.bytes)).1.length ∉ s.hits →
        s.framer.drain.2.buffer.toList = (cut (ops.flatMap Operation.bytes)).2) := by
  obtain ⟨s, hrun, front, h⟩ := Session.faithful_run (Session.faithful_start hmax) hd
  have hpushed : ops.flatMap Operation.bytes = s.pushed := by
    rw [Session.pushed_run hrun]
    rfl
  rw [hpushed]
  refine ⟨s, hrun, ?_⟩
  rw [h.searched.drain_eq]
  refine ⟨h.returned, ?_, fun hout => ?_⟩
  · simp only [Framer.drained]
    rcases h.remainder with heq | ⟨_, hnil, _, hsuf⟩
    · rw [heq]
    · rwa [cut_snd_of_fst_eq_nil hnil]
  · simp only [Framer.drained]
    rcases h.remainder with heq | ⟨hhit, hnil, _⟩
    · rw [heq]
    · have hadd := h.front_add
      rw [hnil, List.length_nil, Nat.add_zero] at hadd
      exact absurd (hadd ▸ hhit) hout

/-- Discards hit the first piece twice while its terminator comes in parts; the second piece is
returned whole. -/
theorem returned_append_drain_of_hits :
    let ops : List Operation := [.push [1, 2, 3, 13], .discard, .push [10], .next, .discard,
      .push [13, 10, 4, 13, 10, 13, 10]]
    2 ≤ 2 ∧ (Session.start 2).Disciplined ops ∧
      ∃ s, (Session.start 2).run ops = .ok s ∧ s.hits = [0, 0] ∧
        (cut (ops.flatMap Operation.bytes)).1 = [[1, 2, 3], [4]] ∧
        s.returned ++ s.framer.drain.1 = [[4]] := by
  intro ops
  have hd : (Session.start 2).Disciplined ops := by decide +kernel
  obtain ⟨s, hrun, hret, _⟩ := returned_append_drain (Nat.le_refl 2) hd
  have hhits : ((Session.start 2).run ops).toOption.map (·.hits) = some [0, 0] := by
    decide +kernel
  have hcut : (cut (ops.flatMap Operation.bytes)).1 = [[1, 2, 3], [4]] := by decide +kernel
  rw [hrun, Except.toOption, Option.map_some, Option.some.injEq] at hhits
  rw [hcut, hhits] at hret
  exact ⟨Nat.le_refl 2, hd, s, hrun, hhits, hcut, hret⟩

end Framing
end PadRelay
