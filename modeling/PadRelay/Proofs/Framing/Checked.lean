import PadRelay.Proofs.Framing.Limit

/-!
# PadRelay.Proofs.Framing.Checked

A framer that stops at an access out of range, and how it agrees with the framer that runs.

* `Panic`: an access out of range. `Checked.bytesFrom`, `Checked.cutAt`, `Checked.minus`: the
  accesses of a framer, each with its check.
* `Checked.take_eq`, `Checked.next_eq`: a search stays in range if the place where it goes on does.
* `Checked.discard_eq`: a discard does unless there are fewer bytes than it must keep.
* `Checked.Sound`: the invariant, by which the bytes that were searched lie in the buffer. Every
  operation keeps it (`Checked.Sound.perform`), hence every run.
* `Checked.Sound.drain_eq`: taking all complete documents stays in range.
* `Checked.Sound.perform_eq_error_iff`: which operation stops, and why.
* `Checked.Sound.exists_run`: with a limit of two bytes or more, none does.
-/

namespace PadRelay
namespace Framing

/-- An access out of range. -/
inductive Panic where
  /-- A slice starts behind the end of the buffer. -/
  | slice
  /-- More bytes are taken off the front than there are. -/
  | drain
  /-- A difference is below zero. -/
  | subtraction
  deriving DecidableEq, Repr

namespace Checked

open Framer (findTerminator isTerminatorAt overlap terminatorLength)

/-! ## Accesses -/

/-- The bytes from a place on. -/
def bytesFrom (buffer : Array UInt8) (start : Nat) : Except Panic (Array UInt8) :=
  if start ≤ buffer.size then .ok (buffer.extract start buffer.size) else .error .slice

/-- The bytes up to a place, and those from there on. -/
def cutAt (buffer : Array UInt8) (stop : Nat) : Except Panic (Array UInt8 × Array UInt8) :=
  if stop ≤ buffer.size then .ok (buffer.extract 0 stop, buffer.extract stop buffer.size)
  else .error .drain

/-- A difference of sizes. One below zero stops, or is a word of 64 bits where these wrap. -/
def minus (wraps : Bool) (m n : Nat) : Except Panic Nat :=
  if n ≤ m then .ok (m - n) else if wraps then .ok (2 ^ 64 + m - n) else .error .subtraction

/-! ## Operations -/

/-- Takes the bytes up to the next terminator. Only the bytes from the place on where the last
search ended, less those of a terminator cut there, are searched. -/
def take (f : Framer) : Except Panic (Option Bytes × Framer) := do
  let start := f.scanned - overlap
  let searched ← bytesFrom f.buffer start
  match findTerminator searched 0 with
  | none => return (none, { f with scanned := f.buffer.size })
  | some offset =>
    let pos := start + offset
    let (front, rest) ← cutAt f.buffer (pos + terminatorLength)
    return (some (front.toList.take pos), { f with buffer := rest, scanned := 0 })

def next (f : Framer) : Except Panic (Option Bytes × Framer) := do
  match ← take f with
  | (none, g) => return (none, g)
  | (some document, g) =>
    if g.discarding then take { g with discarding := false } else return (some document, g)

/-- Drops an unfinished document that has outgrown the limit. -/
def discard (wraps : Bool) (f : Framer) : Except Panic (Option Nat × Framer) := do
  if f.buffer.size ≤ f.maxDocument then return (none, f)
  else
    let dropped ← minus wraps f.buffer.size overlap
    let (_, rest) ← cutAt f.buffer dropped
    return (some dropped, { f with buffer := rest, scanned := 0, discarding := true })

def perform (wraps : Bool) (f : Framer) : Operation → Except Panic Framer
  | .push bytes => .ok (f.push bytes)
  | .next => (next f).map (·.2)
  | .discard => (discard wraps f).map (·.2)

def run (wraps : Bool) (f : Framer) : List Operation → Except Panic Framer
  | [] => .ok f
  | op :: ops => do run wraps (← perform wraps f op) ops

/-! ## Searches -/

variable {f g : Framer}

theorem isTerminatorAt_extract {buffer : Array UInt8} (start i : Nat) :
    isTerminatorAt (buffer.extract start buffer.size) i = isTerminatorAt buffer (start + i) := by
  rw [Bool.eq_iff_iff, Framer.isTerminatorAt_iff, Framer.isTerminatorAt_iff,
    Framer.toList_extract_size, List.drop_drop]

/-- A search of the bytes from a place on finds what a search from that place finds. -/
theorem findTerminator_extract {buffer : Array UInt8} {start i : Nat} (h : start ≤ buffer.size) :
    (findTerminator (buffer.extract start buffer.size) i).map (start + ·) =
      findTerminator buffer (start + i) := by
  have hsize : (buffer.extract start buffer.size).size = buffer.size - start := by simp
  fun_induction findTerminator (buffer.extract start buffer.size) i with
  | case1 i hi hat =>
    rw [isTerminatorAt_extract] at hat
    rw [findTerminator, if_pos (by omega), if_pos hat, Option.map_some]
  | case2 i hi hat ih =>
    rw [isTerminatorAt_extract] at hat
    rw [ih, findTerminator.eq_1 buffer (start + i), if_pos (by omega), if_neg hat, Nat.add_assoc]
  | case3 i hi => rw [findTerminator, if_neg (by omega), Option.map_none]

theorem take_eq (f : Framer) :
    take f = if f.scanned - overlap ≤ f.buffer.size then .ok f.take else .error .slice := by
  unfold take bytesFrom
  by_cases hstart : f.scanned - overlap ≤ f.buffer.size
  · have hfind := findTerminator_extract (i := 0) hstart
    rw [Nat.add_zero] at hfind
    simp only [Framer.take, if_pos hstart, bind, Except.bind, pure, Except.pure, ← hfind]
    cases hs : findTerminator (f.buffer.extract (f.scanned - overlap) f.buffer.size) 0 with
    | none => rfl
    | some offset =>
      rw [hs, Option.map_some] at hfind
      have hstop := Framer.findTerminator_le hfind.symm
      simp [cutAt, hstop, List.extract_eq_take_drop, List.take_take]
  · simp only [if_neg hstart, bind, Except.bind]

/-- A search that finds something has the next one start over. -/
theorem scanned_of_take {document : Bytes} (h : f.take = (some document, g)) : g.scanned = 0 := by
  unfold Framer.take at h
  split at h
  · cases h
  · cases h; rfl

theorem next_eq (f : Framer) :
    next f = if f.scanned - overlap ≤ f.buffer.size then .ok f.next else .error .slice := by
  unfold next Framer.next
  rw [take_eq]
  by_cases hstart : f.scanned - overlap ≤ f.buffer.size
  · rw [if_pos hstart, if_pos hstart]
    simp only [bind, Except.bind, pure, Except.pure]
    cases ht : f.take with
    | mk found g =>
      cases found with
      | none => rfl
      | some document =>
        have hzero : g.scanned - overlap ≤ g.buffer.size := by
          rw [scanned_of_take ht, Nat.zero_sub]
          exact Nat.zero_le _
        have hagain : take { g with discarding := false } =
            .ok { g with discarding := false }.take := by
          rw [take_eq]
          exact if_pos hzero
        simp only [hagain]
        split <;> rfl
  · rw [if_neg hstart, if_neg hstart]
    rfl

theorem size_next_lt {document : Bytes} (h : next f = .ok (some document, g)) :
    g.buffer.size < f.buffer.size := by
  rw [next_eq] at h
  split at h
  · exact Framer.size_next_lt (Except.ok.inj h)
  · cases h

def drainFrom (done : List Bytes) (f : Framer) : Except Panic (List Bytes × Framer) :=
  match _h : next f with
  | .error p => .error p
  | .ok (none, g) => .ok (done.reverse, g)
  | .ok (some document, g) => drainFrom (document :: done) g
termination_by f.buffer.size
decreasing_by exact size_next_lt _h

def drain (f : Framer) : Except Panic (List Bytes × Framer) := drainFrom [] f

/-! ## Drops -/

/-- Where a discard stops that finds fewer bytes than it must keep. A difference that wraps is more
than can be taken off. -/
def shortfall (wraps : Bool) : Panic := if wraps then .drain else .subtraction

theorem discard_eq (wraps : Bool) (f : Framer) :
    discard wraps f = f.discard.mapError fun _ => shortfall wraps := by
  unfold discard Framer.discard
  by_cases hsize : f.buffer.size ≤ f.maxDocument
  · simp [hsize, Except.mapError, pure, Except.pure]
  · by_cases hkeep : overlap ≤ f.buffer.size
    · have hfew : ¬ f.buffer.size < overlap := Nat.not_lt.mpr hkeep
      simp [hsize, hkeep, hfew, minus, cutAt, Except.mapError, bind, Except.bind, pure, Except.pure]
    · have hfew : f.buffer.size < overlap := Nat.not_le.mp hkeep
      have hover : ¬ 2 ^ 64 + f.buffer.size - overlap ≤ f.buffer.size := by
        simp only [overlap, terminatorLength]
        omega
      cases wraps with
      | false => simp [hsize, hkeep, hfew, minus, shortfall, Except.mapError, bind, Except.bind]
      | true =>
        simp only [Nat.reducePow] at hover
        simp [hsize, hkeep, hfew, hover, minus, cutAt, shortfall, Except.mapError, bind,
          Except.bind]

/-! ## The invariant -/

/-- What holds of every framer that some operations leave. -/
structure Sound (maxDocument : Nat) (f : Framer) : Prop where
  searched : f.Searched
  limit : f.maxDocument = maxDocument

variable {maxDocument : Nat} {wraps : Bool}

theorem sound_start (maxDocument : Nat) : Sound maxDocument (Framer.start maxDocument) :=
  ⟨Framer.searched_start _, rfl⟩

theorem Sound.next_eq (h : Sound maxDocument f) : Checked.next f = .ok f.next := by
  rw [Checked.next_eq, if_pos (Nat.le_trans (Nat.sub_le _ _) h.searched.scanned_le)]

theorem Sound.push (h : Sound maxDocument f) (bytes : Bytes) :
    Sound maxDocument (f.push bytes) :=
  ⟨h.searched.push bytes, h.limit⟩

theorem Sound.next (h : Sound maxDocument f) : Sound maxDocument f.next.2 :=
  ⟨h.searched.next, (Framer.maxDocument_next f).trans h.limit⟩

theorem Sound.discard (h : Sound maxDocument f) {dropped : Option Nat}
    (hd : f.discard = .ok (dropped, g)) : Sound maxDocument g :=
  ⟨h.searched.discard hd, (Framer.maxDocument_discard hd).trans h.limit⟩

theorem Sound.perform (h : Sound maxDocument f) {op : Operation}
    (hop : perform wraps f op = .ok g) : Sound maxDocument g := by
  cases op with
  | push bytes =>
    cases hop
    exact h.push bytes
  | next =>
    rw [Checked.perform, h.next_eq] at hop
    cases hop
    exact h.next
  | discard =>
    rw [Checked.perform, discard_eq] at hop
    cases hd : f.discard with
    | error fault => rw [hd] at hop; cases hop
    | ok x =>
      rw [hd] at hop
      cases hop
      exact h.discard hd

theorem Sound.run (h : Sound maxDocument f) {ops : List Operation}
    (hrun : run wraps f ops = .ok g) : Sound maxDocument g := by
  induction ops generalizing f with
  | nil => cases hrun; exact h
  | cons op ops ih =>
    rw [Checked.run] at hrun
    cases hop : Checked.perform wraps f op with
    | error p => rw [hop] at hrun; cases hrun
    | ok k => rw [hop] at hrun; exact ih (h.perform hop) hrun

theorem Sound.drained (h : Sound maxDocument f) : Sound maxDocument f.drain.2 := by
  refine ⟨?_, (Framer.maxDocument_drain f).trans h.limit⟩
  rw [h.searched.drain_eq]
  exact f.searched_drained

theorem Sound.drainFrom_eq (h : Sound maxDocument f) (done : List Bytes) :
    drainFrom done f = .ok (f.drainFrom done) := by
  fun_induction Framer.drainFrom done f with
  | case1 done f g hn =>
    have hnext : Checked.next f = .ok (none, g) := h.next_eq.trans (congrArg _ hn)
    rw [drainFrom]
    split
    · next hp => rw [hnext] at hp; cases hp
    · next hg => rw [hnext] at hg; cases hg; rfl
    · next hg => rw [hnext] at hg; cases hg
  | case2 done f document g hn ih =>
    have hnext : Checked.next f = .ok (some document, g) := h.next_eq.trans (congrArg _ hn)
    have hg : Sound maxDocument g := by
      have hbehind := h.next
      rwa [hn] at hbehind
    rw [drainFrom]
    split
    · next hp => rw [hnext] at hp; cases hp
    · next hk => rw [hnext] at hk; cases hk
    · next hk => rw [hnext] at hk; cases hk; exact ih hg

theorem Sound.drain_eq (h : Sound maxDocument f) : drain f = .ok f.drain :=
  h.drainFrom_eq []

/-! ## What stops -/

/-- Only a discard stops, and it does so exactly if the buffer is over the limit and shorter than
the bytes to keep. -/
theorem Sound.perform_eq_error_iff (h : Sound maxDocument f) {op : Operation} {p : Panic} :
    Checked.perform wraps f op = .error p ↔
      op = .discard ∧ p = shortfall wraps ∧ maxDocument < f.pending ∧ f.pending < 3 := by
  cases op with
  | push bytes => simp [Checked.perform]
  | next => simp [Checked.perform, h.next_eq, Except.map]
  | discard =>
    have hiff : f.discard = .error .tooFewBytes ↔ maxDocument < f.pending ∧ f.pending < 3 := by
      rw [Framer.discard_eq_error_iff, h.limit]
    rw [Checked.perform, discard_eq, ← hiff]
    cases f.discard with
    | error fault =>
      cases fault
      simp [Except.map, Except.mapError, eq_comm]
    | ok x => simp [Except.map, Except.mapError]

theorem Sound.exists_run (hmax : 2 ≤ maxDocument) (h : Sound maxDocument f)
    (ops : List Operation) : ∃ g, Checked.run wraps f ops = .ok g := by
  induction ops generalizing f with
  | nil => exact ⟨f, rfl⟩
  | cons op ops ih =>
    cases hop : Checked.perform wraps f op with
    | error p =>
      obtain ⟨-, -, hover, hfew⟩ := h.perform_eq_error_iff.mp hop
      omega
    | ok k =>
      obtain ⟨g, hg⟩ := ih (h.perform hop)
      exact ⟨g, by rw [Checked.run, hop]; exact hg⟩

end Checked
end Framing
end PadRelay
