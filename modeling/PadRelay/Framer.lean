import PadRelay.Text.Utf8

/-!
# PadRelay.Framer

Cutting a stream of bytes into documents. Each document ends in two line ends, `\r\n\r\n`.

* `push`: bytes read from the stream are appended to the buffer.
* `next`: the next complete document, without its terminator.
* `drain`: all complete documents.
* `discard`: an unfinished document that has outgrown the limit is dropped but for its last three
  bytes, which may begin its terminator; what follows of it is passed over when it arrives.

The buffer is searched from where the last search ended, less three bytes, since a terminator
may straddle that place.
-/

namespace PadRelay

/-- The limit of an unfinished document unless another is given. -/
def defaultMaxDocument : Nat := 1024 * 1024

/-- A stream on its way to documents. -/
structure Framer where
  buffer : Array UInt8
  /-- How many bytes of the buffer were searched for a terminator. -/
  scanned : Nat
  maxDocument : Nat
  /-- Whether the next complete document is the rest of a dropped one. -/
  discarding : Bool
  deriving DecidableEq, Repr

namespace Framer

def terminatorLength : Nat := 4

/-- The bytes that may begin a terminator without completing it. -/
def overlap : Nat := terminatorLength - 1

def start (maxDocument : Nat) : Framer := ⟨#[], 0, maxDocument, false⟩

/-- The bytes that are not yet part of a document. -/
def pending (f : Framer) : Nat := f.buffer.size

def push (f : Framer) (bytes : Bytes) : Framer := { f with buffer := f.buffer ++ bytes }

/-- Whether a terminator stands at this place. -/
def isTerminatorAt (buffer : Array UInt8) (i : Nat) : Bool :=
  buffer[i]? == some 13 && buffer[i + 1]? == some 10 && buffer[i + 2]? == some 13 &&
    buffer[i + 3]? == some 10

/-- The first place of a terminator from `i` on. -/
def findTerminator (buffer : Array UInt8) (i : Nat) : Option Nat :=
  if i + terminatorLength ≤ buffer.size then
    if isTerminatorAt buffer i then some i else findTerminator buffer (i + 1)
  else none
termination_by buffer.size - i
decreasing_by
  have : terminatorLength = 4 := rfl
  omega

theorem findTerminator_le {buffer : Array UInt8} {i pos : Nat}
    (h : findTerminator buffer i = some pos) : pos + terminatorLength ≤ buffer.size := by
  fun_induction findTerminator buffer i with
  | case1 i hi => cases h; exact hi
  | case2 _ _ _ ih => exact ih h
  | case3 => cases h

/-- Takes the bytes up to the next terminator, dropped document or not. -/
def take (f : Framer) : Option Bytes × Framer :=
  match findTerminator f.buffer (f.scanned - overlap) with
  | none => (none, { f with scanned := f.buffer.size })
  | some pos =>
    (some (f.buffer.extract 0 pos).toList,
      { f with buffer := f.buffer.extract (pos + terminatorLength) f.buffer.size, scanned := 0 })

/-- Takes the next complete document. The rest of a dropped one is passed over. -/
def next (f : Framer) : Option Bytes × Framer :=
  match f.take with
  | (none, f) => (none, f)
  | (some document, f) =>
    if f.discarding then { f with discarding := false }.take else (some document, f)

theorem size_take_lt {f g : Framer} {document : Bytes} (h : f.take = (some document, g)) :
    g.buffer.size < f.buffer.size := by
  unfold take at h
  split at h
  · cases h
  · next pos hp =>
    have := findTerminator_le hp
    have h4 : terminatorLength = 4 := rfl
    cases h
    simp only [Array.size_extract]
    omega

theorem size_next_lt {f g : Framer} {document : Bytes} (h : f.next = (some document, g)) :
    g.buffer.size < f.buffer.size := by
  unfold next at h
  split at h
  · cases h
  · next f' ht =>
    have := size_take_lt ht
    split at h
    · have := size_take_lt h
      simp only at this
      omega
    · cases h; assumption

/-- Takes all complete documents, behind those already `done`, the latest first. -/
def drainFrom (done : List Bytes) (f : Framer) : List Bytes × Framer :=
  match _h : f.next with
  | (none, g) => (done.reverse, g)
  | (some document, g) => drainFrom (document :: done) g
termination_by f.buffer.size
decreasing_by exact size_next_lt _h

def drain (f : Framer) : List Bytes × Framer := drainFrom [] f

/-- What cannot be done with a buffer. -/
inductive Fault where
  /-- The buffer is over the limit, yet shorter than the bytes that must be kept. -/
  | tooFewBytes
  deriving DecidableEq, Repr

/-- Drops an unfinished document that has outgrown the limit, and says how many bytes of it. -/
def discard (f : Framer) : Except Fault (Option Nat × Framer) :=
  if f.buffer.size ≤ f.maxDocument then .ok (none, f)
  else if f.buffer.size < overlap then .error .tooFewBytes
  else
    let dropped := f.buffer.size - overlap
    .ok (some dropped,
      { f with
        buffer := f.buffer.extract dropped f.buffer.size
        scanned := 0
        discarding := true })

end Framer
end PadRelay
