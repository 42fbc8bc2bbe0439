import PadRelay.Framer
import PadRelay.Observation
import PadRelay.Pad.Update

/-!
# PadRelay.Receiver

The loop that reads a stream, cuts it into documents and hands out their updates.

* `Input`: what the loop waits for: bytes, the end of the stream, a failed read, a shutdown
  signal, or the news that no signal can come any more.
* `Occurrence`: what comes of it: an update, a document that cannot be read, or one too large.
* `Receiver.step`, `Receiver.run`: one input, and inputs until the loop ends (`Ending`).
-/

namespace PadRelay

open Pad (Update)

/-- The most bytes that one read gives. -/
def readSize : Nat := 4096

/-- The reads that give these bytes, all but the last one full. -/
def cutReads (bytes : Bytes) : List Bytes :=
  if bytes.isEmpty then []
  else bytes.take readSize :: cutReads (bytes.drop readSize)
termination_by bytes.length
decreasing_by
  have : 0 < readSize := by decide
  have : bytes.length ≠ 0 := by simp_all
  simp only [List.length_drop]
  omega

/-- What the loop waits for. -/
inductive Input where
  | received (bytes : Bytes)
  | closed
  | failed (reason : String)
  /-- A shutdown signal, or word that some were missed. -/
  | signalled
  /-- No shutdown signal can come any more. -/
  | released
  deriving DecidableEq, Repr

/-- What comes of an input. -/
inductive Occurrence where
  | update (u : Update)
  | rejected (e : Json.DecodeError)
  | oversized (maxDocument dropped : Nat)
  deriving DecidableEq, Repr

/-- How the loop ends. -/
inductive Ending where
  | stopped
  | disconnected (pending : Nat)
  | failed (reason : String)
  | broken (fault : Framer.Fault)
  deriving DecidableEq, Repr

def isAsciiBlank (b : UInt8) : Bool := b == 32 || b == 9 || b == 10 || b == 12 || b == 13

/-- What comes of a document. Nothing comes of a blank one. -/
def dispatch (document : Bytes) : Option Occurrence :=
  if document.all isAsciiBlank then none
  else
    match Pad.document.decode document with
    | .ok u => some (.update u)
    | .error e => some (.rejected e)

structure Receiver where
  framer : Framer
  /-- Whether the loop still waits for shutdown signals. -/
  listening : Bool
  deriving DecidableEq, Repr

namespace Receiver

def start (maxDocument : Nat) : Receiver := ⟨Framer.start maxDocument, true⟩

/-- After a read that gave bytes: complete documents are dispatched, then one that is too large
is dropped. -/
def accept (r : Receiver) (bytes : Bytes) : List Occurrence × Except Ending Receiver :=
  let (documents, f) := (r.framer.push bytes).drain
  let occurrences := documents.filterMap dispatch
  match f.discard with
  | .error fault => (occurrences, .error (.broken fault))
  | .ok (none, f) => (occurrences, .ok { r with framer := f })
  | .ok (some dropped, f) =>
    (occurrences ++ [.oversized f.maxDocument dropped], .ok { r with framer := f })

/-- After one input: what came of it, and the loop or its ending. -/
def step (r : Receiver) : Input → List Occurrence × Except Ending Receiver
  | .received bytes => r.accept bytes
  | .closed => ([], .error (.disconnected r.framer.pending))
  | .failed reason => ([], .error (.failed reason))
  | .signalled => ([], if r.listening then .error .stopped else .ok r)
  | .released => ([], .ok { r with listening := false })

/-- After more inputs: what came of them, and the ending if there was one. -/
def run (r : Receiver) : List Input → List Occurrence × Option Ending
  | [] => ([], none)
  | input :: inputs =>
    match r.step input with
    | (occurrences, .error ending) => (occurrences, some ending)
    | (occurrences, .ok r) =>
      let (more, ending) := run r inputs
      (occurrences ++ more, ending)

end Receiver

/-- What is seen of an occurrence besides the work on an update. -/
def Occurrence.observations : Occurrence → List Observation
  | .update _ => [.counted .updatesReceived]
  | .rejected e =>
    [.counted .documentsRejected, .logged .warning ("invalid PAD document: " ++ e.message)]
  | .oversized maxDocument dropped =>
    [.counted .documentsRejected,
      .logged .warning ("PAD document exceeds " ++ toString maxDocument ++ " bytes, dropped " ++
        toString dropped ++ " buffered bytes")]

/-- What is done with an update: what is seen of that, and the handler's state behind it. -/
abbrev Handler (σ : Type) := σ → Update → List Observation × σ

/-- Everything seen of what the loop gave, each update handled before the next occurrence. -/
def observe {σ : Type} (handle : Handler σ) (state : σ) : List Occurrence → List Observation
  | [] => []
  | .update u :: rest =>
    let (seen, state) := handle state u
    (Occurrence.update u).observations ++ .began u.machine :: seen ++
      .finished :: observe handle state rest
  | occurrence :: rest => occurrence.observations ++ observe handle state rest

/-- The updates among occurrences. -/
def Occurrence.update? : Occurrence → Option Update
  | .update u => some u
  | _ => none

/-- What is seen of an ending. `addr` is the address of the source. -/
def Ending.observations (addr : String) : Ending → List Observation
  | .stopped =>
    [.noted ⟨.receiver, .info, "PAD receiver received shutdown signal, exiting loop", []⟩]
  | .disconnected pending =>
    [.noted ⟨.receiver, .warn, "PAD source closed the connection",
      [("addr", addr), ("pending_bytes", toString pending)]⟩]
  | .failed _ | .broken _ => []

/-- A receiver in one line, by the number of sections of its configuration. -/
def Receiver.summary (sections : Nat) : String :=
  "Receiver \x7b sections: " ++ toString sections ++ " \x7d"

inductive ReceiveError where
  | connect (addr reason : String)
  | read (reason : String)
  | disconnected (addr : String)
  deriving DecidableEq, Repr

def ReceiveError.message : ReceiveError → String
  | .connect addr reason => "failed to connect to PAD source " ++ addr ++ ": " ++ reason
  | .read reason => "PAD source read error: " ++ reason
  | .disconnected addr => "PAD source " ++ addr ++ " closed the connection"

end PadRelay
