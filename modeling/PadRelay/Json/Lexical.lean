import PadRelay.Json.Error
import PadRelay.Text.Utf8

/-!
# PadRelay.Json.Lexical

The smallest pieces of a document: blanks, words and punctuation.

* `Result`: a value read from the front of a document, with what is left; or the first fault.
* `skipBlank`: what is left behind blanks.
* `readWord`: the rest of a word such as `null`.
-/

namespace PadRelay
namespace Json

/-- A value read from the front of a document and what is left of the document. -/
abbrev Result (α : Type) := Except DecodeError (α × Bytes)

abbrev byte (c : Char) : UInt8 := c.toUInt8

/-- The blanks between the pieces of a document. -/
def isBlank (b : UInt8) : Bool :=
  b = byte ' ' || b = byte '\n' || b = byte '\t' || b = byte '\r'

/-- What is left behind the blanks at the front. -/
def skipBlank (s : Bytes) : Bytes := s.dropWhile isBlank

theorem length_skipBlank_le (s : Bytes) : (skipBlank s).length ≤ s.length :=
  (List.dropWhile_suffix _).length_le

theorem length_lt_of_skipBlank {s rest : Bytes} {b : UInt8} (h : skipBlank s = b :: rest) :
    rest.length < s.length := by
  have := length_skipBlank_le s
  rw [h] at this
  exact this

/-- What is left behind the given bytes. -/
def readWord : Bytes → Bytes → Except DecodeError Bytes
  | [], s => .ok s
  | _ :: _, [] => .error (.unexpectedEnd .value)
  | c :: word, b :: s => if b = c then readWord word s else .error .expectedWord

theorem length_readWord_le {word s rest : Bytes} (h : readWord word s = .ok rest) :
    rest.length ≤ s.length := by
  induction word generalizing s with
  | nil => simp only [readWord, Except.ok.injEq] at h; simp [h]
  | cons c word ih =>
    cases s with
    | nil => simp [readWord] at h
    | cons b s =>
      simp only [readWord] at h
      split at h
      · exact Nat.le_succ_of_le (ih h)
      · cases h

def ascii (word : String) : Bytes := word.toList.map byte

def Container.opening : Container → UInt8
  | .list => byte '['
  | .object => byte '\x7b'

def Container.closing : Container → UInt8
  | .list => byte ']'
  | .object => byte '\x7d'

/-- What is left behind the colon between a name and its value. -/
def readColon (s : Bytes) : Except DecodeError Bytes :=
  match skipBlank s with
  | [] => .error (.unexpectedEnd .object)
  | b :: rest => if b = byte ':' then .ok rest else .error .expectedColon

theorem length_readColon_lt {s rest : Bytes} (h : readColon s = .ok rest) :
    rest.length < s.length := by
  unfold readColon at h
  split at h
  · cases h
  · next b tail hs =>
    split at h
    · cases h; exact length_lt_of_skipBlank hs
    · cases h

end Json
end PadRelay
