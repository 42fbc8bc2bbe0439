import PadRelay.Json.Skip

/-!
# PadRelay.Json.Codec

How the values of a type stand in a document: each codec writes them and reads them back.

* `Codec.text`, `flag`, `word32`, `word64`, `signed64`: single values.
* `Codec.optional`: the same, or `null`.
* `Codec.decode`, `Codec.encode`: whole documents.

A value of another kind is reported by what it is (`mismatch`), which is read far enough to say so.
-/

namespace PadRelay
namespace Json

/-- Writing and reading the values of a type. Reading a value takes something off the front. -/
structure Codec (α : Type) where
  write : α → List Char
  read : Bytes → Result α
  length_read_lt : ∀ {s rest : Bytes} {a : α}, read s = .ok (a, rest) → rest.length < s.length

/-- What kind of value stands at the front. -/
def foundAt (s : Bytes) : Except DecodeError Found :=
  match s with
  | [] => .error .expectedValue
  | b :: rest =>
    if b = byte 'n' then (readWord (ascii "ull") rest).map fun _ => .null
    else if b = byte 't' then (readWord (ascii "rue") rest).map fun _ => .boolean true
    else if b = byte 'f' then (readWord (ascii "alse") rest).map fun _ => .boolean false
    else if b = byte '-' ∨ isDigit b then (readNumber s).map fun r => r.1.found
    else if b = byte '"' then (readString rest).map fun r => .text r.1
    else if b = Container.opening .list then .ok .list
    else if b = Container.opening .object then .ok .object
    else .error .expectedValue

/-- The fault of another kind of value at the front. -/
def mismatch (expected : String) (s : Bytes) : DecodeError :=
  match foundAt s with
  | .error e => e
  | .ok found => .wrongKind found expected

namespace Codec

/-- The whole document of a value. -/
def encode {α : Type} (c : Codec α) (a : α) : String := String.ofList (c.write a)

/-- The value of a whole document. -/
def decode {α : Type} (c : Codec α) (doc : Bytes) : Except DecodeError α :=
  match c.read doc with
  | .error e => .error e
  | .ok (a, rest) => if (skipBlank rest).isEmpty then .ok a else .error .trailingCharacters

def readTextValue (s : Bytes) : Result String :=
  match skipBlank s with
  | [] => .error (.unexpectedEnd .value)
  | b :: rest =>
    if b = byte '"' then readString rest else .error (mismatch "a string" (b :: rest))

theorem length_readTextValue_lt {s rest : Bytes} {t : String}
    (h : readTextValue s = .ok (t, rest)) : rest.length < s.length := by
  unfold readTextValue at h
  split at h
  · cases h
  · next hs =>
    split at h
    · have := length_lt_of_skipBlank hs
      have := length_readString_lt h
      omega
    · cases h

def text : Codec String := ⟨writeText, readTextValue, length_readTextValue_lt⟩

def readFlag (s : Bytes) : Result Bool :=
  match skipBlank s with
  | [] => .error (.unexpectedEnd .value)
  | b :: rest =>
    if b = byte 't' then (readWord (ascii "rue") rest).map (true, ·)
    else if b = byte 'f' then (readWord (ascii "alse") rest).map (false, ·)
    else .error (mismatch "a boolean" (b :: rest))

theorem length_readFlag_lt {s rest : Bytes} {f : Bool} (h : readFlag s = .ok (f, rest)) :
    rest.length < s.length := by
  unfold readFlag at h
  split at h
  · cases h
  · next b tail hs =>
    have := length_lt_of_skipBlank hs
    have hmap : ∀ {g : Bool} {r : Except DecodeError Bytes},
        r.map (fun t => (g, t)) = .ok (f, rest) → r = .ok rest := by
      intro g r hr
      cases r with
      | error e => cases hr
      | ok t => cases hr; rfl
    split at h
    · have := length_readWord_le (hmap h); omega
    split at h
    · have := length_readWord_le (hmap h); omega
    · cases h

def flag : Codec Bool := ⟨fun f => (toString f).toList, readFlag, length_readFlag_lt⟩

/-- A number that the type does not hold. A whole one is out of range, a fraction another kind. -/
def misfit (expected : String) (n : Number) : DecodeError :=
  match n with
  | .fraction minus x => .wrongKind (.fraction minus x) expected
  | n => .outOfRange n.found expected

/-- Reads a number that `accept` takes. -/
def readAccepted {α : Type} (expected : String) (accept : Number → Option α) (s : Bytes) :
    Result α :=
  match skipBlank s with
  | [] => .error (.unexpectedEnd .value)
  | b :: rest =>
    if b = byte '-' ∨ isDigit b then
      match readNumber (b :: rest) with
      | .error e => .error e
      | .ok (n, rest) =>
        match accept n with
        | some a => .ok (a, rest)
        | none => .error (misfit expected n)
    else .error (mismatch expected (b :: rest))

theorem length_readAccepted_lt {α : Type} {expected : String} {accept : Number → Option α}
    {s rest : Bytes} {a : α} (h : readAccepted expected accept s = .ok (a, rest)) :
    rest.length < s.length := by
  unfold readAccepted at h
  split at h
  · cases h
  · next hs =>
    have := length_lt_of_skipBlank hs
    split at h
    · split at h
      · cases h
      · next hn =>
        have := length_readNumber_lt hn
        split at h
        · cases h; simp only [List.length_cons] at this; omega
        · cases h
    · cases h

def word32? : Number → Option UInt32
  | .natural n => if n < UInt32.size then some (UInt32.ofNat n) else none
  | _ => none

def word64? : Number → Option UInt64
  | .natural n => if n < UInt64.size then some (UInt64.ofNat n) else none
  | _ => none

def signed64? : Number → Option Int64
  | .natural n => if n < Nat.pow 2 63 then some (Int64.ofNat n) else none
  | .negative n => if n ≤ Nat.pow 2 63 then some (Int64.ofInt (-n)) else none
  | _ => none

def writeNatural (n : Nat) : List Char := Nat.toDigits 10 n

/-- The decimal digits of a whole number behind its minus. -/
def writeInteger (n : Int) : List Char :=
  if n < 0 then '-' :: writeNatural n.natAbs else writeNatural n.natAbs

def word32 : Codec UInt32 :=
  ⟨fun n => writeNatural n.toNat, readAccepted "u32" word32?, length_readAccepted_lt⟩

def word64 : Codec UInt64 :=
  ⟨fun n => writeNatural n.toNat, readAccepted "u64" word64?, length_readAccepted_lt⟩

def signed64 : Codec Int64 :=
  ⟨fun n => writeInteger n.toInt, readAccepted "i64" signed64?, length_readAccepted_lt⟩

def writeOptional {α : Type} (c : Codec α) : Option α → List Char
  | some a => c.write a
  | none => "null".toList

def readOptional {α : Type} (c : Codec α) (s : Bytes) : Result (Option α) :=
  match skipBlank s with
  | [] => .error (.unexpectedEnd .value)
  | b :: rest =>
    if b = byte 'n' then (readWord (ascii "ull") rest).map (none, ·)
    else (c.read (b :: rest)).map fun r => (some r.1, r.2)

theorem length_readOptional_lt {α : Type} {c : Codec α} {s rest : Bytes} {a : Option α}
    (h : readOptional c s = .ok (a, rest)) : rest.length < s.length := by
  unfold readOptional at h
  split at h
  · cases h
  · next b tail hs =>
    have hlt := length_lt_of_skipBlank hs
    split at h
    · cases hw : readWord (ascii "ull") tail with
      | error e => rw [hw] at h; cases h
      | ok t =>
        rw [hw] at h
        cases h
        have := length_readWord_le hw
        omega
    · cases hr : c.read (b :: tail) with
      | error e => rw [hr] at h; cases h
      | ok r =>
        obtain ⟨x, t⟩ := r
        rw [hr] at h
        cases h
        have := c.length_read_lt hr
        simp only [List.length_cons] at this
        show t.length < s.length
        omega

/-- The values of a codec, or `null`. -/
def optional {α : Type} (c : Codec α) : Codec (Option α) :=
  ⟨writeOptional c, readOptional c, length_readOptional_lt⟩

end Codec
end Json
end PadRelay
