import PadRelay.Json.Lexical
import PadRelay.Text.Hex

/-!
# PadRelay.Json.Text

Text literals: how they are written and how they are read.

* `escapeChar`: a character as it stands between the quotes; `writeText` the whole literal.
* `readEscape`: the character that an escape stands for, a pair of surrogates being one.
* `readText`: the bytes of a literal up to its closing quote; `readString`: its text.
* `skipText`: past a literal whose content does not matter, so that neither its UTF-8 nor its
  surrogates are looked at.
-/

namespace PadRelay
namespace Json

/-- A character between the quotes of a literal: quote, backslash and control characters are
escaped, by a letter where there is one, and all else stands for itself. -/
def escapeChar (c : Char) : List Char :=
  if c = '"' then ['\\', '"']
  else if c = '\\' then ['\\', '\\']
  else if c = '\n' then ['\\', 'n']
  else if c = '\r' then ['\\', 'r']
  else if c = '\t' then ['\\', 't']
  else if c.toNat = 8 then ['\\', 'b']
  else if c.toNat = 12 then ['\\', 'f']
  else if c.toNat < 0x20 then
    ['\\', 'u', '0', '0', Text.hexDigit (c.toNat / 16), Text.hexDigit (c.toNat % 16)]
  else [c]

def writeText (s : String) : List Char := '"' :: s.toList.flatMap escapeChar ++ ['"']

def hexValue? (b : UInt8) : Option Nat := Text.hexValue? b.toNat

/-- The code unit that four hexadecimal digits denote. -/
def readCodeUnit : Bytes → Result Nat
  | a :: b :: c :: d :: rest =>
    match hexValue? a, hexValue? b, hexValue? c, hexValue? d with
    | some a, some b, some c, some d => .ok (((a * 16 + b) * 16 + c) * 16 + d, rest)
    | _, _, _, _ => .error .invalidEscape
  | _ => .error (.unexpectedEnd .text)

theorem length_readCodeUnit_lt {s rest : Bytes} {n : Nat} (h : readCodeUnit s = .ok (n, rest)) :
    rest.length < s.length := by
  unfold readCodeUnit at h
  split at h
  · split at h
    · cases h; simp only [List.length_cons]; omega
    · cases h
  · cases h

/-- A leading surrogate, which needs a partner. -/
def isLeading (n : Nat) : Bool := 0xD800 ≤ n && n ≤ 0xDBFF

def isTrailing (n : Nat) : Bool := 0xDC00 ≤ n && n ≤ 0xDFFF

def pairChar (leading trailing : Nat) : Char :=
  Char.ofNat (0x10000 + (leading - 0xD800) * 0x400 + (trailing - 0xDC00))

/-- What a backslash and a `u` must open behind a leading surrogate. -/
def readPartner (leading : Nat) : Bytes → Result Char
  | [] => .error (.unexpectedEnd .text)
  | b :: rest =>
    if b ≠ byte '\\' then .error .unpairedEscape
    else
      match rest with
      | [] => .error (.unexpectedEnd .text)
      | u :: rest =>
        if u ≠ byte 'u' then .error .unpairedEscape
        else
          match readCodeUnit rest with
          | .error e => .error e
          | .ok (n, rest) =>
            if isTrailing n then .ok (pairChar leading n, rest) else .error .loneSurrogate

theorem length_readPartner_lt {n : Nat} {s rest : Bytes} {c : Char}
    (h : readPartner n s = .ok (c, rest)) : rest.length < s.length := by
  unfold readPartner at h
  split at h
  · cases h
  · split at h
    · cases h
    · split at h
      · cases h
      · split at h
        · cases h
        · split at h
          · cases h
          · next hu =>
            have := length_readCodeUnit_lt hu
            split at h
            · simp only [Except.ok.injEq, Prod.mk.injEq] at h
              rw [← h.2]
              simp only [List.length_cons]
              omega
            · cases h

/-- The character of a hexadecimal escape. -/
def readHexEscape (s : Bytes) : Result Char :=
  match readCodeUnit s with
  | .error e => .error e
  | .ok (n, rest) =>
    if isTrailing n then .error .loneSurrogate
    else if isLeading n then readPartner n rest
    else .ok (Char.ofNat n, rest)

theorem length_readHexEscape_lt {s rest : Bytes} {c : Char}
    (h : readHexEscape s = .ok (c, rest)) : rest.length < s.length := by
  unfold readHexEscape at h
  split at h
  · cases h
  · next hu =>
    have := length_readCodeUnit_lt hu
    split at h
    · cases h
    · split at h
      · have := length_readPartner_lt h; omega
      · cases h; assumption

def letterEscape? (b : UInt8) : Option Char :=
  if b = byte '"' then some '"'
  else if b = byte '\\' then some '\\'
  else if b = byte '/' then some '/'
  else if b = byte 'b' then some '\x08'
  else if b = byte 'f' then some '\x0c'
  else if b = byte 'n' then some '\n'
  else if b = byte 'r' then some '\r'
  else if b = byte 't' then some '\t'
  else none

/-- The character that an escape stands for, read behind its backslash. -/
def readEscape : Bytes → Result Char
  | [] => .error (.unexpectedEnd .text)
  | b :: rest =>
    match letterEscape? b with
    | some c => .ok (c, rest)
    | none => if b = byte 'u' then readHexEscape rest else .error .invalidEscape

theorem length_readEscape_lt {s rest : Bytes} {c : Char} (h : readEscape s = .ok (c, rest)) :
    rest.length < s.length := by
  unfold readEscape at h
  split at h
  · cases h
  · split at h
    · cases h; simp
    · split at h
      · have := length_readHexEscape_lt h; simp only [List.length_cons]; omega
      · cases h

/-- The bytes that a literal stands for, up to its closing quote, behind the bytes `done`,
reversed. -/
def readText (done : Bytes) (s : Bytes) : Result Bytes :=
  match s with
  | [] => .error (.unexpectedEnd .text)
  | b :: rest =>
    if b = byte '"' then .ok (done.reverse, rest)
    else if b = byte '\\' then
      match _h : readEscape rest with
      | .error e => .error e
      | .ok (c, rest') => readText ((String.utf8EncodeChar c).reverse ++ done) rest'
    else if b < 0x20 then .error .controlCharacter
    else readText (b :: done) rest
termination_by s.length
decreasing_by
  · have := length_readEscape_lt _h; simp only [List.length_cons]; omega
  · simp

theorem length_readText_lt {done s t rest : Bytes} (h : readText done s = .ok (t, rest)) :
    rest.length < s.length := by
  fun_induction readText done s with
  | case1 => cases h
  | case2 => cases h; simp
  | case3 => cases h
  | case4 _ _ _ _ he _ ih =>
    have := length_readEscape_lt he
    have := ih h
    simp only [List.length_cons]
    omega
  | case5 => cases h
  | case6 _ _ _ _ _ _ ih => exact Nat.lt_succ_of_lt (ih h)

/-- The text of a literal, read behind its opening quote. -/
def readString (s : Bytes) : Result String :=
  match readText [] s with
  | .error e => .error e
  | .ok (bytes, rest) =>
    match Text.ofUtf8? bytes with
    | some text => .ok (text, rest)
    | none => .error .invalidCodePoint

theorem length_readString_lt {s rest : Bytes} {t : String} (h : readString s = .ok (t, rest)) :
    rest.length < s.length := by
  unfold readString at h
  split at h
  · cases h
  · next ht =>
    split at h
    · cases h; exact length_readText_lt ht
    · cases h

/-- What is left behind an escape, its backslash passed already. -/
def skipEscape : Bytes → Except DecodeError Bytes
  | [] => .error (.unexpectedEnd .text)
  | b :: rest =>
    if (letterEscape? b).isSome then .ok rest
    else if b = byte 'u' then (readCodeUnit rest).map (·.2)
    else .error .invalidEscape

theorem length_skipEscape_lt {s rest : Bytes} (h : skipEscape s = .ok rest) :
    rest.length < s.length := by
  unfold skipEscape at h
  split at h
  · cases h
  · next b tail =>
    split at h
    · cases h; simp
    · split at h
      · cases hu : readCodeUnit tail with
        | error e => rw [hu] at h; cases h
        | ok r =>
          obtain ⟨n, t⟩ := r
          rw [hu] at h
          cases h
          have := length_readCodeUnit_lt hu
          simp only [List.length_cons]
          omega
      · cases h

/-- What is left behind a literal, its opening quote passed already. -/
def skipText (s : Bytes) : Except DecodeError Bytes :=
  match s with
  | [] => .error (.unexpectedEnd .text)
  | b :: rest =>
    if b = byte '"' then .ok rest
    else if b = byte '\\' then
      match _h : skipEscape rest with
      | .error e => .error e
      | .ok rest' => skipText rest'
    else if b < 0x20 then .error .controlCharacter
    else skipText rest
termination_by s.length
decreasing_by
  · have := length_skipEscape_lt _h; simp only [List.length_cons]; omega
  · simp

theorem length_skipText_lt {s rest : Bytes} (h : skipText s = .ok rest) :
    rest.length < s.length := by
  fun_induction skipText s with
  | case1 => cases h
  | case2 => cases h; simp
  | case3 => cases h
  | case4 _ _ he _ ih =>
    have := length_skipEscape_lt he
    have := ih h
    simp only [List.length_cons]
    omega
  | case5 => cases h
  | case6 _ _ _ _ _ ih => exact Nat.lt_succ_of_lt (ih h)

end Json
end PadRelay
