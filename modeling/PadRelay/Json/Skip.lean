import PadRelay.Json.Number
import PadRelay.Json.Text

/-!
# PadRelay.Json.Skip

Passing over a value that is not asked for. Its syntax is checked, to any depth; the meaning of
its numbers and texts is not.

* `closeEnded`: behind a value, the containers that end there are closed.
* `skipItems`: the remaining items of the open containers; `skipValue` is one whole value.
-/

namespace PadRelay
namespace Json

/-- What starts at the front: a container, whose opening byte is passed, or a value that is
passed whole. -/
def skipStart (s : Bytes) : Result (Option Container) :=
  match skipBlank s with
  | [] => .error (.unexpectedEnd .value)
  | b :: rest =>
    if b = byte 'n' then (readWord (ascii "ull") rest).map (none, ·)
    else if b = byte 't' then (readWord (ascii "rue") rest).map (none, ·)
    else if b = byte 'f' then (readWord (ascii "alse") rest).map (none, ·)
    else if b = byte '-' ∨ isDigit b then
      (readLiteral .invalidNumber (b :: rest)).map fun r => (none, r.2)
    else if b = byte '"' then (skipText rest).map (none, ·)
    else if b = Container.opening .list then .ok (some .list, rest)
    else if b = Container.opening .object then .ok (some .object, rest)
    else .error .expectedValue

theorem length_skipStart_lt {s rest : Bytes} {c : Option Container}
    (h : skipStart s = .ok (c, rest)) : rest.length < s.length := by
  unfold skipStart at h
  split at h
  · cases h
  · next b tail hs =>
    have hlt := length_lt_of_skipBlank hs
    have hmap : ∀ {r : Except DecodeError Bytes},
        r.map (fun t => ((none : Option Container), t)) = .ok (c, rest) → r = .ok rest := by
      intro r hr
      cases r with
      | error e => cases hr
      | ok t => cases hr; rfl
    split at h
    · have := length_readWord_le (hmap h); omega
    split at h
    · have := length_readWord_le (hmap h); omega
    split at h
    · have := length_readWord_le (hmap h); omega
    split at h
    · cases hl : readLiteral .invalidNumber (b :: tail) with
      | error e => rw [hl] at h; cases h
      | ok r =>
        obtain ⟨l, t⟩ := r
        rw [hl] at h
        cases h
        have := length_readLiteral_lt hl
        simp only [List.length_cons] at this
        show t.length < s.length
        omega
    split at h
    · have := length_skipText_lt (hmap h); omega
    split at h
    · cases h; exact hlt
    split at h
    · cases h; exact hlt
    · cases h

/-- What is left behind the name and the colon of a member. -/
def skipName (s : Bytes) : Except DecodeError Bytes :=
  match skipBlank s with
  | [] => .error (.unexpectedEnd .object)
  | b :: rest =>
    if b = byte '"' then
      match skipText rest with
      | .error e => .error e
      | .ok rest => readColon rest
    else .error .nameNotText

theorem length_skipName_lt {s rest : Bytes} (h : skipName s = .ok rest) :
    rest.length < s.length := by
  unfold skipName at h
  split at h
  · cases h
  · next b tail hs =>
    split at h
    · split at h
      · cases h
      · next ht =>
        have := length_lt_of_skipBlank hs
        have := length_skipText_lt ht
        have := length_readColon_lt h
        omega
    · cases h

/-- Up to where the next item of the innermost container has its value. -/
def skipToValue (containers : List Container) (s : Bytes) : Except DecodeError Bytes :=
  if containers.head? = some .object then skipName s else .ok s

theorem length_skipToValue_le {containers : List Container} {s rest : Bytes}
    (h : skipToValue containers s = .ok rest) : rest.length ≤ s.length := by
  unfold skipToValue at h
  split at h
  · exact Nat.le_of_lt (length_skipName_lt h)
  · cases h; exact Nat.le_refl _

/-- Behind a value: closes the containers (innermost first) that end there. If one goes on with
another item, it is the first of those given back. -/
def closeEnded : List Container → Bytes → Result (List Container)
  | [], s => .ok ([], s)
  | c :: outer, s =>
    match skipBlank s with
    | [] => .error (.unexpectedEnd c.place)
    | b :: rest =>
      if b = byte ',' then .ok (c :: outer, rest)
      else if b = c.closing then closeEnded outer rest
      else .error (.expectedCommaOrEnd c)

theorem length_closeEnded_le {containers left : List Container} {s rest : Bytes}
    (h : closeEnded containers s = .ok (left, rest)) : rest.length ≤ s.length := by
  induction containers generalizing s with
  | nil =>
    simp only [closeEnded, Except.ok.injEq, Prod.mk.injEq] at h
    exact Nat.le_of_eq (congrArg List.length h.2.symm)
  | cons c outer ih =>
    simp only [closeEnded] at h
    split at h
    · cases h
    · next hs =>
      have := length_lt_of_skipBlank hs
      split at h
      · cases h; omega
      · split at h
        · have := ih h; omega
        · cases h

/-- Behind the opening byte of a container: closed at once if it is empty. -/
def closeEmpty (c : Container) (outer : List Container) (s : Bytes) : Result (List Container) :=
  match skipBlank s with
  | [] => .error (.unexpectedEnd c.place)
  | b :: rest => if b = c.closing then closeEnded outer rest else .ok (c :: outer, s)

theorem length_closeEmpty_le {c : Container} {outer left : List Container} {s rest : Bytes}
    (h : closeEmpty c outer s = .ok (left, rest)) : rest.length ≤ s.length := by
  unfold closeEmpty at h
  split at h
  · cases h
  · next hs =>
    have := length_lt_of_skipBlank hs
    split at h
    · have := length_closeEnded_le h; omega
    · cases h; exact Nat.le_refl _

/-- The next item of the innermost container, and what is still open behind it. -/
def skipItem (containers : List Container) (s : Bytes) : Result (List Container) :=
  match skipToValue containers s with
  | .error e => .error e
  | .ok s =>
    match skipStart s with
    | .error e => .error e
    | .ok (none, s) => closeEnded containers s
    | .ok (some c, s) => closeEmpty c containers s

theorem length_skipItem_lt {containers left : List Container} {s rest : Bytes}
    (h : skipItem containers s = .ok (left, rest)) : rest.length < s.length := by
  unfold skipItem at h
  split at h
  · cases h
  · next hv =>
    have := length_skipToValue_le hv
    split at h
    · cases h
    · next hs =>
      have := length_skipStart_lt hs
      have := length_closeEnded_le h
      omega
    · next hs =>
      have := length_skipStart_lt hs
      have := length_closeEmpty_le h
      omega

/-- What is left behind the open containers (innermost first), the innermost having an item
due; with none open, behind the one value that is due. -/
def skipItems (containers : List Container) (s : Bytes) : Except DecodeError Bytes :=
  match _h : skipItem containers s with
  | .error e => .error e
  | .ok ([], rest) => .ok rest
  | .ok (c :: outer, rest) => skipItems (c :: outer) rest
termination_by s.length
decreasing_by exact length_skipItem_lt _h

/-- What is left behind one value. -/
def skipValue (s : Bytes) : Except DecodeError Bytes := skipItems [] s

theorem length_skipItems_lt {containers : List Container} {s rest : Bytes}
    (h : skipItems containers s = .ok rest) : rest.length < s.length := by
  fun_induction skipItems containers s with
  | case1 => cases h
  | case2 _ _ _ hi => cases h; exact length_skipItem_lt hi
  | case3 _ _ _ _ _ hi ih =>
    have := length_skipItem_lt hi
    have := ih h
    omega

theorem length_skipValue_lt {s rest : Bytes} (h : skipValue s = .ok rest) :
    rest.length < s.length := length_skipItems_lt h

end Json
end PadRelay
