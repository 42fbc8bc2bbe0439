import PadRelay.Json.Codec

/-!
# PadRelay.Json.Record

Records: values with named members, each of a type of its own.

* `Schema`: the members of a record, in declaration order, with their names and codecs, and how
  a record is taken apart (`view`) and put together (`build`).
* `Schema.toCodec`: a record is written as an object with all its members. It is read from an
  object whose members come in any order, those of other names being passed over, or from a list
  of its members in declaration order.

Members that were not read are left to `build`, which names one that it cannot do without.
-/

namespace PadRelay
namespace Json

/-- The values read so far, by member. -/
abbrev Slots {ι : Type} (Value : ι → Type) := (m : ι) → Option (Value m)

def Slots.none {ι : Type} {Value : ι → Type} : Slots Value := fun _ => Option.none

def Slots.put {ι : Type} [DecidableEq ι] {Value : ι → Type} (slots : Slots Value) (m : ι)
    (v : Value m) : Slots Value :=
  fun m' => if h : m = m' then some (h ▸ v) else slots m'

/-- A record type `σ` with members `ι`. -/
structure Schema (ι : Type) (Value : ι → Type) (σ : Type) where
  /-- What the record is called in reports. -/
  kind : String
  members : List ι
  name : ι → String
  codec : (m : ι) → Codec (Value m)
  view : σ → (m : ι) → Value m
  /-- The record with these members, or a member that must not be missing. -/
  build : Slots Value → Except ι σ

namespace Schema

variable {ι : Type} {Value : ι → Type} {σ : Type}

def writeMember (sch : Schema ι Value σ) (a : σ) (m : ι) : List Char :=
  writeText (sch.name m) ++ ':' :: (sch.codec m).write (sch.view a m)

/-- An object with all members, in declaration order. -/
def write (sch : Schema ι Value σ) (a : σ) : List Char :=
  '\x7b' :: (List.intercalate [','] (sch.members.map (sch.writeMember a)) ++ ['\x7d'])

def member? (sch : Schema ι Value σ) (name : String) : Option ι :=
  sch.members.find? (sch.name · == name)

end Schema

/-- The name of the next member, or none at the end of the object, whose closing byte is passed.
Behind a member there is a comma first. -/
def readName (first : Bool) (s : Bytes) : Result (Option String) :=
  match skipBlank s with
  | [] => .error (.unexpectedEnd .object)
  | b :: rest =>
    if b = Container.closing .object then .ok (none, rest)
    else if first then
      if b = byte '"' then (readString rest).map fun r => (some r.1, r.2)
      else .error .nameNotText
    else if b = byte ',' then
      match skipBlank rest with
      | [] => .error (.unexpectedEnd .value)
      | q :: rest =>
        if q = byte '"' then (readString rest).map fun r => (some r.1, r.2)
        else if q = Container.closing .object then .error .trailingComma
        else .error .nameNotText
    else .error (.expectedCommaOrEnd .object)

theorem length_readName_lt {first : Bool} {s rest : Bytes} {name : Option String}
    (h : readName first s = .ok (name, rest)) : rest.length < s.length := by
  have hmap : ∀ {t : Bytes},
      (readString t).map (fun r => (some r.1, r.2)) = .ok (name, rest) →
        rest.length < t.length := by
    intro t ht
    cases hr : readString t with
    | error e => rw [hr] at ht; cases ht
    | ok r =>
      obtain ⟨x, u⟩ := r
      rw [hr] at ht
      cases ht
      exact length_readString_lt hr
  unfold readName at h
  split at h
  · cases h
  · next hs =>
    have hlt := length_lt_of_skipBlank hs
    split at h
    · cases h; exact hlt
    split at h
    · split at h
      · have := hmap h; omega
      · cases h
    split at h
    · split at h
      · cases h
      · next hq =>
        have := length_lt_of_skipBlank hq
        split at h
        · have := hmap h; omega
        split at h
        · cases h
        · cases h
    · cases h

/-- Up to where the next item of a list has its value: `true` and that place, or `false` and the
closing byte. -/
def readItemStart (first : Bool) (s : Bytes) : Result Bool :=
  match skipBlank s with
  | [] => .error (.unexpectedEnd .list)
  | b :: rest =>
    if b = Container.closing .list then .ok (false, b :: rest)
    else if first then .ok (true, b :: rest)
    else if b = byte ',' then
      match skipBlank rest with
      | [] => .error (.unexpectedEnd .value)
      | c :: rest =>
        if c = Container.closing .list then .error .trailingComma else .ok (true, c :: rest)
    else .error (.expectedCommaOrEnd .list)

theorem length_readItemStart_le {first more : Bool} {s rest : Bytes}
    (h : readItemStart first s = .ok (more, rest)) : rest.length ≤ s.length := by
  unfold readItemStart at h
  split at h
  · cases h
  · next b tail hs =>
    have hle := length_skipBlank_le s
    rw [hs] at hle
    split at h
    · cases h; exact hle
    split at h
    · cases h; exact hle
    split at h
    · split at h
      · cases h
      · next hq =>
        have hle' := length_skipBlank_le tail
        rw [hq] at hle'
        split at h
        · cases h
        · cases h
          simp only [List.length_cons] at hle hle' ⊢
          omega
    · cases h

/-- What is left behind the closing byte of a list all of whose items were asked for. -/
def readListEnd (s : Bytes) : Except DecodeError Bytes :=
  match skipBlank s with
  | [] => .error (.unexpectedEnd .list)
  | b :: rest =>
    if b = Container.closing .list then .ok rest
    else if b = byte ',' ∧ (skipBlank rest).head? = some (Container.closing .list) then
      .error .trailingComma
    else .error .trailingCharacters

theorem length_readListEnd_lt {s rest : Bytes} (h : readListEnd s = .ok rest) :
    rest.length < s.length := by
  unfold readListEnd at h
  split at h
  · cases h
  · next hs =>
    split at h
    · cases h; exact length_lt_of_skipBlank hs
    · split at h <;> cases h

namespace Schema

variable {ι : Type} [DecidableEq ι] {Value : ι → Type} {σ : Type}

/-- The next member of an object: the values with it, or none at the end of the object. A member
may come once; one of another name is passed over. -/
def readMember (sch : Schema ι Value σ) (first : Bool) (slots : Slots Value) (s : Bytes) :
    Result (Option (Slots Value)) :=
  match readName first s with
  | .error e => .error e
  | .ok (none, s) => .ok (none, s)
  | .ok (some name, s) =>
    match sch.member? name with
    | none =>
      match readColon s with
      | .error e => .error e
      | .ok s => (skipValue s).map (some slots, ·)
    | some m =>
      if (slots m).isSome then .error (.repeatedMember name)
      else
        match readColon s with
        | .error e => .error e
        | .ok s => ((sch.codec m).read s).map fun r => (some (slots.put m r.1), r.2)

theorem length_readMember_lt {sch : Schema ι Value σ} {first : Bool} {slots : Slots Value}
    {s rest : Bytes} {out : Option (Slots Value)}
    (h : sch.readMember first slots s = .ok (out, rest)) : rest.length < s.length := by
  unfold readMember at h
  split at h
  · cases h
  · next hn => cases h; exact length_readName_lt hn
  · next hn =>
    have := length_readName_lt hn
    split at h
    · split at h
      · cases h
      · next t hc =>
        have := length_readColon_lt hc
        cases hv : skipValue t with
        | error e => rw [hv] at h; cases h
        | ok u =>
          rw [hv] at h
          cases h
          have := length_skipValue_lt hv
          omega
    · next m _ =>
      split at h
      · cases h
      split at h
      · cases h
      · next t hc =>
        have := length_readColon_lt hc
        cases hv : (sch.codec m).read t with
        | error e => rw [hv] at h; cases h
        | ok r =>
          obtain ⟨v, u⟩ := r
          rw [hv] at h
          cases h
          have := (sch.codec m).length_read_lt hv
          show u.length < s.length
          omega

/-- The members of an object up to its end. -/
def readMembers (sch : Schema ι Value σ) (first : Bool) (slots : Slots Value) (s : Bytes) :
    Result (Slots Value) :=
  match _h : sch.readMember first slots s with
  | .error e => .error e
  | .ok (none, rest) => .ok (slots, rest)
  | .ok (some slots, rest) => readMembers sch false slots rest
termination_by s.length
decreasing_by exact length_readMember_lt _h

theorem length_readMembers_lt {sch : Schema ι Value σ} {first : Bool} {slots out : Slots Value}
    {s rest : Bytes} (h : sch.readMembers first slots s = .ok (out, rest)) :
    rest.length < s.length := by
  fun_induction readMembers sch first slots s with
  | case1 => cases h
  | case2 _ _ _ _ hm => cases h; exact length_readMember_lt hm
  | case3 _ _ _ _ _ hm ih =>
    have := length_readMember_lt hm
    have := ih h
    omega

/-- The items of a list for these members, as many as there are, and how many. -/
def readItems (sch : Schema ι Value σ) (first : Bool) (slots : Slots Value) (count : Nat) :
    List ι → Bytes → Result (Slots Value × Nat)
  | [], s => .ok ((slots, count), s)
  | m :: ms, s =>
    match readItemStart first s with
    | .error e => .error e
    | .ok (false, s) => .ok ((slots, count), s)
    | .ok (true, s) =>
      match (sch.codec m).read s with
      | .error e => .error e
      | .ok (v, s) => readItems sch false (slots.put m v) (count + 1) ms s

theorem length_readItems_le {sch : Schema ι Value σ} {first : Bool} {slots : Slots Value}
    {count : Nat} {ms : List ι} {s rest : Bytes} {out : Slots Value × Nat}
    (h : sch.readItems first slots count ms s = .ok (out, rest)) : rest.length ≤ s.length := by
  induction ms generalizing first slots count s with
  | nil =>
    simp only [readItems, Except.ok.injEq, Prod.mk.injEq] at h
    exact Nat.le_of_eq (congrArg List.length h.2.symm)
  | cons m ms ih =>
    simp only [readItems] at h
    split at h
    · cases h
    · next hi => cases h; exact length_readItemStart_le hi
    · next hi =>
      have := length_readItemStart_le hi
      split at h
      · cases h
      · next hv =>
        have := (sch.codec m).length_read_lt hv
        have := ih h
        omega

/-- Reads a record from the members of an object, behind its opening byte. -/
def readObject (sch : Schema ι Value σ) (s : Bytes) : Result σ :=
  match sch.readMembers true Slots.none s with
  | .error e => .error e
  | .ok (slots, rest) =>
    match sch.build slots with
    | .ok a => .ok (a, rest)
    | .error m => .error (.missingMember (sch.name m))

/-- Reads a record from the items of a list, behind its opening byte. -/
def readList (sch : Schema ι Value σ) (s : Bytes) : Result σ :=
  match sch.readItems true Slots.none 0 sch.members s with
  | .error e => .error e
  | .ok ((slots, count), s) =>
    match sch.build slots with
    | .error _ => .error (.tooShort count sch.kind sch.members.length)
    | .ok a => (readListEnd s).map (a, ·)

def read (sch : Schema ι Value σ) (s : Bytes) : Result σ :=
  match skipBlank s with
  | [] => .error (.unexpectedEnd .value)
  | b :: rest =>
    if b = Container.opening .object then sch.readObject rest
    else if b = Container.opening .list then sch.readList rest
    else .error (mismatch sch.kind (b :: rest))

theorem length_read_lt {sch : Schema ι Value σ} {s rest : Bytes} {a : σ}
    (h : sch.read s = .ok (a, rest)) : rest.length < s.length := by
  unfold read at h
  split at h
  · cases h
  · next b tail hs =>
    have := length_lt_of_skipBlank hs
    split at h
    · unfold readObject at h
      split at h
      · cases h
      · next hm =>
        have := length_readMembers_lt hm
        split at h
        · cases h; omega
        · cases h
    split at h
    · unfold readList at h
      split at h
      · cases h
      · next u hi =>
        have := length_readItems_le hi
        split at h
        · cases h
        · cases he : readListEnd u with
          | error e => rw [he] at h; cases h
          | ok t =>
            rw [he] at h
            cases h
            have := length_readListEnd_lt he
            omega
    · cases h

def toCodec (sch : Schema ι Value σ) : Codec σ := ⟨sch.write, sch.read, length_read_lt⟩

end Schema
end Json
end PadRelay
