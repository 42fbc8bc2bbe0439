import Mathlib.Logic.Function.Basic
import PadRelay.Proofs.Json.Entries

/-!
# PadRelay.Proofs.Json.Members

Objects as the members that stand in them.

* `NameText`, `ValueText`, `MemberText`, `objectText`: members as they stand in an object.
* `Schema.Takes`: what reading them one after the other makes of the values before them.
* `Schema.Takes.readMembers`, `Schema.takes_of_readMembers`: that is how they are read.
* `Schema.read_objectText_iff`: hence a record is read from an object by its members.
* `Schema.exists_objectText`: every object that a record is read from has such members.
-/

namespace PadRelay
namespace Json

variable {s r : Bytes}

/-! ## Texts -/

structure NameText where
  indent : Bytes
  name : String
  /-- The spelling of the name and the quote behind it. -/
  literal : Bytes
  gap : Bytes
  indent_blank : ∀ b ∈ indent, isBlank b = true
  literal_read : readString literal = .ok (name, [])
  gap_blank : ∀ b ∈ gap, isBlank b = true

def NameText.bytes (n : NameText) : Bytes :=
  n.indent ++ byte '"' :: (n.literal ++ (n.gap ++ [byte ':']))

/-- A value and the blanks behind it. -/
structure ValueText where
  value : Bytes
  trail : Bytes
  value_skipped : skipValue value = .ok []
  trail_blank : ∀ b ∈ trail, isBlank b = true

def ValueText.bytes (v : ValueText) : Bytes := v.value ++ v.trail

/-- A member of an object, without the commas around it. -/
structure MemberText extends NameText, ValueText

def MemberText.bytes (m : MemberText) : Bytes := m.toNameText.bytes ++ m.toValueText.bytes

theorem MemberText.bytes_append (m : MemberText) (s : Bytes) :
    m.bytes ++ s = m.toNameText.bytes ++ (m.value ++ (m.trail ++ s)) := by
  simp only [MemberText.bytes, ValueText.bytes, List.append_assoc]

def objectText (ms : List MemberText) : Bytes :=
  byte '\x7b' :: (List.intercalate [byte ','] (ms.map MemberText.bytes) ++ [byte '\x7d'])

theorem skipValue_null : skipValue (ascii "null") = .ok [] :=
  (skipValue_eq_skipDue _).trans (skipDue_of_start rfl [])

def MemberText.null (m : MemberText) : MemberText :=
  { m with value := ascii "null", value_skipped := skipValue_null }

def separator (first : Bool) : Bytes := if first then [] else [byte ',']

/-- These members, and what stands behind the last one. -/
def membersText : Bool → List MemberText → Bytes → Bytes
  | _, [], rest => rest
  | first, m :: ms, rest => separator first ++ (m.bytes ++ membersText false ms rest)

theorem flatMap_comma (ms : List MemberText) (rest : Bytes) :
    ms.flatMap (fun m => [byte ','] ++ m.bytes) ++ rest = membersText false ms rest := by
  induction ms with
  | nil => rfl
  | cons m ms ih =>
    rw [List.flatMap_cons, List.append_assoc, List.append_assoc, ih]
    rfl

theorem objectText_append (ms : List MemberText) (rest : Bytes) :
    objectText ms ++ rest = byte '\x7b' :: membersText true ms (byte '\x7d' :: rest) := by
  rw [objectText, List.cons_append, List.append_assoc, List.singleton_append]
  cases ms with
  | nil => rfl
  | cons m ms =>
    rw [List.map_cons, intercalate_cons, List.flatMap_map, List.append_assoc, flatMap_comma]
    rfl

theorem flatMap_append_comma (first : Bool) (ms : List MemberText) (rest : Bytes) :
    separator first ++ (ms.flatMap (fun m => m.bytes ++ [byte ',']) ++ rest) =
      membersText first ms (separator (first && ms.isEmpty) ++ rest) := by
  induction ms generalizing first with
  | nil => simp [membersText]
  | cons m ms ih =>
    have hrest := ih false
    simp only [separator, Bool.false_eq_true, if_false, Bool.false_and, List.cons_append,
      List.nil_append] at hrest
    simp [membersText, separator, hrest]

theorem delimited_append {blanks : Bytes} (h : ∀ b ∈ blanks, isBlank b = true)
    (hs : Delimited s) : Delimited (blanks ++ s) := by
  cases blanks with
  | nil => exact hs
  | cons b blanks =>
    have hb := h b List.mem_cons_self
    simp only [isBlank, Bool.or_eq_true, decide_eq_true_eq] at hb
    refine delimited_cons ?_ _
    rcases hb with ((rfl | rfl) | rfl) | rfl <;> decide

theorem delimited_bytes (n : NameText) (s : Bytes) : Delimited (n.bytes ++ s) := by
  rw [NameText.bytes, List.append_assoc]
  exact delimited_append n.indent_blank (delimited_cons (by decide) _)

theorem delimited_membersText (first : Bool) (ms : List MemberText) {rest : Bytes}
    (h : Delimited rest) : Delimited (membersText first ms rest) := by
  cases ms with
  | nil => exact h
  | cons m ms =>
    cases first with
    | true =>
      rw [membersText, m.bytes_append]
      exact delimited_bytes m.toNameText _
    | false => exact delimited_cons (by decide) _

theorem membersText_append (first : Bool) (ms ms' : List MemberText) (rest : Bytes) :
    membersText first (ms ++ ms') rest =
      membersText first ms (membersText (first && ms.isEmpty) ms' rest) := by
  induction ms generalizing first with
  | nil => rw [List.nil_append, List.isEmpty_nil, Bool.and_true]; rfl
  | cons m ms ih =>
    rw [List.cons_append, membersText, membersText, ih, Bool.false_and, List.isEmpty_cons,
      Bool.and_false]

/-! ## One member -/

theorem readName_congr {s' : Bytes} (h : skipBlank s = skipBlank s') (first : Bool) :
    readName first s = readName first s' := by
  rw [readName, readName, h]

namespace Schema

variable {ι : Type} [DecidableEq ι] {Value : ι → Type} {σ : Type} {sch : Schema ι Value σ}
  {first : Bool} {slots slots' : Slots Value} {m : MemberText} {ms : List MemberText}
  {rest : Bytes}

theorem atValue_bytes (n : NameText) (first : Bool) (rest : Bytes) :
    AtValue first n.name (separator first ++ (n.bytes ++ rest)) rest := by
  obtain ⟨v, hv, hread⟩ := readString_local n.literal_read
  rw [List.append_nil] at hv
  subst hv
  refine ⟨n.gap ++ byte ':' :: rest, readName_some_iff.mpr
    ⟨n.bytes ++ rest, n.literal ++ (n.gap ++ byte ':' :: rest), ?_, ?_, hread _⟩, ?_⟩
  · cases first with
    | true => rfl
    | false => exact skipBlank_self (by decide) _
  · rw [NameText.bytes, List.append_assoc, skipBlank_of_blanks n.indent_blank, List.cons_append,
      skipBlank_self (by decide), List.append_assoc, List.append_assoc, List.singleton_append]
  · rw [readColon_iff, skipBlank_of_blanks n.gap_blank, skipBlank_self (by decide)]

theorem readMember_of_atValue {name : String} {u : Bytes} (h : AtValue first name s u) :
    sch.readMember first slots s =
      match sch.member? name with
      | none => (skipValue u).map (some slots, ·)
      | some i =>
        if (slots i).isSome then .error (.repeatedMember name)
        else ((sch.codec i).read u).map fun x => (some (slots.put i x.1), x.2) := by
  obtain ⟨v, hname, hcolon⟩ := h
  cases hmember : sch.member? name with
  | none => simp only [readMember, hname, hmember, hcolon]
  | some i => simp only [readMember, hname, hmember, hcolon]

theorem readMembers_of_error {e : DecodeError} (h : sch.readMember first slots s = .error e) :
    sch.readMembers first slots s = .error e := by
  rw [readMembers]
  split
  · next he => rw [h] at he; cases he; rfl
  · next he => rw [h] at he; cases he
  · next he => rw [h] at he; cases he

theorem readMembers_congr {s' : Bytes} (h : skipBlank s = skipBlank s') (first : Bool)
    (slots : Slots Value) : sch.readMembers first slots s = sch.readMembers first slots s' := by
  have hmember : sch.readMember first slots s = sch.readMember first slots s' := by
    rw [readMember, readMember, readName_congr h]
  cases hread : sch.readMember first slots s' with
  | error e => rw [readMembers_of_error hread, readMembers_of_error (hmember.trans hread)]
  | ok x =>
    obtain ⟨out, u⟩ := x
    cases out with
    | none => rw [readMembers_of_none hread, readMembers_of_none (hmember.trans hread)]
    | some more => rw [readMembers_of_some hread, readMembers_of_some (hmember.trans hread)]

/-! ## Members one after the other -/

/-- Reading these members makes the second values of the first ones: one of another name leaves
them as they are, one of the record is put in where there is none yet. -/
inductive Takes (sch : Schema ι Value σ) : Slots Value → List MemberText → Slots Value → Prop where
  | nil {slots : Slots Value} : Takes sch slots [] slots
  | other {slots slots' : Slots Value} {m : MemberText} {ms : List MemberText} :
      sch.member? m.name = none → Takes sch slots ms slots' → Takes sch slots (m :: ms) slots'
  | own {slots slots' : Slots Value} {m : MemberText} {ms : List MemberText} {i : ι}
      {a : Value i} :
      sch.member? m.name = some i → slots i = none →
        (∀ t, Delimited t → (sch.codec i).read (m.value ++ t) = .ok (a, t)) →
          Takes sch (slots.put i a) ms slots' → Takes sch slots (m :: ms) slots'

theorem takes_append {ms' : List MemberText} {slots'' : Slots Value} :
    sch.Takes slots (ms ++ ms') slots'' ↔
      ∃ slots', sch.Takes slots ms slots' ∧ sch.Takes slots' ms' slots'' := by
  constructor
  · intro h
    induction ms generalizing slots with
    | nil => exact ⟨slots, .nil, h⟩
    | cons m ms ih =>
      cases h with
      | other hmember h =>
        obtain ⟨slots', htakes, h'⟩ := ih h
        exact ⟨slots', .other hmember htakes, h'⟩
      | own hmember hslot hread h =>
        obtain ⟨slots', htakes, h'⟩ := ih h
        exact ⟨slots', .own hmember hslot hread htakes, h'⟩
  · rintro ⟨slots', htakes, h'⟩
    induction htakes with
    | nil => exact h'
    | other hmember _ ih => exact .other hmember (ih h')
    | own hmember hslot hread _ ih => exact .own hmember hslot hread (ih h')

theorem put_eq_update (slots : Slots Value) (i : ι) (a : Value i) :
    slots.put i a = Function.update slots i (some a) := by
  funext j
  by_cases h : i = j
  · subst h
    rw [Slots.put_self, Function.update_self]
  · rw [Slots.put_of_ne _ h, Function.update_of_ne (Ne.symm h)]

/-- Members do not change a value that is there already, and do without it. -/
theorem Takes.update (h : sch.Takes slots ms slots') {i : ι} (hi : (slots i).isSome)
    (v : Option (Value i)) :
    sch.Takes (Function.update slots i v) ms (Function.update slots' i v) := by
  induction h with
  | nil => exact .nil
  | other hmember _ ih => exact .other hmember (ih hi)
  | @own slots slots' m ms j a hmember hslot hread _ ih =>
    have hne : j ≠ i := by
      rintro rfl
      rw [hslot] at hi
      cases hi
    refine .own hmember (by rw [Function.update_of_ne hne, hslot]) hread ?_
    rw [put_eq_update, Function.update_comm hne.symm, ← put_eq_update]
    refine ih ?_
    rwa [Slots.put_of_ne _ hne]

theorem readMembers_other (hmember : sch.member? m.name = none) (first : Bool)
    (slots : Slots Value) (hs : Delimited s) :
    sch.readMembers first slots (separator first ++ (m.bytes ++ s)) =
      sch.readMembers false slots s := by
  obtain ⟨v, hv, hvalue⟩ := skipValue_local m.value_skipped
  rw [List.append_nil] at hv
  subst hv
  have hread : sch.readMember first slots (separator first ++ (m.bytes ++ s)) =
      .ok (some slots, m.trail ++ s) := by
    rw [m.bytes_append, readMember_of_atValue (atValue_bytes m.toNameText first _)]
    simp only [hmember, hvalue _ (delimited_append m.trail_blank hs)]
    rfl
  rw [readMembers_of_some hread, readMembers_congr (skipBlank_of_blanks m.trail_blank s)]

theorem readMembers_named {n : NameText} {i : ι} (hmember : sch.member? n.name = some i)
    (hslot : slots i = none) (first : Bool) (s : Bytes) :
    sch.readMembers first slots (separator first ++ (n.bytes ++ s)) =
      ((sch.codec i).read s).bind fun x => sch.readMembers false (slots.put i x.1) x.2 := by
  have hread : sch.readMember first slots (separator first ++ (n.bytes ++ s)) = _ :=
    readMember_of_atValue (atValue_bytes n first s)
  simp only [hmember, hslot, Option.isSome_none, Bool.false_eq_true, if_false] at hread
  cases hvalue : (sch.codec i).read s with
  | error e =>
    rw [hvalue] at hread
    exact readMembers_of_error hread
  | ok x =>
    rw [hvalue] at hread
    exact readMembers_of_some hread

theorem readMembers_repeated {n : NameText} {i : ι} (hmember : sch.member? n.name = some i)
    (hslot : (slots i).isSome = true) (first : Bool) (s : Bytes) :
    sch.readMembers first slots (separator first ++ (n.bytes ++ s)) =
      .error (.repeatedMember n.name) := by
  have hread : sch.readMember first slots (separator first ++ (n.bytes ++ s)) = _ :=
    readMember_of_atValue (atValue_bytes n first s)
  simp only [hmember, hslot, if_true] at hread
  exact readMembers_of_error hread

theorem readMembers_own {i : ι} {a : Value i} (hmember : sch.member? m.name = some i)
    (hslot : slots i = none)
    (hread : ∀ t, Delimited t → (sch.codec i).read (m.value ++ t) = .ok (a, t)) (first : Bool)
    (hs : Delimited s) :
    sch.readMembers first slots (separator first ++ (m.bytes ++ s)) =
      sch.readMembers false (slots.put i a) s := by
  rw [m.bytes_append, readMembers_named hmember hslot,
    hread _ (delimited_append m.trail_blank hs)]
  exact readMembers_congr (skipBlank_of_blanks m.trail_blank s) _ _

theorem Takes.readMembers (h : sch.Takes slots ms slots') (first : Bool)
    (hrest : Delimited rest) :
    sch.readMembers first slots (membersText first ms rest) =
      sch.readMembers (first && ms.isEmpty) slots' rest := by
  induction h generalizing first with
  | nil => rw [List.isEmpty_nil, Bool.and_true]; rfl
  | other hmember _ ih =>
    rw [membersText, readMembers_other hmember _ _ (delimited_membersText false _ hrest), ih,
      List.isEmpty_cons, Bool.and_false, Bool.false_and]
  | own hmember hslot hread _ ih =>
    rw [membersText, readMembers_own hmember hslot hread _ (delimited_membersText false _ hrest),
      ih, List.isEmpty_cons, Bool.and_false, Bool.false_and]

theorem takes_of_readMembers (hcodec : ∀ i, (sch.codec i).Definite) (hrest : Delimited rest)
    {out : Slots Value}
    (h : sch.readMembers first slots (membersText first ms rest) = .ok (out, r)) :
    ∃ slots', sch.Takes slots ms slots' ∧
      sch.readMembers (first && ms.isEmpty) slots' rest = .ok (out, r) := by
  suffices htakes : ∃ slots', sch.Takes slots ms slots' by
    obtain ⟨slots', htakes⟩ := htakes
    exact ⟨slots', htakes, (htakes.readMembers first hrest).symm.trans h⟩
  induction ms generalizing first slots with
  | nil => exact ⟨slots, .nil⟩
  | cons m ms ih =>
    rw [membersText] at h
    have hdelimited := delimited_membersText false ms hrest
    cases hmember : sch.member? m.name with
    | none =>
      rw [readMembers_other hmember _ _ hdelimited] at h
      obtain ⟨slots', htakes⟩ := ih h
      exact ⟨slots', .other hmember htakes⟩
    | some i =>
      cases hslot : slots i with
      | some a =>
        rw [m.bytes_append, readMembers_repeated hmember (by rw [hslot]; rfl)] at h
        cases h
      | none =>
        have hnamed := readMembers_named (n := m.toNameText) hmember hslot first
          (m.value ++ (m.trail ++ membersText false ms rest))
        rw [m.bytes_append, hnamed] at h
        cases hvalue : (sch.codec i).read (m.value ++ (m.trail ++ membersText false ms rest)) with
        | error e => rw [hvalue] at h; cases h
        | ok x =>
          obtain ⟨a, u⟩ := x
          obtain ⟨rfl, hlocal⟩ := (hcodec i).read_append m.value_skipped
            (delimited_append m.trail_blank hdelimited) hvalue
          rw [hvalue] at h
          replace h : sch.readMembers false (slots.put i a)
              (m.trail ++ membersText false ms rest) = .ok (out, r) := h
          rw [readMembers_congr (skipBlank_of_blanks m.trail_blank _)] at h
          obtain ⟨slots', htakes⟩ := ih h
          exact ⟨slots', .own hmember hslot hlocal htakes⟩

/-! ## Objects -/

theorem read_object (s : Bytes) :
    sch.read (byte '\x7b' :: s) = sch.readObject s := by
  rw [read, skipBlank_self (by decide)]
  rfl

/-- A record is read from an object by its members. -/
theorem read_objectText_iff (hcodec : ∀ i, (sch.codec i).Definite) {a : σ} :
    sch.read (objectText ms ++ rest) = .ok (a, r) ↔
      r = rest ∧ ∃ slots, sch.Takes Slots.none ms slots ∧ sch.build slots = .ok a := by
  have hend : ∀ (first : Bool) (slots : Slots Value),
      sch.readMembers first slots (byte '\x7d' :: rest) = .ok (slots, rest) :=
    fun first slots => readMembers_of_end first slots (skipBlank_self (by decide) rest)
  have hdelimited : Delimited (byte '\x7d' :: rest) := delimited_cons (by decide) rest
  rw [objectText_append, read_object, readObject]
  constructor
  · intro h
    split at h
    · cases h
    · next slots rest' hmembers =>
      obtain ⟨slots', htakes, hread⟩ := takes_of_readMembers hcodec hdelimited hmembers
      rw [hend] at hread
      cases hread
      split at h
      · next hbuild =>
        cases h
        exact ⟨rfl, slots, htakes, hbuild⟩
      · cases h
  · rintro ⟨rfl, slots, htakes, hbuild⟩
    rw [htakes.readMembers true hdelimited, hend]
    simp only [hbuild]

/-! ## Every object has members -/

theorem blanks_of_skipBlank {b : UInt8} (h : skipBlank s = b :: r) :
    ∃ lead, s = lead ++ b :: r ∧ ∀ c ∈ lead, isBlank c = true := by
  refine ⟨s.takeWhile isBlank, ?_, List.all_eq_true.mp List.all_takeWhile⟩
  rw [← h, skipBlank, List.takeWhile_append_dropWhile]

theorem blanks_of_atItem {u : Bytes} (h : AtItem first s u) :
    ∃ lead, s = lead ++ (separator first ++ u) ∧ (∀ b ∈ lead, isBlank b = true) ∧
      (first = true → lead = []) := by
  cases first with
  | true =>
    cases h
    exact ⟨[], rfl, nofun, fun _ => rfl⟩
  | false =>
    obtain ⟨lead, hs, hlead⟩ := blanks_of_skipBlank (show skipBlank s = _ from h)
    exact ⟨lead, hs, hlead, nofun⟩

theorem nameText_of_atValue {name : String} {u : Bytes} (h : AtValue first name s u) :
    ∃ (lead : Bytes) (n : NameText), n.name = name ∧
      s = lead ++ (separator first ++ (n.bytes ++ u)) ∧ (∀ b ∈ lead, isBlank b = true) ∧
        (first = true → lead = []) := by
  obtain ⟨v, hname, hcolon⟩ := h
  obtain ⟨w, x, hat, hquote, hread⟩ := readName_some_iff.mp hname
  obtain ⟨lead, rfl, hlead, hfirst⟩ := blanks_of_atItem hat
  obtain ⟨indent, rfl, hindent⟩ := blanks_of_skipBlank hquote
  obtain ⟨literal, rfl, hliteral⟩ := readString_local hread
  obtain ⟨gap, rfl, hgap⟩ := blanks_of_skipBlank (readColon_iff.mp hcolon)
  have hname := hliteral []
  rw [List.append_nil] at hname
  let n : NameText := ⟨indent, name, literal, gap, hindent, hname, hgap⟩
  have hbytes : indent ++ byte '"' :: (literal ++ (gap ++ byte ':' :: u)) = n.bytes ++ u := by
    simp [n, NameText.bytes]
  exact ⟨lead, n, rfl, by rw [hbytes], hlead, hfirst⟩

theorem membersText_of_readMembers (hcodec : ∀ i, (sch.codec i).Definite) {out : Slots Value}
    (h : sch.readMembers first slots s = .ok (out, r)) :
    ∃ lead ms, s = lead ++ membersText first ms (byte '\x7d' :: r) ∧
      (∀ b ∈ lead, isBlank b = true) ∧ (first = true → ms ≠ [] → lead = []) := by
  fun_induction readMembers sch first slots s with
  | case1 => cases h
  | case2 first slots s rest hmember =>
    cases h
    obtain ⟨lead, rfl, hlead⟩ := blanks_of_skipBlank (skipBlank_of_readMember hmember)
    exact ⟨lead, [], rfl, hlead, fun _ hms => absurd rfl hms⟩
  | case3 first slots s more rest hmember ih =>
    obtain ⟨hnone, -⟩ | ⟨name, u, hat, hvalue⟩ := readMember_iff.mp hmember
    · cases hnone
    have hskip : skipValue u = .ok rest := by
      obtain ⟨-, hskip, -⟩ | ⟨i, a, -, -, hread, -⟩ := hvalue
      · exact hskip
      · exact (hcodec i).skipValue_eq_ok hread
    obtain ⟨lead, n, -, rfl, hlead, hfirst⟩ := nameText_of_atValue hat
    obtain ⟨value, rfl, hlocal⟩ := skipValue_local hskip
    obtain ⟨trail, ms, rfl, htrail, -⟩ := ih h
    have hwhole := hlocal [] delimited_nil
    rw [List.append_nil] at hwhole
    let v : ValueText := ⟨value, trail, hwhole, htrail⟩
    refine ⟨lead, ⟨n, v⟩ :: ms, ?_, hlead, fun hf _ => hfirst hf⟩
    rw [membersText, MemberText.bytes_append]

/-- Every object that a record is read from is empty or the text of members. -/
theorem exists_objectText (hcodec : ∀ i, (sch.codec i).Definite) {a : σ}
    (h : sch.read (byte '\x7b' :: s) = .ok (a, r)) :
    skipBlank s = byte '\x7d' :: r ∨
      ∃ ms, ms ≠ [] ∧ byte '\x7b' :: s = objectText ms ++ r := by
  rw [read_object, readObject] at h
  split at h
  · cases h
  · next slots rest hmembers =>
    split at h
    · cases h
      obtain ⟨lead, ms, rfl, hlead, hfirst⟩ := membersText_of_readMembers hcodec hmembers
      cases ms with
      | nil =>
        refine .inl ?_
        rw [skipBlank_of_blanks hlead, membersText, skipBlank_self (by decide)]
      | cons m ms =>
        refine .inr ⟨m :: ms, List.cons_ne_nil m ms, ?_⟩
        rw [hfirst rfl (List.cons_ne_nil m ms), List.nil_append, objectText_append]
    · cases h

/-! ## A member that is left out, and one that is `null` -/

/-- What comes of `null` for a member: the record without the member, or a fault. -/
def ReadsNull (sch : Schema ι Value σ) (i : ι) : Option DecodeError → Prop
  | none => ∃ a, (∀ t, (sch.codec i).read (ascii "null" ++ t) = .ok (a, t)) ∧
      ∀ slots, sch.build (Function.update slots i (some a)) =
        sch.build (Function.update slots i none)
  | some e => ∀ t, (sch.codec i).read (ascii "null" ++ t) = .error e

theorem Takes.of_own {i : ι} (hmember : sch.member? m.name = some i)
    (h : sch.Takes slots (m :: ms) slots') :
    slots i = none ∧ ∀ v : Option (Value i),
      sch.Takes (Function.update slots i v) ms (Function.update slots' i v) := by
  cases h with
  | other hother _ => rw [hmember] at hother; cases hother
  | @own _ _ _ _ j a hj hslot _ hms =>
    obtain rfl : i = j := Option.some.inj (hmember.symm.trans hj)
    refine ⟨hslot, fun v => ?_⟩
    have hupdate := hms.update (by rw [Slots.put_self]; rfl) v
    rwa [put_eq_update, Function.update_idem] at hupdate

theorem read_refused {before : List MemberText} (hbefore : sch.Takes Slots.none before slots)
    {i : ι} {e : DecodeError} (hmember : sch.member? m.name = some i) (hslot : slots i = none)
    (hread : ∀ t, (sch.codec i).read (m.value ++ t) = .error e) (after : List MemberText)
    (rest : Bytes) : sch.read (objectText (before ++ m :: after) ++ rest) = .error e := by
  have hdelimited : Delimited (byte '\x7d' :: rest) := delimited_cons (by decide) rest
  have hmembers : sch.readMembers true Slots.none
      (membersText true (before ++ m :: after) (byte '\x7d' :: rest)) = .error e := by
    rw [membersText_append, hbefore.readMembers true (delimited_membersText _ _ hdelimited),
      membersText, m.bytes_append, readMembers_named (n := m.toNameText) hmember hslot, hread]
    rfl
  rw [objectText_append, read_object, readObject, hmembers]

/-- A record that is read from an object is read without any one of its members. With `null` in
place of the member's value it is the same record, if the member reads `null`. -/
theorem read_without (hcodec : ∀ i, (sch.codec i).Definite)
    (hbuild : ∀ slots, ∃ a, sch.build slots = .ok a) {fault : ι → Option DecodeError}
    (hnull : ∀ i, sch.ReadsNull i (fault i)) {before after : List MemberText} {a : σ}
    (h : sch.read (objectText (before ++ m :: after) ++ rest) = .ok (a, r)) :
    r = rest ∧ ∃ a', sch.read (objectText (before ++ after) ++ rest) = .ok (a', rest) ∧
      sch.read (objectText (before ++ m.null :: after) ++ rest) =
        match (sch.member? m.name).bind fault with
        | none => .ok (a', rest)
        | some e => .error e := by
  obtain ⟨rfl, slots, htakes, hbuilt⟩ := (read_objectText_iff hcodec).mp h
  obtain ⟨slots₁, hbefore, hafter⟩ := takes_append.mp htakes
  refine ⟨rfl, ?_⟩
  cases hmember : sch.member? m.name with
  | none =>
    have hms : sch.Takes slots₁ after slots := by
      cases hafter with
      | other _ hms => exact hms
      | own hown _ _ _ => rw [hmember] at hown; cases hown
    exact ⟨a,
      (read_objectText_iff hcodec).mpr ⟨rfl, slots, takes_append.mpr ⟨_, hbefore, hms⟩, hbuilt⟩,
      (read_objectText_iff hcodec).mpr
        ⟨rfl, slots, takes_append.mpr ⟨_, hbefore, .other hmember hms⟩, hbuilt⟩⟩
  | some i =>
    obtain ⟨hslot, hms⟩ := hafter.of_own hmember
    obtain ⟨a', hbuilt'⟩ := hbuild (Function.update slots i none)
    have hself : Function.update slots₁ i none = slots₁ := by
      rw [← hslot, Function.update_eq_self]
    have hremoved := hms none
    rw [hself] at hremoved
    refine ⟨a', (read_objectText_iff hcodec).mpr
      ⟨rfl, _, takes_append.mpr ⟨_, hbefore, hremoved⟩, hbuilt'⟩, ?_⟩
    have hi := hnull i
    rw [Option.bind_some]
    cases hfault : fault i with
    | none =>
      rw [hfault] at hi
      obtain ⟨v, hread, hsame⟩ := hi
      have htakes' := hms (some v)
      rw [← put_eq_update] at htakes'
      have hown : sch.Takes slots₁ (m.null :: after) (Function.update slots i (some v)) :=
        .own hmember hslot (fun t _ => hread t) htakes'
      exact (read_objectText_iff hcodec).mpr
        ⟨rfl, _, takes_append.mpr ⟨_, hbefore, hown⟩, (hsame slots).trans hbuilt'⟩
    | some e =>
      rw [hfault] at hi
      exact read_refused hbefore (m := m.null) hmember hslot hi after r

end Schema
end Json
end PadRelay
