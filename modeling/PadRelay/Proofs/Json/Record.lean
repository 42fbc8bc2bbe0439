import PadRelay.Json.Record
import PadRelay.Proofs.Json.Faithful

/-!
# PadRelay.Proofs.Json.Record

Records are read from every object that says them.

* `Schema.Shows`: members of an object that show members of a record, in any order, among members
  of other names; `Schema.form`: such objects that leave out only what may be left out.
* `Schema.readMember_own`, `Schema.readMember_other`: one member, read into the values before it.
* `Schema.readMembers_of_shows`: the members that are left, by induction.
* `Schema.toCodec_faithful`: hence the codec of a schema is faithful if those of its members are,
  names tell the members apart, and a record is complete without what was left out.
-/

namespace PadRelay
namespace Json

theorem Slots.put_self {ι : Type} [DecidableEq ι] {Value : ι → Type} (slots : Slots Value) (m : ι)
    (v : Value m) : slots.put m v m = some v := by
  rw [Slots.put, dif_pos rfl]

theorem Slots.put_of_ne {ι : Type} [DecidableEq ι] {Value : ι → Type} (slots : Slots Value)
    {m m' : ι} (h : m ≠ m') (v : Value m) : slots.put m v m' = slots m' := by
  rw [Slots.put, dif_neg h]

theorem Slots.put_eq_none {ι : Type} [DecidableEq ι] {Value : ι → Type} {slots : Slots Value}
    {m : ι} {ms : List ι} (hm : m ∉ ms) (h : ∀ m' ∈ ms, slots m' = Option.none) (v : Value m) :
    ∀ m' ∈ ms, slots.put m v m' = Option.none := by
  intro m' hm'
  have hne : m ≠ m' := by
    rintro rfl
    exact hm hm'
  rw [put_of_ne _ hne, h m' hm']

/-! ## The members of an object -/

/-- Up to where the next member of an object starts. Behind a member there is a comma first. -/
def AtMember : Bool → List Char → List Char → Prop
  | true, s, u => Blanks s u
  | false, s, u => Blanks s (',' :: u)

/-- What is left of an object: these members, and its end. -/
inductive MembersLeft : Bool → List (List Nat × Tree) → List Char → List Char → Prop where
  | none {first : Bool} {s t : List Char} :
      Blanks s ('\x7d' :: t) → MembersLeft first [] s t
  | some {first : Bool} {ms : List (List Nat × Tree)} {s u t : List Char} :
      AtMember first s u → Written (.members ms) u ('\x7d' :: t) → MembersLeft first ms s t

theorem Written.membersLeft {ms : List (List Nat × Tree)} {s t : List Char}
    (h : Written (.value (.object ms)) s t) :
    ∃ s', s = '\x7b' :: s' ∧ MembersLeft true ms s' t := by
  cases h with
  | emptyObject hb => exact ⟨_, rfl, .none hb⟩
  | object hms => exact ⟨_, rfl, .some Blanks.none hms⟩

theorem MembersLeft.eq_nil {first : Bool} {s t : List Char} (h : MembersLeft first [] s t) :
    Blanks s ('\x7d' :: t) := by
  cases h with
  | none hb => exact hb
  | some _ hms => cases hms

theorem MembersLeft.uncons {first : Bool} {name : List Nat} {v : Tree}
    {ms : List (List Nat × Tree)} {s t : List Char}
    (h : MembersLeft first ((name, v) :: ms) s t) :
    ∃ u r, AtMember first s u ∧ Written (.member name v) u r ∧ Delimited (wire r) ∧
      ∀ {t'}, Blanks t' r → MembersLeft false ms t' t := by
  cases h with
  | some hat hms =>
    cases hms with
    | lastMember hm =>
      exact ⟨_, _, hat, hm, delimited_wire _, fun hb => .none hb⟩
    | nextMember hm hms =>
      exact ⟨_, _, hat, hm, delimited_wire _, fun hb => .some hb hms⟩

theorem readName_of_spells {first : Bool} {name : String} {s u u' t' : List Char}
    (hat : AtMember first s u) (hb : Blanks u ('"' :: u'))
    (h : Spells (units name) u' ('"' :: t')) :
    readName first (wire s) = .ok (some name, wire t') := by
  have hread := readString_of_spells h []
  rw [List.append_nil, List.append_nil] at hread
  have hquote := hb.skipBlank_cons
  cases first with
  | true =>
    have hskip := (Blanks.trans hat hb).skipBlank_cons
    simp only [readName, hskip, if_true, hread]
    rfl
  | false =>
    have hcomma := Blanks.skipBlank_cons hat
    simp only [readName, hcomma, hquote, Bool.false_eq_true, if_false, if_true, hread]
    rfl

namespace Schema

variable {ι : Type} {Value : ι → Type} {σ : Type}

/-- The names of a schema tell its members apart. -/
structure Named (sch : Schema ι Value σ) : Prop where
  nodup : sch.members.Nodup
  member? : ∀ m, sch.member? (sch.name m) = some m

theorem Named.mem {sch : Schema ι Value σ} (h : sch.Named) (m : ι) : m ∈ sch.members :=
  List.mem_of_find?_eq_some (h.member? m)

/-- Members of an object that show these members of a record, each once and in any order, among
members of other names. -/
inductive Shows (sch : Schema ι Value σ) (forms : (m : ι) → Form (Value m)) (a : σ) :
    List ι → List (List Nat × Tree) → Prop where
  | none : Shows sch forms a [] []
  | own {m : ι} {v : Tree} {ms : List ι} {entries : List (List Nat × Tree)} :
      m ∉ ms → forms m (sch.view a m) v → Shows sch forms a ms entries →
        Shows sch forms a (m :: ms) ((units (sch.name m), v) :: entries)
  | other {name : String} {v : Tree} {ms : List ι} {entries : List (List Nat × Tree)} :
      (∀ m, sch.name m ≠ name) → Shows sch forms a ms entries →
        Shows sch forms a ms ((units name, v) :: entries)

/-- An object says a record if it shows its members, but for those that are absent. -/
def form (sch : Schema ι Value σ) (forms : (m : ι) → Form (Value m))
    (absent : (m : ι) → Value m → Prop) : Form σ := fun a v =>
  ∃ ms entries, v = .object entries ∧ sch.Shows forms a ms entries ∧
    ∀ m, m ∉ ms → absent m (sch.view a m)

theorem not_form_null {sch : Schema ι Value σ} {forms : (m : ι) → Form (Value m)}
    {absent : (m : ι) → Value m → Prop} (a : σ) : ¬ sch.form forms absent a .null := by
  rintro ⟨ms, entries, h, -⟩
  cases h

/-- Records are put together from the members that are not absent. -/
def Completes (sch : Schema ι Value σ) (absent : (m : ι) → Value m → Prop) : Prop :=
  ∀ (a : σ) (slots : Slots Value),
    (∀ m, slots m = some (sch.view a m) ∨ slots m = none ∧ absent m (sch.view a m)) →
      sch.build slots = .ok a

/-! ## Writing -/

theorem wire_write (sch : Schema ι Value σ) (a : σ) :
    wire (sch.write a) = byte '\x7b' ::
      (wire (List.intercalate [','] (sch.members.map (sch.writeMember a))) ++ [byte '\x7d']) := by
  rw [write, wire_cons, wire_append]
  rfl

theorem written_writeMember {sch : Schema ι Value σ} {a : σ} {m : ι} {v : Tree}
    (h : ∀ t, Written (.value v) ((sch.codec m).write (sch.view a m) ++ t) t) {s t : List Char}
    (hb : Blanks s t) :
    Written (.member (units (sch.name m)) v) (sch.writeMember a m ++ s) t := by
  have htext : sch.writeMember a m ++ s = '"' :: ((sch.name m).toList.flatMap escapeChar ++
      '"' :: ':' :: ((sch.codec m).write (sch.view a m) ++ s)) := by
    simp [writeMember, writeText]
  rw [htext]
  exact .named (sch.name m) (.element .none (h s) hb)

theorem shows_members {sch : Schema ι Value σ} {forms : (m : ι) → Form (Value m)} {a : σ}
    {v : ι → Tree} (h : ∀ m, forms m (sch.view a m) (v m)) {ms : List ι} (hms : ms.Nodup) :
    sch.Shows forms a ms (ms.map fun m => (units (sch.name m), v m)) := by
  induction ms with
  | nil => exact .none
  | cons m ms ih =>
    obtain ⟨hm, hms⟩ := List.nodup_cons.mp hms
    exact .own hm (h m) (ih hms)

theorem written_write {sch : Schema ι Value σ} {a : σ} {v : ι → Tree}
    (h : ∀ m t, Written (.value (v m)) ((sch.codec m).write (sch.view a m) ++ t) t)
    (t : List Char) :
    Written (.value (.object (sch.members.map fun m => (units (sch.name m), v m))))
      (sch.write a ++ t) t := by
  rw [write, List.cons_append, List.append_assoc, List.singleton_append]
  cases hms : sch.members with
  | nil => exact .emptyObject .none
  | cons m ms => exact .object (written_intercalate (fun m _ => written_writeMember (h m)) .none)

theorem printable_writeMember {sch : Schema ι Value σ} {a : σ} {m : ι}
    (h : ∀ d ∈ (sch.codec m).write (sch.view a m), 32 ≤ d.toNat) :
    ∀ d ∈ sch.writeMember a m, 32 ≤ d.toNat := by
  intro d hd
  rw [writeMember, List.mem_append, List.mem_cons] at hd
  rcases hd with hd | rfl | hd
  · exact le_of_mem_writeText _ d hd
  · decide
  · exact h d hd

theorem printable_write {sch : Schema ι Value σ} {a : σ}
    (h : ∀ m, ∀ d ∈ (sch.codec m).write (sch.view a m), 32 ≤ d.toNat) :
    ∀ d ∈ sch.write a, 32 ≤ d.toNat := by
  intro d hd
  have hmembers : d ∈ List.intercalate [','] (sch.members.map (sch.writeMember a)) →
      32 ≤ d.toNat := by
    intro hd
    cases hms : sch.members with
    | nil => rw [hms] at hd; cases hd
    | cons m ms =>
      rw [hms, List.map_cons, intercalate_cons, List.mem_append, List.mem_flatMap] at hd
      rcases hd with hd | ⟨x, hx, hd⟩
      · exact printable_writeMember (h m) d hd
      · obtain ⟨m', -, rfl⟩ := List.mem_map.mp hx
        rcases List.mem_cons.mp hd with rfl | hd
        · decide
        · exact printable_writeMember (h m') d hd
  rw [write, List.mem_cons, List.mem_append, List.mem_singleton] at hd
  rcases hd with rfl | hd | rfl
  · decide
  · exact hmembers hd
  · decide

/-! ## Reading -/

variable [DecidableEq ι] {sch : Schema ι Value σ} {forms : (m : ι) → Form (Value m)}
  {absent : (m : ι) → Value m → Prop}

theorem readMember_own (h : sch.Named) {a : σ} {m : ι} {v : Tree}
    (hcodec : (sch.codec m).Faithful (forms m)) {first : Bool} {slots : Slots Value}
    {s u r : List Char}
    (hform : forms m (sch.view a m) v) (hat : AtMember first s u)
    (hm : Written (.member (units (sch.name m)) v) u r) (hr : Delimited (wire r))
    (hslot : slots m = none) :
    ∃ t', Blanks t' r ∧
      sch.readMember first slots (wire s) = .ok (some (slots.put m (sch.view a m)), wire t') := by
  cases hm with
  | member hb hn hc he =>
    cases he with
    | element hb' hv hb'' =>
      have hname := readName_of_spells hat hb hn
      have hcolon := hc.skipBlank_cons
      have hvalue := hcodec.read hform hb' hv (hb''.delimited hr)
      refine ⟨_, hb'', ?_⟩
      simp only [readMember, hname, h.member? m, hslot, Option.isSome_none, Bool.false_eq_true,
        if_false, readColon, hcolon, if_true, hvalue]
      rfl

theorem readMember_other {name : String} {v : Tree} {first : Bool} {slots : Slots Value}
    {s u r : List Char} (hother : ∀ m, sch.name m ≠ name) (hat : AtMember first s u)
    (hm : Written (.member (units name) v) u r) (hr : Delimited (wire r)) :
    ∃ t', Blanks t' r ∧ sch.readMember first slots (wire s) = .ok (some slots, wire t') := by
  cases hm with
  | member hb hn hc he =>
    cases he with
    | element hb' hv hb'' =>
      have hname := readName_of_spells hat hb hn
      have hcolon := hc.skipBlank_cons
      have hvalue := skipValue_of_written hb' hv (hb''.delimited hr)
      have hnone : sch.member? name = none := by
        simp [member?, hother]
      refine ⟨_, hb'', ?_⟩
      simp only [readMember, hname, hnone, readColon, hcolon, if_true, hvalue]
      rfl

theorem readMembers_of_some {first : Bool} {slots more : Slots Value} {s rest : Bytes}
    (h : sch.readMember first slots s = .ok (some more, rest)) :
    sch.readMembers first slots s = sch.readMembers false more rest := by
  rw [readMembers]
  split
  · next he => rw [h] at he; cases he
  · next he => rw [h] at he; cases he
  · next he => rw [h] at he; cases he; rfl

theorem readMembers_of_none {first : Bool} {slots : Slots Value} {s rest : Bytes}
    (h : sch.readMember first slots s = .ok (Option.none, rest)) :
    sch.readMembers first slots s = .ok (slots, rest) := by
  rw [readMembers]
  split
  · next he => rw [h] at he; cases he
  · next he => rw [h] at he; cases he; rfl
  · next he => rw [h] at he; cases he

theorem readMembers_of_end (first : Bool) (slots : Slots Value) {s rest : Bytes}
    (h : skipBlank s = byte '\x7d' :: rest) :
    sch.readMembers first slots s = .ok (slots, rest) := by
  have hmember : sch.readMember first slots s = .ok (none, rest) := by
    have hname : readName first s = .ok (none, rest) := by
      simp only [readName, h]
      rfl
    simp only [readMember, hname]
  exact readMembers_of_none hmember

/-- The values with those of some members of a record. -/
def fill (sch : Schema ι Value σ) (a : σ) (slots : Slots Value) (ms : List ι) : Slots Value :=
  ms.foldl (fun slots m => slots.put m (sch.view a m)) slots

theorem fill_apply (a : σ) (slots : Slots Value) (ms : List ι) (m : ι) :
    sch.fill a slots ms m = if m ∈ ms then some (sch.view a m) else slots m := by
  induction ms generalizing slots with
  | nil => rfl
  | cons m' ms ih =>
    show sch.fill a (slots.put m' (sch.view a m')) ms m = _
    rw [ih]
    by_cases hmem : m ∈ ms
    · rw [if_pos hmem, if_pos (List.mem_cons_of_mem _ hmem)]
    · rw [if_neg hmem]
      by_cases hm : m = m'
      · subst hm
        rw [if_pos List.mem_cons_self, Slots.put_self]
      · rw [if_neg (by simp [hm, hmem]), Slots.put_of_ne _ (Ne.symm hm)]

/-- The members of an object are read into the values before them. -/
theorem readMembers_of_shows (h : sch.Named)
    (hcodec : ∀ m, (sch.codec m).Faithful (forms m)) {a : σ}
    {ms : List ι} {entries : List (List Nat × Tree)} (hshows : sch.Shows forms a ms entries)
    {first : Bool} {slots : Slots Value} {s t : List Char} (hleft : MembersLeft first entries s t)
    (hslots : ∀ m ∈ ms, slots m = none) :
    sch.readMembers first slots (wire s) = .ok (sch.fill a slots ms, wire t) := by
  induction hshows generalizing first slots s with
  | none => exact readMembers_of_end first slots (hleft.eq_nil.skipBlank_cons)
  | own hm hform _ ih =>
    obtain ⟨hnone, hmore⟩ := List.forall_mem_cons.mp hslots
    obtain ⟨u, r, hat, hmember, hr, hbehind⟩ := hleft.uncons
    obtain ⟨t', hb, hstep⟩ := readMember_own h (hcodec _) hform hat hmember hr hnone
    rw [readMembers_of_some hstep]
    exact ih (hbehind hb) (Slots.put_eq_none hm hmore _)
  | other hother _ ih =>
    obtain ⟨u, r, hat, hmember, hr, hbehind⟩ := hleft.uncons
    obtain ⟨t', hb, hstep⟩ := readMember_other hother hat hmember hr
    rw [readMembers_of_some hstep]
    exact ih (hbehind hb) hslots

/-- Blanks in front of a record do not matter. -/
theorem read_of_blank {blanks : Bytes} (h : ∀ b ∈ blanks, isBlank b = true) (s : Bytes) :
    sch.read (blanks ++ s) = sch.read s := by
  rw [read, skipBlank, List.dropWhile_append_of_pos h]
  rfl

theorem read_of_shows (h : sch.Named) (hcodec : ∀ m, (sch.codec m).Faithful (forms m))
    (hbuild : sch.Completes absent) {a : σ} {ms : List ι} {entries : List (List Nat × Tree)}
    (hshows : sch.Shows forms a ms entries) (habsent : ∀ m, m ∉ ms → absent m (sch.view a m))
    {s s' t : List Char} (hb : Blanks s s') (hv : Written (.value (.object entries)) s' t) :
    sch.read (wire s) = .ok (a, wire t) := by
  obtain ⟨s'', rfl, hleft⟩ := hv.membersLeft
  have hnone : ∀ m ∈ ms, (Slots.none : Slots Value) m = none := fun _ _ => rfl
  have hmembers := readMembers_of_shows h hcodec hshows hleft hnone
  have hrecord : sch.build (sch.fill a Slots.none ms) = .ok a := by
    refine hbuild a _ fun m => ?_
    rw [fill_apply]
    by_cases hm : m ∈ ms
    · exact .inl (if_pos hm)
    · exact .inr ⟨if_neg hm, habsent m hm⟩
  have hskip := hb.skipBlank_cons
  rw [read]
  simp only [hskip]
  rw [if_pos (by rfl), readObject]
  simp only [hmembers, hrecord]

theorem toCodec_faithful (h : sch.Named) (hcodec : ∀ m, (sch.codec m).Faithful (forms m))
    (hbuild : sch.Completes absent) : sch.toCodec.Faithful (sch.form forms absent) where
  read := by
    rintro a v s s' t ⟨ms, entries, rfl, hshows, habsent⟩ hb hv -
    exact read_of_shows h hcodec hbuild hshows habsent hb hv
  write := by
    intro a
    obtain ⟨v, hv⟩ := Classical.axiomOfChoice fun m => (hcodec m).write (sch.view a m)
    have hshows := shows_members (fun m => (hv m).1) h.nodup
    exact ⟨_, ⟨sch.members, _, rfl, hshows, fun m hm => absurd (h.mem m) hm⟩,
      written_write fun m => (hv m).2⟩
  printable := fun _ => printable_write fun m => (hcodec m).printable _

end Schema
end Json
end PadRelay
