import PadRelay.Proofs.Json.Definite
import PadRelay.Proofs.Json.Record

/-!
# PadRelay.Proofs.Json.Entries

The members of objects and the items of lists, as records are read from them.

* `AtItem`, `Schema.AtValue`: where an item starts, where the value of a member does.
* `Schema.readMember_iff`, `readItemStart_true_iff`, `readItemStart_false_iff`: what one step does.
* `Schema.readMembers_local`, `Schema.readItems_local`: the entries that are left are read the same
  whatever stands behind them, by induction on their steps.
* `Schema.definite`: records are definite if their members are.
-/

namespace PadRelay
namespace Json

variable {s r : Bytes}

/-! ## Where an item starts -/

/-- Up to where the next item of a container starts. Behind an item there is a comma first. -/
def AtItem : Bool → Bytes → Bytes → Prop
  | true, s, u => s = u
  | false, s, u => skipBlank s = byte ',' :: u

theorem AtItem.local {first : Bool} {u : Bytes} (h : AtItem first s u) :
    ∃ v, s = v ++ u ∧ ∀ t, AtItem first (v ++ t) t ∧ (first = false → Delimited (v ++ t)) := by
  cases first with
  | true =>
    cases h
    exact ⟨[], rfl, fun t => ⟨rfl, nofun⟩⟩
  | false =>
    obtain ⟨v, rfl, hv⟩ := skipBlank_local h
    exact ⟨v, rfl, fun t => ⟨hv t, fun _ => delimited_of_skipBlank (hv t) (by decide)⟩⟩

/-- What is left behind the items of a container that is passed over. -/
def skipRest (c : Container) (first : Bool) (outer : List Container) (s : Bytes) :
    Except DecodeError Bytes :=
  if first then skipOpen (closeEmpty c outer s) else skipBehind (c :: outer) s

theorem skipRest_closing {c : Container} (h : skipBlank s = c.closing :: r) (first : Bool)
    (outer : List Container) : skipRest c first outer s = skipBehind outer r := by
  cases first with
  | true => exact closeEmpty_closing h outer
  | false => exact skipBehind_closing h outer

theorem AtItem.skipRest {c : Container} {first : Bool} {u rest : Bytes} {b : UInt8}
    (h : AtItem first s u) (hu : skipBlank u = b :: rest) (hb : b ≠ c.closing)
    (outer : List Container) : skipRest c first outer s = skipItems (c :: outer) u := by
  cases first with
  | true =>
    cases h
    exact closeEmpty_item hu hb outer
  | false =>
    show skipBehind (c :: outer) s = _
    have hcomma : skipBlank s = byte ',' :: u := h
    rw [skipBehind, closeEnded, hcomma]
    rfl

/-! ## The members of an object -/

theorem readName_none_iff {first : Bool} :
    readName first s = .ok (none, r) ↔ skipBlank s = Container.closing .object :: r := by
  have hstring : ∀ u : Bytes, (readString u).map (fun x => (some x.1, x.2)) ≠ .ok (none, r) := by
    intro u hu
    cases hread : readString u with
    | error e => rw [hread] at hu; cases hu
    | ok x => rw [hread] at hu; cases hu
  constructor
  · intro h
    unfold readName at h
    split at h
    · cases h
    · next b rest hs =>
      split at h
      · next hb =>
        cases h
        rw [hs, hb]
      split at h
      · split at h
        · exact absurd h (hstring _)
        · cases h
      split at h
      · split at h
        · cases h
        · split at h
          · exact absurd h (hstring _)
          · split at h <;> cases h
      · cases h
  · intro h
    simp only [readName, h, if_true]

theorem readName_some_iff {first : Bool} {name : String} :
    readName first s = .ok (some name, r) ↔
      ∃ u rest, AtItem first s u ∧ skipBlank u = byte '"' :: rest ∧
        readString rest = .ok (name, r) := by
  have hstring : ∀ u : Bytes, (readString u).map (fun x => (some x.1, x.2)) =
      .ok (some name, r) ↔ readString u = .ok (name, r) := by
    intro u
    cases hread : readString u with
    | error e => simp [Except.map]
    | ok x => simp [Except.map, Prod.ext_iff]
  constructor
  · intro h
    unfold readName at h
    split at h
    · cases h
    · next b rest hs =>
      split at h
      · cases h
      split at h
      · next hfirst =>
        subst hfirst
        split at h
        · next hquote => exact ⟨s, rest, rfl, by rw [hs, hquote], (hstring _).mp h⟩
        · cases h
      split at h
      · next hfirst hcomma =>
        rw [Bool.not_eq_true] at hfirst
        subst hfirst
        split at h
        · cases h
        · next q rest' hs' =>
          split at h
          · next hquote =>
            exact ⟨rest, rest', by rw [AtItem, hs, hcomma], by rw [hs', hquote], (hstring _).mp h⟩
          · split at h <;> cases h
      · cases h
  · rintro ⟨u, rest, hat, hu, hread⟩
    have hmap := (hstring rest).mpr hread
    cases first with
    | true =>
      cases hat
      simp only [readName, hu, if_true, hmap]
      rfl
    | false =>
      have hcomma : skipBlank s = byte ',' :: u := hat
      simp only [readName, hcomma, hu, Bool.false_eq_true, if_false, if_true, hmap]
      rfl

theorem readName_local {first : Bool} {name : Option String}
    (h : readName first s = .ok (name, r)) :
    ∃ v, s = v ++ r ∧ ∀ t, readName first (v ++ t) = .ok (name, t) ∧
      (first = false → Delimited (v ++ t)) := by
  cases name with
  | none =>
    obtain ⟨v, rfl, hv⟩ := skipBlank_local (readName_none_iff.mp h)
    refine ⟨v, rfl, fun t => ⟨readName_none_iff.mpr (hv t), fun _ => ?_⟩⟩
    exact delimited_of_skipBlank (hv t) (closing_delimited .object)
  | some name =>
    obtain ⟨u, rest, hat, hu, hread⟩ := readName_some_iff.mp h
    obtain ⟨v, rfl, hv⟩ := hat.local
    obtain ⟨lead, rfl, hlead⟩ := skipBlank_local hu
    obtain ⟨w, rfl, hw⟩ := readString_local hread
    refine ⟨v ++ (lead ++ w), by simp, fun t => ?_⟩
    simp only [List.append_assoc]
    exact ⟨readName_some_iff.mpr ⟨_, _, (hv _).1, hlead _, hw t⟩, (hv _).2⟩

namespace Schema

variable {ι : Type} [DecidableEq ι] {Value : ι → Type} {σ : Type} {sch : Schema ι Value σ}
  {first : Bool} {slots : Slots Value}

def AtValue (first : Bool) (name : String) (s u : Bytes) : Prop :=
  ∃ v, readName first s = .ok (some name, v) ∧ readColon v = .ok u

/-- What one step through an object does: it ends, a member of another name is passed over, or one
of the record is read for the first time. -/
theorem readMember_iff {out : Option (Slots Value)} :
    sch.readMember first slots s = .ok (out, r) ↔
      (out = none ∧ skipBlank s = Container.closing .object :: r) ∨
        ∃ name u, AtValue first name s u ∧
          ((sch.member? name = none ∧ skipValue u = .ok r ∧ out = some slots) ∨
            ∃ m a, sch.member? name = some m ∧ slots m = none ∧
              (sch.codec m).read u = .ok (a, r) ∧ out = some (slots.put m a)) := by
  have hend : readName first s = .ok (none, r) ↔ _ := readName_none_iff
  rw [← hend]
  constructor
  · intro h
    unfold readMember at h
    split at h
    · cases h
    · next hname =>
      cases h
      exact Or.inl ⟨rfl, hname⟩
    · next name v hname =>
      split at h
      · next hmember =>
        split at h
        · cases h
        · next u hcolon =>
          cases hvalue : skipValue u with
          | error e => rw [hvalue] at h; cases h
          | ok rest =>
            rw [hvalue] at h
            cases h
            exact Or.inr ⟨name, u, ⟨v, hname, hcolon⟩, Or.inl ⟨hmember, hvalue, rfl⟩⟩
      · next m hmember =>
        split at h
        · cases h
        · next hslot =>
          split at h
          · cases h
          · next u hcolon =>
            cases hvalue : (sch.codec m).read u with
            | error e => rw [hvalue] at h; cases h
            | ok x =>
              obtain ⟨a, rest⟩ := x
              rw [hvalue] at h
              cases h
              exact Or.inr ⟨name, u, ⟨v, hname, hcolon⟩,
                Or.inr ⟨m, a, hmember, by simpa using hslot, hvalue, rfl⟩⟩
  · rintro (⟨rfl, hname⟩ | ⟨name, u, ⟨v, hname, hcolon⟩,
      (⟨hmember, hvalue, rfl⟩ | ⟨m, a, hmember, hslot, hvalue, rfl⟩)⟩)
    · simp only [readMember, hname]
    · simp only [readMember, hname, hmember, hcolon, hvalue]
      rfl
    · simp only [readMember, hname, hmember, hslot, Option.isSome_none, Bool.false_eq_true,
        if_false, hcolon, hvalue]
      rfl

theorem skipBlank_of_readMember (h : sch.readMember first slots s = .ok (none, r)) :
    skipBlank s = Container.closing .object :: r := by
  obtain ⟨-, hs⟩ | ⟨_, _, -, ⟨-, -, hsome⟩ | ⟨_, _, -, -, -, hsome⟩⟩ := readMember_iff.mp h
  · exact hs
  · cases hsome
  · cases hsome

theorem AtValue.local {name : String} {u : Bytes} (h : AtValue first name s u) :
    ∃ v, s = v ++ u ∧ ∀ t, AtValue first name (v ++ t) t ∧
      (first = false → Delimited (v ++ t)) := by
  obtain ⟨x, hname, hcolon⟩ := h
  obtain ⟨v, rfl, hv⟩ := readName_local hname
  obtain ⟨w, rfl, hw⟩ := readColon_local hcolon
  refine ⟨v ++ w, (List.append_assoc v w u).symm, fun t => ?_⟩
  rw [List.append_assoc]
  exact ⟨⟨_, (hv _).1, hw t⟩, (hv _).2⟩

theorem AtValue.skipRest {name : String} {u : Bytes} (h : AtValue first name s u)
    (outer : List Container) :
    skipRest .object first outer s = skipDue (.object :: outer) u := by
  obtain ⟨v, hname, hcolon⟩ := h
  obtain ⟨w, rest, hat, hw, hread⟩ := readName_some_iff.mp hname
  rw [hat.skipRest hw (by decide)]
  refine skipItems_of_skipToValue ?_
  show skipName w = .ok u
  simp only [skipName, hw, if_true, skipText_of_readString hread, hcolon]

theorem readMember_local (hcodec : ∀ m, (sch.codec m).Definite) {out : Option (Slots Value)}
    (h : sch.readMember first slots s = .ok (out, r)) :
    ∃ v, s = v ++ r ∧ ∀ t, (out ≠ none → Delimited t) →
      sch.readMember first slots (v ++ t) = .ok (out, t) ∧
        (first = false → Delimited (v ++ t)) := by
  obtain ⟨rfl, hs⟩ | ⟨name, u, hat, hvalue⟩ := readMember_iff.mp h
  · obtain ⟨v, rfl, hv⟩ := skipBlank_local hs
    refine ⟨v, rfl, fun t _ => ⟨readMember_iff.mpr (Or.inl ⟨rfl, hv t⟩), fun _ => ?_⟩⟩
    exact delimited_of_skipBlank (hv t) (closing_delimited .object)
  · obtain ⟨v, rfl, hv⟩ := hat.local
    obtain ⟨hmember, hskip, rfl⟩ | ⟨m, a, hmember, hslot, hread, rfl⟩ := hvalue
    · obtain ⟨w, rfl, hw⟩ := skipValue_local hskip
      refine ⟨v ++ w, (List.append_assoc v w r).symm, fun t ht => ?_⟩
      rw [List.append_assoc]
      exact ⟨readMember_iff.mpr (Or.inr ⟨name, _, (hv _).1,
        Or.inl ⟨hmember, hw t (ht nofun), rfl⟩⟩), (hv _).2⟩
    · obtain ⟨w, rfl, hw⟩ := (hcodec m).read_local hread
      refine ⟨v ++ w, (List.append_assoc v w r).symm, fun t ht => ?_⟩
      rw [List.append_assoc]
      exact ⟨readMember_iff.mpr (Or.inr ⟨name, _, (hv _).1,
        Or.inr ⟨m, a, hmember, hslot, hw t (ht nofun), rfl⟩⟩), (hv _).2⟩

theorem readMembers_local (hcodec : ∀ m, (sch.codec m).Definite) {out : Slots Value}
    (h : sch.readMembers first slots s = .ok (out, r)) :
    ∃ v, s = v ++ r ∧ ∀ t, sch.readMembers first slots (v ++ t) = .ok (out, t) ∧
      (first = false → Delimited (v ++ t)) := by
  fun_induction readMembers sch first slots s with
  | case1 => cases h
  | case2 first slots s rest hmember =>
    cases h
    obtain ⟨v, rfl, hv⟩ := readMember_local hcodec hmember
    refine ⟨v, rfl, fun t => ?_⟩
    obtain ⟨hread, hdelimited⟩ := hv t (absurd rfl)
    exact ⟨readMembers_of_none hread, hdelimited⟩
  | case3 first slots s more rest hmember ih =>
    obtain ⟨v, rfl, hv⟩ := readMember_local hcodec hmember
    obtain ⟨w, rfl, hw⟩ := ih h
    refine ⟨v ++ w, (List.append_assoc v w r).symm, fun t => ?_⟩
    obtain ⟨hread, hdelimited⟩ := hv (w ++ t) fun _ => (hw t).2 rfl
    rw [List.append_assoc]
    exact ⟨(readMembers_of_some hread).trans (hw t).1, hdelimited⟩

theorem skipRest_of_readMember (hcodec : ∀ m, (sch.codec m).Definite) {more : Slots Value}
    (h : sch.readMember first slots s = .ok (some more, r)) (outer : List Container) :
    skipRest .object first outer s = skipBehind (.object :: outer) r := by
  obtain ⟨hnone, -⟩ | ⟨name, u, hat, hvalue⟩ := readMember_iff.mp h
  · cases hnone
  · rw [hat.skipRest]
    obtain ⟨-, hskip, -⟩ | ⟨m, a, -, -, hread, -⟩ := hvalue
    · exact skipDue_of_skipValue hskip _
    · exact (hcodec m).passes hread _

theorem skipRest_of_readMembers (hcodec : ∀ m, (sch.codec m).Definite) {out : Slots Value}
    (h : sch.readMembers first slots s = .ok (out, r)) (outer : List Container) :
    skipRest .object first outer s = skipBehind outer r := by
  fun_induction readMembers sch first slots s with
  | case1 => cases h
  | case2 first slots s rest hmember =>
    cases h
    exact skipRest_closing (skipBlank_of_readMember hmember) first outer
  | case3 first slots s more rest hmember ih =>
    rw [skipRest_of_readMember hcodec hmember outer]
    exact ih h

/-! ## The items of a list -/

theorem readItemStart_true_iff :
    readItemStart first s = .ok (true, r) ↔
      ∃ u b rest, AtItem first s u ∧ skipBlank u = r ∧ r = b :: rest ∧
        b ≠ Container.closing .list := by
  constructor
  · intro h
    unfold readItemStart at h
    split at h
    · cases h
    · next b rest hs =>
      split at h
      · cases h
      · next hb =>
        split at h
        · next hfirst =>
          subst hfirst
          cases h
          exact ⟨s, b, rest, rfl, hs, rfl, hb⟩
        · next hfirst =>
          rw [Bool.not_eq_true] at hfirst
          subst hfirst
          split at h
          · next hcomma =>
            split at h
            · cases h
            · next c rest' hs' =>
              split at h
              · cases h
              · next hc =>
                cases h
                exact ⟨rest, c, rest', by rw [AtItem, hs, hcomma], hs', rfl, hc⟩
          · cases h
  · rintro ⟨u, b, rest, hat, hu, rfl, hb⟩
    cases first with
    | true =>
      cases hat
      simp only [readItemStart, hu, if_neg hb, if_true]
    | false =>
      have hcomma : skipBlank s = byte ',' :: u := hat
      simp only [readItemStart, hcomma, hu, if_neg hb, Bool.false_eq_true, if_false, if_true]
      rfl

theorem readItemStart_false_iff :
    readItemStart first s = .ok (false, r) ↔
      skipBlank s = r ∧ ∃ rest, r = Container.closing .list :: rest := by
  constructor
  · intro h
    unfold readItemStart at h
    split at h
    · cases h
    · next b rest hs =>
      split at h
      · next hb =>
        cases h
        exact ⟨hs, rest, by rw [hb]⟩
      · split at h
        · cases h
        · split at h
          · split at h
            · cases h
            · split at h <;> cases h
          · cases h
  · rintro ⟨hs, rest, rfl⟩
    simp only [readItemStart, hs, if_true]

theorem readListEnd_iff : readListEnd s = .ok r ↔ skipBlank s = Container.closing .list :: r := by
  constructor
  · intro h
    unfold readListEnd at h
    split at h
    · cases h
    · next b rest hs =>
      split at h
      · next hb =>
        cases h
        rw [hs, hb]
      · split at h <;> cases h
  · intro h
    simp only [readListEnd, h, if_true]

variable {count : Nat} {ms : List ι} {out : Slots Value × Nat} {u : Bytes}

theorem readItems_local (hcodec : ∀ m, (sch.codec m).Definite)
    (h : sch.readItems first slots count ms s = .ok (out, u)) (hend : readListEnd u = .ok r) :
    ∃ v, s = v ++ r ∧ ∀ t, (∃ u', sch.readItems first slots count ms (v ++ t) = .ok (out, u') ∧
      readListEnd u' = .ok t) ∧ (first = false → Delimited (v ++ t)) := by
  induction ms generalizing first slots count s with
  | nil =>
    cases h
    obtain ⟨v, rfl, hv⟩ := skipBlank_local (readListEnd_iff.mp hend)
    refine ⟨v, rfl, fun t => ⟨⟨v ++ t, rfl, readListEnd_iff.mpr (hv t)⟩, fun _ => ?_⟩⟩
    exact delimited_of_skipBlank (hv t) (closing_delimited .list)
  | cons m ms ih =>
    rw [readItems] at h
    split at h
    · cases h
    · next s' hstart =>
      cases h
      obtain ⟨hs, rest, rfl⟩ := readItemStart_false_iff.mp hstart
      rw [readListEnd_iff, skipBlank_self (by decide)] at hend
      cases hend
      obtain ⟨v, rfl, hv⟩ := skipBlank_local hs
      refine ⟨v, rfl, fun t => ⟨⟨Container.closing .list :: t, ?_, ?_⟩, fun _ => ?_⟩⟩
      · rw [readItems, readItemStart_false_iff.mpr ⟨hv t, t, rfl⟩]
      · exact readListEnd_iff.mpr (skipBlank_self (by decide) t)
      · exact delimited_of_skipBlank (hv t) (closing_delimited .list)
    · next s' hstart =>
      split at h
      · cases h
      · next a s'' hread =>
        obtain ⟨x, b, rest, hat, hx, rfl, hb⟩ := readItemStart_true_iff.mp hstart
        obtain ⟨v, rfl, hv⟩ := hat.local
        obtain ⟨lead, rfl, hlead⟩ := skipBlank_local hx
        obtain ⟨w, hw, hlocal⟩ := (hcodec m).read_local hread
        obtain ⟨w, rfl, rfl⟩ := eq_cons_of_append hw ((sch.codec m).length_read_lt hread)
        obtain ⟨y, rfl, hy⟩ := ih h
        refine ⟨v ++ (lead ++ (w ++ y)), by simp, fun t => ?_⟩
        simp only [List.append_assoc]
        obtain ⟨⟨u', hitems, hend'⟩, hdelimited⟩ := hy t
        refine ⟨⟨u', ?_, hend'⟩, (hv _).2⟩
        have hstart' : readItemStart first (v ++ (lead ++ (w ++ (y ++ t)))) =
            .ok (true, b :: (w ++ (y ++ t))) :=
          readItemStart_true_iff.mpr ⟨_, b, _, (hv _).1, hlead _, rfl, hb⟩
        have hread' := hlocal (y ++ t) (hdelimited rfl)
        rw [List.cons_append] at hread'
        rw [readItems, hstart']
        simp only [hread', hitems]

theorem skipRest_of_readItems (hcodec : ∀ m, (sch.codec m).Definite)
    (h : sch.readItems first slots count ms s = .ok (out, u)) (hend : readListEnd u = .ok r)
    (outer : List Container) : skipRest .list first outer s = skipBehind outer r := by
  induction ms generalizing first slots count s with
  | nil =>
    cases h
    exact skipRest_closing (readListEnd_iff.mp hend) first outer
  | cons m ms ih =>
    rw [readItems] at h
    split at h
    · cases h
    · next s' hstart =>
      cases h
      obtain ⟨hs, rest, rfl⟩ := readItemStart_false_iff.mp hstart
      rw [readListEnd_iff, skipBlank_self (by decide)] at hend
      cases hend
      exact skipRest_closing hs first outer
    · next s' hstart =>
      split at h
      · cases h
      · next a s'' hread =>
        obtain ⟨x, b, rest, hat, hx, rfl, hb⟩ := readItemStart_true_iff.mp hstart
        have hbehind : skipDue (.list :: outer) x = skipBehind (.list :: outer) s'' := by
          rw [← (hcodec m).passes hread]
          exact skipDue_congr (hx.trans (skipBlank_self (isBlank_of_skipBlank hx) rest).symm) _
        rw [hat.skipRest hx hb, skipItems_of_skipToValue rfl, hbehind]
        exact ih h

/-! ## Records -/

/-- A record is an object or a list, behind blanks. -/
theorem read_iff {a : σ} :
    sch.read s = .ok (a, r) ↔
      ∃ rest, (skipBlank s = Container.opening .object :: rest ∧
          ∃ slots, sch.readMembers true Slots.none rest = .ok (slots, r) ∧
            sch.build slots = .ok a) ∨
        (skipBlank s = Container.opening .list :: rest ∧
          ∃ slots count u, sch.readItems true Slots.none 0 sch.members rest =
            .ok ((slots, count), u) ∧ sch.build slots = .ok a ∧ readListEnd u = .ok r) := by
  constructor
  · intro h
    unfold read at h
    split at h
    · cases h
    · next b rest hs =>
      refine ⟨rest, ?_⟩
      split at h
      · next hb =>
        unfold readObject at h
        split at h
        · cases h
        · next slots rest' hmembers =>
          split at h
          · next hbuild =>
            cases h
            exact Or.inl ⟨by rw [hs, hb], slots, hmembers, hbuild⟩
          · cases h
      split at h
      · next hb =>
        unfold readList at h
        split at h
        · cases h
        · next slots count u hitems =>
          split at h
          · cases h
          · next hbuild =>
            cases hend : readListEnd u with
            | error e => rw [hend] at h; cases h
            | ok rest' =>
              rw [hend] at h
              cases h
              exact Or.inr ⟨by rw [hs, hb], slots, count, u, hitems, hbuild, hend⟩
      · cases h
  · rintro ⟨rest, ⟨hs, slots, hmembers, hbuild⟩ | ⟨hs, slots, count, u, hitems, hbuild, hend⟩⟩
    · rw [read, hs]
      simp only [if_true, readObject, hmembers, hbuild]
    · rw [read, hs]
      simp only [if_true, readList, hitems, hbuild, hend]
      rfl

theorem definite (hcodec : ∀ m, (sch.codec m).Definite) : sch.toCodec.Definite where
  read_congr := by
    intro s s' h
    show sch.read s = sch.read s'
    rw [read, read, h]
  read_local := by
    intro s r a h
    obtain ⟨rest, ⟨hs, slots, hmembers, hbuild⟩ | ⟨hs, slots, count, u, hitems, hbuild, hend⟩⟩ :=
      read_iff.mp h
    · obtain ⟨lead, rfl, hlead⟩ := skipBlank_local hs
      obtain ⟨v, rfl, hv⟩ := readMembers_local hcodec hmembers
      refine ⟨lead ++ v, (List.append_assoc lead v r).symm, fun t _ => ?_⟩
      rw [List.append_assoc]
      exact read_iff.mpr ⟨_, Or.inl ⟨hlead _, slots, (hv t).1, hbuild⟩⟩
    · obtain ⟨lead, rfl, hlead⟩ := skipBlank_local hs
      obtain ⟨v, rfl, hv⟩ := readItems_local hcodec hitems hend
      refine ⟨lead ++ v, (List.append_assoc lead v r).symm, fun t _ => ?_⟩
      obtain ⟨⟨u', hitems', hend'⟩, -⟩ := hv t
      rw [List.append_assoc]
      exact read_iff.mpr ⟨_, Or.inr ⟨hlead _, slots, count, u', hitems', hbuild, hend'⟩⟩
  passes := by
    intro s r a h outer
    obtain ⟨rest, ⟨hs, slots, hmembers, -⟩ | ⟨hs, slots, count, u, hitems, -, hend⟩⟩ :=
      read_iff.mp h
    · have hstart : skipStart s = .ok (some .object, rest) := by
        rw [skipStart, hs]
        rfl
      rw [skipDue, hstart]
      exact skipRest_of_readMembers hcodec hmembers outer
    · have hstart : skipStart s = .ok (some .list, rest) := by
        rw [skipStart, hs]
        rfl
      rw [skipDue, hstart]
      exact skipRest_of_readItems hcodec hitems hend outer

end Schema
end Json
end PadRelay
