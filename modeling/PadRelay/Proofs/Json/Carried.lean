import PadRelay.Proofs.Json.Members

/-!
# PadRelay.Proofs.Json.Carried

Values that stand further in: a change of the text of one is a change of the value that is read
for it, and of nothing else.

* `Carries`: a reader that, behind a front, reads what another one reads there.
* `Carries.trans`: through several records. `Carries.replace`: another value in the same place.
* `Schema.Before`: the front up to the value of a member, in an object or in a list.
* `Schema.Before.carries`: a record carries such a value.
-/

namespace PadRelay
namespace Json

variable {α β γ : Type} {s r : Bytes}

def Opened (s : Bytes) : Prop := ∃ (c : Container) (rest : Bytes), s = c.opening :: rest

theorem Opened.skipBlank (h : Opened s) : skipBlank s = s := by
  obtain ⟨c, rest, rfl⟩ := h
  exact skipBlank_self (by cases c <;> decide) rest

theorem Opened.append (h : Opened s) (t : Bytes) : Opened (s ++ t) := by
  obtain ⟨c, rest, rfl⟩ := h
  exact ⟨c, rest ++ t, rfl⟩

theorem opened_objectText (ms : List MemberText) : Opened (objectText ms) := ⟨.object, _, rfl⟩

/-- Something stands at the front that does not end a list. -/
def Begins (s : Bytes) : Prop := ∃ b rest, skipBlank s = b :: rest ∧ b ≠ Container.closing .list

theorem Opened.begins (h : Opened s) : Begins s := by
  have hskip := h.skipBlank
  obtain ⟨c, rest, rfl⟩ := h
  exact ⟨_, rest, hskip, by cases c <;> decide⟩

theorem begins_of_skipValue {v : Bytes} (hv : skipValue v = .ok []) (s : Bytes) :
    Begins (v ++ s) := by
  rw [skipValue_eq_skipDue, skipDue] at hv
  cases hstart : skipStart v with
  | error e => rw [hstart] at hv; cases hv
  | ok x =>
    obtain ⟨b, rest, hs, hb⟩ := skipStart_starts hstart
    obtain ⟨w, hw, hlead⟩ := skipBlank_local hs
    exact ⟨b, rest ++ s, by rw [hw, List.append_assoc, hlead], hb .list⟩

/-- Behind this front, `outer` reads what starts there as `inner` does and goes on with `behind`.
The value that was read is then held by what comes of it, but how far that goes does not depend on
it. -/
structure Carries (starts : Bytes → Prop) (outer : Bytes → Result α) (inner : Bytes → Result β)
    (front : Bytes) (holds : α → β → Prop) (behind : β → Bytes → Result α) : Prop where
  read : ∀ {s}, starts s → outer (front ++ s) = (inner s).bind fun x => behind x.1 x.2
  holds : ∀ {a t x r}, behind a t = .ok (x, r) → holds x a
  change : ∀ {a t x r}, behind a t = .ok (x, r) → ∀ a', ∃ x', behind a' t = .ok (x', r)

section

variable {starts starts' : Bytes → Prop} {outer : Bytes → Result α} {middle : Bytes → Result β}
  {inner : Bytes → Result γ} {front front' : Bytes} {behind : β → Bytes → Result α}
  {behind' : γ → Bytes → Result β} {holds : α → β → Prop} {holds' : β → γ → Prop} {x : α}

theorem Carries.trans (h : Carries starts outer middle front holds behind)
    (h' : Carries starts' middle inner front' holds' behind')
    (hstarts : ∀ {s}, starts' s → starts (front' ++ s)) :
    Carries starts' outer inner (front ++ front') (fun x c => ∃ b, holds x b ∧ holds' b c)
      fun c t => (behind' c t).bind fun x => behind x.1 x.2 where
  read := by
    intro s hs
    rw [List.append_assoc, h.read (hstarts hs), h'.read hs]
    cases inner s <;> rfl
  holds := by
    intro c t x r hx
    cases hmiddle : behind' c t with
    | error e => rw [hmiddle] at hx; cases hx
    | ok y =>
      rw [hmiddle] at hx
      exact ⟨y.1, h.holds hx, h'.holds hmiddle⟩
  change := by
    intro c t x r hx c'
    cases hmiddle : behind' c t with
    | error e => rw [hmiddle] at hx; cases hx
    | ok y =>
      rw [hmiddle] at hx
      obtain ⟨b, hb⟩ := h'.change hmiddle c'
      obtain ⟨x', hx'⟩ := h.change hx b
      exact ⟨x', by rw [hb]; exact hx'⟩

theorem Carries.imp {holds' : α → β → Prop} (h : Carries starts outer middle front holds behind)
    (himp : ∀ {x a}, holds x a → holds' x a) : Carries starts outer middle front holds' behind :=
  ⟨h.read, fun hx => himp (h.holds hx), h.change⟩

theorem Carries.ok (h : Carries starts outer middle front holds behind) (hs : starts s)
    (hread : outer (front ++ s) = .ok (x, r)) :
    ∃ a t, middle s = .ok (a, t) ∧ behind a t = .ok (x, r) := by
  rw [h.read hs] at hread
  cases hmiddle : middle s with
  | error e => rw [hmiddle] at hread; cases hread
  | ok y => exact ⟨y.1, y.2, rfl, by rw [hmiddle] at hread; exact hread⟩

/-- In place of one value another one is read just as far, if it is read there at all. -/
theorem Carries.replace {c : Codec β} (h : Carries starts outer c.read front holds behind)
    (hc : c.Definite) {v w t : Bytes} (hw : skipValue w = .ok []) (ht : Delimited t)
    (hstarts : ∀ {v}, skipValue v = .ok [] → starts (v ++ t))
    (hread : outer (front ++ (w ++ t)) = .ok (x, r)) (hv : skipValue v = .ok []) :
    ((∃ y, outer (front ++ (v ++ t)) = .ok y) ↔ ∃ a, c.read (v ++ t) = .ok (a, t)) ∧
      ∀ {x' r'}, outer (front ++ (v ++ t)) = .ok (x', r') →
        r' = r ∧ ∃ a, c.read (v ++ t) = .ok (a, t) ∧ holds x' a := by
  have hstop : ∀ {v u a}, skipValue v = .ok [] → c.read (v ++ t) = .ok (a, u) → u = t :=
    fun hv hread => (hc.read_append hv ht hread).1
  obtain ⟨b, u, hb, hbehind⟩ := h.ok (hstarts hw) hread
  obtain rfl := hstop hw hb
  have hput : ∀ {a}, c.read (v ++ u) = .ok (a, u) →
      ∃ x', outer (front ++ (v ++ u)) = .ok (x', r) := by
    intro a ha
    obtain ⟨x', hx'⟩ := h.change hbehind a
    exact ⟨x', by rw [h.read (hstarts hv), ha]; exact hx'⟩
  refine ⟨⟨?_, fun ⟨a, ha⟩ => ?_⟩, ?_⟩
  · rintro ⟨y, hy⟩
    obtain ⟨a, t', ha, -⟩ := h.ok (hstarts hv) hy
    obtain rfl := hstop hv ha
    exact ⟨a, ha⟩
  · obtain ⟨x', hx'⟩ := hput ha
    exact ⟨_, hx'⟩
  · intro x' r' hx'
    obtain ⟨a, t', ha, hbehind'⟩ := h.ok (hstarts hv) hx'
    obtain rfl := hstop hv ha
    obtain ⟨y, hy⟩ := hput ha
    rw [hx'] at hy
    cases hy
    exact ⟨rfl, a, ha, h.holds hbehind'⟩

end

/-- Behind a front that carries a record, its object can do without any one of its members. -/
theorem Carries.without {ι σ : Type} [DecidableEq ι] {Value : ι → Type} {sch : Schema ι Value σ}
    {starts : Bytes → Prop} {outer : Bytes → Result α} {front : Bytes} {holds : α → σ → Prop}
    {behind : σ → Bytes → Result α} (h : Carries starts outer sch.read front holds behind)
    (hstarts : ∀ {s}, Opened s → starts s) (hcodec : ∀ i, (sch.codec i).Definite)
    (hbuild : ∀ slots, ∃ a, sch.build slots = .ok a) {fault : ι → Option DecodeError}
    (hnull : ∀ i, sch.ReadsNull i (fault i)) {before after : List MemberText} {m : MemberText}
    {rest : Bytes} {x : α}
    (hread : outer (front ++ (objectText (before ++ m :: after) ++ rest)) = .ok (x, r)) :
    ∃ x', outer (front ++ (objectText (before ++ after) ++ rest)) = .ok (x', r) ∧
      outer (front ++ (objectText (before ++ m.null :: after) ++ rest)) =
        match (sch.member? m.name).bind fault with
        | none => .ok (x', r)
        | some e => .error e := by
  have hopened : ∀ ms, starts (objectText ms ++ rest) :=
    fun ms => hstarts ((opened_objectText ms).append rest)
  obtain ⟨a, t, hobject, hbehind⟩ := h.ok (hopened _) hread
  obtain ⟨rfl, a', hwithout, hwith⟩ := Schema.read_without hcodec hbuild hnull hobject
  obtain ⟨x', hx'⟩ := h.change hbehind a'
  refine ⟨x', ?_, ?_⟩
  · rw [h.read (hopened _), hwithout]
    exact hx'
  · rw [h.read (hopened _), hwith]
    cases (sch.member? m.name).bind fault with
    | none => exact hx'
    | some e => rfl

/-- A container is no `null`. -/
theorem optional_carries (c : Codec α) :
    Carries Opened (Codec.optional c).read c.read [] (fun x a => x = some a)
      fun a t => .ok (some a, t) where
  read := by
    intro s hs
    obtain ⟨d, rest, rfl⟩ := hs
    have hskip : skipBlank (d.opening :: rest) = d.opening :: rest :=
      Opened.skipBlank ⟨d, rest, rfl⟩
    have hn : d.opening ≠ byte 'n' := by cases d <;> decide
    show Codec.readOptional c (d.opening :: rest) = _
    simp only [Codec.readOptional, hskip, if_neg hn]
    cases c.read (d.opening :: rest) <;> rfl
  holds := by
    intro a t x r hx
    cases hx
    rfl
  change := by
    intro a t x r hx a'
    cases hx
    exact ⟨some a', rfl⟩

namespace Schema

variable {ι : Type} [DecidableEq ι] {Value : ι → Type} {σ : Type} {sch : Schema ι Value σ}
  {first : Bool} {slots : Slots Value} {i : ι} {front : Bytes}

theorem opened_of_read {a : σ} (hs : skipBlank s = s) (h : sch.read s = .ok (a, r)) : Opened s := by
  obtain ⟨rest, ⟨hskip, -⟩ | ⟨hskip, -⟩⟩ := read_iff.mp h
  · exact ⟨.object, rest, hs.symm.trans hskip⟩
  · exact ⟨.list, rest, hs.symm.trans hskip⟩

/-- The text of a record up to the value that is read for this member: in an object up to behind
its name, in a list up to behind the items for the members before it. -/
inductive Before (sch : Schema ι Value σ) (i : ι) : Bytes → Prop where
  | object {before : List MemberText} {n : NameText} {blanks : Bytes} :
      sch.member? n.name = some i → (∀ b ∈ blanks, isBlank b = true) →
        Before sch i (byte '\x7b' ::
          (before.flatMap (fun m => m.bytes ++ [byte ',']) ++ (n.bytes ++ blanks)))
  | list {items : List ValueText} {blanks : Bytes} :
      sch.members[items.length]? = some i → (∀ b ∈ blanks, isBlank b = true) →
        Before sch i (byte '[' :: (items.flatMap (fun v => v.bytes ++ [byte ',']) ++ blanks))

omit [DecidableEq ι] in
/-- The text up to the value of the first member of an object. -/
theorem before_name {n : NameText} (h : sch.member? n.name = some i) :
    sch.Before i (byte '\x7b' :: n.bytes) := by
  have hbefore : sch.Before i (byte '\x7b' ::
      ([].flatMap (fun m : MemberText => m.bytes ++ [byte ',']) ++ (n.bytes ++ []))) :=
    .object h nofun
  rwa [List.flatMap_nil, List.nil_append, List.append_nil] at hbefore

omit [DecidableEq ι] in
theorem Before.opened (h : sch.Before i front) (s : Bytes) : Opened (front ++ s) := by
  cases h with
  | object => exact ⟨.object, _, rfl⟩
  | list => exact ⟨.list, _, rfl⟩

/-! ## In an object -/

def finishObject (sch : Schema ι Value σ) : Result (Slots Value) → Result σ
  | .error e => .error e
  | .ok (slots, rest) =>
    match sch.build slots with
    | .ok a => .ok (a, rest)
    | .error m => .error (.missingMember (sch.name m))

theorem readObject_eq (s : Bytes) :
    sch.readObject s = sch.finishObject (sch.readMembers true Slots.none s) := rfl

/-- The members behind a value do not change it and are read the same with another one. -/
theorem readMembers_update {out : Slots Value} (h : sch.readMembers first slots s = .ok (out, r))
    (hi : (slots i).isSome = true) {v : Option (Value i)} (hv : v.isSome = true) :
    sch.readMembers first (Function.update slots i v) s = .ok (Function.update out i v, r) := by
  fun_induction readMembers sch first slots s with
  | case1 => cases h
  | case2 first slots s rest hmember =>
    cases h
    exact readMembers_of_end first _ (skipBlank_of_readMember hmember)
  | case3 first slots s more rest hmember ih =>
    obtain ⟨hnone, -⟩ | ⟨name, u, hat, hvalue⟩ := readMember_iff.mp hmember
    · cases hnone
    obtain ⟨hother, hskip, hsome⟩ | ⟨j, a, hj, hslot, hread, hsome⟩ := hvalue
    · cases hsome
      rw [readMembers_of_some (readMember_iff.mpr (.inr ⟨name, u, hat, .inl ⟨hother, hskip, rfl⟩⟩))]
      exact ih h hi
    · cases hsome
      have hne : j ≠ i := by
        rintro rfl
        rw [hslot] at hi
        cases hi
      have hslot' : Function.update slots i v j = none := by
        rw [Function.update_of_ne hne, hslot]
      have hmore := ih h (by rwa [Slots.put_of_ne _ hne])
      rw [put_eq_update, Function.update_comm hne, ← put_eq_update] at hmore
      rw [readMembers_of_some (readMember_iff.mpr
        (.inr ⟨name, u, hat, .inr ⟨j, a, hj, hslot', hread, rfl⟩⟩))]
      exact hmore

theorem readMembers_put {out : Slots Value} {a : Value i}
    (h : sch.readMembers first (slots.put i a) s = .ok (out, r)) (a' : Value i) :
    sch.readMembers first (slots.put i a') s = .ok (out.put i a', r) := by
  have hput := readMembers_update h (by rw [Slots.put_self]; rfl) (v := some a') rfl
  rwa [put_eq_update, Function.update_idem, ← put_eq_update, ← put_eq_update] at hput

theorem finishObject_put (hbuild : ∀ slots, (slots i).isSome = true → ∃ a, sch.build slots = .ok a)
    {a : Value i} {x : σ}
    (h : sch.finishObject (sch.readMembers first (slots.put i a) s) = .ok (x, r)) (a' : Value i) :
    ∃ x', sch.finishObject (sch.readMembers first (slots.put i a') s) = .ok (x', r) := by
  cases hmembers : sch.readMembers first (slots.put i a) s with
  | error e => rw [hmembers] at h; cases h
  | ok y =>
    obtain ⟨out, u⟩ := y
    obtain ⟨x', hx'⟩ := hbuild (out.put i a') (by rw [Slots.put_self]; rfl)
    rw [hmembers, finishObject] at h
    rw [readMembers_put hmembers a', finishObject]
    simp only [hx']
    refine ⟨x', ?_⟩
    split at h
    · cases h; rfl
    · cases h

theorem holds_of_finishObject {a : Value i} {x : σ}
    (h : sch.finishObject (sch.readMembers first (slots.put i a) s) = .ok (x, r)) :
    ∃ out : Slots Value, sch.build out = .ok x ∧ out i = some a := by
  cases hmembers : sch.readMembers first (slots.put i a) s with
  | error e => rw [hmembers] at h; cases h
  | ok y =>
    obtain ⟨out, u⟩ := y
    have hput := readMembers_put hmembers a
    rw [hmembers, Except.ok.injEq, Prod.mk.injEq] at hput
    rw [hmembers, finishObject] at h
    split at h
    · next hbuild =>
      cases h
      exact ⟨out, hbuild, by rw [hput.1, Slots.put_self]⟩
    · cases h

theorem read_before_object (hcodec : ∀ i, (sch.codec i).Definite) {before : List MemberText}
    {n : NameText} {blanks : Bytes} (hmember : sch.member? n.name = some i)
    (hblanks : ∀ b ∈ blanks, isBlank b = true) {a : σ}
    (hread : sch.read (byte '\x7b' :: (before.flatMap (fun m => m.bytes ++ [byte ',']) ++
      (n.bytes ++ blanks)) ++ s) = .ok (a, r)) :
    ∃ slots : Slots Value, ∀ t,
      sch.read (byte '\x7b' :: (before.flatMap (fun m => m.bytes ++ [byte ',']) ++
        (n.bytes ++ blanks)) ++ t) =
        ((sch.codec i).read t).bind fun x =>
          sch.finishObject (sch.readMembers false (slots.put i x.1) x.2) := by
  have htext : ∀ t, sch.read (byte '\x7b' :: (before.flatMap (fun m => m.bytes ++ [byte ',']) ++
      (n.bytes ++ blanks)) ++ t) = sch.finishObject (sch.readMembers true Slots.none
        (membersText true before (separator before.isEmpty ++ (n.bytes ++ (blanks ++ t))))) := by
    intro t
    rw [List.cons_append, read_object, readObject_eq, List.append_assoc, List.append_assoc]
    exact congrArg (fun u => sch.finishObject (sch.readMembers true Slots.none u))
      (flatMap_append_comma true before _)
  have hdelimited : ∀ t, Delimited (separator before.isEmpty ++ (n.bytes ++ (blanks ++ t))) := by
    intro t
    cases before with
    | nil => exact delimited_bytes n _
    | cons m before => exact delimited_cons (by decide) _
  rw [htext] at hread
  cases hmembers : sch.readMembers true Slots.none
      (membersText true before (separator before.isEmpty ++ (n.bytes ++ (blanks ++ s)))) with
  | error e => rw [hmembers] at hread; cases hread
  | ok x =>
    obtain ⟨out, u⟩ := x
    obtain ⟨slots, htakes, hrest⟩ := takes_of_readMembers hcodec (hdelimited s) hmembers
    rw [Bool.true_and] at hrest
    -- else the member would be reported as repeated
    have hslot : slots i = none := by
      cases hslot : slots i with
      | none => rfl
      | some v =>
        rw [readMembers_repeated hmember (by rw [hslot]; rfl)] at hrest
        cases hrest
    refine ⟨slots, fun t => ?_⟩
    rw [htext, htakes.readMembers true (hdelimited t), Bool.true_and,
      readMembers_named hmember hslot, (hcodec i).read_congr (skipBlank_of_blanks hblanks t)]
    cases (sch.codec i).read t <;> rfl

/-! ## In a list -/

def finishList (sch : Schema ι Value σ) : Result (Slots Value × Nat) → Result σ
  | .error e => .error e
  | .ok ((slots, count), s) =>
    match sch.build slots with
    | .error _ => .error (.tooShort count sch.kind sch.members.length)
    | .ok a => (readListEnd s).map (a, ·)

theorem read_list (s : Bytes) :
    sch.read (byte '[' :: s) =
      sch.finishList (sch.readItems true Slots.none 0 sch.members s) := by
  rw [read, skipBlank_self (by decide)]
  rfl

variable {count : Nat} {is : List ι}

theorem readItems_update {out : Slots Value × Nat}
    (h : sch.readItems first slots count is s = .ok (out, r)) (hi : i ∉ is)
    (v : Option (Value i)) :
    sch.readItems first (Function.update slots i v) count is s =
      .ok ((Function.update out.1 i v, out.2), r) := by
  induction is generalizing first slots count s with
  | nil => cases h; rfl
  | cons j is ih =>
    obtain ⟨hne, hi⟩ := not_or.mp (mt List.mem_cons.mpr hi)
    rw [readItems] at h ⊢
    split at h
    · cases h
    · cases h; rfl
    · split at h
      · cases h
      · have hmore := ih h hi
        rwa [put_eq_update, Function.update_comm (Ne.symm hne), ← put_eq_update] at hmore

theorem readItems_put {out : Slots Value × Nat} {a : Value i}
    (h : sch.readItems first (slots.put i a) count is s = .ok (out, r)) (hi : i ∉ is)
    (a' : Value i) :
    sch.readItems first (slots.put i a') count is s = .ok ((out.1.put i a', out.2), r) := by
  have hput := readItems_update h hi (some a')
  rwa [put_eq_update, Function.update_idem, ← put_eq_update, ← put_eq_update] at hput

theorem finishList_put (hbuild : ∀ slots, (slots i).isSome = true → ∃ a, sch.build slots = .ok a)
    {a : Value i} {x : σ} (hi : i ∉ is)
    (h : sch.finishList (sch.readItems first (slots.put i a) count is s) = .ok (x, r))
    (a' : Value i) :
    ∃ x', sch.finishList (sch.readItems first (slots.put i a') count is s) = .ok (x', r) := by
  cases hitems : sch.readItems first (slots.put i a) count is s with
  | error e => rw [hitems] at h; cases h
  | ok y =>
    obtain ⟨⟨out, count'⟩, u⟩ := y
    obtain ⟨x', hx'⟩ := hbuild (out.put i a') (by rw [Slots.put_self]; rfl)
    rw [hitems, finishList] at h
    rw [readItems_put hitems hi a', finishList]
    simp only [hx']
    refine ⟨x', ?_⟩
    split at h
    · cases h
    · obtain ⟨hend, -⟩ := map_pair_eq_ok h
      rw [hend]
      rfl

theorem holds_of_finishList {a : Value i} {x : σ} (hi : i ∉ is)
    (h : sch.finishList (sch.readItems first (slots.put i a) count is s) = .ok (x, r)) :
    ∃ out : Slots Value, sch.build out = .ok x ∧ out i = some a := by
  cases hitems : sch.readItems first (slots.put i a) count is s with
  | error e => rw [hitems] at h; cases h
  | ok y =>
    obtain ⟨⟨out, count'⟩, u⟩ := y
    have hput := readItems_put hitems hi a
    rw [hitems, Except.ok.injEq, Prod.mk.injEq, Prod.mk.injEq] at hput
    rw [hitems, finishList] at h
    split at h
    · cases h
    · next hbuild =>
      obtain ⟨-, hx⟩ := map_pair_eq_ok h
      cases hx
      exact ⟨out, hbuild, by rw [hput.1.1, Slots.put_self]⟩

theorem atItem_separator (first : Bool) (s : Bytes) : AtItem first (separator first ++ s) s := by
  cases first with
  | true => rfl
  | false => exact skipBlank_self (by decide) s

theorem readItems_item (hcodec : ∀ i, (sch.codec i).Definite) {b : UInt8} {rest : Bytes}
    (hs : skipBlank s = b :: rest) (hb : b ≠ Container.closing .list) (first : Bool)
    (slots : Slots Value) (count : Nat) (i : ι) (is : List ι) :
    sch.readItems first slots count (i :: is) (separator first ++ s) =
      ((sch.codec i).read s).bind fun x =>
        sch.readItems false (slots.put i x.1) (count + 1) is x.2 := by
  have hstart : readItemStart first (separator first ++ s) = .ok (true, b :: rest) :=
    readItemStart_true_iff.mpr ⟨s, b, rest, atItem_separator first s, hs, rfl, hb⟩
  have hcongr : (sch.codec i).read (b :: rest) = (sch.codec i).read s :=
    (hcodec i).read_congr ((skipBlank_self (isBlank_of_skipBlank hs) rest).trans hs.symm)
  rw [readItems, hstart]
  simp only [hcongr]
  cases (sch.codec i).read s <;> rfl

theorem readItems_congr {s' : Bytes} (h : skipBlank s = skipBlank s') (first : Bool)
    (slots : Slots Value) (count : Nat) (i : ι) (is : List ι) :
    sch.readItems first slots count (i :: is) s = sch.readItems first slots count (i :: is) s' := by
  rw [readItems, readItems, readItemStart, readItemStart, h]

/-- The items with a comma behind each are read the same whatever stands behind them. -/
theorem readItems_before (hcodec : ∀ i, (sch.codec i).Definite) {items : List ValueText}
    {out : Slots Value × Nat} (hi : is[items.length]? = some i)
    (h : sch.readItems first slots count is
      (separator first ++ (items.flatMap (fun v => v.bytes ++ [byte ',']) ++ s)) = .ok (out, r)) :
    ∃ (slots' : Slots Value) (count' : Nat) (first' : Bool), ∀ t,
      sch.readItems first slots count is
        (separator first ++ (items.flatMap (fun v => v.bytes ++ [byte ',']) ++ t)) =
      sch.readItems first' slots' count' (is.drop items.length) (separator first' ++ t) := by
  induction items generalizing first slots count is with
  | nil => exact ⟨slots, count, first, fun t => rfl⟩
  | cons v items ih =>
    cases is with
    | nil => cases hi
    | cons j is =>
      rw [List.length_cons, List.getElem?_cons_succ] at hi
      have htext : ∀ t, (v :: items).flatMap (fun v => v.bytes ++ [byte ',']) ++ t =
          v.value ++ (v.trail ++
            (separator false ++ (items.flatMap (fun v => v.bytes ++ [byte ',']) ++ t))) := by
        intro t
        simp [ValueText.bytes, separator]
      have hdelimited : ∀ t : Bytes, Delimited (v.trail ++ (separator false ++ t)) :=
        fun t => delimited_append v.trail_blank (delimited_cons (by decide) t)
      have hitem : ∀ t, sch.readItems first slots count (j :: is)
          (separator first ++ (v.value ++ t)) = ((sch.codec j).read (v.value ++ t)).bind fun x =>
            sch.readItems false (slots.put j x.1) (count + 1) is x.2 := by
        intro t
        obtain ⟨b, rest, hs, hb⟩ := begins_of_skipValue v.value_skipped t
        exact readItems_item hcodec hs hb first slots count j is
      simp only [htext, hitem] at h ⊢
      cases hread : (sch.codec j).read (v.value ++ (v.trail ++
          (separator false ++ (items.flatMap (fun v => v.bytes ++ [byte ',']) ++ s)))) with
      | error e => rw [hread] at h; cases h
      | ok x =>
        obtain ⟨a, u⟩ := x
        obtain ⟨rfl, hlocal⟩ := (hcodec j).read_append v.value_skipped (hdelimited _) hread
        rw [hread] at h
        obtain ⟨k, ks, rfl⟩ : ∃ k ks, is = k :: ks := by
          cases is with
          | nil => cases hi
          | cons k ks => exact ⟨k, ks, rfl⟩
        have hblank : ∀ t, sch.readItems false (slots.put j a) (count + 1) (k :: ks)
            (v.trail ++ t) = sch.readItems false (slots.put j a) (count + 1) (k :: ks) t :=
          fun t => readItems_congr (skipBlank_of_blanks v.trail_blank t) false _ _ k ks
        obtain ⟨slots', count', first', hrest⟩ := ih hi ((hblank _).symm.trans h)
        refine ⟨slots', count', first', fun t => ?_⟩
        rw [hlocal _ (hdelimited _)]
        exact (hblank _).trans (hrest t)

theorem read_before_list (hcodec : ∀ i, (sch.codec i).Definite) {items : List ValueText}
    {blanks : Bytes} (hmember : sch.members[items.length]? = some i)
    (hblanks : ∀ b ∈ blanks, isBlank b = true) {a : σ}
    (hread : sch.read (byte '[' :: (items.flatMap (fun v => v.bytes ++ [byte ',']) ++ blanks) ++
      s) = .ok (a, r)) :
    ∃ (slots : Slots Value) (count : Nat), ∀ t, Begins t →
      sch.read (byte '[' :: (items.flatMap (fun v => v.bytes ++ [byte ',']) ++ blanks) ++ t) =
        ((sch.codec i).read t).bind fun x => sch.finishList (sch.readItems false
          (slots.put i x.1) count (sch.members.drop (items.length + 1)) x.2) := by
  have htext : ∀ t, sch.read (byte '[' :: (items.flatMap (fun v => v.bytes ++ [byte ',']) ++
      blanks) ++ t) = sch.finishList (sch.readItems true Slots.none 0 sch.members
        (separator true ++ (items.flatMap (fun v => v.bytes ++ [byte ',']) ++ (blanks ++ t)))) := by
    intro t
    rw [List.cons_append, read_list, List.append_assoc]
    rfl
  rw [htext] at hread
  cases hitems : sch.readItems true Slots.none 0 sch.members
      (separator true ++ (items.flatMap (fun v => v.bytes ++ [byte ',']) ++ (blanks ++ s))) with
  | error e => rw [hitems] at hread; cases hread
  | ok x =>
    obtain ⟨out, u⟩ := x
    obtain ⟨slots, count, first, hbefore⟩ := readItems_before hcodec hmember hitems
    refine ⟨slots, count + 1, fun t ht => ?_⟩
    obtain ⟨b, rest, hskip, hb⟩ := ht
    have hblank := skipBlank_of_blanks hblanks t
    obtain ⟨hlt, hi⟩ := List.getElem?_eq_some_iff.mp hmember
    rw [htext, hbefore, List.drop_eq_getElem_cons hlt, hi,
      readItems_item hcodec (hblank.trans hskip) hb, (hcodec i).read_congr hblank]
    cases (sch.codec i).read t <;> rfl

/-- A record carries the value of a member, if it is one with this member. -/
theorem Before.carries (h : sch.Before i front) (hcodec : ∀ i, (sch.codec i).Definite)
    (hnodup : sch.members.Nodup)
    (hbuild : ∀ slots, (slots i).isSome = true → ∃ a, sch.build slots = .ok a)
    {a : σ} (hread : sch.read (front ++ s) = .ok (a, r)) :
    ∃ behind, Carries Begins sch.read (sch.codec i).read front
      (fun x v => ∃ slots : Slots Value, sch.build slots = .ok x ∧ slots i = some v) behind := by
  cases h with
  | object hmember hblanks =>
    obtain ⟨slots, hobject⟩ := read_before_object hcodec hmember hblanks hread
    exact ⟨fun v t => sch.finishObject (sch.readMembers false (slots.put i v) t),
      fun _ => hobject _, holds_of_finishObject, finishObject_put hbuild⟩
  | @list items blanks hmember hblanks =>
    obtain ⟨slots, count, hlist⟩ := read_before_list hcodec hmember hblanks hread
    have hnext : i ∉ sch.members.drop (items.length + 1) := by
      obtain ⟨hlt, hi⟩ := List.getElem?_eq_some_iff.mp hmember
      have hdrop : (sch.members.drop items.length).Nodup := List.Pairwise.drop hnodup
      rw [List.drop_eq_getElem_cons hlt, hi] at hdrop
      exact (List.nodup_cons.mp hdrop).1
    exact ⟨fun v t => sch.finishList (sch.readItems false (slots.put i v) count
        (sch.members.drop (items.length + 1)) t),
      fun ht => hlist _ ht, holds_of_finishList hnext, finishList_put hbuild hnext⟩

end Schema
end Json
end PadRelay
