import PadRelay.Proofs.Json.Carried

/-!
# PadRelay.Proofs.Json.Located

Every value of a record stands somewhere in the text that the record is read from.

* `Schema.ReadAt`: a value is read behind a front that goes up to its member.
* `Schema.Takes.exists_member`, `Schema.readAt_of_readItems`: the member of an object and the item
  of a list that a value comes from, by induction on those that are read.
* `Schema.exists_readAt`: hence whatever a record is put together from is read somewhere.
-/

namespace PadRelay
namespace Json

variable {s r : Bytes}

theorem exists_blanks (s : Bytes) :
    ∃ blanks, s = blanks ++ skipBlank s ∧ ∀ b ∈ blanks, isBlank b = true :=
  ⟨s.takeWhile isBlank, List.takeWhile_append_dropWhile.symm,
    List.all_eq_true.mp List.all_takeWhile⟩

theorem read_of_optional {α : Type} {c : Codec α} {a : α} (hs : skipBlank s = s)
    (h : (Codec.optional c).read s = .ok (some a, r)) : c.read s = .ok (a, r) := by
  replace h : Codec.readOptional c s = .ok (some a, r) := h
  unfold Codec.readOptional at h
  rw [hs] at h
  cases s with
  | nil => cases h
  | cons b rest =>
    simp only at h
    split at h
    · exact absurd (map_pair_eq_ok h).2.symm (Option.some_ne_none a)
    · cases hread : c.read (b :: rest) with
      | error e => rw [hread] at h; cases h
      | ok x => rw [hread] at h; cases h; rfl

namespace Schema

variable {ι : Type} [DecidableEq ι] {Value : ι → Type} {σ : Type} {sch : Schema ι Value σ}
  {first : Bool} {slots slots' : Slots Value} {i : ι} {v : Value i}

/-- This value of a record is read behind a front that goes up to its member. -/
def ReadAt (sch : Schema ι Value σ) (s : Bytes) (i : ι) (v : Value i) : Prop :=
  ∃ front u r, sch.Before i front ∧ s = front ++ u ∧ skipBlank u = u ∧
    (sch.codec i).read u = .ok (v, r)

/-! ## In an object -/

theorem Takes.apply_eq_some {ms : List MemberText} (h : sch.Takes slots ms slots')
    (hi : slots i = some v) : slots' i = some v := by
  induction h with
  | nil => exact hi
  | other _ _ ih => exact ih hi
  | @own slots _ _ _ j _ _ hslot _ _ ih =>
    have hne : j ≠ i := by
      rintro rfl
      rw [hslot] at hi
      cases hi
    exact ih (by rw [Slots.put_of_ne _ hne, hi])

theorem Takes.exists_member {ms : List MemberText} (h : sch.Takes slots ms slots')
    (hbefore : slots i = none) (hbehind : slots' i = some v) :
    ∃ before m after, ms = before ++ m :: after ∧ sch.member? m.name = some i ∧
      ∀ t, Delimited t → (sch.codec i).read (m.value ++ t) = .ok (v, t) := by
  induction h with
  | nil => rw [hbefore] at hbehind; cases hbehind
  | @other _ _ m _ _ _ ih =>
    obtain ⟨before, m', after, rfl, hfound⟩ := ih hbefore hbehind
    exact ⟨m :: before, m', after, rfl, hfound⟩
  | @own slots slots' m ms j a hmember hslot hread hms ih =>
    by_cases hj : j = i
    · subst hj
      rw [hms.apply_eq_some (Slots.put_self slots j a)] at hbehind
      cases hbehind
      exact ⟨[], m, ms, rfl, hmember, hread⟩
    · obtain ⟨before, m', after, rfl, hfound⟩ :=
        ih (by rw [Slots.put_of_ne _ hj, hbefore]) hbehind
      exact ⟨m :: before, m', after, rfl, hfound⟩

theorem readAt_of_readMembers (hcodec : ∀ i, (sch.codec i).Definite)
    (h : sch.readMembers true Slots.none s = .ok (slots, r)) (hi : slots i = some v) :
    sch.ReadAt (byte '\x7b' :: s) i v := by
  obtain ⟨lead, ms, rfl, hlead, hfirst⟩ := membersText_of_readMembers hcodec h
  have hend : Delimited (byte '\x7d' :: r) := delimited_cons (by decide) r
  rw [readMembers_congr (skipBlank_of_blanks hlead _)] at h
  obtain ⟨slots', htakes, hread⟩ := takes_of_readMembers hcodec hend h
  rw [readMembers_of_end _ _ (skipBlank_self (by decide) r)] at hread
  cases hread
  obtain ⟨before, m, after, rfl, hmember, hvalue⟩ := htakes.exists_member rfl hi
  obtain ⟨blanks, hblank, hblanks⟩ := exists_blanks m.value
  obtain ⟨b, rest, hstart, -⟩ := begins_of_skipValue m.value_skipped []
  rw [List.append_nil] at hstart
  have hdelimited := delimited_append m.trail_blank (delimited_membersText false after hend)
  have hread := hvalue _ hdelimited
  rw [hblank, hstart, List.append_assoc, (hcodec i).read_congr (skipBlank_of_blanks hblanks _)]
    at hread
  have hfront : sch.Before i (byte '\x7b' ::
      (before.flatMap (fun m => m.bytes ++ [byte ',']) ++ (m.toNameText.bytes ++ blanks))) :=
    .object hmember hblanks
  refine ⟨_, _, _, hfront, ?_, ?_, hread⟩
  · rw [hfirst rfl (by simp), List.nil_append, membersText_append, membersText, m.bytes_append,
      ← flatMap_append_comma, hblank, hstart]
    simp [separator]
  · exact skipBlank_self (isBlank_of_skipBlank hstart) _

/-! ## In a list -/

variable {count : Nat} {is : List ι} {out : Slots Value × Nat}

theorem apply_of_readItems (h : sch.readItems first slots count is s = .ok (out, r))
    (hi : i ∉ is) : out.1 i = slots i := by
  have hsame := readItems_update h hi (slots i)
  rw [Function.update_eq_self, h, Except.ok.injEq, Prod.mk.injEq] at hsame
  have hout : out.1 i = Function.update out.1 i (slots i) i := congrArg (fun x => x.1 i) hsame.1
  rwa [Function.update_self] at hout

theorem exists_item (hcodec : ∀ i, (sch.codec i).Definite)
    (h : sch.readItems first slots count is s = .ok (out, r)) (hnodup : is.Nodup)
    (hbefore : slots i = none) (hbehind : out.1 i = some v) :
    ∃ (lead : Bytes) (items : List ValueText) (blanks u t : Bytes),
      s = lead ++ (separator first ++
        (items.flatMap (fun v => v.bytes ++ [byte ',']) ++ (blanks ++ u))) ∧
      (∀ b ∈ lead, isBlank b = true) ∧ (first = true → lead = []) ∧
      (∀ b ∈ blanks, isBlank b = true) ∧ is[items.length]? = some i ∧
      skipBlank u = u ∧ (sch.codec i).read u = .ok (v, t) := by
  induction is generalizing first slots count s with
  | nil =>
    cases h
    exact absurd (hbehind.symm.trans hbefore) (Option.some_ne_none v)
  | cons j is ih =>
    obtain ⟨hj, hnodup⟩ := List.nodup_cons.mp hnodup
    rw [readItems] at h
    split at h
    · cases h
    · cases h
      exact absurd (hbehind.symm.trans hbefore) (Option.some_ne_none v)
    · next s' hstart =>
      split at h
      · cases h
      · next a s'' hread =>
        obtain ⟨x, b, rest, hat, hx, rfl, -⟩ := readItemStart_true_iff.mp hstart
        obtain ⟨lead, rfl, hlead, hfirst⟩ := blanks_of_atItem hat
        have hself := skipBlank_self (isBlank_of_skipBlank hx) rest
        by_cases hi : j = i
        · subst hi
          rw [apply_of_readItems h hj, Slots.put_self] at hbehind
          cases hbehind
          obtain ⟨blanks, rfl, hblanks⟩ := blanks_of_skipBlank hx
          exact ⟨lead, [], blanks, _, s'', rfl, hlead, hfirst, hblanks, rfl, hself, hread⟩
        · rw [← (hcodec j).read_congr (hx.trans hself.symm)] at hread
          obtain ⟨value, rfl, hlocal⟩ := skipValue_local ((hcodec j).skipValue_eq_ok hread)
          obtain ⟨trail, items, blanks, u, t, rfl, htrail, -, hblanks, hnext, hu, hvalue⟩ :=
            ih h hnodup (by rw [Slots.put_of_ne _ hi, hbefore])
          have hwhole := hlocal [] delimited_nil
          rw [List.append_nil] at hwhole
          let item : ValueText := ⟨value, trail, hwhole, htrail⟩
          refine ⟨lead, item :: items, blanks, u, t, ?_, hlead, hfirst, hblanks, hnext, hu, hvalue⟩
          simp [item, ValueText.bytes, separator]

theorem readAt_of_readItems (hcodec : ∀ i, (sch.codec i).Definite) (hnodup : sch.members.Nodup)
    (h : sch.readItems true Slots.none 0 sch.members s = .ok (out, r)) (hi : out.1 i = some v) :
    sch.ReadAt (byte '[' :: s) i v := by
  obtain ⟨lead, items, blanks, u, t, rfl, -, hfirst, hblanks, hnext, hu, hread⟩ :=
    exists_item hcodec h hnodup rfl hi
  have hfront : sch.Before i (byte '[' ::
      (items.flatMap (fun v => v.bytes ++ [byte ',']) ++ blanks)) := .list hnext hblanks
  refine ⟨_, u, t, hfront, ?_, hu, hread⟩
  rw [hfirst rfl]
  simp [separator]

/-- What a record is put together from stands in its text. -/
theorem exists_readAt (hcodec : ∀ i, (sch.codec i).Definite) (hnodup : sch.members.Nodup) {a : σ}
    (h : sch.read s = .ok (a, r)) :
    ∃ slots : Slots Value, sch.build slots = .ok a ∧
      ∀ i v, slots i = some v → sch.ReadAt (skipBlank s) i v := by
  obtain ⟨rest, ⟨hs, slots, hmembers, hbuild⟩ | ⟨hs, slots, count, u, hitems, hbuild, -⟩⟩ :=
    read_iff.mp h
  · rw [hs]
    exact ⟨slots, hbuild, fun i v hi => readAt_of_readMembers hcodec hmembers hi⟩
  · rw [hs]
    exact ⟨slots, hbuild, fun i v hi => readAt_of_readItems hcodec hnodup hitems hi⟩

end Schema
end Json
end PadRelay
