import PadRelay.Proofs.Json.Local
import PadRelay.Proofs.Json.Skip

/-!
# PadRelay.Proofs.Json.Passing

A value is passed over the same whatever stands behind it and around it.

* `skipItem_local`: one item. In front of more items it needs one that does not end its container,
  in front of nothing else something that ends a number (`GoesOn`).
* `skipItems_local`, `skipValue_local`: the items that are left, by induction; a value.
* `skipItems_append`, `skipDue_of_skipValue`: the same with more containers around it.
-/

namespace PadRelay
namespace Json

variable {s r : Bytes}

/-! ## One item -/

theorem delimited_of_skipBlank {b : UInt8} (h : skipBlank s = b :: r)
    (hb : isDigit b = false ∧ b ≠ byte '.' ∧ b ≠ byte 'e' ∧ b ≠ byte 'E') : Delimited s := by
  rintro c hc
  obtain ⟨s, rfl⟩ := List.head?_eq_some_iff.mp hc
  rw [skipBlank, List.dropWhile_cons] at h
  split at h
  · next hblank =>
    simp only [isBlank, Bool.or_eq_true, decide_eq_true_eq] at hblank
    rcases hblank with ((rfl | rfl) | rfl) | rfl <;> decide
  · cases h
    exact hb

theorem closing_delimited (c : Container) : isDigit c.closing = false ∧ c.closing ≠ byte '.' ∧
    c.closing ≠ byte 'e' ∧ c.closing ≠ byte 'E' := by
  cases c <;> decide

theorem skipStart_local {c : Option Container} (h : skipStart s = .ok (c, r)) :
    ∃ v, s = v ++ r ∧ ∀ t, (c = none → Delimited t) → skipStart (v ++ t) = .ok (c, t) := by
  unfold skipStart at h
  split at h
  · cases h
  · next b rest hs =>
    obtain ⟨lead, rfl, hlead⟩ := skipBlank_local hs
    suffices hbehind : ∃ v, rest = v ++ r ∧ ∀ t, (c = none → Delimited t) →
        ∀ x, skipBlank x = b :: (v ++ t) → skipStart x = .ok (c, t) by
      obtain ⟨v, rfl, hv⟩ := hbehind
      refine ⟨lead ++ v, (List.append_assoc lead v r).symm, fun t ht => hv t ht _ ?_⟩
      rw [List.append_assoc, hlead]
    split at h
    · next hn =>
      obtain ⟨v, rfl, -, hv⟩ := readWord_map_local h
      refine ⟨v, rfl, fun t _ x hx => ?_⟩
      simp only [skipStart, hx, if_pos hn, hv]
    split at h
    · next hn ht =>
      obtain ⟨v, rfl, -, hv⟩ := readWord_map_local h
      refine ⟨v, rfl, fun t _ x hx => ?_⟩
      simp only [skipStart, hx, if_neg hn, if_pos ht, hv]
    split at h
    · next hn ht hf =>
      obtain ⟨v, rfl, -, hv⟩ := readWord_map_local h
      refine ⟨v, rfl, fun t _ x hx => ?_⟩
      simp only [skipStart, hx, if_neg hn, if_neg ht, if_pos hf, hv]
    split at h
    · next hn ht hf hnumber =>
      cases hliteral : readLiteral .invalidNumber (b :: rest) with
      | error e => rw [hliteral] at h; cases h
      | ok y =>
        obtain ⟨l, rest'⟩ := y
        rw [hliteral] at h
        cases h
        obtain ⟨v, hv, hread⟩ := readLiteral_local hliteral
        obtain ⟨w, rfl, rfl⟩ := eq_cons_of_append hv (length_readLiteral_lt hliteral)
        refine ⟨w, rfl, fun t hdelimited x hx => ?_⟩
        have hread := hread t (hdelimited rfl)
        rw [List.cons_append] at hread
        simp only [skipStart, hx, if_neg hn, if_neg ht, if_neg hf, if_pos hnumber, hread]
        rfl
    split at h
    · next hn ht hf hnumber hquote =>
      obtain ⟨htext, rfl⟩ := map_pair_eq_ok h
      obtain ⟨v, rfl, hv⟩ := skipText_local htext
      refine ⟨v, rfl, fun t _ x hx => ?_⟩
      simp only [skipStart, hx, if_neg hn, if_neg ht, if_neg hf, if_neg hnumber, if_pos hquote, hv]
      rfl
    split at h
    · next hn ht hf hnumber hquote hlist =>
      cases h
      refine ⟨[], rfl, fun t _ x hx => ?_⟩
      simp only [skipStart, hx, if_neg hn, if_neg ht, if_neg hf, if_neg hnumber, if_neg hquote,
        if_pos hlist]
      rfl
    split at h
    · next hn ht hf hnumber hquote hlist hobject =>
      cases h
      refine ⟨[], rfl, fun t _ x hx => ?_⟩
      simp only [skipStart, hx, if_neg hn, if_neg ht, if_neg hf, if_neg hnumber, if_neg hquote,
        if_neg hlist, if_pos hobject]
      rfl
    · cases h

/-- No container ends where a value starts. -/
theorem skipStart_starts {c : Option Container} (h : skipStart s = .ok (c, r)) :
    ∃ b u, skipBlank s = b :: u ∧ ∀ d : Container, b ≠ d.closing := by
  unfold skipStart at h
  split at h
  · cases h
  · next b rest hs =>
    refine ⟨b, rest, hs, fun d hd => ?_⟩
    subst hd
    cases d
    all_goals
      rw [if_neg (by decide), if_neg (by decide), if_neg (by decide), if_neg (by decide),
        if_neg (by decide), if_neg (by decide), if_neg (by decide)] at h
      cases h

theorem skipName_local (h : skipName s = .ok r) :
    ∃ v, s = v ++ r ∧ ∀ t, skipName (v ++ t) = .ok t := by
  unfold skipName at h
  split at h
  · cases h
  · next b rest hs =>
    split at h
    · next hb =>
      split at h
      · cases h
      · next rest' htext =>
        obtain ⟨lead, rfl, hlead⟩ := skipBlank_local hs
        obtain ⟨v, rfl, hv⟩ := skipText_local htext
        obtain ⟨w, rfl, hw⟩ := readColon_local h
        refine ⟨lead ++ (v ++ w), by simp, fun t => ?_⟩
        simp only [List.append_assoc, skipName, hlead, if_pos hb, hv, hw]
    · cases h

theorem closeEnded_local {containers left : List Container}
    (h : closeEnded containers s = .ok (left, r)) :
    ∃ v, s = v ++ r ∧ ∀ t, closeEnded containers (v ++ t) = .ok (left, t) ∧
      ((left = [] → Delimited t) → Delimited (v ++ t)) := by
  induction containers generalizing s with
  | nil =>
    cases h
    exact ⟨[], rfl, fun t => ⟨rfl, fun ht => ht rfl⟩⟩
  | cons c outer ih =>
    rw [closeEnded] at h
    split at h
    · cases h
    · next b rest hs =>
      obtain ⟨lead, rfl, hlead⟩ := skipBlank_local hs
      split at h
      · next hb =>
        cases h
        refine ⟨lead, rfl, fun t => ⟨?_, fun _ => ?_⟩⟩
        · rw [closeEnded, hlead]
          exact if_pos hb
        · exact delimited_of_skipBlank (hlead t) (by rw [hb]; decide)
      · next hb =>
        split at h
        · next hclosing =>
          obtain ⟨v, rfl, hv⟩ := ih h
          refine ⟨lead ++ v, (List.append_assoc lead v r).symm, fun t => ⟨?_, fun _ => ?_⟩⟩
          · rw [List.append_assoc, closeEnded, hlead]
            simp only [if_neg hb, if_pos hclosing, (hv t).1]
          · rw [List.append_assoc]
            exact delimited_of_skipBlank (hlead _) (hclosing ▸ closing_delimited c)
        · cases h

/-- What may stand behind an item: something that ends a number if nothing is open any more, else
another item. -/
def GoesOn : List Container → Bytes → Prop
  | [], t => Delimited t
  | c :: _, t => ∃ b u, skipBlank t = b :: u ∧ b ≠ c.closing

theorem closeEmpty_local {c : Container} {outer left : List Container}
    (h : closeEmpty c outer s = .ok (left, r)) :
    ∃ v, s = v ++ r ∧ ∀ t, GoesOn left t → closeEmpty c outer (v ++ t) = .ok (left, t) := by
  unfold closeEmpty at h
  split at h
  · cases h
  · next b rest hs =>
    split at h
    · next hb =>
      obtain ⟨lead, rfl, hlead⟩ := skipBlank_local hs
      obtain ⟨v, rfl, hv⟩ := closeEnded_local h
      refine ⟨lead ++ v, (List.append_assoc lead v r).symm, fun t _ => ?_⟩
      rw [List.append_assoc, closeEmpty, hlead]
      simp only [if_pos hb, (hv t).1]
    · next hb =>
      cases h
      refine ⟨[], rfl, fun t ht => ?_⟩
      obtain ⟨b', u, ht, hb'⟩ := ht
      rw [List.nil_append, closeEmpty, ht]
      exact if_neg hb'

theorem skipItem_local {containers left : List Container}
    (h : skipItem containers s = .ok (left, r)) :
    ∃ v, s = v ++ r ∧ ∀ t, GoesOn left t → skipItem containers (v ++ t) = .ok (left, t) := by
  unfold skipItem at h
  split at h
  · cases h
  · next s' hvalue =>
    obtain ⟨lead, rfl, hlead⟩ :
        ∃ v, s = v ++ s' ∧ ∀ t, skipToValue containers (v ++ t) = .ok t := by
      unfold skipToValue at hvalue
      split at hvalue
      · next hobject =>
        obtain ⟨v, rfl, hv⟩ := skipName_local hvalue
        refine ⟨v, rfl, fun t => ?_⟩
        rw [skipToValue, if_pos hobject, hv]
      · next hobject =>
        cases hvalue
        refine ⟨[], rfl, fun t => ?_⟩
        rw [skipToValue, if_neg hobject]
        rfl
    split at h
    · cases h
    · next s'' hstart =>
      obtain ⟨v, rfl, hv⟩ := skipStart_local hstart
      obtain ⟨w, rfl, hw⟩ := closeEnded_local h
      refine ⟨lead ++ (v ++ w), by simp, fun t ht => ?_⟩
      obtain ⟨hclose, hdelimited⟩ := hw t
      have hend : left = [] → Delimited t := by
        rintro rfl
        exact ht
      simp only [List.append_assoc, skipItem, hlead, hv _ fun _ => hdelimited hend, hclose]
    · next c s'' hstart =>
      obtain ⟨v, rfl, hv⟩ := skipStart_local hstart
      obtain ⟨w, rfl, hw⟩ := closeEmpty_local h
      refine ⟨lead ++ (v ++ w), by simp, fun t ht => ?_⟩
      have hstart' := hv (w ++ t) fun hnone => absurd hnone (Option.some_ne_none c)
      simp only [List.append_assoc, skipItem, hlead, hstart', hw t ht]

/-! ## The items that are left -/

/-- Where an item is passed over, its container does not end. -/
theorem goesOn_of_skipItems {c : Container} {outer : List Container}
    (h : skipItems (c :: outer) s = .ok r) : GoesOn (c :: outer) s := by
  rw [skipItems_eq_skipOpen, skipItem] at h
  cases hvalue : skipToValue (c :: outer) s with
  | error e => rw [hvalue] at h; cases h
  | ok u =>
    rw [hvalue] at h
    cases c with
    | object =>
      have hname : skipName s = .ok u := hvalue
      unfold skipName at hname
      split at hname
      · cases hname
      · next b rest hs =>
        split at hname
        · next hb => exact ⟨b, rest, hs, by rw [hb]; decide⟩
        · cases hname
    | list =>
      cases hvalue
      cases hstart : skipStart s with
      | error e => simp only [hstart] at h; cases h
      | ok x =>
        obtain ⟨b, v, hs, hb⟩ := skipStart_starts hstart
        exact ⟨b, v, hs, hb .list⟩

theorem skipItems_local {containers : List Container} (h : skipItems containers s = .ok r) :
    ∃ v, s = v ++ r ∧ ∀ t, Delimited t → skipItems containers (v ++ t) = .ok t := by
  fun_induction skipItems containers s with
  | case1 => cases h
  | case2 containers s rest hitem =>
    cases h
    obtain ⟨v, rfl, hv⟩ := skipItem_local hitem
    refine ⟨v, rfl, fun t ht => ?_⟩
    rw [skipItems_eq_skipOpen, hv t ht]
    rfl
  | case3 containers s c outer rest hitem ih =>
    obtain ⟨v, rfl, hv⟩ := skipItem_local hitem
    obtain ⟨w, rfl, hw⟩ := ih h
    refine ⟨v ++ w, (List.append_assoc v w r).symm, fun t ht => ?_⟩
    have hrest := hw t ht
    rw [List.append_assoc, skipItems_eq_skipOpen, hv _ (goesOn_of_skipItems hrest)]
    exact hrest

theorem skipValue_local (h : skipValue s = .ok r) :
    ∃ v, s = v ++ r ∧ ∀ t, Delimited t → skipValue (v ++ t) = .ok t :=
  skipItems_local h

/-! ## Containers around a value -/

/-- What is left behind these containers and those around them, the former having an item due. -/
def skipWithin (outer : List Container) : List Container → Bytes → Except DecodeError Bytes
  | [], s => skipBehind outer s
  | c :: inner, s => skipItems (c :: inner ++ outer) s

theorem closeEnded_append {inner left : List Container} (h : closeEnded inner s = .ok (left, r))
    (outer : List Container) :
    skipOpen (closeEnded (inner ++ outer) s) = skipWithin outer left r := by
  induction inner generalizing s with
  | nil =>
    cases h
    rfl
  | cons c inner ih =>
    rw [List.cons_append, closeEnded]
    rw [closeEnded] at h
    split at h
    · cases h
    · next b rest hs =>
      split at h
      · next hb =>
        cases h
        rw [if_pos hb]
        rfl
      · next hb =>
        split at h
        · next hclosing =>
          rw [if_neg hb, if_pos hclosing]
          exact ih h
        · cases h

theorem closeEmpty_append {c : Container} {inner left : List Container}
    (h : closeEmpty c inner s = .ok (left, r)) (outer : List Container) :
    skipOpen (closeEmpty c (inner ++ outer) s) = skipWithin outer left r := by
  unfold closeEmpty at h
  rw [closeEmpty]
  split at h
  · cases h
  · next b rest hs =>
    split at h
    · next hb =>
      rw [if_pos hb]
      exact closeEnded_append h outer
    · next hb =>
      cases h
      rw [if_neg hb]
      rfl

theorem skipDue_append {inner left : List Container} {u : Bytes}
    (hvalue : skipToValue inner s = .ok u) (h : skipItem inner s = .ok (left, r))
    (outer : List Container) : skipDue (inner ++ outer) u = skipWithin outer left r := by
  rw [skipItem, hvalue] at h
  rw [skipDue]
  cases hstart : skipStart u with
  | error e =>
    simp only [hstart] at h
    cases h
  | ok x =>
    obtain ⟨c, t⟩ := x
    simp only [hstart] at h ⊢
    cases c with
    | none => exact closeEnded_append h outer
    | some c => exact closeEmpty_append h outer

/-- Passing over the items that are left does not depend on the containers around theirs. -/
theorem skipItems_append {inner : List Container} (h : skipItems inner s = .ok r)
    (outer : List Container) {u : Bytes} (hvalue : skipToValue inner s = .ok u) :
    skipDue (inner ++ outer) u = skipBehind outer r := by
  fun_induction skipItems inner s generalizing u with
  | case1 => cases h
  | case2 inner s rest hitem =>
    cases h
    exact skipDue_append hvalue hitem outer
  | case3 inner s c left rest hitem ih =>
    rw [skipDue_append hvalue hitem outer, skipWithin]
    cases hnext : skipToValue (c :: left) rest with
    | error e =>
      rw [skipItems_eq_skipOpen, skipItem, hnext] at h
      cases h
    | ok u' =>
      have hmore : skipToValue (c :: left ++ outer) rest = .ok u' := hnext
      rw [skipItems_of_skipToValue hmore, ih h hnext]

/-- Passing over a value does not depend on the containers around it. -/
theorem skipDue_of_skipValue (h : skipValue s = .ok r) (outer : List Container) :
    skipDue outer s = skipBehind outer r := by
  have hitems : skipItems [] s = .ok r := h
  exact skipItems_append hitems outer rfl

end Json
end PadRelay
