import PadRelay.Json.Codec
import PadRelay.Proofs.Json.Passing

/-!
# PadRelay.Proofs.Json.Definite

What is read as a value is a value for whoever passes over it, and is read the same whatever stands
behind it.

* `Codec.Definite`: both facts, for a codec.
* `Codec.Definite.read_append`: hence reading one text of a value stops at its end and nowhere else.
* `text_definite`, `flag_definite`, `readAccepted_definite`, `optional_definite`: single values.
-/

namespace PadRelay
namespace Json

variable {α : Type} {s r : Bytes}

/-! ## Blanks -/

theorem skipBlank_of_blanks {blanks : Bytes} (h : ∀ b ∈ blanks, isBlank b = true) (s : Bytes) :
    skipBlank (blanks ++ s) = skipBlank s :=
  List.dropWhile_append_of_pos h

theorem skipBlank_self {b : UInt8} (h : isBlank b = false) (s : Bytes) :
    skipBlank (b :: s) = b :: s :=
  List.dropWhile_cons_of_neg (by simp [h])

theorem skipDue_congr {s' : Bytes} (h : skipBlank s = skipBlank s') (containers : List Container) :
    skipDue containers s = skipDue containers s' := by
  rw [skipDue, skipDue, skipStart, skipStart, h]

namespace Codec

/-- What is read off the front depends neither on what stands behind it nor on the blanks before
it, and is passed over as far, whatever is around it. -/
structure Definite (c : Codec α) : Prop where
  read_congr : ∀ {s s' : Bytes}, skipBlank s = skipBlank s' → c.read s = c.read s'
  read_local : ∀ {s r : Bytes} {a : α}, c.read s = .ok (a, r) →
    ∃ v, s = v ++ r ∧ ∀ t, Delimited t → c.read (v ++ t) = .ok (a, t)
  passes : ∀ {s r : Bytes} {a : α}, c.read s = .ok (a, r) →
    ∀ outer, skipDue outer s = skipBehind outer r

theorem Definite.skipValue_eq_ok {c : Codec α} (h : c.Definite) {a : α}
    (hread : c.read s = .ok (a, r)) : skipValue s = .ok r :=
  (skipValue_eq_skipDue s).trans (h.passes hread [])

/-- If something is read where a value stands, it is that value. -/
theorem Definite.read_append {c : Codec α} (h : c.Definite) {v : Bytes}
    (hv : skipValue v = .ok []) {t : Bytes} (ht : Delimited t) {a : α}
    (hread : c.read (v ++ t) = .ok (a, r)) :
    r = t ∧ ∀ t', Delimited t' → c.read (v ++ t') = .ok (a, t') := by
  obtain ⟨v', hsplit, hvalue⟩ := skipValue_local hv
  rw [List.append_nil] at hsplit
  subst hsplit
  have hr : r = t := by
    have hskip := h.skipValue_eq_ok hread
    rw [hvalue t ht] at hskip
    cases hskip
    rfl
  subst hr
  obtain ⟨w, hw, hlocal⟩ := h.read_local hread
  rw [List.append_cancel_right hw]
  exact ⟨rfl, hlocal⟩

/-! ## Single values -/

theorem text_definite : text.Definite where
  read_congr := by
    intro s s' h
    show readTextValue s = readTextValue s'
    rw [readTextValue, readTextValue, h]
  read_local := by
    intro s r a h
    replace h : readTextValue s = .ok (a, r) := h
    unfold readTextValue at h
    split at h
    · cases h
    · next b rest hs =>
      split at h
      · next hb =>
        obtain ⟨lead, rfl, hlead⟩ := skipBlank_local hs
        obtain ⟨v, rfl, hv⟩ := readString_local h
        refine ⟨lead ++ v, (List.append_assoc lead v r).symm, fun t _ => ?_⟩
        show readTextValue _ = _
        simp only [List.append_assoc, readTextValue, hlead, if_pos hb, hv]
      · cases h
  passes := by
    intro s r a h outer
    replace h : readTextValue s = .ok (a, r) := h
    unfold readTextValue at h
    split at h
    · cases h
    · next b rest hs =>
      split at h
      · next hb =>
        subst hb
        refine skipDue_of_start ?_ outer
        simp only [skipStart, hs, skipText_of_readString h]
        rfl
      · cases h

theorem flag_definite : flag.Definite where
  read_congr := by
    intro s s' h
    show readFlag s = readFlag s'
    rw [readFlag, readFlag, h]
  read_local := by
    intro s r a h
    replace h : readFlag s = .ok (a, r) := h
    unfold readFlag at h
    split at h
    · cases h
    · next b rest hs =>
      obtain ⟨lead, rfl, hlead⟩ := skipBlank_local hs
      split at h
      · next hb =>
        obtain ⟨v, rfl, -, hv⟩ := readWord_map_local h
        refine ⟨lead ++ v, (List.append_assoc lead v r).symm, fun t _ => ?_⟩
        show readFlag _ = _
        simp only [List.append_assoc, readFlag, hlead, if_pos hb, hv]
      split at h
      · next hb hb' =>
        obtain ⟨v, rfl, -, hv⟩ := readWord_map_local h
        refine ⟨lead ++ v, (List.append_assoc lead v r).symm, fun t _ => ?_⟩
        show readFlag _ = _
        simp only [List.append_assoc, readFlag, hlead, if_neg hb, if_pos hb', hv]
      · cases h
  passes := by
    intro s r a h outer
    replace h : readFlag s = .ok (a, r) := h
    refine skipDue_of_start ?_ outer
    unfold readFlag at h
    split at h
    · cases h
    · next b rest hs =>
      split at h
      · next hb =>
        subst hb
        simp only [skipStart, hs, (map_pair_eq_ok h).1]
        rfl
      split at h
      · next hb' =>
        subst hb'
        simp only [skipStart, hs, (map_pair_eq_ok h).1]
        rfl
      · cases h

theorem readAccepted_definite {expected : String} {accept : Number → Option α}
    {write : α → List Char} :
    (⟨write, readAccepted expected accept, length_readAccepted_lt⟩ : Codec α).Definite where
  read_congr := by
    intro s s' h
    show readAccepted expected accept s = readAccepted expected accept s'
    rw [readAccepted, readAccepted, h]
  read_local := by
    intro s r a h
    replace h : readAccepted expected accept s = .ok (a, r) := h
    unfold readAccepted at h
    split at h
    · cases h
    · next b rest hs =>
      obtain ⟨lead, rfl, hlead⟩ := skipBlank_local hs
      split at h
      · next hb =>
        split at h
        · cases h
        · next n rest' hnumber =>
          split at h
          · next ha =>
            cases h
            obtain ⟨v, hv, hread⟩ := readNumber_local hnumber
            obtain ⟨w, rfl, rfl⟩ := eq_cons_of_append hv (length_readNumber_lt hnumber)
            refine ⟨lead ++ w, (List.append_assoc lead w _).symm, fun t ht => ?_⟩
            have hread := hread t ht
            rw [List.cons_append] at hread
            show readAccepted expected accept _ = _
            simp only [List.append_assoc, readAccepted, hlead, if_pos hb, hread, ha]
          · cases h
      · cases h
  passes := by
    intro s r a h outer
    replace h : readAccepted expected accept s = .ok (a, r) := h
    refine skipDue_of_start ?_ outer
    unfold readAccepted at h
    split at h
    · cases h
    · next b rest hs =>
      split at h
      · next hb =>
        split at h
        · cases h
        · next n rest' hnumber =>
          split at h
          · cases h
            obtain ⟨-, hnull, hyes, hno, -⟩ := isBlank_of_number hb
            unfold readNumber at hnumber
            split at hnumber
            · cases hnumber
            · next l rest'' hliteral =>
              split at hnumber
              · cases hnumber
              · cases hnumber
                simp only [skipStart, hs, if_neg hnull, if_neg hyes, if_neg hno, if_pos hb,
                  readLiteral_atEnd hliteral .invalidNumber]
                rfl
          · cases h
      · cases h

theorem optional_definite {c : Codec α} (hc : c.Definite) : (optional c).Definite where
  read_congr := by
    intro s s' h
    show readOptional c s = readOptional c s'
    rw [readOptional, readOptional, h]
  read_local := by
    intro s r a h
    replace h : readOptional c s = .ok (a, r) := h
    unfold readOptional at h
    split at h
    · cases h
    · next b rest hs =>
      obtain ⟨lead, rfl, hlead⟩ := skipBlank_local hs
      split at h
      · next hb =>
        obtain ⟨v, rfl, -, hv⟩ := readWord_map_local h
        refine ⟨lead ++ v, (List.append_assoc lead v r).symm, fun t _ => ?_⟩
        show readOptional c _ = _
        simp only [List.append_assoc, readOptional, hlead, if_pos hb, hv]
      · next hb =>
        cases hread : c.read (b :: rest) with
        | error e => rw [hread] at h; cases h
        | ok x =>
          obtain ⟨a', rest'⟩ := x
          rw [hread] at h
          cases h
          obtain ⟨v, hv, hlocal⟩ := hc.read_local hread
          obtain ⟨w, rfl, rfl⟩ := eq_cons_of_append hv (c.length_read_lt hread)
          refine ⟨lead ++ w, (List.append_assoc lead w _).symm, fun t ht => ?_⟩
          have hlocal := hlocal t ht
          rw [List.cons_append] at hlocal
          show readOptional c _ = _
          simp only [List.append_assoc, readOptional, hlead, if_neg hb, hlocal]
          rfl
  passes := by
    intro s r a h outer
    replace h : readOptional c s = .ok (a, r) := h
    unfold readOptional at h
    split at h
    · cases h
    · next b rest hs =>
      split at h
      · next hb =>
        subst hb
        refine skipDue_of_start ?_ outer
        simp only [skipStart, hs, (map_pair_eq_ok h).1]
        rfl
      · cases hread : c.read (b :: rest) with
        | error e => rw [hread] at h; cases h
        | ok x =>
          obtain ⟨a', rest'⟩ := x
          rw [hread] at h
          cases h
          rw [← hc.passes hread outer]
          exact skipDue_congr (hs.trans (skipBlank_self (isBlank_of_skipBlank hs) rest).symm) outer

end Codec
end Json
end PadRelay
