import PadRelay.Proofs.Settings.Lines

/-!
# PadRelay.Proofs.Settings.Complete

Settings that are complete, and what is missing first where they are not.

* `Complete`, `LacksFirst`: both as they stand in a configuration.
* `ofProfile_eq_ok_iff`, `ofProfile_eq_error_iff`: exactly these are read, and reported.
* `ofProfile_ne_none`: with the encoder's section there are settings or an error.
-/

namespace PadRelay

open Ini (Profile)

variable {p : Profile}

/-- Settings that are all there: the encoder's URL and every line up to the first gap. -/
def Complete (p : Profile) (s : EncoderSettings) : Prop :=
  p.get? encoderSection "UpdateUrl" = some s.updateUrl ∧
    IsGreatest {n | Unbroken p n} s.lines.length ∧
      ∀ i line, s.lines[i]? = some line → HoldsLine p (i + 1) line

/-- The first required value that is not there: the encoder's URL, else a value of a line up to the
first gap, all lines before which are there. -/
inductive LacksFirst (p : Profile) : String → String → Prop where
  | updateUrl : p.get? encoderSection "UpdateUrl" = none → LacksFirst p encoderSection "UpdateUrl"
  | line {url : String} {i : Nat} {key : String} :
      p.get? encoderSection "UpdateUrl" = some url → 1 ≤ i → Unbroken p i →
        (∀ j, 1 ≤ j → j < i → ∃ line, HoldsLine p j line) → LacksValue p i key →
          LacksFirst p (lineSection i) key

theorem lineMappings_eq_ok_iff_complete {lines : List LineMapping} :
    lineMappings p = .ok lines ↔
      IsGreatest {n | Unbroken p n} lines.length ∧
        ∀ i line, lines[i]? = some line → HoldsLine p (i + 1) line := by
  obtain ⟨last, h⟩ := exists_isGreatest_unbroken p
  rw [lineMappings_eq_ok_iff h]
  constructor
  · rintro ⟨rfl, hall⟩
    exact ⟨h, hall⟩
  · rintro ⟨hgreatest, hall⟩
    exact ⟨Nat.le_antisymm (h.2 hgreatest.1) (hgreatest.2 h.1), hall⟩

theorem lineMappings_eq_error_iff_lacks {e : SettingsError} :
    lineMappings p = .error e ↔
      ∃ i key, e = .missing (lineSection i) key ∧ 1 ≤ i ∧ Unbroken p i ∧
        (∀ j, 1 ≤ j → j < i → ∃ line, HoldsLine p j line) ∧ LacksValue p i key := by
  obtain ⟨last, h⟩ := exists_isGreatest_unbroken p
  rw [lineMappings_eq_error_iff h]
  constructor
  · rintro ⟨i, key, he, hone, hle, hbefore, hlacks⟩
    exact ⟨i, key, he, hone, fun j hj hji => h.1 j hj (by omega), hbefore, hlacks⟩
  · rintro ⟨i, key, he, hone, hrow, hbefore, hlacks⟩
    exact ⟨i, key, he, hone, h.2 hrow, hbefore, hlacks⟩

section

variable (h : p.hasSection encoderSection = true)

include h

theorem ofProfile_eq_bind :
    EncoderSettings.ofProfile p = (required p encoderSection "UpdateUrl" >>= fun url =>
      lineMappings p >>= fun lines => .ok (some ⟨url, lines⟩)) := by
  rw [EncoderSettings.ofProfile, if_pos h]
  rfl

theorem ofProfile_eq_ok_iff {s : EncoderSettings} :
    EncoderSettings.ofProfile p = .ok (some s) ↔ Complete p s := by
  simp only [ofProfile_eq_bind h, bind_eq_ok_iff, required_eq_ok_iff,
    lineMappings_eq_ok_iff_complete, Except.ok.injEq, Option.some.injEq]
  constructor
  · rintro ⟨url, hurl, lines, hlines, rfl⟩
    exact ⟨hurl, hlines⟩
  · rintro ⟨hurl, hlines⟩
    exact ⟨_, hurl, _, hlines, rfl⟩

theorem ofProfile_eq_error_iff {e : SettingsError} :
    EncoderSettings.ofProfile p = .error e ↔
      ∃ name key, e = .missing name key ∧ LacksFirst p name key := by
  simp only [ofProfile_eq_bind h, bind_eq_error_iff, required_eq_ok_iff, required_eq_error_iff,
    lineMappings_eq_error_iff_lacks]
  constructor
  · rintro (⟨hurl, rfl⟩ | ⟨url, hurl, ⟨i, key, rfl, hone, hrow, hbefore, hlacks⟩ | ⟨_, _, he⟩⟩)
    · exact ⟨_, _, rfl, .updateUrl hurl⟩
    · exact ⟨_, _, rfl, .line hurl hone hrow hbefore hlacks⟩
    · cases he
  · rintro ⟨name, key, rfl, hlacks⟩
    cases hlacks with
    | updateUrl hurl => exact .inl ⟨hurl, rfl⟩
    | line hurl hone hrow hbefore hlacks =>
      exact .inr ⟨_, hurl, .inl ⟨_, _, rfl, hone, hrow, hbefore, hlacks⟩⟩

theorem ofProfile_ne_none : EncoderSettings.ofProfile p ≠ .ok none := by
  simp only [ofProfile_eq_bind h, ne_eq, bind_eq_ok_iff]
  rintro ⟨_, -, _, -, hsome⟩
  cases hsome

end

end PadRelay
