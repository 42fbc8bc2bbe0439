import Mathlib.Data.List.Forall2
import PadRelay.Ini.Basic

/-!
# PadRelay.Proofs.Ini.Changed

Configurations that differ in some options only.

* `Edited`: some options are written, replaced or left out, all others stay where they are.
* `Profile.Edited.apart`: what is found under another key stays, by induction on the options.
-/

namespace PadRelay
namespace Ini

/-- Options of which only those with a changed key differ. -/
inductive Edited (changed : String → Prop) :
    List (String × String) → List (String × String) → Prop where
  | nil : Edited changed [] []
  | kept {e : String × String} {es fs : List (String × String)} :
      Edited changed es fs → Edited changed (e :: es) (e :: fs)
  | removed {key value : String} {es fs : List (String × String)} :
      changed key → Edited changed es fs → Edited changed ((key, value) :: es) fs
  | added {key value : String} {es fs : List (String × String)} :
      changed key → Edited changed es fs → Edited changed es ((key, value) :: fs)

variable {changed : String → Prop}

theorem Edited.refl (es : List (String × String)) : Edited changed es es := by
  induction es with
  | nil => exact .nil
  | cons e es ih => exact .kept ih

theorem Edited.lookup_eq {es fs : List (String × String)} (h : Edited changed es fs) {key : String}
    (hkey : ¬ changed key) : es.lookup key = fs.lookup key := by
  have hother : ∀ {k}, changed k → (key == k) = false := by
    intro k hk
    rw [beq_eq_false_iff_ne]
    rintro rfl
    exact hkey hk
  induction h with
  | nil => rfl
  | kept _ ih => rw [List.lookup_cons, List.lookup_cons, ih]
  | removed hk _ ih => rw [List.lookup_cons, hother hk, ih]
  | added hk _ ih => rw [List.lookup_cons, hother hk, ih]

def Section.Edited (changed : String → Prop) (s t : Section) : Prop :=
  s.name = t.name ∧ Ini.Edited changed s.entries t.entries

/-- The section of a name is found in the same place. -/
theorem find?_edited {ss ts : List Section} (h : List.Forall₂ (Section.Edited changed) ss ts)
    (name : String) :
    (ss.find? (·.name == name) = none ∧ ts.find? (·.name == name) = none) ∨
      ∃ s t, ss.find? (·.name == name) = some s ∧ ts.find? (·.name == name) = some t ∧
        s.Edited changed t := by
  induction h with
  | nil => exact .inl ⟨rfl, rfl⟩
  | @cons s t ss ts hst _ ih =>
    by_cases hs : s.name = name
    · have ht : t.name = name := hst.1.symm.trans hs
      exact .inr ⟨s, t, by simp [hs], by simp [ht], hst⟩
    · have ht : ¬ t.name = name := fun ht => hs (hst.1.trans ht)
      simpa [hs, ht] using ih

namespace Profile

variable {p q : Profile}

/-- The sections and the defaults are edited, no section comes or goes. -/
structure Edited (changed : String → Prop) (p q : Profile) : Prop where
  defaults : p.defaults.Edited changed q.defaults
  sections : List.Forall₂ (Section.Edited changed) p.sections q.sections

/-- The same sections, with the same values but under changed keys. -/
structure Apart (changed : String → Prop) (p q : Profile) : Prop where
  names : ∀ name, p.hasSection name = q.hasSection name
  values : ∀ name key, ¬ changed (foldKey key) → p.get? name key = q.get? name key

theorem Apart.mono {changed' : String → Prop} (h : p.Apart changed q)
    (hmore : ∀ key, changed key → changed' key) : p.Apart changed' q :=
  ⟨h.names, fun name key hkey => h.values name key fun hchanged => hkey (hmore _ hchanged)⟩

theorem Apart.int?_eq (h : p.Apart changed q) (name : String) {key : String}
    (hkey : ¬ changed (foldKey key)) : p.int? name key = q.int? name key := by
  rw [int?, int?, h.values name key hkey]

theorem Edited.apart (h : p.Edited changed q) : p.Apart changed q where
  names := by
    intro name
    rw [hasSection, hasSection, section?, section?]
    obtain ⟨hp, hq⟩ | ⟨s, t, hp, hq, -⟩ := find?_edited h.sections name
    · rw [hp, hq]
    · rw [hp, hq]
      rfl
  values := by
    intro name key hkey
    rw [get?, get?, section?, section?]
    obtain ⟨hp, hq⟩ | ⟨s, t, hp, hq, -, hedited⟩ := find?_edited h.sections name
    · rw [hp, hq]
    · simp only [hp, hq, Section.get?, hedited.lookup_eq hkey, h.defaults.2.lookup_eq hkey]

end Profile
end Ini
end PadRelay
