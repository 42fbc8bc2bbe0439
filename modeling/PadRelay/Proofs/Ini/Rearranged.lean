import Mathlib.Data.List.Forall2
import Mathlib.Data.List.Perm.Basic
import Mathlib.Logic.Relation
import PadRelay.Proofs.Ini.Orderly

/-!
# PadRelay.Proofs.Ini.Rearranged

Configurations that are written differently and mean the same.

* `Profile.Alike`: the same sections, and the same value under every key of each of them.
* `Rearrange`: one change of what does not matter, the order of the sections, that of their options,
  or whether an option comes from the defaults.
* `Rearrange.distinct_iff`, `Rearrange.alike`: what a change keeps, case by case.
* `Rearranged.alike`: any number of changes, in both directions, by induction on them.
-/

namespace PadRelay
namespace Ini

/-! ## The same meaning -/

/-- The same sections, with the same values. -/
structure Profile.Alike (p q : Profile) : Prop where
  names : ∀ name, p.hasSection name = q.hasSection name
  values : ∀ name, p.hasSection name = true → ∀ key, p.get? name key = q.get? name key

namespace Profile

variable {p q r : Profile} {name : String}

theorem hasSection_iff : p.hasSection name = true ↔ name ∈ p.sections.map (·.name) := by
  rw [hasSection, section?, List.find?_isSome]
  simp

theorem get?_of_not_hasSection (h : p.hasSection name = false) (key : String) :
    p.get? name key = none := by
  have hnone : p.section? name = none := by
    rwa [hasSection, Option.isSome_eq_false_iff, Option.isNone_iff_eq_none] at h
  rw [get?, hnone]

/-- What is not there has no value in either. -/
theorem Alike.get?_eq (h : p.Alike q) (name key : String) : p.get? name key = q.get? name key := by
  cases hp : p.hasSection name with
  | true => exact h.values name hp key
  | false =>
    have hq : q.hasSection name = false := (h.names name).symm.trans hp
    rw [get?_of_not_hasSection hp, get?_of_not_hasSection hq]

theorem Alike.refl (p : Profile) : p.Alike p := ⟨fun _ => rfl, fun _ _ _ => rfl⟩

theorem Alike.symm (h : p.Alike q) : q.Alike p :=
  ⟨fun name => (h.names name).symm, fun name _ key => (h.get?_eq name key).symm⟩

theorem Alike.trans (h : p.Alike q) (h' : q.Alike r) : p.Alike r :=
  ⟨fun name => (h.names name).trans (h'.names name),
    fun name _ key => (h.get?_eq name key).trans (h'.get?_eq name key)⟩

/-- Where keys and names are there once, it is enough that the same options count. -/
theorem alike_of_iff (hp : p.Distinct) (hq : q.Distinct)
    (hnames : ∀ name, name ∈ p.sections.map (·.name) ↔ name ∈ q.sections.map (·.name))
    (hvalues : ∀ name key value,
      (∃ s ∈ p.sections, s.name = name ∧ s.Gives p.defaults key value) ↔
        ∃ s ∈ q.sections, s.name = name ∧ s.Gives q.defaults key value) : p.Alike q where
  names := by
    intro name
    rw [Bool.eq_iff_iff, hasSection_iff, hasSection_iff]
    exact hnames name
  values := by
    intro name _ key
    refine Option.ext fun value => ?_
    rw [hp.get?_eq_some_iff, hq.get?_eq_some_iff]
    exact hvalues name (foldKey key) value

end Profile

/-! ## One change -/

/-- The section with one more option, if it has none with this key. -/
def Section.supply (key value : String) (s : Section) : Section :=
  if key ∈ s.entries.map Prod.fst then s else ⟨s.name, s.entries ++ [(key, value)]⟩

def Section.Shuffled (s t : Section) : Prop := s.name = t.name ∧ s.entries.Perm t.entries

/-- A change of what does not matter. -/
inductive Rearrange : Profile → Profile → Prop where
  | sections {defaults : Section} {ss ts : List Section} :
      ss.Perm ts → Rearrange ⟨defaults, ss⟩ ⟨defaults, ts⟩
  | options {defaults defaults' : Section} {ss ts : List Section} :
      defaults.Shuffled defaults' → List.Forall₂ Section.Shuffled ss ts →
        Rearrange ⟨defaults, ss⟩ ⟨defaults', ts⟩
  /-- A default is copied to each section that lacks it. -/
  | inherited {name key value : String} {entries : List (String × String)} {ss : List Section} :
      key ∉ entries.map Prod.fst →
        Rearrange ⟨⟨name, (key, value) :: entries⟩, ss⟩
          ⟨⟨name, entries⟩, ss.map (Section.supply key value)⟩

section

variable {s t : Section} {ss ts : List Section} {key value : String}

theorem Section.Shuffled.symm (h : s.Shuffled t) : t.Shuffled s := ⟨h.1.symm, h.2.symm⟩

theorem Section.Shuffled.keys (h : s.Shuffled t) :
    (s.entries.map Prod.fst).Perm (t.entries.map Prod.fst) := h.2.map _

theorem Section.Shuffled.gives_iff {defaults defaults' : Section} (h : s.Shuffled t)
    (hdefaults : defaults.Shuffled defaults') :
    s.Gives defaults key value ↔ t.Gives defaults' key value :=
  or_congr h.2.mem_iff (and_congr (not_congr h.keys.mem_iff) hdefaults.2.mem_iff)

theorem names_of_shuffled (h : List.Forall₂ Section.Shuffled ss ts) :
    ss.map (·.name) = ts.map (·.name) := by
  induction h with
  | nil => rfl
  | cons hs _ ih => rw [List.map_cons, List.map_cons, hs.1, ih]

theorem exists_of_shuffled (h : List.Forall₂ Section.Shuffled ss ts) :
    ∀ s ∈ ss, ∃ t ∈ ts, s.Shuffled t := by
  induction h with
  | nil => exact nofun
  | @cons s t ss ts hs _ ih =>
    refine List.forall_mem_cons.mpr ⟨⟨t, List.mem_cons_self, hs⟩, fun u hu => ?_⟩
    obtain ⟨v, hv, huv⟩ := ih u hu
    exact ⟨v, List.mem_cons_of_mem _ hv, huv⟩

theorem shuffled_symm (h : List.Forall₂ Section.Shuffled ss ts) :
    List.Forall₂ Section.Shuffled ts ss := h.flip.imp fun _ _ => Section.Shuffled.symm

theorem name_supply (key value : String) (s : Section) : (s.supply key value).name = s.name := by
  unfold Section.supply
  split <;> rfl

theorem names_supply (key value : String) (ss : List Section) :
    (ss.map (Section.supply key value)).map (·.name) = ss.map (·.name) := by
  rw [List.map_map]
  exact List.map_congr_left fun s _ => name_supply key value s

theorem keys_nodup_supply :
    ((s.supply key value).entries.map Prod.fst).Nodup ↔ (s.entries.map Prod.fst).Nodup := by
  unfold Section.supply
  split
  · exact Iff.rfl
  · next hnew =>
    rw [List.map_append, List.map_singleton, ← List.concat_eq_append, List.nodup_concat]
    exact and_iff_right hnew

/-- It is the same whether an option is a default or was copied to the sections that lack it. -/
theorem gives_supply_iff {name first v : String} {entries : List (String × String)}
    (hnew : first ∉ entries.map Prod.fst) :
    (s.supply first v).Gives ⟨name, entries⟩ key value ↔
      s.Gives ⟨name, (first, v) :: entries⟩ key value := by
  have hdefault : ∀ value, (first, value) ∉ entries :=
    fun value hin => hnew (List.mem_map.mpr ⟨(first, value), hin, rfl⟩)
  unfold Section.supply Section.Gives
  split
  · next hin =>
    by_cases hkey : key = first
    · subst hkey
      simp only [hin, not_true_eq_false, false_and]
    · simp only [List.mem_cons, Prod.mk.injEq, hkey, false_and, false_or]
  · next hlacks =>
    have hown : ∀ value, (first, value) ∉ s.entries :=
      fun value hin => hlacks (List.mem_map.mpr ⟨(first, value), hin, rfl⟩)
    by_cases hkey : key = first
    · subst hkey
      simp [hown, hdefault, hlacks]
    · simp [hkey]

end

namespace Rearrange

variable {p q : Profile}

/-- A change keeps names and keys apart, and brings none together. -/
theorem distinct_iff (h : Rearrange p q) : p.Distinct ↔ q.Distinct := by
  have hfields : ∀ p : Profile, p.Distinct ↔ (p.sections.map (·.name)).Nodup ∧
      (p.defaults.entries.map Prod.fst).Nodup ∧
        ∀ s ∈ p.sections, (s.entries.map Prod.fst).Nodup := by
    intro p
    exact ⟨fun h => ⟨h.names_nodup, List.forall_mem_cons.mp h.keys_nodup⟩,
      fun h => ⟨h.1, List.forall_mem_cons.mpr h.2⟩⟩
  rw [hfields, hfields]
  cases h with
  | sections hperm =>
    refine and_congr (hperm.map _).nodup_iff (and_congr_right fun _ => ?_)
    exact forall_congr' fun s => imp_congr_left hperm.mem_iff
  | options hdefaults hsections =>
    rw [names_of_shuffled hsections]
    refine and_congr_right fun _ => and_congr hdefaults.keys.nodup_iff ?_
    constructor
    · intro hnodup t ht
      obtain ⟨s, hs, hst⟩ := exists_of_shuffled (shuffled_symm hsections) t ht
      exact hst.keys.nodup_iff.mpr (hnodup s hs)
    · intro hnodup s hs
      obtain ⟨t, ht, hst⟩ := exists_of_shuffled hsections s hs
      exact hst.keys.nodup_iff.mpr (hnodup t ht)
  | inherited hnew =>
    rw [names_supply]
    refine and_congr_right fun _ => and_congr ?_ ?_
    · exact List.nodup_cons.trans (and_iff_right hnew)
    · rw [List.forall_mem_map]
      exact forall_congr' fun s => imp_congr_right fun _ => keys_nodup_supply.symm

/-- A change keeps the meaning. -/
theorem alike (h : Rearrange p q) (hp : p.Distinct) : p.Alike q := by
  have hq := h.distinct_iff.mp hp
  refine Profile.alike_of_iff hp hq (fun name => ?_) (fun name key value => ?_)
  · cases h with
    | sections hperm => exact (hperm.map _).mem_iff
    | options _ hsections => rw [names_of_shuffled hsections]
    | inherited _ => rw [names_supply]
  · cases h with
    | sections hperm => exact exists_congr fun s => and_congr_left fun _ => hperm.mem_iff
    | options hdefaults hsections =>
      constructor
      · rintro ⟨s, hs, rfl, hgives⟩
        obtain ⟨t, ht, hst⟩ := exists_of_shuffled hsections s hs
        exact ⟨t, ht, hst.1.symm, (hst.gives_iff hdefaults).mp hgives⟩
      · rintro ⟨t, ht, rfl, hgives⟩
        obtain ⟨s, hs, hts⟩ := exists_of_shuffled (shuffled_symm hsections) t ht
        exact ⟨s, hs, hts.1.symm, (hts.gives_iff hdefaults.symm).mp hgives⟩
    | inherited hnew =>
      constructor
      · rintro ⟨s, hs, rfl, hgives⟩
        exact ⟨_, List.mem_map_of_mem hs, name_supply _ _ s, (gives_supply_iff hnew).mpr hgives⟩
      · rintro ⟨_, ht, rfl, hgives⟩
        obtain ⟨s, hs, rfl⟩ := List.mem_map.mp ht
        exact ⟨s, hs, (name_supply _ _ s).symm, (gives_supply_iff hnew).mp hgives⟩

end Rearrange

/-- Any number of changes, made and taken back. -/
def Rearranged : Profile → Profile → Prop := Relation.EqvGen Rearrange

theorem Rearranged.distinct_iff {p q : Profile} (h : Rearranged p q) :
    p.Distinct ↔ q.Distinct := by
  induction h with
  | rel _ _ hstep => exact hstep.distinct_iff
  | refl _ => exact Iff.rfl
  | symm _ _ _ ih => exact ih.symm
  | trans _ _ _ _ _ ih ih' => exact ih.trans ih'

/-- What was rearranged means the same. -/
theorem Rearranged.alike {p q : Profile} (h : Rearranged p q) (hp : p.Distinct) : p.Alike q := by
  induction h with
  | rel _ _ hstep => exact hstep.alike hp
  | refl p => exact .refl p
  | symm p q hpq ih =>
    have hq : p.Distinct := (Rearranged.distinct_iff hpq).mpr hp
    exact (ih hq).symm
  | trans p q r hpq _ ih ih' => exact (ih hp).trans (ih' ((Rearranged.distinct_iff hpq).mp hp))

end Ini
end PadRelay
