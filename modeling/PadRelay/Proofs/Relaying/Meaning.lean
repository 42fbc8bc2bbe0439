import PadRelay.Proofs.Ini.Rearranged
import PadRelay.Relay

/-!
# PadRelay.Proofs.Relaying.Meaning

Only what a configuration means matters to the relay, not how it is written.

* `lineNumbers_of_alike`: alike configurations have as many sections, so the same lines are found.
* `required_of_alike` to `decide_of_alike`: every reader, from the values it asks for up.
* `process_of_parse`: two texts that were read.
-/

namespace PadRelay

open Ini (Profile Rearranged parse)

variable {p q : Profile}

/-! ## Settings -/

theorem length_sections_of_alike (hp : p.Distinct) (hq : q.Distinct) (h : p.Alike q) :
    p.sections.length = q.sections.length := by
  have hperm : (p.sections.map (·.name)).Perm (q.sections.map (·.name)) := by
    rw [List.perm_ext_iff_of_nodup hp.names_nodup hq.names_nodup]
    intro name
    rw [← Profile.hasSection_iff, ← Profile.hasSection_iff, h.names name]
  simpa using hperm.length_eq

theorem lineNumbers_of_alike (hp : p.Distinct) (hq : q.Distinct) (h : p.Alike q) :
    lineNumbers p = lineNumbers q := by
  simp only [lineNumbers, length_sections_of_alike hp hq h, h.names]

theorem required_of_alike (h : p.Alike q) (name key : String) :
    required p name key = required q name key := by
  rw [required, required, h.get?_eq]

theorem lineMapping_of_alike (h : p.Alike q) : lineMapping p = lineMapping q := by
  funext n
  simp only [lineMapping, required_of_alike h]

theorem lineMappings_of_alike (hp : p.Distinct) (hq : q.Distinct) (h : p.Alike q) :
    lineMappings p = lineMappings q := by
  rw [lineMappings, lineMappings, lineNumbers_of_alike hp hq h, lineMapping_of_alike h]

theorem ofProfile_of_alike (hp : p.Distinct) (hq : q.Distinct) (h : p.Alike q) :
    EncoderSettings.ofProfile p = EncoderSettings.ofProfile q := by
  simp only [EncoderSettings.ofProfile, h.names, required_of_alike h,
    lineMappings_of_alike hp hq h]

/-! ## Updates -/

theorem int?_of_alike (h : p.Alike q) (name key : String) : p.int? name key = q.int? name key := by
  rw [Profile.int?, Profile.int?, h.get?_eq]

theorem shouldProcess_of_alike (h : p.Alike q) (name : String) (u : Pad.Update) :
    Selection.shouldProcess p name u = Selection.shouldProcess q name u := by
  simp only [Selection.shouldProcess, h.names, int?_of_alike h, h.get?_eq]

theorem decide_of_alike (hp : p.Distinct) (hq : q.Distinct) (h : p.Alike q) (u : Pad.Update) :
    Relay.decide p u = Relay.decide q u := by
  simp only [Relay.decide, h.names, shouldProcess_of_alike h, ofProfile_of_alike hp hq h]

/-- **Only the meaning of a configuration matters.** Two texts whose sections or options stand in
another order, or which leave an option to the defaults or copy it, have the same sections with the
same values. Where these are the same, the same lines and settings are read, every section wants the
same updates, and an update is dealt with in the same way: what becomes of it, the request, and all
that is logged and counted. -/
theorem process_of_parse {s t : String} (hp : parse s = .ok p) (hq : parse t = .ok q) :
    (Rearranged p q → p.Alike q) ∧
      (p.Alike q →
        lineMappings p = lineMappings q ∧
          EncoderSettings.ofProfile p = EncoderSettings.ofProfile q ∧
          (∀ name u, Selection.shouldProcess p name u = Selection.shouldProcess q name u) ∧
          ∀ network sent u, Relay.process p network sent u = Relay.process q network sent u) := by
  have hpd := (Ini.orderly_of_parse hp).distinct
  have hqd := (Ini.orderly_of_parse hq).distinct
  refine ⟨fun h => h.alike hpd, fun h => ⟨lineMappings_of_alike hpd hqd h,
    ofProfile_of_alike hpd hqd h, shouldProcess_of_alike h, fun network sent u => ?_⟩⟩
  rw [Relay.process, Relay.process, decide_of_alike hpd hqd h]

/-- The sections and options of one text stand in another order in the other, and the key of the
first line, which the one leaves to the defaults, is written out there. -/
theorem process_of_parse_of_copied_default :
    let s := "[Glasscoder]\nUpdateUrl=u\n[DEFAULT]\nKey=k\nMasterLog=onair\n[Line1]\nValue=%t\n" ++
      "[Line2]\nValue=%a\nKey=own"
    let t := "[DEFAULT]\nMASTERLOG: onair\n[Line2]\nkey: own\nvalue: %a\n" ++
      "[Line1]\nvalue: %t\nkey: k\n[Glasscoder]\nkey: k\nupdateurl: u"
    let lines := [⟨"Line1", [("value", "%t")]⟩, ⟨"Line2", [("value", "%a"), ("key", "own")]⟩]
    let p : Profile := ⟨⟨"DEFAULT", [("key", "k"), ("masterlog", "onair")]⟩,
      ⟨"Glasscoder", [("updateurl", "u")]⟩ :: lines⟩
    let q : Profile := ⟨⟨"DEFAULT", [("masterlog", "onair")]⟩,
      [⟨"Line2", [("key", "own"), ("value", "%a")]⟩, ⟨"Line1", [("value", "%t"), ("key", "k")]⟩,
        ⟨"Glasscoder", [("key", "k"), ("updateurl", "u")]⟩]⟩
    parse s = .ok p ∧ parse t = .ok q ∧ Rearranged p q ∧ p.Alike q ∧
      lineMappings q = .ok [⟨"k", "%t"⟩, ⟨"own", "%a"⟩] ∧
      ∀ u, Selection.shouldProcess q encoderSection u =
        Selection.shouldProcess p encoderSection u := by
  intro s t lines p q
  have hp : parse s = .ok p := by decide +kernel
  have hq : parse t = .ok q := by decide +kernel
  let copied : Profile := ⟨⟨"DEFAULT", [("masterlog", "onair")]⟩,
    [⟨"Glasscoder", [("updateurl", "u"), ("key", "k")]⟩, ⟨"Line1", [("value", "%t"), ("key", "k")]⟩,
      ⟨"Line2", [("value", "%a"), ("key", "own")]⟩]⟩
  have hcopied : Rearranged p copied := .rel _ _ (.inherited (by decide))
  have hshuffled : Rearranged copied ⟨q.defaults, q.sections.reverse⟩ :=
    .rel _ _ (.options ⟨rfl, .refl _⟩ (.cons ⟨rfl, by decide⟩ (.cons ⟨rfl, by decide⟩
      (.cons ⟨rfl, by decide⟩ .nil))))
  have hreversed : Rearranged ⟨q.defaults, q.sections.reverse⟩ q :=
    .rel _ _ (.sections (List.reverse_perm _))
  have hall : Rearranged p q := .trans _ _ _ hcopied (.trans _ _ _ hshuffled hreversed)
  obtain ⟨hmeans, hsame⟩ := process_of_parse hp hq
  obtain ⟨hlines, -, hwants, -⟩ := hsame (hmeans hall)
  have hread : lineMappings p = .ok [⟨"k", "%t"⟩, ⟨"own", "%a"⟩] := by decide +kernel
  exact ⟨hp, hq, hall, hmeans hall, hlines.symm.trans hread, fun u => (hwants _ u).symm⟩

end PadRelay
