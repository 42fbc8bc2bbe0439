import PadRelay.Proofs.Ini.Written

/-!
# PadRelay.Proofs.Ini.Roundtrip

Written configurations are read back.

* `Leads`: what reading some lines leads to.
* `leads_option`, `leads_options`: the options of a section, by induction, each up to the last line
  of its value.
* `leads_section`, `leads_sections`: the sections, by induction.
* `parse_text`: a written configuration is read as what it describes.
-/

namespace PadRelay
namespace Ini

/-! ## The current section -/

namespace Reading

/-- The same with this one as the current section, in which the newest value may go on. -/
def holding (r : Reading) (d : Draft) : Reading := { r.setCurrent d with valueOpen := true }

theorem current?_holding {r : Reading} {d : Draft} (h : r.current? = some d) (d' : Draft) :
    (r.holding d').current? = some d' := by
  obtain ⟨defaults, sections, place, valueOpen⟩ := r
  cases place with
  | nowhere => cases h
  | defaults => rfl
  | newest => rfl

theorem setCurrent_self {r : Reading} {d : Draft} (h : r.current? = some d) :
    r.setCurrent d = r := by
  obtain ⟨defaults, sections, place, valueOpen⟩ := r
  cases place with
  | nowhere => cases h
  | defaults => cases h; rfl
  | newest =>
    obtain ⟨more, rfl⟩ := List.head?_eq_some_iff.mp h
    rfl

theorem setCurrent_holding (r : Reading) (d d' : Draft) :
    (r.holding d).setCurrent d' = r.holding d' := by
  obtain ⟨defaults, sections, place, valueOpen⟩ := r
  cases place <;> rfl

theorem addOption_of_new {r : Reading} {d : Draft} (h : r.current? = some d) {key : String}
    (hnew : d.hasKey key = false) (value : String) :
    r.addOption key value = .ok (r.holding (d.add key value)) := by
  rw [addOption, h]
  simp only [hnew]
  rfl

theorem continueValue_holding {r : Reading} {d : Draft} (h : r.current? = some d) (d' : Draft)
    (text : List Char) : (r.holding d').continueValue text = r.holding (d'.extend text) := by
  rw [continueValue, current?_holding h]
  exact setCurrent_holding r d' _

/-! ## Runs of lines -/

/-- Reading these lines leads from one state to another. -/
inductive Leads : Reading → List (List Char) → Reading → Prop where
  | nil {r : Reading} : Leads r [] r
  | cons {r r' r'' : Reading} {l : List Char} {ls : List (List Char)} :
      r.readLine l = .ok r' → Leads r' ls r'' → Leads r (l :: ls) r''

theorem Leads.readLines {r r' : Reading} {ls : List (List Char)} (h : Leads r ls r') (n : Nat) :
    r.readLines n ls = .ok r' := by
  induction h generalizing n with
  | nil => rfl
  | cons hline _ ih =>
    rw [Reading.readLines, hline]
    exact ih (n + 1)

theorem Leads.append {r r' r'' : Reading} {ls ls' : List (List Char)} (h : Leads r ls r')
    (h' : Leads r' ls' r'') : Leads r (ls ++ ls') r'' := by
  induction h with
  | nil => exact h'
  | cons hline _ ih => exact .cons hline (ih h')

end Reading

open Reading

/-! ## Options -/

theorem leads_continuations {r : Reading} {d : Draft} (h : r.current? = some d)
    (more : List Continuation) (name key value : String) (entries : List (String × String)) :
    Leads (r.holding ⟨name, (key, value) :: entries⟩) (more.map Continuation.line)
      (r.holding ⟨name, (key, "\n".intercalate (value :: more.map (·.text))) :: entries⟩) := by
  induction more generalizing value with
  | nil => exact .nil
  | cons l more ih =>
    refine .cons (readLine_continuation l rfl) ?_
    rw [continueValue_holding h]
    simp only [Draft.extend, String.ofList_toList]
    exact ih (value ++ "\n" ++ l.text)

theorem leads_option {r : Reading} {d : Draft} (h : r.current? = some d) (o : OptionText)
    (hnew : d.hasKey o.key = false) : Leads r o.lines (r.holding (d.add o.key o.value)) := by
  refine .cons ?_ (leads_continuations h o.more d.name o.key o.first d.entries)
  rw [readLine_option, addOption_of_new h hnew]
  rfl

/-- The options of a section go to the current one, in their order. -/
theorem leads_options {r : Reading} {d : Draft} (h : r.current? = some d) {os : List OptionText}
    (hnew : ∀ o ∈ os, d.hasKey o.key = false) (hnodup : (os.map (·.key)).Nodup) :
    ∃ valueOpen, Leads r (os.flatMap OptionText.lines)
      { r.setCurrent ⟨d.name, (os.map OptionText.entry).reverse ++ d.entries⟩ with valueOpen } := by
  induction os generalizing r d with
  | nil =>
    have hself := setCurrent_self h
    refine ⟨r.valueOpen, ?_⟩
    rw [List.map_nil, List.reverse_nil, List.nil_append, hself]
    exact .nil
  | cons o os ih =>
    obtain ⟨ho, hmore⟩ := List.forall_mem_cons.mp hnew
    obtain ⟨hkey, hnodup⟩ := List.nodup_cons.mp hnodup
    have hmore' : ∀ o' ∈ os, (d.add o.key o.value).hasKey o'.key = false := by
      intro o' ho'
      have hne : o.key ≠ o'.key := by
        intro heq
        exact hkey (List.mem_map.mpr ⟨o', ho', heq.symm⟩)
      have hd := hmore o' ho'
      simp only [Draft.hasKey, Draft.add, List.any_cons, Bool.or_eq_false_iff, beq_eq_false_iff_ne]
      exact ⟨hne, hd⟩
    obtain ⟨valueOpen, hrest⟩ := ih (current?_holding h _) hmore' hnodup
    refine ⟨valueOpen, ?_⟩
    rw [setCurrent_holding] at hrest
    have hlines := (leads_option h o ho).append hrest
    rw [List.flatMap_cons, List.map_cons, List.reverse_cons, List.append_assoc]
    exact hlines

/-! ## Sections -/

/-- A section when the last of its options has been read. -/
def SectionText.draft (s : SectionText) : Draft :=
  ⟨s.name, (s.options.map OptionText.entry).reverse⟩

theorem SectionText.toSection_draft (s : SectionText) : s.draft.toSection = s.toSection := by
  rw [draft, Draft.toSection, List.reverse_reverse]
  rfl

theorem leads_section {r r' : Reading} (s : SectionText) (h : r.openSection s.name = .ok r')
    (hcurrent : r'.current? = some ⟨s.name, []⟩) :
    ∃ valueOpen, Leads r s.lines { r'.setCurrent s.draft with valueOpen } := by
  obtain ⟨valueOpen, hoptions⟩ := leads_options hcurrent (fun _ _ => rfl) s.keys_nodup
  refine ⟨valueOpen, .cons ((readLine_header r s.name).trans h) ?_⟩
  rw [List.append_nil] at hoptions
  exact hoptions

/-- Sections of new names go behind those before them. -/
theorem leads_sections {r : Reading} {ss : List SectionText}
    (hname : ∀ s ∈ ss, s.name ≠ defaultsName)
    (hnew : ∀ s ∈ ss, ∀ d ∈ r.sections, d.name ≠ s.name)
    (hnodup : (ss.map (·.name)).Nodup) :
    ∃ place valueOpen, Leads r (ss.flatMap SectionText.lines)
      { r with
        sections := (ss.map SectionText.draft).reverse ++ r.sections, place, valueOpen } := by
  induction ss generalizing r with
  | nil => exact ⟨r.place, r.valueOpen, .nil⟩
  | cons s ss ih =>
    obtain ⟨hs, hmore⟩ := List.forall_mem_cons.mp hname
    obtain ⟨hsnew, hmorenew⟩ := List.forall_mem_cons.mp hnew
    obtain ⟨hmem, hnodup⟩ := List.nodup_cons.mp hnodup
    have hany : r.sections.any (·.name == s.name) = false := by
      simpa using hsnew
    have hopen : r.openSection s.name = .ok { r with
        sections := ⟨s.name, []⟩ :: r.sections, place := .newest, valueOpen := false } := by
      rw [openSection, if_neg hs, hany]
      rfl
    obtain ⟨valueOpen, hsection⟩ := leads_section s hopen rfl
    -- the next header must not name this section again
    have hmorenew' : ∀ s' ∈ ss, ∀ d ∈ s.draft :: r.sections, d.name ≠ s'.name := by
      intro s' hs'
      refine List.forall_mem_cons.mpr ⟨?_, hmorenew s' hs'⟩
      intro heq
      exact hmem (List.mem_map.mpr ⟨s', hs', heq.symm⟩)
    obtain ⟨place, valueOpen', hrest⟩ := ih (r := { r with
      sections := s.draft :: r.sections, place := .newest, valueOpen }) hmore hmorenew' hnodup
    refine ⟨place, valueOpen', ?_⟩
    rw [List.flatMap_cons, List.map_cons, List.reverse_cons, List.append_assoc]
    exact hsection.append hrest

/-! ## Configurations -/

/-- All lines of a written configuration lead to what it describes. -/
theorem leads_lines (p : ProfileText) : ∃ r, Leads .start p.lines r ∧ r.profile = p.profile := by
  have hsections : (p.sections.map SectionText.draft).map Draft.toSection =
      p.sections.map SectionText.toSection := by
    rw [List.map_map]
    exact List.map_congr_left fun s _ => s.toSection_draft
  cases hdefaults : p.defaults with
  | none =>
    obtain ⟨place, valueOpen, hlines⟩ := leads_sections (r := .start) p.sections_name
      (fun _ _ _ hd => absurd hd List.not_mem_nil) p.names_nodup
    have htext : p.lines = p.sections.flatMap SectionText.lines := by
      rw [ProfileText.lines, hdefaults]
      rfl
    rw [htext]
    refine ⟨_, hlines, ?_⟩
    simp only [profile, ProfileText.profile, hdefaults, Reading.start, List.append_nil,
      List.map_reverse, List.reverse_reverse, hsections]
    rfl
  | some s =>
    have hname := p.defaults_name s hdefaults
    have hopen : Reading.start.openSection s.name =
        .ok { Reading.start with place := .defaults, valueOpen := false } := by
      rw [openSection, if_pos hname]
    have hcurrent : ({ Reading.start with place := .defaults, valueOpen := false } :
        Reading).current? = some ⟨s.name, []⟩ := by
      rw [hname]
      rfl
    obtain ⟨valueOpen, hsection⟩ := leads_section s hopen hcurrent
    obtain ⟨place, valueOpen', hlines⟩ := leads_sections (r := { Reading.start with
      defaults := s.draft, place := .defaults, valueOpen }) p.sections_name
      (fun _ _ _ hd => absurd hd List.not_mem_nil) p.names_nodup
    have htext : p.lines = s.lines ++ p.sections.flatMap SectionText.lines := by
      rw [ProfileText.lines, hdefaults]
      rfl
    rw [htext]
    refine ⟨_, hsection.append hlines, ?_⟩
    simp only [profile, ProfileText.profile, hdefaults, Reading.start, List.append_nil,
      List.map_reverse, List.reverse_reverse, hsections]
    have hdraft : s.draft.toSection = ⟨defaultsName, s.toSection.entries⟩ := by
      rw [s.toSection_draft, ← hname]
      rfl
    exact congrArg (Profile.mk · _) hdraft

theorem dropMark_of_head {cs : List Char} (h : ∀ c ∈ cs.head?, c = '[') : dropMark cs = cs := by
  unfold dropMark
  split
  · exact absurd (h _ rfl) (by decide)
  · rfl

theorem parse_of_lines {p : ProfileText} {text : String}
    (hhead : ∀ c ∈ text.toList.head?, c = '[') (hlines : Text.lines text.toList = p.lines) :
    parse text = .ok p.profile := by
  obtain ⟨r, hleads, hprofile⟩ := leads_lines p
  rw [parse, dropMark_of_head hhead, hlines, hleads.readLines, ← hprofile]
  rfl

/-- A written configuration is read as what it describes, whether its last line is ended or not. -/
theorem parse_text (p : ProfileText) :
    parse p.text = .ok p.profile ∧
      ∀ text, text ++ "\n" = p.text → parse text = .ok p.profile := by
  have hends : ∀ l ∈ p.lines, '\n' ∉ l ∧ l.getLast? ≠ some '\r' :=
    fun l hl => (p.sound_lines l hl).ended
  have htext : p.text.toList = p.lines.flatMap (· ++ ['\n']) := String.toList_ofList
  constructor
  · refine parse_of_lines p.head?_text ?_
    rw [htext, Text.lines_ended hends]
  · intro text hended
    have hlist : text.toList ++ ['\n'] = p.text.toList := by
      rw [← hended, String.toList_append]
      rfl
    refine parse_of_lines (fun c hc => p.head?_text c ?_) ?_
    · rw [← hlist, List.head?_append, Option.mem_def.mp hc]
      rfl
    · exact Text.lines_of_append hends (fun l hl => (p.sound_lines l hl).1) (hlist.trans htext)

/-- Brackets, separators and comment marks where they are none. -/
theorem parse_text_of_marks :
    parse "[DEFAULT]\nd:\n[a]=b]\nk=[x]: #1\n\t[y]=2" = .ok
      ⟨⟨"DEFAULT", [("d", "")]⟩, [⟨"a]=b", [("k", "[x]: #1\n[y]=2")]⟩]⟩ := by
  refine (parse_text {
    defaults := some {
      name := "DEFAULT"
      options := [{ key := "d", separator := ':', first := "", more := [] }] }
    sections := [{
      name := "a]=b"
      options := [{
        key := "k"
        separator := '='
        first := "[x]: #1"
        more := [{ indent := ['\t'], text := "[y]=2" }] }] }] }).2 _ ?_
  decide +kernel

end Ini
end PadRelay
