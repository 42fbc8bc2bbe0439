import PadRelay.Ini.Parser
import PadRelay.Proofs.Payload.Body

/-!
# PadRelay.Proofs.Payload.Controls

Control characters in templates, which are posted as they are.

* `skipText_render`: a literal control character is an error of the text it stands in.
* `skipItems_fields`: hence of the fields, by induction, and of the posted text.
* `wellFormed_toJson_iff`: without quotes and backslashes in templates, a posted text is well-formed
  if and only if there is no control character in them either.
-/

namespace PadRelay

open Json
open Pad (Event Update)

/-! ## Texts -/

namespace Template

/-- A literal control character ends the reading of the text it stands in. -/
theorem skipText_render {now next : Option Event} {segments : List Segment}
    (hplain : ∀ c, .literal c ∈ segments → isPlain c = true ∨ c.toNat < 0x20)
    (hcontrol : ∃ c, .literal c ∈ segments ∧ c.toNat < 0x20) (s : List Char) :
    skipText (wire (render now next .json segments ++ s)) = .error .controlCharacter := by
  induction segments with
  | nil =>
    obtain ⟨c, hc, -⟩ := hcontrol
    cases hc
  | cons segment segments ih =>
    simp only [render, List.flatMap_cons, List.append_assoc] at ih ⊢
    by_cases hfirst : ∃ c, segment = .literal c ∧ c.toNat < 0x20
    · obtain ⟨c, rfl, hc⟩ := hfirst
      exact skipText_control hc _
    · have hsegment : ∀ c, segment = .literal c → isPlain c = true := by
        intro c hc
        obtain hc' | hc' := hplain c (hc ▸ List.mem_cons_self)
        · exact hc'
        · exact absurd ⟨c, hc, hc'⟩ hfirst
      obtain ⟨c, hc, hlt⟩ := hcontrol
      have hrest : .literal c ∈ segments := by
        obtain heq | hrest := List.mem_cons.mp hc
        · exact absurd ⟨c, heq.symm, hlt⟩ hfirst
        · exact hrest
      rw [skipText_append_of_spells (spells_renderSegment hsegment .done)]
      exact ih (fun c hc => hplain c (List.mem_cons_of_mem _ hc)) ⟨c, hrest, hlt⟩

end Template

namespace Payload

open Template

/-! ## Fields -/

/-- A field whose template holds a control character is not passed over. -/
theorem skipItems_field {u : Update} {line : LineMapping}
    (hallowed : ∀ c ∈ line.value.toList, isPlain c = true ∨ c.toNat < 0x20)
    (hcontrol : ∃ c ∈ line.value.toList, c.toNat < 0x20) (outer : List Container) (t : List Char) :
    skipItems (.object :: outer)
        (wire (newline ++ writeEntry (line.key, resolveFields u line.value .json) ++ t)) =
      .error .controlCharacter := by
  obtain ⟨c, hc, hlt⟩ := hcontrol
  have hliteral : .literal c ∈ scan line.value.toList := by
    refine (parts_scan _).literal_of_mem hc ?_ (isLetter_of_control hlt)
    rintro rfl
    exact absurd hlt (by decide)
  have htext : skipText (wire ((resolveFields u line.value .json).toList ++ '"' :: t)) =
      .error .controlCharacter := by
    rw [resolveFields, resolve, String.toList_ofList]
    exact skipText_render (fun c hc => hallowed c ((parts_scan _).mem_of_literal hc))
      ⟨c, hliteral, hlt⟩ _
  rw [writeEntry_append, skipItems_member (blanks_field _) (spells_units line.key _) .none,
    skipDue_of_blanks (blanks_space _)]
  exact skipDue_of_skipText htext _

/-- Nor are fields one of which is such. -/
theorem skipItems_fields {u : Update} {line : LineMapping} {more : List LineMapping}
    (hallowed : ∀ l ∈ line :: more, ∀ c ∈ l.value.toList, isPlain c = true ∨ c.toNat < 0x20)
    (hcontrol : ∃ l ∈ line :: more, ∃ c ∈ l.value.toList, c.toNat < 0x20)
    (outer : List Container) (t : List Char) :
    skipItems (.object :: outer) (wire (List.intercalate [','] ((line :: more).map fun l =>
        newline ++ writeEntry (l.key, resolveFields u l.value .json)) ++ t)) =
      .error .controlCharacter := by
  induction more generalizing line with
  | nil =>
    obtain ⟨l, hl, hcontrol⟩ := hcontrol
    rw [List.mem_singleton] at hl
    subst hl
    rw [List.map_singleton, List.intercalate_singleton]
    exact skipItems_field (hallowed l List.mem_cons_self) hcontrol outer t
  | cons next more ih =>
    rw [intercalate_comma]
    obtain ⟨hline, hmore⟩ := List.forall_mem_cons.mp hallowed
    by_cases hfirst : ∃ c ∈ line.value.toList, c.toNat < 0x20
    · exact skipItems_field hline hfirst outer _
    · have hplain : ∀ c ∈ line.value.toList, isPlain c = true := fun c hc =>
        (hline c hc).resolve_right fun hlt => hfirst ⟨c, hc, hlt⟩
      have hrest : ∃ l ∈ next :: more, ∃ c ∈ l.value.toList, c.toNat < 0x20 := by
        obtain ⟨l, hl, hcontrol⟩ := hcontrol
        obtain rfl | hl := List.mem_cons.mp hl
        · exact absurd hcontrol hfirst
        · exact ⟨l, hl, hcontrol⟩
      have hpassed : ∀ r, skipItems (.object :: outer) (wire (newline ++
          writeEntry (line.key, resolveFields u line.value .json) ++ ',' :: r)) =
          skipItems (.object :: outer) (wire r) := by
        intro r
        have hfield := written_field (u := u) hplain (Blanks.none (t := ',' :: r))
        rw [hfield.passes (delimited_wire r) outer, skipBehind_comma]
      rw [hpassed]
      exact ih hmore hrest

/-- A posted text with a control character in a template says nothing. -/
theorem not_wellFormed_of_control {s : EncoderSettings} (u : Update)
    (hallowed : ∀ line ∈ s.lines, ∀ c ∈ line.value.toList, isPlain c = true ∨ c.toNat < 0x20)
    (hcontrol : ∃ line ∈ s.lines, ∃ c ∈ line.value.toList, c.toNat < 0x20) :
    ¬ WellFormed (ofUpdate s u).toJson.toList := by
  rw [toJson, String.toList_ofList, write_eq]
  refine not_wellFormed_of_skipValue (e := .controlCharacter) ?_
  rw [skipValue, skipItems_of_skipToValue rfl,
    skipDue_object ((blanks_newline _).trans (blanks_indent _)),
    skipItems_member ((blanks_newline _).trans (blanks_indent _)) (spells_units "Metadata" _) .none,
    skipDue_of_blanks (blanks_space _), ofUpdate]
  cases hlines : s.lines with
  | nil =>
    rw [hlines] at hcontrol
    obtain ⟨line, hline, -⟩ := hcontrol
    cases hline
  | cons line more =>
    rw [hlines] at hallowed hcontrol
    have hfields := skipItems_fields (u := u) hallowed hcontrol [.object]
      (newline ++ ("    ".toList ++ '\x7d' :: (newline ++ '\x7d' :: newline)))
    have hquote : ∃ r, Blanks (List.intercalate [','] ((line :: more).map fun l =>
        newline ++ writeEntry (l.key, resolveFields u l.value .json)) ++
        (newline ++ ("    ".toList ++ '\x7d' :: (newline ++ '\x7d' :: newline)))) ('"' :: r) := by
      rw [List.map_cons, intercalate_cons, List.append_assoc, writeEntry_append]
      exact ⟨_, blanks_field _⟩
    obtain ⟨r, hquote⟩ := hquote
    simp only [List.map_cons, List.map_map, fields, List.append_assoc] at hfields hquote ⊢
    exact (skipDue_object hquote _).trans hfields

/-- No line is reported if no template holds a quote or a backslash. -/
theorem unescapedLiteralLines_eq_nil {s : EncoderSettings} (h : s.unescapedLiteralLines = []) :
    ∀ line ∈ s.lines, ∀ c ∈ line.value.toList, c ≠ '"' ∧ c ≠ '\\' := by
  intro line hline c hc
  have hnumbered : ∃ n, (line, n) ∈ s.lines.zipIdx 1 := by
    rw [← List.zipIdx_map_fst 1 s.lines] at hline
    obtain ⟨⟨l, n⟩, hmem, rfl⟩ := List.mem_map.mp hline
    exact ⟨n, hmem⟩
  obtain ⟨n, hn⟩ := hnumbered
  have hnone := List.filter_eq_nil_iff.mp (List.map_eq_nil_iff.mp h) _ hn
  simp only [LineMapping.hasUnescapedLiteral, List.any_eq_true, not_exists, not_and,
    Bool.or_eq_true, decide_eq_true_eq, not_or] at hnone
  exact hnone c hc

/-- Where no line is reported, the posted text is well-formed if no template holds a control
character. One with a line end or a tab is not reported. -/
theorem wellFormed_toJson_iff {s : EncoderSettings} (hquiet : s.unescapedLiteralLines = [])
    (u : Update) :
    WellFormed (ofUpdate s u).toJson.toList ↔
      ∀ line ∈ s.lines, ∀ c ∈ line.value.toList, 0x20 ≤ c.toNat := by
  have hliteral := unescapedLiteralLines_eq_nil hquiet
  constructor
  · intro hwell line hline c hc
    have hallowed : ∀ l ∈ s.lines, ∀ d ∈ l.value.toList, isPlain d = true ∨ d.toNat < 0x20 := by
      intro l hl d hd
      rcases Nat.lt_or_ge d.toNat 0x20 with hlt | hge
      · exact .inr hlt
      · exact .inl (isPlain_iff.mpr ⟨hge, hliteral l hl d hd⟩)
    rcases Nat.lt_or_ge c.toNat 0x20 with hlt | hge
    · exact absurd hwell (not_wellFormed_of_control u hallowed ⟨line, hline, c, hc, hlt⟩)
    · exact hge
  · intro hclean
    refine ⟨_, document_ofUpdate u fun line hline c hc => ?_⟩
    exact isPlain_iff.mpr ⟨hclean line hline c hc, hliteral line hline c hc⟩

/-- A template of two lines. -/
theorem wellFormed_toJson_iff_of_two_lines :
    ∃ p s,
      Ini.parse "[Glasscoder]\nUpdateUrl=http://x/y\n[Line1]\nKey=k\nValue=%t\n by %a\n" = .ok p ∧
      EncoderSettings.ofProfile p = .ok (some s) ∧ s.unescapedLiteralLines = [] ∧
      ∀ u, ¬ WellFormed (ofUpdate s u).toJson.toList := by
  refine ⟨⟨⟨"DEFAULT", []⟩, [⟨"Glasscoder", [("updateurl", "http://x/y")]⟩,
    ⟨"Line1", [("key", "k"), ("value", "%t\nby %a")]⟩]⟩, ⟨"http://x/y", [⟨"k", "%t\nby %a"⟩]⟩,
    ?_, ?_, ?_, ?_⟩
  · rfl
  · rfl
  · decide
  · intro u hwell
    have hclean := (wellFormed_toJson_iff (by decide) u).mp hwell _ List.mem_cons_self
    exact absurd (hclean '\n' (by decide)) (by decide)

end Payload
end PadRelay
