import PadRelay.Proofs.Template.Escaping

/-!
# PadRelay.Proofs.Escaping.Entities

Values in markup, and how they are read there.

* `Contained`: no character of a text has a meaning in markup, but for the `&` of an entity.
* `replaceEntities`: one pass over a text from the left, with a character for each entity.
* `contained_xmlChar_append`, `replaceEntities_xmlChar_append`: one escaped character, whatever
  stands behind it.
* `Contained.exists_escaped`: a contained text is escaped from some text, by induction on its
  length.
* `eq_apply_xml_iff`: hence escaping and one pass are inverse to each other.
-/

namespace PadRelay
namespace Escape

def entities : List (List Char) :=
  ["&amp;".toList, "&lt;".toList, "&gt;".toList, "&quot;".toList, "&apos;".toList]

/-- A text without markup: brackets and quotes do not occur, and every `&` starts an entity. -/
structure Contained (cs : List Char) : Prop where
  free : ∀ c ∈ ['<', '>', '"', '\''], c ∉ cs
  starts : ∀ t, '&' :: t <:+ cs → ∃ entity ∈ entities, entity <+: '&' :: t

/-- One pass from the left that puts a character in the place of each entity. What was put there is
not looked at again. -/
def replaceEntities : List Char → List Char
  | '&' :: 'a' :: 'm' :: 'p' :: ';' :: cs => '&' :: replaceEntities cs
  | '&' :: 'l' :: 't' :: ';' :: cs => '<' :: replaceEntities cs
  | '&' :: 'g' :: 't' :: ';' :: cs => '>' :: replaceEntities cs
  | '&' :: 'q' :: 'u' :: 'o' :: 't' :: ';' :: cs => '"' :: replaceEntities cs
  | '&' :: 'a' :: 'p' :: 'o' :: 's' :: ';' :: cs => '\'' :: replaceEntities cs
  | c :: cs => c :: replaceEntities cs
  | [] => []

/-! ## One character -/

theorem contained_nil : Contained [] := by
  constructor <;> simp

/-- A text is contained if its first character is no markup, or starts an entity, and the rest is
contained. -/
theorem contained_cons_iff {c : Char} {cs : List Char} :
    Contained (c :: cs) ↔ c ∉ ['<', '>', '"', '\''] ∧
      (c = '&' → ∃ entity ∈ entities, entity <+: c :: cs) ∧ Contained cs := by
  constructor
  · intro h
    refine ⟨fun hc => h.free c hc List.mem_cons_self, ?_, ?_, ?_⟩
    · rintro rfl
      exact h.starts cs List.suffix_rfl
    · intro d hd hmem
      exact h.free d hd (List.mem_cons_of_mem c hmem)
    · intro t ht
      exact h.starts t (ht.trans (List.suffix_cons c cs))
  · rintro ⟨hc, hfirst, hcs⟩
    refine ⟨fun d hd hmem => ?_, fun t ht => ?_⟩
    · rcases List.mem_cons.mp hmem with rfl | hmem
      · exact hc hd
      · exact hcs.free d hd hmem
    · rcases List.suffix_cons_iff.mp ht with heq | ht
      · obtain ⟨rfl, rfl⟩ := List.cons.inj heq
        exact hfirst rfl
      · exact hcs.starts t ht

/-- What stands behind an escaped character does not become part of it. -/
theorem contained_xmlChar_append (c : Char) (cs : List Char) :
    Contained (xmlChar c ++ cs) ↔ Contained cs := by
  unfold xmlChar
  split_ifs <;> simp_all [contained_cons_iff, entities]

theorem replaceEntities_of_ne {c : Char} (h : c ≠ '&') (cs : List Char) :
    replaceEntities (c :: cs) = c :: replaceEntities cs := by
  rw [replaceEntities]
  all_goals simp [h]

theorem replaceEntities_xmlChar_append (c : Char) (cs : List Char) :
    replaceEntities (xmlChar c ++ cs) = c :: replaceEntities cs := by
  unfold xmlChar
  split_ifs with hamp hlt hgt hquot hapos
  · subst hamp; rfl
  · subst hlt; rfl
  · subst hgt; rfl
  · subst hquot; rfl
  · subst hapos; rfl
  · exact replaceEntities_of_ne hamp cs

/-- A contained text starts with an escaped character. -/
theorem Contained.uncons {c : Char} {cs : List Char} (h : Contained (c :: cs)) :
    ∃ d t, c :: cs = xmlChar d ++ t := by
  by_cases hamp : c = '&'
  · subst hamp
    obtain ⟨entity, hentity, t, ht⟩ := h.starts cs List.suffix_rfl
    simp only [entities, List.mem_cons, List.not_mem_nil, or_false] at hentity
    rcases hentity with rfl | rfl | rfl | rfl | rfl
    · exact ⟨'&', t, ht.symm⟩
    · exact ⟨'<', t, ht.symm⟩
    · exact ⟨'>', t, ht.symm⟩
    · exact ⟨'"', t, ht.symm⟩
    · exact ⟨'\'', t, ht.symm⟩
  · have hfree := (contained_cons_iff.mp h).1
    refine ⟨c, cs, ?_⟩
    simp_all [xmlChar]

/-! ## Texts -/

theorem contained_flatMap (cs : List Char) : Contained (cs.flatMap xmlChar) := by
  induction cs with
  | nil => exact contained_nil
  | cons c cs ih =>
    rw [List.flatMap_cons, contained_xmlChar_append]
    exact ih

/-- Whatever stands behind an escaped text, one pass gives the text back. -/
theorem replaceEntities_flatMap_append (cs t : List Char) :
    replaceEntities (cs.flatMap xmlChar ++ t) = cs ++ replaceEntities t := by
  induction cs with
  | nil => rfl
  | cons c cs ih =>
    rw [List.flatMap_cons, List.append_assoc, replaceEntities_xmlChar_append, ih, List.cons_append]

theorem Contained.exists_escaped {t : List Char} (h : Contained t) :
    ∃ cs : List Char, t = cs.flatMap xmlChar := by
  induction hn : t.length using Nat.strongRecOn generalizing t with
  | ind n ih =>
    cases t with
    | nil => exact ⟨[], rfl⟩
    | cons c t =>
      obtain ⟨d, rest, hrest⟩ := h.uncons
      rw [hrest] at h hn
      have hpos : 0 < (xmlChar d).length := by
        rcases xmlChar_eq_or_lt d with hd | hd
        · simp [hd]
        · omega
      rw [List.length_append] at hn
      obtain ⟨cs, rfl⟩ := ih rest.length (by omega) ((contained_xmlChar_append d rest).mp h) rfl
      exact ⟨d :: cs, hrest⟩

/-- **Escaping for markup is safe and can be undone.** An escaped text holds no bracket and no
quote, each `&` in it starts an entity, and one pass that replaces the entities gives back the
value, even if the value itself looks like entities. No other text does so. -/
theorem eq_apply_xml_iff (value t : String) :
    t = Escape.xml.apply value ↔
      Contained t.toList ∧ replaceEntities t.toList = value.toList := by
  have hundo : ∀ cs : List Char, replaceEntities (cs.flatMap xmlChar) = cs := by
    intro cs
    have happend := replaceEntities_flatMap_append cs []
    rwa [List.append_nil, replaceEntities, List.append_nil] at happend
  rw [← String.toList_inj, toList_apply]
  constructor
  · intro h
    rw [h]
    exact ⟨contained_flatMap _, hundo _⟩
  · rintro ⟨hcontained, hvalue⟩
    obtain ⟨cs, hcs⟩ := hcontained.exists_escaped
    rw [hcs, hundo] at hvalue
    rw [hcs, hvalue]
    rfl

/-- An entity that a value holds is escaped once more, and is left alone by the pass. -/
example : Escape.xml.apply "&amp;lt;" = "&amp;amp;lt;" ∧
    replaceEntities "&amp;amp;lt;".toList = "&amp;lt;".toList := by
  decide

end Escape
end PadRelay
