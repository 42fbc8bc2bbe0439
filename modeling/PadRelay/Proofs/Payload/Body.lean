import PadRelay.Payload
import PadRelay.Proofs.Json.Unique
import PadRelay.Proofs.Template.Escaping
import PadRelay.Proofs.Template.Literals

/-!
# PadRelay.Proofs.Payload.Body

What the posted text says.

* `spells_render`: between quotes, a template whose literals may stand there spells what it says
  when nothing is escaped.
* `document_entries`: a posted text says its keys and what its values spell, by the layout alone.
* `document_toJson_iff`: a posted text says its keys and its resolved templates, in line order, and
  nothing else.
-/

namespace PadRelay

open Json
open Pad (Event Update)

/-! ## Templates between quotes -/

namespace Template

/-- A segment spells between quotes what it says when nothing is escaped. -/
theorem spells_renderSegment {now next : Option Event} {segment : Segment}
    (hplain : ∀ c, segment = .literal c → isPlain c = true) {us : List Nat} {s t : List Char}
    (h : Spells us s t) :
    Spells ((renderSegment now next .none segment).flatMap charUnits ++ us)
      (renderSegment now next .json segment ++ s) t := by
  cases segment with
  | literal c =>
    simp only [renderSegment, List.flatMap_singleton]
    exact .plain (hplain c rfl) h
  | wildcard field slot =>
    simp only [renderSegment]
    cases eventAt now next slot with
    | none => exact h
    | some e =>
      simp only [Escape.apply_none, Escape.toList_apply]
      exact spells_escape _ h

theorem spells_render {now next : Option Event} {segments : List Segment}
    (hplain : ∀ c, .literal c ∈ segments → isPlain c = true) {us : List Nat} {s t : List Char}
    (h : Spells us s t) :
    Spells ((render now next .none segments).flatMap charUnits ++ us)
      (render now next .json segments ++ s) t := by
  induction segments with
  | nil => exact h
  | cons segment segments ih =>
    have hmore := ih fun c hc => hplain c (List.mem_cons_of_mem _ hc)
    simp only [render, List.flatMap_cons, List.flatMap_append, List.append_assoc] at hmore ⊢
    refine spells_renderSegment (fun c hc => ?_) hmore
    exact hplain c (hc ▸ List.mem_cons_self)

end Template

namespace Payload

open Template

/-! ## The layout -/

theorem newline_intercalate (x : List Char) (xs : List (List Char)) :
    newline ++ List.intercalate (',' :: newline) (x :: xs) =
      List.intercalate [','] ((x :: xs).map (newline ++ ·)) := by
  induction xs generalizing x with
  | nil => simp
  | cons y ys ih =>
    have hrest := ih y
    simp only [List.map_cons] at hrest ⊢
    rw [List.intercalate_cons_cons, List.intercalate_cons_cons, ← hrest]
    simp

theorem writeEntry_append (key value : String) (t : List Char) :
    newline ++ writeEntry (key, value) ++ t =
      newline ++ ("    ".toList ++ ("    ".toList ++ '"' :: (key.toList.flatMap escapeChar ++
        '"' :: ':' :: ' ' :: '"' :: (value.toList ++ '"' :: t)))) := by
  show newline ++ ("        ".toList ++ ('"' :: key.toList.flatMap escapeChar ++ ['"']) ++
    [':', ' ', '"'] ++ value.toList ++ ['"']) ++ t = _
  simp only [List.append_assoc, List.cons_append, List.nil_append]
  rfl

/-- The fields, each behind its line end, up to the end of their object. -/
def fields (entries : List (String × String)) : List Char :=
  match entries with
  | [] => []
  | entry :: more =>
    List.intercalate [','] ((entry :: more).map fun e => newline ++ writeEntry e) ++
      (newline ++ "    ".toList)

theorem write_eq (p : Payload) :
    p.write = '\x7b' :: (newline ++ ("    ".toList ++
      '"' :: ("Metadata".toList.flatMap escapeChar ++
        '"' :: ':' :: ' ' :: '\x7b' :: (fields p.entries ++
          '\x7d' :: (newline ++ '\x7d' :: newline))))) := by
  cases p with
  | mk entries =>
    cases entries with
    | nil => rfl
    | cons entry more =>
      have hfields : newline ++ List.intercalate (',' :: newline) ((entry :: more).map writeEntry) =
          List.intercalate [','] ((entry :: more).map fun e => newline ++ writeEntry e) := by
        rw [List.map_cons, newline_intercalate, ← List.map_cons, List.map_map]
        rfl
      simp only [write, fields, List.isEmpty_cons, Bool.false_eq_true, if_false, hfields,
        List.append_assoc]
      rfl

/-! ## What it says -/

def decoded (s : EncoderSettings) (u : Update) : Tree :=
  .object [(units "Metadata", .object (s.lines.map fun line =>
    (units line.key, .text (units (resolveFields u line.value .none)))))]

theorem blanks_space (t : List Char) : Blanks (' ' :: t) t := .more (by decide) .none

theorem blanks_newline (t : List Char) : Blanks (newline ++ t) t :=
  .more (by decide) (.more (by decide) .none)

theorem blanks_indent (t : List Char) : Blanks ("    ".toList ++ t) t :=
  (blanks_space _).trans ((blanks_space _).trans ((blanks_space _).trans (blanks_space _)))

theorem blanks_field (t : List Char) :
    Blanks (newline ++ ("    ".toList ++ ("    ".toList ++ t))) t :=
  (blanks_newline _).trans ((blanks_indent _).trans (blanks_indent _))

/-- An entry whose value may stand between quotes. -/
theorem written_entry (key : String) {value : String} {us : List Nat}
    (hvalue : Spells us value.toList []) {s t : List Char} (hb : Blanks s t) :
    Written (.member (units key) (.text us)) (newline ++ writeEntry (key, value) ++ s) t := by
  rw [writeEntry_append]
  exact .member (blanks_field _) (spells_units key _) .none
    (.element (blanks_space _) (.text (hvalue.append _)) hb)

/-- Entries in a payload are the members of the inner object. -/
theorem document_entries {α : Type} (entry : α → String × String) (content : α → List Nat)
    {as : List α} (h : ∀ a ∈ as, Spells (content a) (entry a).2.toList []) :
    Document
      (.object [(units "Metadata",
        .object (as.map fun a => (units (entry a).1, .text (content a))))])
      (Payload.mk (as.map entry)).toJson.toList := by
  have hinner : ∀ t, Written
      (.value (.object (as.map fun a => (units (entry a).1, .text (content a)))))
      ('\x7b' :: (fields (as.map entry) ++ '\x7d' :: t)) t := by
    intro t
    cases as with
    | nil => exact .emptyObject .none
    | cons a more =>
      have hend : Blanks (newline ++ "    ".toList ++ '\x7d' :: t) ('\x7d' :: t) := by
        rw [List.append_assoc]
        exact (blanks_newline _).trans (blanks_indent _)
      have hmembers :=
        written_intercalate (fun b hb _ _ hs => written_entry (entry b).1 (h b hb) hs) hend
      simp only [fields, List.map_cons, List.append_assoc, List.map_map] at hmembers ⊢
      exact .object hmembers
  rw [toJson, String.toList_ofList, write_eq]
  refine .element .none (.object (.lastMember (.member ?_ (spells_units "Metadata" _) .none
    (.element (blanks_space _) (hinner _) (blanks_newline _))))) (blanks_newline [])
  exact (blanks_newline _).trans (blanks_indent _)

/-- A template that may stand between quotes may still stand there when it is resolved. -/
theorem spells_resolveFields {u : Update} {template : String}
    (hplain : ∀ c ∈ template.toList, isPlain c = true) :
    Spells (units (resolveFields u template .none)) (resolveFields u template .json).toList [] := by
  have hliteral : ∀ c, .literal c ∈ scan template.toList → isPlain c = true :=
    fun c hc => hplain c ((parts_scan _).mem_of_literal hc)
  have hrender : Spells
      ((render u.now u.next .none (scan template.toList)).flatMap charUnits ++ [])
      (render u.now u.next .json (scan template.toList) ++ []) [] :=
    spells_render hliteral .done
  rw [List.append_nil, List.append_nil] at hrender
  simp only [resolveFields, resolve, units, String.toList_ofList]
  exact hrender

/-- A field whose template may stand between quotes. -/
theorem written_field {u : Update} {line : LineMapping}
    (hplain : ∀ c ∈ line.value.toList, isPlain c = true) {s t : List Char} (hb : Blanks s t) :
    Written (.member (units line.key) (.text (units (resolveFields u line.value .none))))
      (newline ++ writeEntry (line.key, resolveFields u line.value .json) ++ s) t :=
  written_entry line.key (spells_resolveFields hplain) hb

theorem document_ofUpdate {s : EncoderSettings} (u : Update)
    (hplain : ∀ line ∈ s.lines, ∀ c ∈ line.value.toList, isPlain c = true) :
    Document (decoded s u) (ofUpdate s u).toJson.toList := by
  have hspells : ∀ line ∈ s.lines, Spells (units (resolveFields u line.value .none))
      (resolveFields u line.value .json).toList [] :=
    fun line hline => spells_resolveFields (hplain line hline)
  exact document_entries (fun line : LineMapping => (line.key, resolveFields u line.value .json))
    (fun line => units (resolveFields u line.value .none)) hspells

/-- The posted text says the keys and the resolved templates in line order, and nothing else. -/
theorem document_toJson_iff {s : EncoderSettings}
    (hplain : ∀ line ∈ s.lines, ∀ c ∈ line.value.toList, isPlain c = true) (u : Update) (v : Tree) :
    Document v (ofUpdate s u).toJson.toList ↔ v = decoded s u := by
  have hdoc := document_ofUpdate u hplain
  constructor
  · intro h
    exact h.unique hdoc
  · rintro rfl
    exact hdoc

/-- A key and a title with quotes, a backslash and a line end. -/
theorem document_toJson_iff_of_quotes :
    Document
      (.object [(units "Metadata", .object [(units "a \"key\"", .text (units "\"A\\B\"\n, 50%"))])])
      (ofUpdate ⟨"http://x/y", [⟨"a \"key\"", "%t, 50%%"⟩]⟩ { Update.blank with
        now := some { Event.blank with title := some "\"A\\B\"\n" } }).toJson.toList := by
  have hplain : "%t, 50%%".toList.all isPlain = true := by decide
  have hresolved : resolveFields { Update.blank with
      now := some { Event.blank with title := some "\"A\\B\"\n" } } "%t, 50%%" .none =
      "\"A\\B\"\n, 50%" := by
    decide +kernel
  rw [document_toJson_iff (List.forall_mem_singleton.mpr (List.all_eq_true.mp hplain)), decoded]
  simp only [List.map_cons, List.map_nil, hresolved]

end Payload
end PadRelay
