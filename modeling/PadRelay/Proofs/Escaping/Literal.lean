import PadRelay.Proofs.Json.Faithful
import PadRelay.Proofs.Json.Unique
import PadRelay.Proofs.Template.Escaping

/-!
# PadRelay.Proofs.Escaping.Literal

Values between quotes, and how they are read there.

* `Enclosed`: a text can stand between quotes, said of its backslashes and quotes alone.
* `enclosed_escapeChar_append`: an escaped character is closed in itself, whatever stands behind it.
* `spells_apply_json_iff`: an escaped value spells its code units up to the next quote, and nothing
  else.
* `apply_json_append_iff`: which characters are not changed.
* `apply_json_literal`: the literal of a value says the value, and is read as it.
-/

namespace PadRelay
namespace Escape

open Json

/-- Whether a backslash that is not escaped itself ends the text. -/
def endsOpen (cs : List Char) : Bool := cs.foldl (fun opened c => !opened && c == '\\') false

/-- A text that can stand between quotes: it holds no control character, each quote in it is
escaped, and so is a backslash that ends it. -/
structure Enclosed (cs : List Char) : Prop where
  printable : ∀ c ∈ cs, 0x20 ≤ c.toNat
  quotes : ∀ s t, cs = s ++ '"' :: t → endsOpen s = true
  closed : endsOpen cs = false

/-! ## One character -/

theorem endsOpen_plain {c : Char} (h : c ≠ '\\') (cs : List Char) :
    endsOpen (c :: cs) = endsOpen cs := by
  have hc : (c == '\\') = false := beq_false_of_ne h
  simp [endsOpen, hc]

theorem endsOpen_escape (c : Char) (cs : List Char) :
    endsOpen ('\\' :: c :: cs) = endsOpen cs := by
  simp [endsOpen]

theorem enclosed_nil : Enclosed [] := by
  constructor <;> simp [endsOpen]

theorem Enclosed.plain {c : Char} {cs : List Char} (hc : isPlain c = true) (h : Enclosed cs) :
    Enclosed (c :: cs) := by
  obtain ⟨hge, hquote, hslash⟩ := isPlain_iff.mp hc
  refine ⟨List.forall_mem_cons.mpr ⟨hge, h.printable⟩, fun s t hs => ?_, ?_⟩
  · cases s with
    | nil => exact absurd (List.cons.inj hs).1 hquote
    | cons d s =>
      obtain ⟨rfl, rfl⟩ := List.cons.inj hs
      rw [endsOpen_plain hslash]
      exact h.quotes s t rfl
  · rw [endsOpen_plain hslash]
    exact h.closed

/-- Behind a backslash any printable character is escaped. -/
theorem Enclosed.escape {c : Char} {cs : List Char} (hc : 0x20 ≤ c.toNat) (h : Enclosed cs) :
    Enclosed ('\\' :: c :: cs) := by
  refine ⟨?_, fun s t hs => ?_, ?_⟩
  · exact List.forall_mem_cons.mpr ⟨by decide, List.forall_mem_cons.mpr ⟨hc, h.printable⟩⟩
  · match s with
    | [] => exact absurd (List.cons.inj hs).1 (by decide)
    | [d] =>
      obtain ⟨rfl, -⟩ := List.cons.inj hs
      rfl
    | d :: e :: s =>
      simp only [List.cons_append, List.cons.injEq] at hs
      obtain ⟨rfl, rfl, rfl⟩ := hs
      rw [endsOpen_escape]
      exact h.quotes s t rfl
  · rw [endsOpen_escape]
    exact h.closed

theorem enclosed_escapeChar_append (c : Char) {cs : List Char} (h : Enclosed cs) :
    Enclosed (escapeChar c ++ cs) := by
  have hdigit : ∀ n < 16, isPlain (Text.hexDigit n) = true := by decide
  unfold escapeChar
  split_ifs with hquote hslash
  · exact h.escape (by decide)
  · exact h.escape (by decide)
  · exact h.escape (by decide)
  · exact h.escape (by decide)
  · exact h.escape (by decide)
  · exact h.escape (by decide)
  · exact h.escape (by decide)
  · have hdigits := (h.plain (hdigit (c.toNat % 16) (by omega))).plain
      (hdigit (c.toNat / 16) (by omega))
    exact ((hdigits.plain (by decide)).plain (by decide)).escape (by decide)
  · exact h.plain (isPlain_iff.mpr ⟨by omega, hquote, hslash⟩)

theorem keeps_json_iff {c : Char} : Escape.json.Keeps c ↔ isPlain c = true := by
  rw [keeps_iff, char, isPlain_iff, escapeChar]
  split_ifs <;> simp_all

/-! ## Texts -/

theorem enclosed_apply_json (value : String) : Enclosed (Escape.json.apply value).toList := by
  rw [toList_apply]
  induction value.toList with
  | nil => exact enclosed_nil
  | cons c cs ih =>
    rw [List.flatMap_cons]
    exact enclosed_escapeChar_append c ih

/-- An escaped value in front of a quote ends there, and says the value alone. -/
theorem spells_apply_json_iff {value : String} {content : List Nat} {rest t : List Char} :
    Spells content ((Escape.json.apply value).toList ++ '"' :: rest) ('"' :: t) ↔
      content = units value ∧ t = rest := by
  have hspells : Spells (units value) ((Escape.json.apply value).toList ++ '"' :: rest)
      ('"' :: rest) := by
    rw [toList_apply]
    exact spells_units value _
  constructor
  · intro h
    exact h.unique hspells
  · rintro ⟨rfl, rfl⟩
    exact hspells

theorem apply_append (e : Escape) (first last : String) :
    e.apply (first ++ last) = e.apply first ++ e.apply last := by
  rw [← String.toList_inj]
  simp [toList_apply]

/-- A character is not changed, whatever stands around it, if it is none that must be escaped. -/
theorem apply_json_append_iff {first last : String} {c : Char} :
    Escape.json.apply (first ++ String.singleton c ++ last) =
        Escape.json.apply first ++ String.singleton c ++ Escape.json.apply last ↔
      0x20 ≤ c.toNat ∧ c ≠ '"' ∧ c ≠ '\\' := by
  rw [apply_append, apply_append, ← isPlain_iff, ← keeps_json_iff, Keeps, ← String.toList_inj,
    ← String.toList_inj]
  simp only [String.toList_append, List.append_cancel_right_eq, List.append_cancel_left_eq]

/-- **Escaping for a literal is safe and can be undone.** Between quotes an escaped value holds no
control character, no quote that is not escaped, and no backslash that would escape the quote behind
it. The literal is one value and says the text, whatever stands behind it, and it is read as the
text. Just quotes, backslashes and control characters are changed. -/
theorem apply_json_literal :
    (∀ value : String,
      let body := (Escape.json.apply value).toList
      Enclosed body ∧
        (∀ content rest t, Spells content (body ++ '"' :: rest) ('"' :: t) ↔
          content = units value ∧ t = rest) ∧
        (∀ v, Document v ('"' :: body ++ ['"']) ↔ v = .text (units value)) ∧
        Codec.text.decode (wire ('"' :: body ++ ['"'])) = .ok value) ∧
    ∀ (first last : String) (c : Char),
      Escape.json.apply (first ++ String.singleton c ++ last) =
          Escape.json.apply first ++ String.singleton c ++ Escape.json.apply last ↔
        0x20 ≤ c.toNat ∧ c ≠ '"' ∧ c ≠ '\\' := by
  refine ⟨fun value => ?_, fun _ _ _ => apply_json_append_iff⟩
  intro body
  have hwritten : Written (.value (.text (units value))) ('"' :: body ++ ['"']) [] :=
    .text (spells_apply_json_iff.mpr ⟨rfl, rfl⟩)
  refine ⟨enclosed_apply_json value, fun _ _ _ => spells_apply_json_iff, fun v => ?_, ?_⟩
  · constructor
    · intro h
      exact h.unique hwritten.bare
    · rintro rfl
      exact hwritten.bare
  · have hread := Codec.text_faithful.read rfl .none hwritten delimited_nil
    rw [Codec.decode, hread]
    rfl

/-- An escaped backslash in front of an escaped quote: neither ends the literal. -/
example : Escape.json.apply "\\\"\x01" = "\\\\\\\"\\u0001" ∧
    Codec.text.decode (Text.utf8 "\"\\\\\\\"\\u0001\"") = .ok "\\\"\x01" := by
  decide +kernel

end Escape
end PadRelay
