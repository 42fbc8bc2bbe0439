import Mathlib.Data.List.Basic
import PadRelay.Proofs.Json.Number
import PadRelay.Template

/-!
# PadRelay.Proofs.Template.Escaping

Resolving with an escape, and escaping what was resolved without one.

* `Escape.toList_apply_url`: the escape for URLs by bytes.
* `Escape.char_eq_or_lt`: a character is kept or becomes longer, one case for each escape.
* `Escape.apply_of_digits`: digits are kept.
* `renderSegment_eq_iff`, `flatMap_eq_flatMap_iff`: one segment, and all of them, in either order.
* `resolve_eq_apply_iff`: both ways give the same text exactly if the template's literals are kept.
-/

namespace PadRelay

open Pad (Event)

/-! ## Escapes -/

namespace Escape

theorem toList_apply (e : Escape) (value : String) :
    (e.apply value).toList = value.toList.flatMap e.char := String.toList_ofList

theorem apply_none (value : String) : Escape.none.apply value = value := by
  rw [← String.toList_inj, toList_apply]
  exact List.flatMap_singleton' _

/-- A text in a URL is its UTF-8 bytes, one after the other. -/
theorem toList_apply_url (value : String) :
    (Escape.url.apply value).toList = (Text.utf8 value).flatMap fun b =>
      if isPathByte b then [Char.ofNat b.toNat] else Text.percentByte b := by
  rw [toList_apply, Json.utf8_eq_wire, Json.wire, List.flatMap_assoc]
  rfl

/-- The escape leaves the character as it is. -/
def Keeps (e : Escape) (c : Char) : Prop := e.apply (String.singleton c) = String.singleton c

theorem keeps_iff {e : Escape} {c : Char} : e.Keeps c ↔ e.char c = [c] := by
  rw [Keeps, ← String.toList_inj, toList_apply, String.toList_singleton, List.flatMap_singleton]

theorem xmlChar_eq_or_lt (c : Char) : xmlChar c = [c] ∨ 1 < (xmlChar c).length := by
  unfold xmlChar
  split_ifs <;> simp

theorem escapeChar_eq_or_lt (c : Char) :
    Json.escapeChar c = [c] ∨ 1 < (Json.escapeChar c).length := by
  unfold Json.escapeChar
  split_ifs <;> simp

theorem length_le_length_percent (keep : UInt8 → Bool) (bytes : Bytes) :
    bytes.length ≤ (bytes.flatMap fun b =>
      if keep b then [Char.ofNat b.toNat] else Text.percentByte b).length := by
  induction bytes with
  | nil => simp
  | cons b bytes ih =>
    rw [List.flatMap_cons, List.length_append, List.length_cons]
    split_ifs
    · rw [List.length_singleton]
      omega
    · have hthree : (Text.percentByte b).length = 3 := rfl
      omega

/-- A character beyond ASCII has more than one byte, and each of them is written. -/
theorem urlChar_eq_or_lt (c : Char) : urlChar c = [c] ∨ 1 < (urlChar c).length := by
  rw [urlChar, Text.percentChar]
  rcases Nat.lt_or_ge c.toNat 128 with hlt | hge
  · rw [Json.utf8EncodeChar_of_ascii hlt, List.flatMap_singleton, Json.toNat_byte hlt,
      Char.ofNat_toNat]
    split_ifs <;> simp [Text.percentByte]
  · have hgt : ¬ c.val.toNat ≤ 0x7f := Nat.not_le.mpr hge
    have htwo : 1 < (String.utf8EncodeChar c).length := by
      simp only [String.utf8EncodeChar, if_neg hgt]
      split_ifs <;> simp
    have hle := length_le_length_percent isPathByte (String.utf8EncodeChar c)
    exact .inr (by omega)

theorem char_eq_or_lt (e : Escape) (c : Char) : e.char c = [c] ∨ 1 < (e.char c).length := by
  cases e with
  | none => exact .inl rfl
  | xml => exact xmlChar_eq_or_lt c
  | url => exact urlChar_eq_or_lt c
  | json => exact escapeChar_eq_or_lt c

theorem char_of_isDigit (e : Escape) {c : Char} (h : c.isDigit = true) : e.char c = [c] := by
  have hall : ∀ n < 58, 48 ≤ n → ∀ e : Escape, e.char (Char.ofNat n) = [Char.ofNat n] := by
    intro n hn hle e
    cases e with
    | none => rfl
    | xml => revert n; decide
    | url => revert n; decide
    | json => revert n; decide
  obtain ⟨hfirst, hlast⟩ := Text.toNat_of_isDigit h
  have hc := hall c.toNat (by omega) (by omega) e
  rwa [Char.ofNat_toNat] at hc

/-- No escape changes a number. -/
theorem apply_of_digits (e : Escape) {ds : List Char} (h : ∀ c ∈ ds, c.isDigit = true) :
    e.apply (String.ofList ds) = String.ofList ds := by
  rw [apply, String.toList_ofList, List.flatMap_congr fun c hc => e.char_of_isDigit (h c hc),
    List.flatMap_singleton']

end Escape

/-! ## Templates -/

namespace Template

section

variable {α β : Type} {f g : α → List β} {xs : List α}

theorem length_flatMap_le (h : ∀ x ∈ xs, (f x).length ≤ (g x).length) :
    (xs.flatMap f).length ≤ (xs.flatMap g).length := by
  induction xs with
  | nil => simp
  | cons x xs ih =>
    obtain ⟨hx, hxs⟩ := List.forall_mem_cons.mp h
    have := ih hxs
    simp only [List.flatMap_cons, List.length_append]
    omega

/-- Pieces of which none becomes shorter give the same text only if each of them is the same. -/
theorem flatMap_eq_flatMap_iff (h : ∀ x ∈ xs, (f x).length ≤ (g x).length) :
    xs.flatMap f = xs.flatMap g ↔ ∀ x ∈ xs, f x = g x := by
  induction xs with
  | nil => simp
  | cons x xs ih =>
    obtain ⟨hx, hxs⟩ := List.forall_mem_cons.mp h
    rw [List.flatMap_cons, List.flatMap_cons, List.forall_mem_cons, ← ih hxs]
    constructor
    · intro heq
      have hlength := congrArg List.length heq
      have hrest := length_flatMap_le hxs
      simp only [List.length_append] at hlength
      exact List.append_inj heq (by omega)
    · rintro ⟨hfirst, hrest⟩
      rw [hfirst, hrest]

end

section

variable (now next : Option Event) (escape : Escape)

/-- A segment with its value escaped, next to all of it escaped. -/
theorem renderSegment_eq_iff (segment : Segment) :
    renderSegment now next escape segment =
        (renderSegment now next .none segment).flatMap escape.char ↔
      ∀ c, segment = .literal c → escape.Keeps c := by
  cases segment with
  | literal c =>
    simp only [renderSegment, List.flatMap_singleton, Segment.literal.injEq, forall_eq',
      Escape.keeps_iff, eq_comm]
  | wildcard field slot =>
    simp only [renderSegment, reduceCtorEq, false_implies, implies_true, iff_true]
    cases eventAt now next slot with
    | none => rfl
    | some event => simp only [Escape.apply_none, Escape.toList_apply]

theorem length_renderSegment_le (segment : Segment) :
    (renderSegment now next escape segment).length ≤
      ((renderSegment now next .none segment).flatMap escape.char).length := by
  by_cases h : ∀ c, segment = .literal c → escape.Keeps c
  · have heq := (renderSegment_eq_iff now next escape segment).mpr h
    exact Nat.le_of_eq (congrArg List.length heq)
  · simp only [not_forall] at h
    obtain ⟨c, rfl, -⟩ := h
    simp only [renderSegment, List.flatMap_singleton, List.length_singleton]
    rcases escape.char_eq_or_lt c with hc | hc
    · simp [hc]
    · omega

/-- **Resolving commutes with escaping**, whatever the events hold, if and only if the escape leaves
every character that the template puts into the text itself as it is. -/
theorem resolve_eq_apply_iff (template : String) :
    resolve template now next escape = escape.apply (resolve template now next .none) ↔
      ∀ c, .literal c ∈ scan template.toList → escape.Keeps c := by
  rw [← String.toList_inj, Escape.toList_apply, resolve, resolve, String.toList_ofList,
    String.toList_ofList, render, render, List.flatMap_assoc,
    flatMap_eq_flatMap_iff fun segment _ => length_renderSegment_le now next escape segment]
  simp only [renderSegment_eq_iff]
  exact ⟨fun h c hc => h _ hc c rfl, fun h segment hs c hc => h c (hc ▸ hs)⟩

end

/-- Quotes that a title holds are escaped either way; those of the template only the second time. -/
example :
    let now := some { Pad.Event.blank with title := some "\"" }
    resolve "%% %t" now none .json = Escape.json.apply (resolve "%% %t" now none .none) ∧
      resolve "\"%t" now none .json ≠ Escape.json.apply (resolve "\"%t" now none .none) := by
  decide +kernel

end Template
end PadRelay
