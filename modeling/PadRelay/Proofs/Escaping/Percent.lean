import PadRelay.Proofs.Template.Escaping

/-!
# PadRelay.Proofs.Escaping.Percent

Values in URLs, and how they are read there.

* `PathText`: the texts made of path characters and of triples, which stand for other bytes.
* `escapeByte`: what one byte of a value becomes.
* `percentDecode_escapeByte_append`: it is read as that byte, whatever stands behind it.
* `PathText.exists_escaped`: such a text is escaped from some bytes, by induction on it.
* `apply_url_reversible`: hence escaping and decoding are inverse to each other.
-/

namespace PadRelay
namespace Escape

open Json (byte wire)
open Text (percentByte percentDecode percentValue? upperHexDigit utf8)

/-- The characters that a path shows as they are. -/
def isPathChar (c : Char) : Bool := c.isAlphanum || c ∈ ['-', '_', '.', '~', '/']

def upperHexDigits : List Char := "0123456789ABCDEF".toList

/-- Texts made of path characters and of triples, a percent sign and two digits each, of which none
stands for a path character. -/
inductive PathText : List Char → Prop where
  | done : PathText []
  | kept {c : Char} {cs : List Char} : isPathChar c = true → PathText cs → PathText (c :: cs)
  | triple {m n : Nat} {high low : Char} {cs : List Char} :
      upperHexDigits[m]? = some high → upperHexDigits[n]? = some low →
      isPathChar (Char.ofNat (16 * m + n)) = false → PathText cs →
      PathText ('%' :: high :: low :: cs)

def escapeByte (b : UInt8) : List Char :=
  if isPathByte b then [Char.ofNat b.toNat] else percentByte b

/-! ## One byte -/

theorem isPathByte_eq (b : UInt8) : isPathByte b = isPathChar (Char.ofNat b.toNat) := by
  have hall : ∀ n < 256, isPathByte (UInt8.ofNat n) = isPathChar (Char.ofNat n) := by
    decide +kernel
  have hb := hall b.toNat b.toNat_lt
  rwa [UInt8.ofNat_toNat] at hb

theorem getElem?_upperHexDigits {n : Nat} (h : n < 16) :
    upperHexDigits[n]? = some (upperHexDigit n) := by
  have hall : ∀ n < 16, upperHexDigits[n]? = some (upperHexDigit n) := by decide
  exact hall n h

theorem upperHexDigit_of_getElem? {n : Nat} {c : Char} (h : upperHexDigits[n]? = some c) :
    n < 16 ∧ upperHexDigit n = c := by
  obtain ⟨hlt, -⟩ := List.getElem?_eq_some_iff.mp h
  rw [getElem?_upperHexDigits hlt] at h
  exact ⟨hlt, Option.some.inj h⟩

theorem lt_of_isPathChar {c : Char} (h : isPathChar c = true) : c.toNat < 128 := by
  delta isPathChar Char.isAlphanum Char.isAlpha Char.isUpper Char.isLower Char.isDigit at h
  simp only [Bool.or_eq_true, Bool.and_eq_true, decide_eq_true_eq, UInt32.le_iff_toNat_le,
    List.mem_cons, List.not_mem_nil, or_false] at h
  show c.val.toNat < 128
  rcases h with ((⟨-, h⟩ | ⟨-, h⟩) | ⟨-, h⟩) | rfl | rfl | rfl | rfl | rfl
  · exact Nat.lt_of_le_of_lt h (by decide)
  · exact Nat.lt_of_le_of_lt h (by decide)
  · exact Nat.lt_of_le_of_lt h (by decide)
  · decide
  · decide
  · decide
  · decide
  · decide

theorem escapeByte_of_isPathChar {c : Char} (h : isPathChar c = true) :
    escapeByte (byte c) = [c] := by
  have hc : Char.ofNat (byte c).toNat = c := by
    rw [Json.toNat_byte (lt_of_isPathChar h), Char.ofNat_toNat]
  rw [escapeByte, isPathByte_eq, hc, if_pos h]

theorem escapeByte_of_not_isPathChar {b : UInt8} (h : isPathChar (Char.ofNat b.toNat) = false) :
    escapeByte b = percentByte b := by
  rw [escapeByte, isPathByte_eq, h, if_neg Bool.false_ne_true]

/-- A byte that is kept is that of a path character. -/
theorem exists_isPathChar {b : UInt8} (h : isPathChar (Char.ofNat b.toNat) = true) :
    ∃ c, isPathChar c = true ∧ byte c = b := by
  have hall : ∀ n < 256, (Char.ofNat n).toNat = n := by decide +kernel
  refine ⟨_, h, UInt8.toNat_inj.mp ?_⟩
  rw [Json.toNat_byte (lt_of_isPathChar h), hall _ b.toNat_lt]

theorem pathText_escapeByte_append (b : UInt8) {cs : List Char} (h : PathText cs) :
    PathText (escapeByte b ++ cs) := by
  cases hb : isPathChar (Char.ofNat b.toNat) with
  | true =>
    obtain ⟨c, hc, rfl⟩ := exists_isPathChar hb
    rw [escapeByte_of_isPathChar hc]
    exact .kept hc h
  | false =>
    have hlt : b.toNat < 256 := b.toNat_lt
    have hvalue : 16 * (b.toNat / 16) + b.toNat % 16 = b.toNat := Nat.div_add_mod _ _
    rw [escapeByte_of_not_isPathChar hb]
    exact .triple (getElem?_upperHexDigits (by omega)) (getElem?_upperHexDigits (by omega))
      (by rwa [hvalue]) h

theorem percentDecode_of_ne {b : UInt8} (h : b.toNat ≠ 37) (rest : Bytes) :
    percentDecode (b :: rest) = b :: percentDecode rest := by
  match rest with
  | [] => rfl
  | [_] => rfl
  | _ :: _ :: _ => rw [percentDecode, if_neg h]

theorem percentValue?_digits (b : UInt8) :
    percentValue? (byte (upperHexDigit (b.toNat / 16))) (byte (upperHexDigit (b.toNat % 16))) =
      some b := by
  have hall : ∀ n < 16, Text.hexValue? (byte (upperHexDigit n)).toNat = some n := by decide
  have hb : b.toNat < 256 := b.toNat_lt
  rw [percentValue?, hall _ (by omega), hall _ (by omega)]
  simp only [Nat.div_add_mod, UInt8.ofNat_toNat]

theorem wire_percentByte (b : UInt8) :
    wire (percentByte b) =
      [37, byte (upperHexDigit (b.toNat / 16)), byte (upperHexDigit (b.toNat % 16))] := by
  have hall : ∀ n < 16, (upperHexDigit n).toNat < 128 := by decide
  have hb : b.toNat < 256 := b.toNat_lt
  rw [percentByte, Json.wire_ascii (by decide), Json.wire_ascii (hall _ (by omega)),
    Json.wire_ascii (hall _ (by omega))]
  rfl

/-- A triple does not become part of what stands around it. -/
theorem percentDecode_escapeByte_append (b : UInt8) (rest : Bytes) :
    percentDecode (wire (escapeByte b) ++ rest) = b :: percentDecode rest := by
  cases hb : isPathChar (Char.ofNat b.toNat) with
  | true =>
    obtain ⟨c, hc, rfl⟩ := exists_isPathChar hb
    have hlt := lt_of_isPathChar hc
    have hne : (byte c).toNat ≠ 37 := by
      rw [Json.toNat_byte hlt]
      intro h37
      rw [← Char.ofNat_toNat c, h37] at hc
      exact absurd hc (by decide)
    rw [escapeByte_of_isPathChar hc, Json.wire_ascii hlt]
    exact percentDecode_of_ne hne rest
  | false =>
    rw [escapeByte_of_not_isPathChar hb, wire_percentByte, List.cons_append, List.cons_append,
      List.cons_append, List.nil_append, percentDecode, if_pos (by rfl), percentValue?_digits]

/-! ## Texts -/

theorem pathText_flatMap (bytes : Bytes) : PathText (bytes.flatMap escapeByte) := by
  induction bytes with
  | nil => exact .done
  | cons b bytes ih =>
    rw [List.flatMap_cons]
    exact pathText_escapeByte_append b ih

/-- Whatever stands behind escaped bytes, decoding gives the bytes back. -/
theorem percentDecode_flatMap_append (bytes rest : Bytes) :
    percentDecode (wire (bytes.flatMap escapeByte) ++ rest) = bytes ++ percentDecode rest := by
  induction bytes with
  | nil => rfl
  | cons b bytes ih =>
    rw [List.flatMap_cons, Json.wire_append, List.append_assoc, percentDecode_escapeByte_append, ih,
      List.cons_append]

theorem PathText.exists_escaped {cs : List Char} (h : PathText cs) :
    ∃ bytes : Bytes, cs = bytes.flatMap escapeByte := by
  induction h with
  | done => exact ⟨[], rfl⟩
  | @kept c _ hc _ ih =>
    obtain ⟨bytes, rfl⟩ := ih
    exact ⟨byte c :: bytes, by rw [List.flatMap_cons, escapeByte_of_isPathChar hc]; rfl⟩
  | @triple m n _ _ _ hm hn hchar _ ih =>
    obtain ⟨bytes, rfl⟩ := ih
    obtain ⟨hm16, rfl⟩ := upperHexDigit_of_getElem? hm
    obtain ⟨hn16, rfl⟩ := upperHexDigit_of_getElem? hn
    have hvalue : (UInt8.ofNat (16 * m + n)).toNat = 16 * m + n :=
      UInt8.toNat_ofNat_of_lt' (by show _ < 256; omega)
    have htriple : escapeByte (UInt8.ofNat (16 * m + n)) =
        ['%', upperHexDigit m, upperHexDigit n] := by
      rw [escapeByte_of_not_isPathChar (by rwa [hvalue]), percentByte, hvalue,
        Nat.mul_add_div (by decide), Nat.mul_add_mod, Nat.div_eq_of_lt hn16,
        Nat.mod_eq_of_lt hn16, Nat.add_zero]
    exact ⟨UInt8.ofNat (16 * m + n) :: bytes, by rw [List.flatMap_cons, htriple]; rfl⟩

theorem utf8_injective : Function.Injective utf8 := by
  intro value other h
  have hvalue := Text.ofUtf8?_utf8 value
  rw [h, Text.ofUtf8?_utf8 other] at hvalue
  exact (Option.some.inj hvalue).symm

/-- **Escaping for a URL is safe and can be undone.** An escaped text is made of path characters and
triples alone, no triple stands for a path character, and decoding gives back the bytes of the
value. No other text does so, and no two values are escaped alike. -/
theorem apply_url_reversible :
    (∀ value t : String, t = Escape.url.apply value ↔
      PathText t.toList ∧ percentDecode (utf8 t) = utf8 value) ∧
    Function.Injective Escape.url.apply := by
  have hundo : ∀ bytes : Bytes, percentDecode (wire (bytes.flatMap escapeByte)) = bytes := by
    intro bytes
    have happend := percentDecode_flatMap_append bytes []
    have hnil : percentDecode [] = [] := rfl
    rwa [hnil, List.append_nil, List.append_nil] at happend
  have hiff : ∀ value t : String, t = Escape.url.apply value ↔
      PathText t.toList ∧ percentDecode (utf8 t) = utf8 value := by
    intro value t
    have happly : (Escape.url.apply value).toList = (utf8 value).flatMap escapeByte :=
      toList_apply_url value
    rw [← String.toList_inj, happly, Json.utf8_eq_wire t]
    constructor
    · intro h
      rw [h]
      exact ⟨pathText_flatMap _, hundo _⟩
    · rintro ⟨htext, hvalue⟩
      obtain ⟨bytes, hbytes⟩ := htext.exists_escaped
      rw [hbytes, hundo] at hvalue
      rw [hbytes, hvalue]
  refine ⟨hiff, fun value other h => utf8_injective ?_⟩
  rw [← ((hiff value _).mp rfl).2, ← ((hiff other _).mp rfl).2]
  exact congrArg (fun t => percentDecode (utf8 t)) h

/-- A percent sign of a value is escaped like any other byte, so digits behind it stay digits. -/
example : Escape.url.apply "%41 é\n" = "%2541%20%C3%A9%0A" ∧
    percentDecode (utf8 "%2541%20%C3%A9%0A") = utf8 "%41 é\n" := by
  decide +kernel

end Escape
end PadRelay
