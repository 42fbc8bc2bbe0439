import PadRelay.Json.Text

/-!
# PadRelay.Proofs.Json.Text

Text literals as they are written, in characters and in bytes.

* `wire`: characters as bytes.
* `le_of_mem_writeText`: a literal holds no control character.
-/

namespace PadRelay
namespace Json

/-- Characters as their UTF-8 bytes. -/
def wire (cs : List Char) : Bytes := cs.flatMap String.utf8EncodeChar

theorem wire_cons (c : Char) (cs : List Char) :
    wire (c :: cs) = String.utf8EncodeChar c ++ wire cs := rfl

@[simp] theorem wire_append (cs ds : List Char) : wire (cs ++ ds) = wire cs ++ wire ds :=
  List.flatMap_append

theorem utf8_eq_wire (s : String) : Text.utf8 s = wire s.toList := by
  rw [Text.utf8, String.toUTF8_eq_toByteArray, ← String.utf8Encode_toList, List.utf8Encode,
    List.data_toByteArray, List.toList_toArray]
  rfl

/-! ## Bytes of single characters -/

theorem utf8EncodeChar_of_ascii {c : Char} (h : c.toNat < 128) :
    String.utf8EncodeChar c = [byte c] := by
  have hle : c.val.toNat ≤ 0x7f := Nat.le_of_lt_succ h
  simp only [String.utf8EncodeChar, if_pos hle]
  rfl

theorem wire_ascii {c : Char} (h : c.toNat < 128) (cs : List Char) :
    wire (c :: cs) = byte c :: wire cs := by
  rw [wire_cons, utf8EncodeChar_of_ascii h]
  rfl

theorem toNat_byte {c : Char} (h : c.toNat < 128) : (byte c).toNat = c.toNat := by
  show c.toNat % 256 = c.toNat
  exact Nat.mod_eq_of_lt (by omega)

theorem le_of_mem_utf8EncodeChar {c : Char} {b : UInt8} (h : 128 ≤ c.toNat)
    (hb : b ∈ String.utf8EncodeChar c) : 128 ≤ b.toNat := by
  have hgt : ¬ c.val.toNat ≤ 0x7f := Nat.not_le.mpr h
  simp only [String.utf8EncodeChar, if_neg hgt] at hb
  split at hb
  · simp only [List.mem_cons, List.not_mem_nil, or_false] at hb
    rcases hb with rfl | rfl <;> simp <;> omega
  split at hb
  · simp only [List.mem_cons, List.not_mem_nil, or_false] at hb
    rcases hb with rfl | rfl | rfl <;> simp <;> omega
  · simp only [List.mem_cons, List.not_mem_nil, or_false] at hb
    rcases hb with rfl | rfl | rfl | rfl <;> simp <;> omega

theorem le_of_mem_wire {cs : List Char} (h : ∀ c ∈ cs, 32 ≤ c.toNat) :
    ∀ b ∈ wire cs, 32 ≤ b.toNat := by
  intro b hb
  obtain ⟨c, hc, hbc⟩ := List.mem_flatMap.mp hb
  rcases Nat.lt_or_ge c.toNat 128 with hlt | hge
  · rw [utf8EncodeChar_of_ascii hlt, List.mem_singleton] at hbc
    rw [hbc, toNat_byte hlt]
    exact h c hc
  · have := le_of_mem_utf8EncodeChar hge hbc
    omega

/-! ## Literals -/

theorem printable_of_all {cs : List Char} (h : cs.all (32 ≤ ·.toNat) = true) :
    ∀ d ∈ cs, 32 ≤ d.toNat := by
  simpa using h

theorem le_of_mem_escapeChar (c : Char) : ∀ d ∈ escapeChar c, 32 ≤ d.toNat := by
  have hdigit : ∀ n < 16, 32 ≤ (Text.hexDigit n).toNat := by decide
  unfold escapeChar
  split
  · exact printable_of_all (by decide)
  split
  · exact printable_of_all (by decide)
  split
  · exact printable_of_all (by decide)
  split
  · exact printable_of_all (by decide)
  split
  · exact printable_of_all (by decide)
  split
  · exact printable_of_all (by decide)
  split
  · exact printable_of_all (by decide)
  split
  · intro d hd
    simp only [List.mem_cons, List.not_mem_nil, or_false] at hd
    rcases hd with rfl | rfl | rfl | rfl | rfl | rfl
    · decide
    · decide
    · decide
    · decide
    · exact hdigit _ (by omega)
    · exact hdigit _ (by omega)
  · next hge =>
    intro d hd
    rw [List.mem_singleton.mp hd]
    omega

theorem le_of_mem_writeText (s : String) : ∀ d ∈ writeText s, 32 ≤ d.toNat := by
  intro d hd
  simp only [writeText, List.cons_append, List.mem_cons, List.mem_append, List.mem_flatMap,
    List.not_mem_nil, or_false] at hd
  rcases hd with rfl | ⟨c, -, hc⟩ | rfl
  · decide
  · exact le_of_mem_escapeChar c d hc
  · decide

end Json
end PadRelay
