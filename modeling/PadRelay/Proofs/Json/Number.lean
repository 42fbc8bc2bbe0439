import PadRelay.Json.Codec
import PadRelay.Proofs.Json.Grammar
import PadRelay.Proofs.Json.Text
import PadRelay.Proofs.Text.Integer

/-!
# PadRelay.Proofs.Json.Number

Numbers are read up to what follows them.

* `Delimited`: bytes that do not go on with a number in front of them.
* `readWhole_of_whole`: the digits before the point are read as those digits.
* `readLiteral_of_parts`: a number is read whole, however it is written, with what its parts say.
-/

namespace PadRelay
namespace Json

open Codec

/-- Bytes that do not go on with a number in front of them. -/
def Delimited (s : Bytes) : Prop :=
  ∀ b ∈ s.head?, isDigit b = false ∧ b ≠ byte '.' ∧ b ≠ byte 'e' ∧ b ≠ byte 'E'

theorem delimited_cons {b : UInt8}
    (h : isDigit b = false ∧ b ≠ byte '.' ∧ b ≠ byte 'e' ∧ b ≠ byte 'E') (s : Bytes) :
    Delimited (b :: s) := by
  rintro _ ⟨⟩
  exact h

/-! ## Digits -/

theorem isDigit_iff {b : UInt8} : isDigit b = true ↔ 48 ≤ b.toNat ∧ b.toNat ≤ 57 := by
  simp only [isDigit, Bool.and_eq_true, decide_eq_true_eq, UInt8.le_iff_toNat_le]
  rfl

theorem ne_of_isDigit {b c : UInt8} (hb : isDigit b = true) (hc : isDigit c = false) : b ≠ c := by
  rintro rfl
  rw [hb] at hc
  cases hc

/-- The first byte of a number is neither blank nor the first of a word. -/
theorem isBlank_of_number {b : UInt8} (h : b = byte '-' ∨ isDigit b = true) :
    isBlank b = false ∧ b ≠ byte 'n' ∧ b ≠ byte 't' ∧ b ≠ byte 'f' ∧ b ≠ byte ']' := by
  rcases h with rfl | h
  · decide
  · have hne : ∀ c : UInt8, isDigit c = false → b ≠ c := fun c => ne_of_isDigit h
    have hblank : isBlank b = false := by
      simp only [isBlank, Bool.or_eq_false_iff, decide_eq_false_iff_not]
      exact ⟨⟨⟨hne _ rfl, hne _ rfl⟩, hne _ rfl⟩, hne _ rfl⟩
    exact ⟨hblank, hne _ rfl, hne _ rfl, hne _ rfl, hne _ rfl⟩

theorem isDigit_byte {c : Char} (h : c.isDigit = true) : isDigit (byte c) = true := by
  have hc := Text.toNat_of_isDigit h
  rw [isDigit_iff, toNat_byte (by omega)]
  exact hc

theorem digitValue_byte {c : Char} (h : c.isDigit = true) :
    digitValue (byte c) = c.toNat - 48 := by
  have hc := Text.toNat_of_isDigit h
  rw [digitValue, toNat_byte (by omega)]

theorem isDigit_of_mem_writeNatural {n : Nat} {c : Char} (h : c ∈ writeNatural n) :
    c.isDigit = true :=
  Nat.isDigit_of_mem_toDigits (by decide) (by decide) h

theorem wire_of_isDigit {cs : List Char} (h : ∀ c ∈ cs, c.isDigit = true) :
    wire cs = cs.map byte := by
  induction cs with
  | nil => rfl
  | cons c cs ih =>
    obtain ⟨hc, hmore⟩ := List.forall_mem_cons.mp h
    have hdigit := Text.toNat_of_isDigit hc
    rw [wire_ascii (by omega), ih hmore, List.map_cons]

theorem DigitRun.isDigit_wire {cs : List Char} (h : DigitRun cs) :
    ∀ b ∈ wire cs, isDigit b = true := by
  intro b hb
  rw [wire_of_isDigit h.2] at hb
  obtain ⟨c, hc, rfl⟩ := List.mem_map.mp hb
  exact isDigit_byte (h.2 c hc)

theorem DigitRun.wire_eq_cons {cs : List Char} (h : DigitRun cs) :
    ∃ b bs, wire cs = b :: bs ∧ isDigit b = true := by
  obtain ⟨c, rest, rfl⟩ := List.exists_cons_of_ne_nil h.1
  have hdigit := Text.toNat_of_isDigit (h.2 c List.mem_cons_self)
  exact ⟨_, _, wire_ascii (by omega) rest, isDigit_byte (h.2 c List.mem_cons_self)⟩

/-- Only zero is written with a zero in front. -/
theorem writeNatural_eq_cons {n : Nat} (h : n ≠ 0) :
    ∃ c cs, writeNatural n = c :: cs ∧ c ≠ '0' := by
  induction n using Nat.strongRecOn with
  | ind n ih =>
    rcases Nat.lt_or_ge n 10 with hlt | hge
    · exact ⟨_, [], Nat.toDigits_of_lt_base hlt, by simpa using h⟩
    · obtain ⟨c, cs, hcs, hc⟩ := ih (n / 10) (by omega) (by omega)
      refine ⟨c, cs ++ [Nat.digitChar (n % 10)], ?_, hc⟩
      rw [writeNatural, Nat.toDigits_of_base_le (by decide) hge]
      exact congrArg (· ++ _) hcs

theorem digitRun_writeNatural (n : Nat) : DigitRun (writeNatural n) :=
  ⟨Nat.toDigits_ne_nil, fun _ => isDigit_of_mem_writeNatural⟩

theorem whole_writeNatural (n : Nat) : Whole (writeNatural n) := by
  by_cases hn : n = 0
  · exact .inl (by rw [hn]; rfl)
  · obtain ⟨c, cs, hcs, hc⟩ := writeNatural_eq_cons hn
    refine .inr ⟨digitRun_writeNatural n, ?_⟩
    rw [hcs, List.head?_cons]
    simpa using hc

/-- The digits of a run are read up to a byte that is none. -/
theorem readDigits_of_digitRun {cs : List Char} (h : DigitRun cs) {rest : Bytes}
    (hr : ∀ b ∈ rest.head?, isDigit b = false) (atEnd : DecodeError) :
    readDigits atEnd (wire cs ++ rest) = .ok (cs.map fun c => c.toNat - 48, rest) := by
  have htake : (wire cs ++ rest).takeWhile isDigit = wire cs := by
    rw [List.takeWhile_append_of_pos h.isDigit_wire]
    cases rest with
    | nil => simp
    | cons b rest => simp [hr b rfl]
  have hdrop : (wire cs ++ rest).dropWhile isDigit = rest := by
    rw [List.dropWhile_append_of_pos h.isDigit_wire]
    cases rest with
    | nil => rfl
    | cons b rest => simp [hr b rfl]
  have hvalues : (wire cs).map digitValue = cs.map fun c => c.toNat - 48 := by
    rw [wire_of_isDigit h.2, List.map_map]
    exact List.map_congr_left fun d hd => digitValue_byte (h.2 d hd)
  obtain ⟨b, bs, hbs, -⟩ := h.wire_eq_cons
  rw [readDigits, htake, hdrop, ← hvalues, hbs]

theorem readWhole_of_whole {cs : List Char} (h : Whole cs) {rest : Bytes}
    (hr : ∀ b ∈ rest.head?, isDigit b = false) (atEnd : DecodeError) :
    readWhole atEnd (wire cs ++ rest) = .ok (cs.map fun c => c.toNat - 48, rest) := by
  rcases h with rfl | ⟨hrun, hhead⟩
  · have hnext : (rest.head?.map isDigit).getD false = false := by
      cases rest with
      | nil => rfl
      | cons b rest => exact hr b rfl
    rw [wire_ascii (by decide), List.cons_append]
    simp only [readWhole, if_true, List.nil_append, hnext, Bool.false_eq_true, if_false, wire,
      List.flatMap_nil]
    rfl
  · rw [← readDigits_of_digitRun hrun hr atEnd]
    obtain ⟨c, cs, rfl⟩ := List.exists_cons_of_ne_nil hrun.1
    have hdigit := Text.toNat_of_isDigit (hrun.2 c List.mem_cons_self)
    have hne : byte c ≠ byte '0' := by
      intro he
      have hnat := congrArg UInt8.toNat he
      rw [toNat_byte (by omega)] at hnat
      exact hhead (congrArg some (Char.toNat_inj.mp hnat))
    rw [wire_ascii (by omega), List.cons_append]
    simp only [readWhole, if_neg hne]

/-! ## Literals -/

theorem Delimited.not_digit {s : Bytes} (h : Delimited s) : ∀ b ∈ s.head?, isDigit b = false :=
  fun b hb => (h b hb).1

theorem readFraction_of_delimited {s : Bytes} (h : ∀ b ∈ s.head?, b ≠ byte '.')
    (atEnd : DecodeError) : readFraction atEnd s = .ok ([], s) := by
  cases s with
  | nil => rfl
  | cons b s => rw [readFraction, if_neg (h b rfl)]

theorem readExponent_of_delimited {s : Bytes} (h : Delimited s) (atEnd : DecodeError) :
    readExponent atEnd s = .ok (none, s) := by
  cases s with
  | nil => rfl
  | cons b s =>
    obtain ⟨-, -, he, hE⟩ := h b rfl
    rw [readExponent, if_neg (not_or.mpr ⟨he, hE⟩)]

theorem readFraction_of_fraction {cs : List Char} (h : Fraction cs) {rest : Bytes}
    (hr : ∀ b ∈ rest.head?, isDigit b = false ∧ b ≠ byte '.') (atEnd : DecodeError) :
    ∃ ds, readFraction atEnd (wire cs ++ rest) = .ok (ds, rest) ∧ (ds = [] ↔ cs = []) := by
  rcases h with rfl | ⟨ds, hds, rfl⟩
  · exact ⟨_, readFraction_of_delimited (fun b hb => (hr b hb).2) atEnd, by simp⟩
  · have hread := readDigits_of_digitRun hds (fun b hb => (hr b hb).1) atEnd
    rw [wire_ascii (by decide), List.cons_append, readFraction, if_pos rfl]
    exact ⟨_, hread, by simp [hds.1]⟩

theorem readSign_of_digitRun {sign ds : List Char}
    (hsign : sign = [] ∨ sign = ['+'] ∨ sign = ['-']) (h : DigitRun ds) (rest : Bytes) :
    (readSign (wire (sign ++ ds) ++ rest)).2 = wire ds ++ rest := by
  rcases hsign with rfl | rfl | rfl
  · obtain ⟨b, bs, hbs, hb⟩ := h.wire_eq_cons
    have hminus : b ≠ byte '-' := by rintro rfl; exact absurd hb (by decide)
    have hplus : b ≠ byte '+' := by rintro rfl; exact absurd hb (by decide)
    rw [List.nil_append, hbs, List.cons_append, readSign, if_neg hminus, if_neg hplus]
  · rfl
  · rfl

theorem readExponent_of_exponent {cs : List Char} (h : Exponent cs) {rest : Bytes}
    (hr : Delimited rest) (atEnd : DecodeError) :
    ∃ x, readExponent atEnd (wire cs ++ rest) = .ok (x, rest) ∧ (x = none ↔ cs = []) := by
  rcases h with rfl | ⟨e, sign, ds, he, hsign, hds, rfl⟩
  · exact ⟨_, readExponent_of_delimited hr atEnd, by simp⟩
  · have hread := readDigits_of_digitRun hds hr.not_digit atEnd
    rw [← readSign_of_digitRun hsign hds rest] at hread
    have hbyte : wire (e :: (sign ++ ds)) = byte e :: wire (sign ++ ds) := by
      rcases he with rfl | rfl
      · rfl
      · rfl
    have hmark : byte e = byte 'e' ∨ byte e = byte 'E' := by
      rcases he with rfl | rfl
      · exact .inl rfl
      · exact .inr rfl
    rw [hbyte, List.cons_append, readExponent, if_pos hmark, hread]
    exact ⟨_, rfl, by simp⟩

theorem head_exponent {cs : List Char} (h : Exponent cs) {rest : Bytes} (hr : Delimited rest) :
    ∀ b ∈ (wire cs ++ rest).head?, isDigit b = false ∧ b ≠ byte '.' := by
  intro b hb
  rcases h with rfl | ⟨e, sign, ds, rfl | rfl, -, -, rfl⟩
  · exact ⟨(hr b hb).1, (hr b hb).2.1⟩
  · cases hb; decide
  · cases hb; decide

theorem head_fraction {cs : List Char} (h : Fraction cs) {rest : Bytes}
    (hr : ∀ b ∈ rest.head?, isDigit b = false) :
    ∀ b ∈ (wire cs ++ rest).head?, isDigit b = false := by
  intro b hb
  rcases h with rfl | ⟨ds, -, rfl⟩
  · exact hr b hb
  · cases hb; decide

/-- A literal that was read from these parts. -/
structure NumberLiteral.Has (l : NumberLiteral) (minus : Bool)
    (whole fraction exponent : List Char) : Prop where
  minus : l.minus = minus
  whole : l.whole = whole.map fun c => c.toNat - 48
  fraction : l.fraction = [] ↔ fraction = []
  exponent : l.exponent = none ↔ exponent = []

theorem readUnsigned_of_parts {whole fraction exponent : List Char} (hw : Whole whole)
    (hf : Fraction fraction) (he : Exponent exponent) {rest : Bytes} (hr : Delimited rest)
    (atEnd : DecodeError) (minus : Bool) :
    ∃ l, readUnsigned atEnd minus (wire (whole ++ (fraction ++ exponent)) ++ rest) =
      .ok (l, rest) ∧ l.Has minus whole fraction exponent := by
  have hexp := head_exponent he hr
  have hfrac := head_fraction hf fun b hb => (hexp b hb).1
  obtain ⟨ds, hds, hfraction⟩ := readFraction_of_fraction hf hexp atEnd
  obtain ⟨x, hx, hexponent⟩ := readExponent_of_exponent he hr atEnd
  rw [wire_append, wire_append, List.append_assoc, List.append_assoc]
  exact ⟨_, by simp only [readUnsigned, readWhole_of_whole hw hfrac, hds, hx]; rfl,
    rfl, rfl, hfraction, hexponent⟩

theorem Whole.digitRun {cs : List Char} (h : Whole cs) : DigitRun cs := by
  rcases h with rfl | ⟨h, -⟩
  · exact ⟨by decide, List.forall_mem_singleton.mpr rfl⟩
  · exact h

theorem Numeral.starts {cs : List Char} (h : Numeral cs) :
    ∃ c rest, cs = c :: rest ∧ c.toNat < 128 ∧ (byte c = byte '-' ∨ isDigit (byte c) = true) := by
  obtain ⟨minus, whole, fraction, exponent, hminus, hw, -, -, rfl⟩ := h
  rcases hminus with rfl | rfl
  · obtain ⟨c, rest, rfl⟩ := List.exists_cons_of_ne_nil hw.digitRun.1
    have hc := hw.digitRun.2 c List.mem_cons_self
    have hdigit := Text.toNat_of_isDigit hc
    exact ⟨_, _, rfl, by omega, .inr (isDigit_byte hc)⟩
  · exact ⟨_, _, rfl, by decide, .inl rfl⟩

def isNumeric (c : Char) : Bool := c.isDigit || "+-.eE".toList.contains c

theorem DigitRun.isNumeric {ds : List Char} (h : DigitRun ds) :
    ∀ c ∈ ds, isNumeric c = true := by
  intro c hc
  rw [Json.isNumeric, h.2 c hc, Bool.true_or]

theorem Numeral.isNumeric {n : List Char} (h : Numeral n) : ∀ c ∈ n, isNumeric c = true := by
  obtain ⟨minus, whole, fraction, exponent, hminus, hwhole, hfraction, hexponent, rfl⟩ := h
  simp only [List.forall_mem_append]
  refine ⟨?_, ?_, ?_, ?_⟩
  · rcases hminus with rfl | rfl
    · simp
    · exact List.forall_mem_singleton.mpr rfl
  · exact hwhole.digitRun.isNumeric
  · rcases hfraction with rfl | ⟨ds, hds, rfl⟩
    · simp
    · exact List.forall_mem_cons.mpr ⟨rfl, hds.isNumeric⟩
  · rcases hexponent with rfl | ⟨e, sign, ds, he, hsign, hds, rfl⟩
    · simp
    · refine List.forall_mem_cons.mpr ⟨?_, List.forall_mem_append.mpr ⟨?_, hds.isNumeric⟩⟩
      · rcases he with rfl | rfl <;> rfl
      · rcases hsign with rfl | rfl | rfl
        · simp
        · exact List.forall_mem_singleton.mpr rfl
        · exact List.forall_mem_singleton.mpr rfl

theorem le_of_isNumeric {c : Char} (h : isNumeric c = true) : 32 ≤ c.toNat := by
  rw [isNumeric, Bool.or_eq_true] at h
  rcases h with h | h
  · have hdigit := Text.toNat_of_isDigit h
    omega
  · simp only [List.contains_iff_mem, String.reduceToList, List.mem_cons, List.not_mem_nil,
      or_false] at h
    rcases h with rfl | rfl | rfl | rfl | rfl <;> decide

def sign (minus : Bool) : List Char := if minus then ['-'] else []

theorem readLiteral_of_parts {whole fraction exponent : List Char} (hw : Whole whole)
    (hf : Fraction fraction) (he : Exponent exponent) {rest : Bytes} (hr : Delimited rest)
    (atEnd : DecodeError) (minus : Bool) :
    ∃ l, readLiteral atEnd (wire (sign minus ++ (whole ++ (fraction ++ exponent))) ++ rest) =
      .ok (l, rest) ∧ l.Has minus whole fraction exponent := by
  obtain ⟨l, hl, hhas⟩ := readUnsigned_of_parts hw hf he hr atEnd minus
  refine ⟨l, ?_, hhas⟩
  cases minus with
  | false =>
    obtain ⟨b, bs, hbs, hb⟩ := hw.digitRun.wire_eq_cons
    have hne : b ≠ byte '-' := by rintro rfl; exact absurd hb (by decide)
    rw [← hl, sign, if_neg Bool.false_ne_true, List.nil_append, wire_append, hbs]
    simp only [List.cons_append, readLiteral, if_neg hne]
  | true =>
    rw [sign, if_pos rfl, List.singleton_append, wire_ascii (by decide), List.cons_append,
      readLiteral, if_pos rfl]
    exact hl

theorem Numeral.exists_parts {cs : List Char} (h : Numeral cs) :
    ∃ minus whole fraction exponent, Whole whole ∧ Fraction fraction ∧ Exponent exponent ∧
      cs = sign minus ++ (whole ++ (fraction ++ exponent)) := by
  obtain ⟨minus, whole, fraction, exponent, rfl | rfl, hw, hf, he, rfl⟩ := h
  · exact ⟨false, whole, fraction, exponent, hw, hf, he, rfl⟩
  · exact ⟨true, whole, fraction, exponent, hw, hf, he, rfl⟩

/-- A number is read whole, however it is written. -/
theorem readLiteral_of_numeral {cs : List Char} (h : Numeral cs) {rest : Bytes}
    (hr : Delimited rest) (atEnd : DecodeError) :
    ∃ l, readLiteral atEnd (wire cs ++ rest) = .ok (l, rest) := by
  obtain ⟨minus, whole, fraction, exponent, hw, hf, he, rfl⟩ := h.exists_parts
  obtain ⟨l, hl, -⟩ := readLiteral_of_parts hw hf he hr atEnd minus
  exact ⟨l, hl⟩

end Json
end PadRelay
