import PadRelay.Proofs.Json.Number

/-!
# PadRelay.Proofs.Json.Integer

Whole numbers are read as exactly the integer that is written, or not at all.

* `Plain`: literals without fraction and exponent, and the integers they denote.
* `writeNatural_ofDigitChars`: such a literal is what is written for its integer.
* `readNumber_of_plain`, `plain_of_readNumber`: what is read as a whole number is plain, fits 64
  bits and is not minus zero, and all of these are. Anything else takes the way through binary64.
* `Counts`: a type of whole numbers. `Counts.readAccepted_iff`: what is read as one.
* `Codec.Integral`: the same of a codec, also of one that may read `null`.
-/

namespace PadRelay
namespace Json

open Codec

/-! ## Plain literals -/

/-- A number without fraction and exponent, and the integer it denotes. -/
inductive Plain : List Char → Int → Prop where
  | natural {ds : List Char} : Whole ds → Plain ds (Nat.ofDigitChars 10 ds 0)
  | negative {ds : List Char} : Whole ds → Plain ('-' :: ds) (-Nat.ofDigitChars 10 ds 0)

theorem numeral_of_whole {ds : List Char} (h : Whole ds) (minus : Bool) :
    Numeral (sign minus ++ ds) := by
  refine ⟨sign minus, ds, [], [], ?_, h, .inl rfl, .inl rfl, by simp⟩
  cases minus
  · exact .inl rfl
  · exact .inr rfl

theorem Plain.numeral {lit : List Char} {z : Int} (h : Plain lit z) : Numeral lit := by
  cases h with
  | natural h => exact numeral_of_whole h false
  | negative h => exact numeral_of_whole h true

theorem Whole.ne_cons_minus {ds cs : List Char} (h : Whole ds) : ds ≠ '-' :: cs := by
  rintro rfl
  exact absurd (h.digitRun.2 '-' List.mem_cons_self) (by decide)

theorem Plain.unique {lit : List Char} {z z' : Int} (h : Plain lit z) (h' : Plain lit z') :
    z = z' := by
  cases h with
  | natural h =>
    generalize hlit : lit = lit' at h'
    cases h' with
    | natural _ => rfl
    | negative _ => exact absurd hlit h.ne_cons_minus
  | negative h =>
    cases h' with
    | natural h' => exact absurd rfl h'.ne_cons_minus
    | negative _ => rfl

theorem toDigits_ofDigitChars_append {ds : List Char} (h : ∀ c ∈ ds, c.isDigit = true) {n : Nat}
    (hn : 0 < n) : Nat.toDigits 10 (Nat.ofDigitChars 10 ds n) = Nat.toDigits 10 n ++ ds := by
  induction ds generalizing n with
  | nil => exact (List.append_nil _).symm
  | cons c ds ih =>
    obtain ⟨hc, hds⟩ := List.forall_mem_cons.mp h
    have hdigit := Text.toNat_of_isDigit hc
    have hlast : Nat.toDigits 10 (c.toNat - 48) = [c] := by
      rw [Nat.toDigits_of_lt_base (by omega), Text.digitChar_of_isDigit hc]
    have hzero : '0'.toNat = 48 := rfl
    rw [Nat.ofDigitChars_cons, hzero, ih hds (by omega),
      ← Nat.toDigits_append_toDigits (by decide) hn (by omega), hlast, List.append_assoc,
      List.singleton_append]

/-- Digits are what is written for the number they denote. -/
theorem writeNatural_ofDigitChars {ds : List Char} (h : Whole ds) :
    writeNatural (Nat.ofDigitChars 10 ds 0) = ds := by
  rcases h with rfl | ⟨hrun, hhead⟩
  · rfl
  · obtain ⟨c, ds, rfl⟩ := List.exists_cons_of_ne_nil hrun.1
    obtain ⟨hc, hds⟩ := List.forall_mem_cons.mp hrun.2
    have hdigit := Text.toNat_of_isDigit hc
    have hpos : c.toNat ≠ 48 := fun hzero => hhead (congrArg some (Char.toNat_inj.mp hzero))
    have hzero : 10 * 0 + (c.toNat - '0'.toNat) = c.toNat - 48 := Nat.zero_add _
    rw [writeNatural, Nat.ofDigitChars_cons, hzero, toDigits_ofDigitChars_append hds (by omega),
      Nat.toDigits_of_lt_base (by omega), Text.digitChar_of_isDigit hc, List.singleton_append]

theorem plain_writeNatural (n : Nat) : Plain (writeNatural n) n := by
  have hplain := Plain.natural (whole_writeNatural n)
  rwa [writeNatural, Nat.ofDigitChars_ten_toDigits, ← writeNatural] at hplain

theorem plain_writeInteger (n : Int) : Plain (writeInteger n) n := by
  unfold writeInteger
  split
  · have hplain := Plain.negative (whole_writeNatural n.natAbs)
    have habs : -(n.natAbs : Int) = n := by omega
    rwa [writeNatural, Nat.ofDigitChars_ten_toDigits, ← writeNatural, habs] at hplain
  · have hplain := plain_writeNatural n.natAbs
    have habs : (n.natAbs : Int) = n := by omega
    rwa [habs] at hplain

theorem writeInteger_ne (n : Int) : writeInteger n ≠ ['-', '0'] := by
  intro h
  have hplain := plain_writeInteger n
  rw [h] at hplain
  obtain rfl : n = 0 := hplain.unique (.negative (.inl rfl))
  exact absurd h (by decide)

/-! ## What is read -/

theorem foldl_map_digits (ds : List Char) :
    (ds.map fun c => c.toNat - 48).foldl (fun n d => 10 * n + d) 0 = Nat.ofDigitChars 10 ds 0 := by
  rw [List.foldl_map]
  exact Nat.ofDigitChars_eq_foldl.symm

theorem absorb_eq {ds : List Nat} {n : Nat}
    (h : ds.foldl (fun n d => 10 * n + d) n < UInt64.size) (count : Nat) :
    absorb n count ds = (ds.foldl (fun n d => 10 * n + d) n, count + ds.length) := by
  induction ds generalizing n count with
  | nil => rfl
  | cons d ds ih =>
    have hd : 10 * n + d < UInt64.size := Nat.lt_of_le_of_lt (Text.le_foldl_digits id ds _) h
    rw [absorb, if_pos hd, ih h]
    simp only [List.foldl_cons, List.length_cons, Nat.add_assoc, Nat.add_comm 1]

/-- If all digits are put together, they fit. -/
theorem lt_of_absorb {ds : List Nat} {n count : Nat} (hn : n < UInt64.size)
    (h : (absorb n count ds).2 = count + ds.length) :
    ds.foldl (fun n d => 10 * n + d) n < UInt64.size := by
  induction ds generalizing n count with
  | nil => exact hn
  | cons d ds ih =>
    rw [absorb] at h
    split at h
    · next hd => exact ih hd (by rw [h, List.length_cons]; omega)
    · simp only [List.length_cons] at h
      omega

def Number.ofInt (z : Int) : Number := if 0 ≤ z then .natural z.toNat else .negative z.natAbs

theorem Number.ofInt_natural (n : Nat) : Number.ofInt n = .natural n := by
  rw [Number.ofInt, if_pos (Int.natCast_nonneg n), Int.toNat_natCast]

theorem Number.ofInt_negative {n : Nat} (h : 0 < n) : Number.ofInt (-n) = .negative n := by
  rw [Number.ofInt, if_neg (by omega), Int.natAbs_neg, Int.natAbs_natCast]

theorem realValue_fraction {minus : Bool} {n : Nat} {shift : Int}
    {exponent : Option (Bool × List Nat)} {x : Number}
    (h : realValue minus n shift exponent = .ok x) : ∃ m y, x = .fraction m y := by
  unfold realValue at h
  split at h
  split at h
  · split at h
    · cases h
    · cases h
      exact ⟨_, _, rfl⟩
  · dsimp only at h
    split at h
    · cases h
      exact ⟨_, _, rfl⟩
    · cases h

section

variable {l : NumberLiteral} {minus : Bool} {whole fraction exponent : List Char}

/-- Digits alone that fit 64 bits are a whole number. The sign of zero makes it another one. -/
theorem value_of_fits (hl : l.Has minus whole [] [])
    (h : Nat.ofDigitChars 10 whole 0 < UInt64.size) :
    l.value =
      if minus = false then .ok (.natural (Nat.ofDigitChars 10 whole 0))
      else if 0 < Nat.ofDigitChars 10 whole 0 ∧ Nat.ofDigitChars 10 whole 0 ≤ Nat.pow 2 63 then
        .ok (.negative (Nat.ofDigitChars 10 whole 0))
      else realValue true (Nat.ofDigitChars 10 whole 0) 0 none := by
  have hdigits := foldl_map_digits whole
  rw [← hl.whole] at hdigits
  have habsorb : absorb 0 0 l.whole = (Nat.ofDigitChars 10 whole 0, l.whole.length) := by
    rw [absorb_eq (by rw [hdigits]; exact h), hdigits, Nat.zero_add]
  simp [NumberLiteral.value, habsorb, hl.fraction.mpr rfl, hl.exponent.mpr rfl, hl.minus]

/-- Anything else is no whole number. -/
theorem value_of_not_fits (hl : l.Has minus whole fraction exponent)
    (h : ¬ (fraction = [] ∧ exponent = [] ∧ Nat.ofDigitChars 10 whole 0 < UInt64.size)) {x : Number}
    (hx : l.value = .ok x) : ∃ m y, x = .fraction m y := by
  unfold NumberLiteral.value at hx
  split at hx
  next n count habsorb =>
  have hdigits := foldl_map_digits whole
  rw [← hl.whole] at hdigits
  have hcond : ¬ (l.fraction.isEmpty ∧ l.exponent.isNone ∧ count = l.whole.length) := by
    rintro ⟨hfraction, hexponent, hcount⟩
    have hall : (absorb 0 0 l.whole).2 = 0 + l.whole.length := by
      rw [habsorb, hcount, Nat.zero_add]
    refine h ⟨hl.fraction.mp (List.isEmpty_iff.mp hfraction),
      hl.exponent.mp (Option.isNone_iff_eq_none.mp hexponent), ?_⟩
    rw [← hdigits]
    exact lt_of_absorb (by decide) hall
  rw [if_neg hcond] at hx
  exact realValue_fraction hx

end

section

variable {lit : List Char} {rest r : Bytes} {z : Int}

theorem readNumber_of_readLiteral {l : NumberLiteral} {s : Bytes}
    (h : readLiteral (.unexpectedEnd .value) s = .ok (l, rest)) :
    readNumber s = l.value.map (·, rest) := by
  simp only [readNumber, h]
  cases l.value <;> rfl

theorem readNumber_of_plain (h : Plain lit z) (hzero : lit ≠ ['-', '0'])
    (hmin : -9223372036854775808 ≤ z) (hmax : z < 18446744073709551616) (hr : Delimited rest) :
    readNumber (wire lit ++ rest) = .ok (.ofInt z, rest) := by
  cases h with
  | natural h =>
    obtain ⟨l, hl, hhas⟩ := readLiteral_of_parts h (.inl rfl) (.inl rfl) hr (.unexpectedEnd .value)
      false
    rw [sign, if_neg Bool.false_ne_true, List.append_nil, List.append_nil, List.nil_append] at hl
    rw [readNumber_of_readLiteral hl, value_of_fits hhas (by simp only [UInt64.size]; omega),
      if_pos rfl, Number.ofInt_natural]
    rfl
  | @negative ds h =>
    obtain ⟨l, hl, hhas⟩ := readLiteral_of_parts h (.inl rfl) (.inl rfl) hr (.unexpectedEnd .value)
      true
    rw [sign, if_pos rfl, List.append_nil, List.append_nil, List.singleton_append] at hl
    have hpos : 0 < Nat.ofDigitChars 10 ds 0 := by
      rw [Nat.pos_iff_ne_zero]
      intro heq
      have hwritten := writeNatural_ofDigitChars h
      rw [heq] at hwritten
      exact hzero (congrArg _ hwritten.symm)
    rw [readNumber_of_readLiteral hl, value_of_fits hhas (by simp only [UInt64.size]; omega),
      if_neg (by decide), if_pos ⟨hpos, by simp only [Nat.pow_eq]; omega⟩,
      Number.ofInt_negative hpos]
    rfl

theorem plain_of_readNumber (h : Numeral lit) (hr : Delimited rest) {x : Number}
    (hread : readNumber (wire lit ++ rest) = .ok (x, r)) :
    r = rest ∧
      ((∃ z, x = .ofInt z ∧ Plain lit z ∧ lit ≠ ['-', '0']) ∨ ∃ m y, x = .fraction m y) := by
  obtain ⟨minus, whole, fraction, exponent, hw, hf, he, rfl⟩ := h.exists_parts
  obtain ⟨l, hl, hhas⟩ := readLiteral_of_parts hw hf he hr (.unexpectedEnd .value) minus
  rw [readNumber_of_readLiteral hl] at hread
  obtain ⟨hvalue, rfl⟩ : l.value = .ok x ∧ rest = r := by
    cases hvalue : l.value with
    | error e => rw [hvalue] at hread; cases hread
    | ok y => rw [hvalue] at hread; cases hread; exact ⟨rfl, rfl⟩
  refine ⟨rfl, ?_⟩
  by_cases hfits : fraction = [] ∧ exponent = [] ∧ Nat.ofDigitChars 10 whole 0 < UInt64.size
  · obtain ⟨rfl, rfl, hlt⟩ := hfits
    rw [value_of_fits hhas hlt] at hvalue
    rw [List.append_nil, List.append_nil]
    cases minus with
    | false =>
      cases hvalue
      exact .inl ⟨_, (Number.ofInt_natural _).symm, .natural hw, hw.ne_cons_minus⟩
    | true =>
      rw [if_neg (by decide)] at hvalue
      split at hvalue
      · next hpos =>
        cases hvalue
        refine .inl ⟨_, (Number.ofInt_negative hpos.1).symm, .negative hw, ?_⟩
        intro hzero
        obtain rfl : whole = ['0'] := (List.cons.inj hzero).2
        exact absurd hpos.1 (by decide)
      · exact .inr (realValue_fraction hvalue)
  · exact .inr (value_of_not_fits hhas hfits hvalue)

end

/-! ## Types of whole numbers -/

/-- A literal that is read as this integer where the least and the greatest one are these. -/
def Fits (least greatest : Int) (lit : List Char) (z : Int) : Prop :=
  Plain lit z ∧ lit ≠ ['-', '0'] ∧ least ≤ z ∧ z ≤ greatest

/-- What fits where there are no signs is digits. -/
theorem Fits.whole {greatest z : Int} {lit : List Char} (h : Fits 0 greatest lit z) :
    Whole lit ∧ z = (Nat.ofDigitChars 10 lit 0 : Nat) := by
  obtain ⟨hplain, hzero, hleast, -⟩ := h
  cases hplain with
  | natural hds => exact ⟨hds, rfl⟩
  | @negative ds hds =>
    have hn : Nat.ofDigitChars 10 ds 0 = 0 := by omega
    have hwritten := writeNatural_ofDigitChars hds
    rw [hn] at hwritten
    exact absurd (congrArg _ hwritten.symm) hzero

variable {α : Type}

/-- A type that holds the integers from the least to the greatest one. -/
structure Counts (accept : Number → Option α) (value : α → Int) (least greatest : Int) : Prop where
  accept_iff : ∀ {z a}, accept (.ofInt z) = some a ↔ value a = z
  refuses : ∀ m y, accept (.fraction m y) = none
  range : ∀ z, (∃ a, value a = z) ↔ least ≤ z ∧ z ≤ greatest
  least_le : -9223372036854775808 ≤ least
  greatest_lt : greatest < 18446744073709551616

/-- Numbers without sign, up to a size. -/
theorem counts_of_size {accept : Number → Option α} {make : Nat → α} {value : α → Nat}
    {size : Nat} {greatest : Int}
    (hnatural : ∀ n, accept (.natural n) = if n < size then some (make n) else none)
    (hnegative : ∀ n, accept (.negative n) = none)
    (hfraction : ∀ m y, accept (.fraction m y) = none)
    (hmake : ∀ a, make (value a) = a) (hvalue : ∀ n, n < size → value (make n) = n)
    (hlt : ∀ a, value a < size) (hgreatest : greatest = size - 1)
    (hfits : greatest < 18446744073709551616) : Counts accept (fun a => value a) 0 greatest where
  accept_iff := by
    intro z a
    have ha := hlt a
    unfold Number.ofInt
    by_cases hz : 0 ≤ z
    · rw [if_pos hz, hnatural]
      by_cases hin : z.toNat < size
      · rw [if_pos hin, Option.some.injEq]
        constructor
        · rintro rfl
          rw [hvalue _ hin]
          omega
        · rintro rfl
          rw [Int.toNat_natCast, hmake]
      · simp only [if_neg hin, reduceCtorEq, false_iff]
        omega
    · simp only [if_neg hz, hnegative, reduceCtorEq, false_iff]
      omega
  refuses := hfraction
  range := by
    intro z
    constructor
    · rintro ⟨a, rfl⟩
      have ha := hlt a
      omega
    · rintro ⟨hmin, hmax⟩
      refine ⟨make z.toNat, ?_⟩
      rw [hvalue _ (by omega)]
      omega
  least_le := by decide
  greatest_lt := hfits

theorem word32_counts : Counts word32? (fun n => n.toNat) 0 4294967295 :=
  counts_of_size (fun _ => rfl) (fun _ => rfl) (fun _ _ => rfl) (fun _ => UInt32.ofNat_toNat)
    (fun _ => UInt32.toNat_ofNat_of_lt') (fun a => a.toNat_lt) (by decide) (by decide)

theorem word64_counts : Counts word64? (fun n => n.toNat) 0 18446744073709551615 :=
  counts_of_size (fun _ => rfl) (fun _ => rfl) (fun _ _ => rfl) (fun _ => UInt64.ofNat_toNat)
    (fun _ => UInt64.toNat_ofNat_of_lt') (fun a => a.toNat_lt) (by decide) (by decide)

theorem signed64_counts :
    Counts signed64? Int64.toInt (-9223372036854775808) 9223372036854775807 where
  accept_iff := by
    intro z a
    have hmin : -9223372036854775808 ≤ a.toInt := a.le_toInt
    have hmax : a.toInt < 9223372036854775808 := a.toInt_lt
    unfold Number.ofInt signed64?
    by_cases hz : 0 ≤ z
    · rw [if_pos hz]
      by_cases hlt : z.toNat < Nat.pow 2 63
      · have hread : (Int64.ofNat z.toNat).toInt = z := by
          rw [Int64.toInt_ofNat_of_lt hlt, Int.toNat_of_nonneg hz]
        simp only [if_pos hlt, Option.some.injEq, ← Int64.toInt_inj, hread, eq_comm]
      · simp only [if_neg hlt, reduceCtorEq, false_iff]
        simp only [Nat.pow_eq] at hlt
        omega
    · rw [if_neg hz]
      have habs : -(z.natAbs : Int) = z := by omega
      by_cases hle : z.natAbs ≤ Nat.pow 2 63
      · have hread : (Int64.ofInt (-z.natAbs)).toInt = z := by
          simp only [Nat.pow_eq] at hle
          rw [habs, Int64.toInt_ofInt_of_le (by omega) (by omega)]
        simp only [if_pos hle, Option.some.injEq, ← Int64.toInt_inj, hread, eq_comm]
      · simp only [if_neg hle, reduceCtorEq, false_iff]
        simp only [Nat.pow_eq] at hle
        omega
  refuses _ _ := rfl
  range := by
    intro z
    constructor
    · rintro ⟨a, rfl⟩
      have hmin : -9223372036854775808 ≤ a.toInt := a.le_toInt
      have hmax : a.toInt < 9223372036854775808 := a.toInt_lt
      omega
    · rintro ⟨hmin, hmax⟩
      exact ⟨Int64.ofInt z, Int64.toInt_ofInt_of_le (by omega) (by omega)⟩
  least_le := by decide
  greatest_lt := by decide

section

variable {accept : Number → Option α} {value : α → Int} {least greatest : Int} {lit : List Char}
  {rest r : Bytes} {a : α}

theorem readAccepted_of_numeral (h : Numeral lit) (expected : String) :
    readAccepted expected accept (wire lit ++ rest) = .ok (a, r) ↔
      ∃ x, readNumber (wire lit ++ rest) = .ok (x, r) ∧ accept x = some a := by
  obtain ⟨c, cs, rfl, hlt, hstart⟩ := h.starts
  have hblank := (isBlank_of_number hstart).1
  rw [wire_ascii hlt, List.cons_append, readAccepted, skipBlank, List.dropWhile_cons_of_neg
    (by simp [hblank])]
  simp only [if_pos hstart]
  cases readNumber (byte c :: (wire cs ++ rest)) with
  | error e => simp
  | ok y =>
    obtain ⟨x, t⟩ := y
    simp only [Except.ok.injEq, Prod.mk.injEq, and_assoc, exists_eq_left']
    cases accept x with
    | none => simp
    | some b => simp [and_comm]

/-- Of such a type exactly the integers are read that fit, and nothing else is left behind them. -/
theorem Counts.readAccepted_iff (hc : Counts accept value least greatest) (h : Numeral lit)
    (hr : Delimited rest) (expected : String) :
    readAccepted expected accept (wire lit ++ rest) = .ok (a, r) ↔
      r = rest ∧ Fits least greatest lit (value a) := by
  rw [readAccepted_of_numeral h]
  constructor
  · rintro ⟨x, hread, hx⟩
    obtain ⟨rfl, ⟨z, rfl, hplain, hzero⟩ | ⟨m, y, rfl⟩⟩ := plain_of_readNumber h hr hread
    · obtain rfl := hc.accept_iff.mp hx
      exact ⟨rfl, hplain, hzero, (hc.range _).mp ⟨a, rfl⟩⟩
    · rw [hc.refuses] at hx
      cases hx
  · rintro ⟨rfl, hplain, hzero, hmin, hmax⟩
    have := hc.least_le
    have := hc.greatest_lt
    exact ⟨_, readNumber_of_plain hplain hzero (by omega) (by omega) hr, hc.accept_iff.mpr rfl⟩

end

/-! ## Codecs -/

namespace Codec

/-- A codec of values that are integers, or nothing: where a literal stands, it reads those that
fit. -/
structure Integral (c : Codec α) (value : α → Option Int) (least greatest : Int) : Prop where
  read_iff : ∀ {lit : List Char} {rest r : Bytes} {a : α}, Numeral lit → Delimited rest →
    (c.read (wire lit ++ rest) = .ok (a, r) ↔
      r = rest ∧ ∃ z, value a = some z ∧ Fits least greatest lit z)
  range : ∀ z, least ≤ z → z ≤ greatest → ∃ a, value a = some z

theorem integral_of_counts {accept : Number → Option α} {value : α → Int} {least greatest : Int}
    (hc : Counts accept value least greatest) {expected : String} {write : α → List Char} :
    (⟨write, readAccepted expected accept, length_readAccepted_lt⟩ : Codec α).Integral
      (fun a => some (value a)) least greatest where
  read_iff := by
    intro lit rest r a h hr
    simp only [hc.readAccepted_iff h hr, Option.some.injEq, exists_eq_left']
  range := by
    intro z hmin hmax
    obtain ⟨a, rfl⟩ := (hc.range z).mpr ⟨hmin, hmax⟩
    exact ⟨a, rfl⟩

theorem Integral.optional {c : Codec α} {value : α → Option Int} {least greatest : Int}
    (hc : c.Integral value least greatest) :
    (Codec.optional c).Integral (·.bind value) least greatest where
  read_iff := by
    intro lit rest r a h hr
    obtain ⟨d, cs, hcs, hlt, hstart⟩ := h.starts
    obtain ⟨hblank, hnull, -⟩ := isBlank_of_number hstart
    have hread : (Codec.optional c).read (wire lit ++ rest) =
        (c.read (wire lit ++ rest)).map fun x => (some x.1, x.2) := by
      show readOptional c _ = _
      rw [hcs, wire_ascii hlt, List.cons_append, readOptional, skipBlank,
        List.dropWhile_cons_of_neg (by simp [hblank])]
      simp only [if_neg hnull]
    rw [hread]
    cases a with
    | none =>
      cases c.read (wire lit ++ rest) <;> simp [Except.map]
    | some a =>
      rw [Option.bind_some, ← hc.read_iff h hr]
      cases c.read (wire lit ++ rest) with
      | error e => simp [Except.map]
      | ok x => simp [Except.map, Prod.ext_iff]
  range := by
    intro z hmin hmax
    obtain ⟨a, ha⟩ := hc.range z hmin hmax
    exact ⟨some a, ha⟩

theorem word32_integral : word32.Integral (fun n => some n.toNat) 0 4294967295 :=
  integral_of_counts word32_counts

theorem word64_integral : word64.Integral (fun n => some n.toNat) 0 18446744073709551615 :=
  integral_of_counts word64_counts

theorem signed64_integral :
    signed64.Integral (fun n => some n.toInt) (-9223372036854775808) 9223372036854775807 :=
  integral_of_counts signed64_counts

end Codec
end Json
end PadRelay
