import Mathlib.Data.List.Induction
import PadRelay.Text.Integer

/-!
# PadRelay.Proofs.Text.Integer

Which integer a text denotes, and how it is read in words of 64 bits.

* `Decimal`: one or more digits, and the number they denote. `Signed`: behind an optional sign, the
  integer they denote.
* `int64?_eq_some_iff`: a text is read as the integer that it denotes, if 64 bits hold it.
* `Signed.char`: what denotes an integer has no characters but signs and digits.
* `word?`: a reader that keeps a word and takes the digits one by one, every step checked.
* `word?_eq_some_iff`, `int64?_eq_word?`: it stops at none of the integers that 64 bits hold, and
  lets none of the others pass, so both readers read the same.
-/

namespace PadRelay
namespace Text

/-! ## What a text denotes -/

/-- One or more digits and the number they denote: a digit behind others counts itself, and what
stands in front of it ten times. -/
inductive Decimal : List Char → Nat → Prop where
  | digit {d : Nat} : d < 10 → Decimal [d.digitChar] d
  | more {ds : List Char} {n d : Nat} :
      Decimal ds n → d < 10 → Decimal (ds ++ [d.digitChar]) (10 * n + d)

/-- Digits, behind a sign or not, and the integer they denote. -/
inductive Signed : List Char → Int → Prop where
  | bare {ds : List Char} {n : Nat} : Decimal ds n → Signed ds n
  | plus {ds : List Char} {n : Nat} : Decimal ds n → Signed ('+' :: ds) n
  | minus {ds : List Char} {n : Nat} : Decimal ds n → Signed ('-' :: ds) (-n)

theorem toNat_of_isDigit {c : Char} (h : c.isDigit = true) : 48 ≤ c.toNat ∧ c.toNat ≤ 57 :=
  Char.isDigit_iff_toNat.mp h

theorem digitChar_of_isDigit {c : Char} (h : c.isDigit = true) : (c.toNat - 48).digitChar = c := by
  have hc := toNat_of_isDigit h
  rw [← Char.toNat_inj, Nat.toNat_digitChar_of_lt_ten (by omega)]
  omega

theorem isDigit_digitChar {d : Nat} (h : d < 10) :
    isDigit d.digitChar = true ∧ d.digitChar.toNat - 48 = d := by
  have hcode := Nat.toNat_digitChar_of_lt_ten h
  refine ⟨?_, by omega⟩
  show d.digitChar.isDigit = true
  rw [Char.isDigit_iff_toNat, hcode]
  exact ⟨Nat.le_add_right 48 d, Nat.add_le_add_left (Nat.le_of_lt_succ h) 48⟩

/-- Digits behind a number make it no smaller. -/
theorem le_foldl_digits {α : Type} (value : α → Nat) (ds : List α) (n : Nat) :
    n ≤ ds.foldl (fun n d => 10 * n + value d) n := by
  induction ds generalizing n with
  | nil => exact Nat.le_refl n
  | cons d ds ih =>
    have hone : n ≤ 10 * n + value d := by omega
    exact Nat.le_trans hone (ih _)

theorem digitsValue_concat (ds : List Char) (c : Char) :
    digitsValue (ds ++ [c]) = 10 * digitsValue ds + (c.toNat - 48) := by
  rw [digitsValue, List.foldl_append]
  rfl

/-- All digits denote a number, and nothing else does. -/
theorem decimal_iff {ds : List Char} {n : Nat} :
    Decimal ds n ↔ ds ≠ [] ∧ (∀ c ∈ ds, isDigit c = true) ∧ digitsValue ds = n := by
  constructor
  · intro h
    induction h with
    | digit hd =>
      obtain ⟨hdigit, hvalue⟩ := isDigit_digitChar hd
      refine ⟨List.cons_ne_nil _ _, List.forall_mem_singleton.mpr hdigit, ?_⟩
      rw [digitsValue, List.foldl_cons, List.foldl_nil, hvalue, Nat.mul_zero, Nat.zero_add]
    | @more ds n d _ hd ih =>
      obtain ⟨hdigit, hvalue⟩ := isDigit_digitChar hd
      obtain ⟨-, hall, rfl⟩ := ih
      refine ⟨by simp, ?_, by rw [digitsValue_concat, hvalue]⟩
      exact List.forall_mem_append.mpr ⟨hall, List.forall_mem_singleton.mpr hdigit⟩
  · rintro ⟨hne, hall, rfl⟩
    induction ds using List.reverseRecOn with
    | nil => exact absurd rfl hne
    | append_singleton ds c ih =>
      obtain ⟨hds, hc⟩ := List.forall_mem_append.mp hall
      have hdigit := List.forall_mem_singleton.mp hc
      have hlt : c.toNat - 48 < 10 := by
        have hc := toNat_of_isDigit hdigit
        omega
      rw [digitsValue_concat]
      cases ds with
      | nil =>
        have hone := Decimal.digit hlt
        rw [digitChar_of_isDigit hdigit] at hone
        simpa [digitsValue] using hone
      | cons d ds =>
        have hmore := Decimal.more (ih (List.cons_ne_nil _ _) hds) hlt
        rwa [digitChar_of_isDigit hdigit] at hmore

theorem digitsValue?_eq_some_iff {ds : List Char} {n : Nat} :
    digitsValue? ds = some n ↔ Decimal ds n := by
  rw [decimal_iff, digitsValue?]
  simp only [List.isEmpty_iff, List.all_eq_true]
  split_ifs with hempty hall
  · simp [hempty]
  · simp only [Option.some.injEq, ne_eq, hempty, not_false_eq_true, true_and, and_iff_right hall]
  · simp only [hall, false_and, and_false]

theorem Decimal.ne_nil {ds : List Char} {n : Nat} (h : Decimal ds n) : ds ≠ [] :=
  (decimal_iff.mp h).1

theorem Decimal.isDigit {ds : List Char} {n : Nat} (h : Decimal ds n) :
    ∀ c ∈ ds, Text.isDigit c = true :=
  (decimal_iff.mp h).2.1

theorem Decimal.not_sign {c : Char} {ds : List Char} {n : Nat} (h : Decimal (c :: ds) n) :
    c ≠ '+' ∧ c ≠ '-' := by
  have hc := h.isDigit c List.mem_cons_self
  constructor
  · rintro rfl
    exact absurd hc (by decide)
  · rintro rfl
    exact absurd hc (by decide)

theorem signed_plus_iff {ds : List Char} {z : Int} :
    Signed ('+' :: ds) z ↔ ∃ n : Nat, Decimal ds n ∧ (n : Int) = z := by
  constructor
  · intro h
    cases h with
    | bare hds => exact absurd rfl hds.not_sign.1
    | plus hds => exact ⟨_, hds, rfl⟩
  · rintro ⟨n, hds, rfl⟩
    exact .plus hds

theorem signed_minus_iff {ds : List Char} {z : Int} :
    Signed ('-' :: ds) z ↔ ∃ n : Nat, Decimal ds n ∧ -(n : Int) = z := by
  constructor
  · intro h
    cases h with
    | bare hds => exact absurd rfl hds.not_sign.2
    | minus hds => exact ⟨_, hds, rfl⟩
  · rintro ⟨n, hds, rfl⟩
    exact .minus hds

theorem signed_bare_iff {ds : List Char} {z : Int} (hplus : ∀ cs, ds ≠ '+' :: cs)
    (hminus : ∀ cs, ds ≠ '-' :: cs) :
    Signed ds z ↔ ∃ n : Nat, Decimal ds n ∧ (n : Int) = z := by
  constructor
  · intro h
    cases h with
    | bare hds => exact ⟨_, hds, rfl⟩
    | plus _ => exact absurd rfl (hplus _)
    | minus _ => exact absurd rfl (hminus _)
  · rintro ⟨n, hds, rfl⟩
    exact .bare hds

theorem signed?_eq_some_iff {cs : List Char} {z : Int} : signed? cs = some z ↔ Signed cs z := by
  unfold signed?
  split
  · rw [signed_plus_iff, Option.map_eq_some_iff]
    simp only [digitsValue?_eq_some_iff, Int.ofNat_eq_natCast]
  · rw [signed_minus_iff, Option.map_eq_some_iff]
    simp only [digitsValue?_eq_some_iff, Int.ofNat_eq_natCast]
  · next hplus hminus =>
    rw [signed_bare_iff hplus hminus, Option.map_eq_some_iff]
    simp only [digitsValue?_eq_some_iff, Int.ofNat_eq_natCast]

/-- What denotes an integer is not a sign alone, and has no characters but signs and digits. -/
theorem Signed.char {cs : List Char} {z : Int} (h : Signed cs z) :
    cs ≠ [] ∧ cs ≠ ['+'] ∧ cs ≠ ['-'] ∧ ∀ c ∈ cs, c = '+' ∨ c = '-' ∨ isDigit c = true := by
  cases h with
  | bare hds =>
    refine ⟨hds.ne_nil, ?_, ?_, fun c hc => .inr (.inr (hds.isDigit c hc))⟩
    · rintro rfl
      exact hds.not_sign.1 rfl
    · rintro rfl
      exact hds.not_sign.2 rfl
  | plus hds =>
    refine ⟨List.cons_ne_nil _ _, by simpa using hds.ne_nil, by simp, ?_⟩
    exact List.forall_mem_cons.mpr ⟨.inl rfl, fun c hc => .inr (.inr (hds.isDigit c hc))⟩
  | minus hds =>
    refine ⟨List.cons_ne_nil _ _, by simp, by simpa using hds.ne_nil, ?_⟩
    exact List.forall_mem_cons.mpr ⟨.inr (.inl rfl), fun c hc => .inr (.inr (hds.isDigit c hc))⟩

/-- Whether 64 bits with sign hold an integer. -/
def Holds64 (z : Int) : Prop := -9223372036854775808 ≤ z ∧ z < 9223372036854775808

/-- A text is read as the integer that it denotes, if 64 bits hold it, and else as none. -/
theorem int64?_eq_some_iff {cs : List Char} {z : Int} :
    int64? cs = some z ↔ Signed cs z ∧ Holds64 z := by
  have hmin : Int64.minValue.toInt = -9223372036854775808 := rfl
  have hmax : Int64.maxValue.toInt = 9223372036854775807 := rfl
  rw [← signed?_eq_some_iff, Holds64, int64?, hmin, hmax]
  cases signed? cs with
  | none => simp
  | some y =>
    simp only [Bool.and_eq_true, decide_eq_true_eq, Option.ite_none_right_eq_some,
      Option.some.injEq]
    omega

/-! ## Words -/

/-- A word that is the exact result of what was computed, or nothing if that wrapped. -/
def unwrapped (exact : Int) (w : Int64) : Option Int64 := if w.toInt = exact then some w else none

def digitWord (c : Char) : Int64 := Int64.ofNat (c.toNat - 48)

/-- A digit added to a word, or taken off it behind a minus sign. -/
def addDigit (minus : Bool) (w : Int64) (c : Char) : Option Int64 :=
  if minus then unwrapped (w.toInt - (digitWord c).toInt) (w - digitWord c)
  else unwrapped (w.toInt + (digitWord c).toInt) (w + digitWord c)

/-- One more digit behind those that a word was made of. -/
def digitBehind (minus : Bool) (w : Int64) (c : Char) : Option Int64 :=
  (unwrapped (w.toInt * 10) (w * 10)).bind fun tens => addDigit minus tens c

def digitsBehind (minus : Bool) (w : Int64) : List Char → Option Int64
  | [] => some w
  | c :: cs =>
    if isDigit c then (digitBehind minus w c).bind fun next => digitsBehind minus next cs else none

/-- The word of one or more digits. -/
def digitsWord? (minus : Bool) (ds : List Char) : Option Int64 :=
  if ds = [] then none else digitsBehind minus 0 ds

/-- The word that digits behind an optional sign denote. -/
def word? : List Char → Option Int64
  | '+' :: ds => digitsWord? false ds
  | '-' :: ds => digitsWord? true ds
  | ds => digitsWord? false ds

def signedBy (minus : Bool) (n : Nat) : Int := if minus then -n else n

@[simp] theorem signedBy_false (n : Nat) : signedBy false n = n := rfl

@[simp] theorem signedBy_true (n : Nat) : signedBy true n = -n := rfl

theorem holds64_toInt (w : Int64) : Holds64 w.toInt := ⟨w.le_toInt, w.toInt_lt⟩

theorem exists_word {z : Int} (h : Holds64 z) : ∃ w : Int64, w.toInt = z :=
  ⟨Int64.ofInt z, Int64.toInt_ofInt_of_le h.1 h.2⟩

theorem unwrapped_eq_some_iff {exact : Int} {w v : Int64} (hw : Int64.ofInt exact = w) :
    unwrapped exact w = some v ↔ v.toInt = exact := by
  rw [unwrapped, Option.ite_none_right_eq_some, Option.some.injEq]
  constructor
  · rintro ⟨hexact, rfl⟩
    exact hexact
  · intro hv
    obtain rfl : w = v := by rw [← hw, ← hv, Int64.ofInt_toInt]
    exact ⟨hv, rfl⟩

theorem toInt_digitWord {c : Char} (h : isDigit c = true) :
    (digitWord c).toInt = (c.toNat - 48 : Nat) := by
  have hc := toNat_of_isDigit h
  exact Int64.toInt_ofNat_of_lt (by omega)

variable {minus : Bool} {w v : Int64} {n : Nat}

/-- Of numbers with the same sign, one nearer to zero fits all the more. -/
theorem holds64_of_le {m : Nat} (hle : n ≤ m) (h : Holds64 (signedBy minus m)) :
    Holds64 (signedBy minus n) := by
  unfold Holds64 at *
  cases minus with
  | true => simp only [signedBy_true] at *; omega
  | false => simp only [signedBy_false] at *; omega

theorem addDigit_eq_some_iff {c : Char} (hc : isDigit c = true) (hw : w.toInt = signedBy minus n) :
    addDigit minus w c = some v ↔ v.toInt = signedBy minus (n + (c.toNat - 48)) := by
  have hdigit := toInt_digitWord hc
  unfold addDigit
  cases minus with
  | true =>
    rw [if_pos rfl, unwrapped_eq_some_iff (by simp [Int64.ofInt_sub]), hdigit, hw]
    simp only [signedBy_true]
    omega
  | false =>
    rw [if_neg (by decide), unwrapped_eq_some_iff (by simp [Int64.ofInt_add]), hdigit, hw]
    simp only [signedBy_false]
    omega

/-- One more digit is taken exactly if the number with it fits. -/
theorem digitBehind_eq_some_iff {c : Char} (hc : isDigit c = true)
    (hw : w.toInt = signedBy minus n) :
    digitBehind minus w c = some v ↔ v.toInt = signedBy minus (10 * n + (c.toNat - 48)) := by
  have hten : w.toInt * 10 = signedBy minus (10 * n) := by
    rw [hw]
    cases minus with
    | true => simp only [signedBy_true]; omega
    | false => simp only [signedBy_false]; omega
  have hmul : Int64.ofInt (signedBy minus (10 * n)) = w * 10 := by
    rw [← hten, Int64.ofInt_mul, Int64.ofInt_toInt]
    rfl
  rw [digitBehind, Option.bind_eq_some_iff, hten]
  simp only [unwrapped_eq_some_iff hmul]
  constructor
  · rintro ⟨tens, htens, hv⟩
    exact (addDigit_eq_some_iff hc htens).mp hv
  · intro hv
    obtain ⟨tens, htens⟩ := exists_word
      (holds64_of_le (Nat.le_add_right (10 * n) (c.toNat - 48)) (hv ▸ holds64_toInt v))
    exact ⟨tens, htens, (addDigit_eq_some_iff hc htens).mpr hv⟩

/-- Digits are taken one by one exactly if the number with all of them fits. -/
theorem digitsBehind_eq_some_iff {cs : List Char} (hw : w.toInt = signedBy minus n) :
    digitsBehind minus w cs = some v ↔ (∀ c ∈ cs, isDigit c = true) ∧
      v.toInt = signedBy minus (cs.foldl (fun n c => 10 * n + (c.toNat - 48)) n) := by
  induction cs generalizing w n with
  | nil =>
    simp only [digitsBehind, Option.some.injEq, List.not_mem_nil, false_implies, implies_true,
      true_and, List.foldl_nil, ← hw, Int64.toInt_inj, eq_comm]
  | cons c cs ih =>
    rw [digitsBehind, List.forall_mem_cons, List.foldl_cons]
    by_cases hc : isDigit c = true
    · rw [if_pos hc, and_iff_right hc, Option.bind_eq_some_iff]
      simp only [digitBehind_eq_some_iff hc hw]
      constructor
      · rintro ⟨next, hnext, hv⟩
        exact (ih hnext).mp hv
      · rintro ⟨hcs, hv⟩
        obtain ⟨next, hnext⟩ := exists_word
          (holds64_of_le (le_foldl_digits (·.toNat - 48) cs _) (hv ▸ holds64_toInt v))
        exact ⟨next, hnext, (ih hnext).mpr ⟨hcs, hv⟩⟩
    · rw [if_neg hc]
      simp [hc]

theorem digitsWord?_eq_some_iff {ds : List Char} :
    digitsWord? minus ds = some v ↔ ∃ n, Decimal ds n ∧ signedBy minus n = v.toInt := by
  have hzero : (0 : Int64).toInt = signedBy minus 0 := by cases minus <;> rfl
  rw [digitsWord?]
  by_cases hds : ds = []
  · rw [if_pos hds]
    simp only [reduceCtorEq, false_iff, not_exists, not_and]
    exact fun n hn _ => hn.ne_nil hds
  · rw [if_neg hds, digitsBehind_eq_some_iff hzero]
    constructor
    · rintro ⟨hall, hv⟩
      exact ⟨_, decimal_iff.mpr ⟨hds, hall, rfl⟩, hv.symm⟩
    · rintro ⟨n, hn, hv⟩
      obtain ⟨-, hall, rfl⟩ := decimal_iff.mp hn
      exact ⟨hall, hv.symm⟩

/-- A text is read as the word that it denotes. -/
theorem word?_eq_some_iff {cs : List Char} : word? cs = some v ↔ Signed cs v.toInt := by
  unfold word?
  split
  · rw [signed_plus_iff]
    exact digitsWord?_eq_some_iff
  · rw [signed_minus_iff]
    exact digitsWord?_eq_some_iff
  · next hplus hminus =>
    rw [signed_bare_iff hplus hminus]
    exact digitsWord?_eq_some_iff

/-- Reading in checked words gives what reading in integers gives. -/
theorem int64?_eq_word? (cs : List Char) : int64? cs = (word? cs).map Int64.toInt := by
  ext z
  rw [int64?_eq_some_iff, Option.map_eq_some_iff]
  simp only [word?_eq_some_iff]
  constructor
  · rintro ⟨hcs, hz⟩
    obtain ⟨w, rfl⟩ := exists_word hz
    exact ⟨w, hcs, rfl⟩
  · rintro ⟨w, hcs, rfl⟩
    exact ⟨hcs, holds64_toInt w⟩

end Text
end PadRelay
