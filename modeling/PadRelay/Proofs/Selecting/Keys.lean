import PadRelay.Selection

/-!
# PadRelay.Proofs.Selecting.Keys

The keys of the log machines.

* `lowercase_of_ascii`: ASCII is put into lowercase character by character.
* `machineKey_cases`: which machines have a key, and which one.
* `machineOf_foldKey`: a key tells its machine however it is written.
* `foldKey_machineKey_injective`: hence no two machines share a key.
-/

namespace PadRelay

/-! ## Lowercase -/

namespace Text

theorem lowerFrom_of_ascii {cs : List Char} (h : ∀ c ∈ cs, c.toNat < 128)
    (done before : List Char) : lowerFrom done before cs = done.reverse ++ cs.map lowerChar := by
  induction cs generalizing done before with
  | nil => simp [lowerFrom]
  | cons c cs ih =>
    obtain ⟨hc, hcs⟩ := List.forall_mem_cons.mp h
    have hsigma : c ≠ 'Σ' := by
      rintro rfl
      exact absurd hc (by decide)
    have hdotted : c ≠ 'İ' := by
      rintro rfl
      exact absurd hc (by decide)
    rw [lowerFrom, lowerAt, if_neg hsigma, if_neg hdotted, ih hcs]
    simp

theorem lowercase_of_ascii {cs : List Char} (h : ∀ c ∈ cs, c.toNat < 128) :
    lowercase cs = cs.map lowerChar := lowerFrom_of_ascii h [] []

theorem lt_of_isDigit {c : Char} (h : c.isDigit = true) : c.toNat < 0x3A := by
  have hle := (Char.isDigit_iff_toNat.mp h).2
  exact Nat.lt_succ_of_le hle

theorem lowerChar_of_isDigit {c : Char} (h : c.isDigit = true) : lowerChar c = c := by
  have hlt := lt_of_isDigit h
  rw [lowerChar, if_pos (by omega), if_neg]
  simp only [Bool.and_eq_true, decide_eq_true_eq, not_and]
  omega

end Text

namespace Selection

open Ini (foldKey)

/-! ## Machines -/

theorem machineKey_cases {m : UInt32} {key : String} (h : machineKey m = some key) :
    m = 1 ∧ key = "MasterLog" ∨ m = 2 ∧ key = "Aux1Log" ∨ m = 3 ∧ key = "Aux2Log" ∨
      101 ≤ m.toNat ∧ key = String.ofList ("VirtualLog".toList ++ Nat.toDigits 10 m.toNat) := by
  unfold machineKey at h
  split at h
  · next hm => exact .inl ⟨hm, (Option.some.inj h).symm⟩
  split at h
  · next hm => exact .inr (.inl ⟨hm, (Option.some.inj h).symm⟩)
  split at h
  · next hm => exact .inr (.inr (.inl ⟨hm, (Option.some.inj h).symm⟩))
  split at h
  · next hm => exact .inr (.inr (.inr ⟨hm, (Option.some.inj h).symm⟩))
  · cases h

theorem machineKey_eq_none_iff (m : UInt32) :
    machineKey m = none ↔ m.toNat = 0 ∨ 4 ≤ m.toNat ∧ m.toNat ≤ 100 := by
  have h1 : m = 1 ↔ m.toNat = 1 := UInt32.toNat_inj.symm
  have h2 : m = 2 ↔ m.toNat = 2 := UInt32.toNat_inj.symm
  have h3 : m = 3 ↔ m.toNat = 3 := UInt32.toNat_inj.symm
  unfold machineKey
  simp only [h1, h2, h3]
  split
  · simp; omega
  split
  · simp; omega
  split
  · simp; omega
  split
  · simp; omega
  · simp; omega

/-! ## Keys -/

/-- The machine whose key this is, in lowercase. -/
def machineOf (key : List Char) : Option Nat :=
  if key = "masterlog".toList then some 1
  else if key = "aux1log".toList then some 2
  else if key = "aux2log".toList then some 3
  else if key.take 10 = "virtuallog".toList then some (Nat.ofDigitChars 10 (key.drop 10) 0)
  else none

theorem toList_foldKey_virtual (n : Nat) :
    (foldKey (String.ofList ("VirtualLog".toList ++ Nat.toDigits 10 n))).toList =
      "virtuallog".toList ++ Nat.toDigits 10 n := by
  have hdigits : ∀ c ∈ Nat.toDigits 10 n, c.isDigit = true := fun c hc =>
    Nat.isDigit_of_mem_toDigits (by decide) (by decide) hc
  have hascii : ∀ c ∈ "VirtualLog".toList ++ Nat.toDigits 10 n, c.toNat < 128 := by
    intro c hc
    obtain hc | hc := List.mem_append.mp hc
    · have hfront : ∀ c ∈ "VirtualLog".toList, c.toNat < 128 := by simp
      exact hfront c hc
    · have hlt := Text.lt_of_isDigit (hdigits c hc)
      omega
  have hsame : (Nat.toDigits 10 n).map Text.lowerChar = Nat.toDigits 10 n := by
    rw [List.map_congr_left fun c hc => Text.lowerChar_of_isDigit (hdigits c hc), List.map_id']
  rw [foldKey, String.toList_ofList, String.toList_ofList, Text.lowercase_of_ascii hascii,
    List.map_append, hsame]
  rfl

theorem machineOf_foldKey {m : UInt32} {key : String} (h : machineKey m = some key) :
    machineOf (foldKey key).toList = some m.toNat := by
  obtain ⟨rfl, rfl⟩ | ⟨rfl, rfl⟩ | ⟨rfl, rfl⟩ | ⟨-, rfl⟩ := machineKey_cases h
  · decide
  · decide
  · decide
  · rw [toList_foldKey_virtual, machineOf]
    simp

/-- However two keys are written, they are those of one machine only. -/
theorem foldKey_machineKey_injective {m n : UInt32} {key key' : String}
    (hm : machineKey m = some key) (hn : machineKey n = some key')
    (h : foldKey key = foldKey key') : m = n := by
  have hof := machineOf_foldKey hm
  rw [h, machineOf_foldKey hn, Option.some.injEq] at hof
  exact UInt32.toNat_inj.mp hof.symm

theorem foldKey_machineKey_ne {m : UInt32} {key : String} (h : machineKey m = some key) :
    foldKey key ≠ foldKey nullUpdatesKey := by
  intro heq
  have hof := machineOf_foldKey h
  rw [heq] at hof
  have hnone : machineOf (foldKey nullUpdatesKey).toList = none := by decide
  rw [hnone] at hof
  cases hof

end Selection
end PadRelay
