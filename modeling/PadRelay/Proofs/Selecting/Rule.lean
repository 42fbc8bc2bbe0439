import PadRelay.Proofs.Ini.Orderly
import PadRelay.Proofs.Selecting.Isolation
import PadRelay.Proofs.Text.Integer

/-!
# PadRelay.Proofs.Selecting.Rule

Options that are whole numbers, up to the rule of a section for updates without events.

* `Profile.Effective`: the value that counts for a key in a section.
* `Profile.Distinct.int?_of_effective`: it alone is read. `Profile.Distinct.int?_eq_some_iff`,
  `Profile.Distinct.int?_eq_none_iff`: which integer it gives, and when it gives none.
* `shouldProcess_of_rule`: what decisions owe to the rule's key.
* `integers_of_parse`: options are read exactly, and a rule that cannot be read is zero.
-/

namespace PadRelay

/-! ## Options that are numbers -/

namespace Ini.Profile

variable {p : Profile} {name key value : String}

/-- The value that counts for a key in a section: the section's own, or else that of the
defaults. -/
def Effective (p : Profile) (name key value : String) : Prop :=
  ∃ s ∈ p.sections, s.name = name ∧ s.Gives p.defaults (foldKey key) value

theorem Distinct.int?_of_effective (h : p.Distinct) (hv : p.Effective name key value) :
    p.int? name key = Text.int64? (Text.trim value.toList) := by
  rw [int?, h.get?_eq_some_iff.mpr hv]

theorem Distinct.int?_eq_some_iff (h : p.Distinct) {n : Int} :
    p.int? name key = some n ↔
      ∃ value, p.Effective name key value ∧ Text.Signed (Text.trim value.toList) n ∧
        Text.Holds64 n := by
  constructor
  · intro hn
    cases hget : p.get? name key with
    | none => rw [int?, hget] at hn; cases hn
    | some value =>
      have hv : p.Effective name key value := h.get?_eq_some_iff.mp hget
      rw [h.int?_of_effective hv] at hn
      exact ⟨value, hv, Text.int64?_eq_some_iff.mp hn⟩
  · rintro ⟨value, hv, hn⟩
    rw [h.int?_of_effective hv]
    exact Text.int64?_eq_some_iff.mpr hn

theorem Distinct.int?_eq_none_iff (h : p.Distinct) :
    p.int? name key = none ↔ ∀ value, p.Effective name key value →
      ∀ n, Text.Signed (Text.trim value.toList) n → ¬ Text.Holds64 n := by
  rw [Option.eq_none_iff_forall_ne_some]
  constructor
  · intro hnone value hv n hsigned hfits
    exact hnone n (h.int?_eq_some_iff.mpr ⟨value, hv, hsigned, hfits⟩)
  · intro hall n hn
    obtain ⟨value, hv, hsigned, hfits⟩ := h.int?_eq_some_iff.mp hn
    exact hall value hv n hsigned hfits

end Ini.Profile

/-! ## The rule -/

namespace Selection

open Ini (Profile foldKey)
open Pad (Event Update)

variable {p q : Profile} {name : String}

/-- Configurations that differ in the rule's key only decide alike where the rule is the same. -/
theorem shouldProcess_of_rule (h : p.Apart (· = foldKey nullUpdatesKey) q)
    (hrule : ruleOf p name = ruleOf q name) (u : Update) :
    shouldProcess p name u = shouldProcess q name u :=
  Considered.shouldProcess_eq ⟨h.names name, hrule, rfl, rfl, rfl, rfl,
    fun key hkey => h.values name key (foldKey_machineKey_ne hkey)⟩

/-- **Numbers are read exactly, or not at all.** In a configuration that was read, an option is the
integer that its value denotes, white space around it aside: one or more ASCII digits behind an
optional sign. It is absent if no value counts, if the value denotes no integer, as a sign alone, a
value that stays on several lines and one with other characters do, or if 64 bits do not hold the
integer; a reader that keeps words of 64 bits reads the same, so nothing wraps. A rule for updates
without events that is absent asks for no event, and decides as one that says zero. -/
theorem integers_of_parse {text : String} {p : Profile} (h : Ini.parse text = .ok p)
    (name : String) :
    (∀ key n, p.int? name key = some n ↔
      ∃ value, p.Effective name key value ∧ Text.Signed (Text.trim value.toList) n ∧
        -9223372036854775808 ≤ n ∧ n < 9223372036854775808) ∧
    (∀ key, p.int? name key = none ↔ ∀ value, p.Effective name key value →
      ∀ n, Text.Signed (Text.trim value.toList) n →
        n < -9223372036854775808 ∨ 9223372036854775808 ≤ n) ∧
    (∀ key value, p.Effective name key value →
      p.int? name key = (Text.word? (Text.trim value.toList)).map Int64.toInt ∧
      (Text.trim value.toList ∈ [[], ['+'], ['-']] ∨
          (∃ c ∈ Text.trim value.toList, c ≠ '+' ∧ c ≠ '-' ∧ ¬ ('0' ≤ c ∧ c ≤ '9')) →
        p.int? name key = none)) ∧
    (p.int? name nullUpdatesKey = none →
      (∀ u, shouldProcess p name u = true ↔ p.hasSection name = true ∧
        ∀ key, machineKey u.machine = some key →
          machineRule (p.get? name key) u.onairFlag = true) ∧
      ∀ q : Profile, p.Apart (· = foldKey nullUpdatesKey) q →
        q.int? name nullUpdatesKey = some 0 →
          ∀ u, shouldProcess p name u = shouldProcess q name u) := by
  have hp : p.Distinct := (Ini.orderly_of_parse h).distinct
  refine ⟨fun key n => hp.int?_eq_some_iff, fun key => ?_, fun key value hv => ⟨?_, fun hbad => ?_⟩,
    fun hnone => ⟨fun u => ?_, fun q hq hzero u => ?_⟩⟩
  · rw [hp.int?_eq_none_iff]
    refine forall₄_congr fun value _ n _ => ?_
    rw [Text.Holds64]
    omega
  · rw [hp.int?_of_effective hv, Text.int64?_eq_word?]
  · rw [hp.int?_of_effective hv, Option.eq_none_iff_forall_ne_some]
    intro n hn
    obtain ⟨hempty, hplus, hminus, hall⟩ := (Text.int64?_eq_some_iff.mp hn).1.char
    rcases hbad with hbad | ⟨c, hc, hcplus, hcminus, hdigit⟩
    · simp [hempty, hplus, hminus] at hbad
    · rcases hall c hc with rfl | rfl | hin
      · exact hcplus rfl
      · exact hcminus rfl
      · exact hdigit (by simpa [Text.isDigit] using hin)
  · have hrule : ruleOf p name = 0 := by rw [ruleOf, hnone]; rfl
    rw [shouldProcess_iff, hrule]
    exact and_congr_right fun _ => and_iff_right rfl
  · refine shouldProcess_of_rule hq ?_ u
    rw [ruleOf, ruleOf, hnone, hzero]
    rfl

/-- A default with a sign and zeros, the least number of 64 bits, one more than the greatest, and a
value on two lines. The last two are no rules. -/
theorem integers_of_parse_of_limits :
    let text := "[DEFAULT]\nProcessNullUpdates=+007\n[A]\n" ++
      "[B]\nProcessNullUpdates=-9223372036854775808\n" ++
      "[C]\nProcessNullUpdates=9223372036854775808\n[D]\nProcessNullUpdates=1\n 2"
    let before := [⟨"A", []⟩, ⟨"B", [("processnullupdates", "-9223372036854775808")]⟩,
      ⟨"C", [("processnullupdates", "9223372036854775808")]⟩]
    let p : Profile := ⟨⟨"DEFAULT", [("processnullupdates", "+007")]⟩,
      before ++ [⟨"D", [("processnullupdates", "1\n2")]⟩]⟩
    let q : Profile := ⟨p.defaults, before ++ [⟨"D", [("processnullupdates", "0")]⟩]⟩
    Ini.parse text = .ok p ∧
      p.int? "A" nullUpdatesKey = some 7 ∧
      p.int? "B" nullUpdatesKey = some (-9223372036854775808) ∧
      p.int? "C" nullUpdatesKey = none ∧
      p.int? "D" nullUpdatesKey = none ∧
      p.Apart (· = foldKey nullUpdatesKey) q ∧
      q.int? "D" nullUpdatesKey = some 0 ∧
      shouldProcess p "D" Update.blank = shouldProcess q "D" Update.blank := by
  intro text before p q
  have hp : Ini.parse text = .ok p := by decide +kernel
  have hzero : q.int? "D" nullUpdatesKey = some 0 := by decide +kernel
  have hkey : "processnullupdates" = foldKey nullUpdatesKey := by decide +kernel
  have hA : p.Effective "A" nullUpdatesKey "+007" :=
    ⟨⟨"A", []⟩, by decide, rfl, .inr (by decide +kernel)⟩
  have hB : p.Effective "B" nullUpdatesKey "-9223372036854775808" :=
    ⟨_, List.mem_cons_of_mem _ List.mem_cons_self, rfl, .inl (by decide +kernel)⟩
  have hD : p.Effective "D" nullUpdatesKey "1\n2" :=
    ⟨⟨"D", [("processnullupdates", "1\n2")]⟩, by decide, rfl, .inl (by decide +kernel)⟩
  have hnone := ((integers_of_parse hp "D").2.2.1 nullUpdatesKey _ hD).2
    (.inr ⟨'\n', by decide +kernel, by decide, by decide, by decide⟩)
  have hapart : p.Apart (· = foldKey nullUpdatesKey) q := by
    refine Profile.Edited.apart ⟨⟨rfl, .refl _⟩, ?_⟩
    exact .cons ⟨rfl, .refl _⟩ (.cons ⟨rfl, .refl _⟩ (.cons ⟨rfl, .refl _⟩
      (.cons ⟨rfl, .removed hkey (.added hkey .nil)⟩ .nil)))
  have hseven : Text.Signed (Text.trim "+007".toList) 7 :=
    .plus (Text.digitsValue?_eq_some_iff.mp (show _ = some 7 by decide +kernel))
  have hleast : Text.Signed (Text.trim "-9223372036854775808".toList) (-9223372036854775808) :=
    .minus (Text.digitsValue?_eq_some_iff.mp (show _ = some 9223372036854775808 by decide +kernel))
  refine ⟨hp, ?_, ?_, by decide +kernel, hnone, hapart, hzero, ?_⟩
  · exact ((integers_of_parse hp "A").1 _ _).mpr ⟨_, hA, hseven, by decide, by decide⟩
  · exact ((integers_of_parse hp "B").1 _ _).mpr ⟨_, hB, hleast, by decide, by decide⟩
  · exact ((integers_of_parse hp "D").2.2.2 hnone).2 q hapart hzero _

end Selection
end PadRelay
