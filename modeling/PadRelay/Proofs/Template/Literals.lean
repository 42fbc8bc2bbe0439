import PadRelay.Template

/-!
# PadRelay.Proofs.Template.Literals

What a template says itself, next to what it takes from an update.

* `Parts`: a text taken apart into segments; `parts_scan`: a template is.
* `Parts.mem_of_literal`: every literal character stands in the template.
* `Parts.literal_of_mem`: every character is literal, but for percent signs and letters of codes.
-/

namespace PadRelay
namespace Template

/-! ## Codes -/

def isLetter (c : Char) : Bool := isCapital c || ('a' ≤ c && c ≤ 'z')

theorem isLetter_of_isCapital {c : Char} (h : isCapital c = true) : isLetter c = true := by
  rw [isLetter, h, Bool.true_or]

theorem isLetter_of_control {c : Char} (h : c.toNat < 0x20) : isLetter c = false := by
  have hupper : ¬ 'A' ≤ c := fun hle => absurd (Nat.lt_of_le_of_lt hle h) (by decide)
  have hlower : ¬ 'a' ≤ c := fun hle => absurd (Nat.lt_of_le_of_lt hle h) (by decide)
  simp [isLetter, isCapital, hupper, hlower]

theorem isLetter_of_ofLetter? {c : Char} {f : Field} (h : Field.ofLetter? c = some f) :
    isLetter c = true := by
  unfold Field.ofLetter? at h
  split at h
  all_goals first | rfl | cases h

theorem isLetter_of_ofPair? {a b : Char} {f : Field} (h : Field.ofPair? a b = some f) :
    isLetter a = true ∧ isLetter b = true := by
  unfold Field.ofPair? at h
  split at h
  all_goals first | exact ⟨rfl, rfl⟩ | cases h

/-- A code of one letter stands for a field. -/
theorem letter?_eq_some {a : Char} {w : Segment} (h : letter? a = some w) :
    isLetter a = true ∧ ∃ field slot, w = .wildcard field slot := by
  unfold letter? at h
  split at h
  · next hcapital =>
    obtain ⟨f, -, rfl⟩ := Option.map_eq_some_iff.mp h
    exact ⟨isLetter_of_isCapital hcapital, _, _, rfl⟩
  · obtain ⟨f, hf, rfl⟩ := Option.map_eq_some_iff.mp h
    exact ⟨isLetter_of_ofLetter? hf, _, _, rfl⟩

/-- So does a code of two letters. -/
theorem pair?_eq_some {a b : Char} {w : Segment} (h : pair? a b = some w) :
    (isLetter a = true ∧ isLetter b = true) ∧ ∃ field slot, w = .wildcard field slot := by
  unfold pair? at h
  split at h
  · next hcapital =>
    obtain ⟨f, -, rfl⟩ := Option.map_eq_some_iff.mp h
    simp only [Bool.and_eq_true] at hcapital
    exact ⟨⟨isLetter_of_isCapital hcapital.1, isLetter_of_isCapital hcapital.2⟩, _, _, rfl⟩
  · obtain ⟨f, hf, rfl⟩ := Option.map_eq_some_iff.mp h
    exact ⟨isLetter_of_ofPair? hf, _, _, rfl⟩

/-- The letters of a code are taken off the text, and they stand for a field. -/
theorem wildcard?_eq_some {cs rest : List Char} {w : Segment}
    (h : wildcard? cs = some (w, rest)) :
    ∃ code, cs = code ++ rest ∧ (∀ c ∈ code, isLetter c = true) ∧
      ∃ field slot, w = .wildcard field slot := by
  unfold wildcard? at h
  split at h
  · cases h
  · next a =>
    obtain ⟨w', hw, heq⟩ := Option.map_eq_some_iff.mp h
    cases heq
    obtain ⟨ha, hfield⟩ := letter?_eq_some hw
    exact ⟨[a], rfl, by simpa using ha, hfield⟩
  · next a b tail =>
    split at h
    · next hw =>
      cases h
      obtain ⟨⟨ha, hb⟩, hfield⟩ := pair?_eq_some hw
      exact ⟨[a, b], rfl, by simp [ha, hb], hfield⟩
    · obtain ⟨w', hw, heq⟩ := Option.map_eq_some_iff.mp h
      cases heq
      obtain ⟨ha, hfield⟩ := letter?_eq_some hw
      exact ⟨[a], rfl, by simpa using ha, hfield⟩

/-! ## Segments -/

/-- A text taken apart into segments. Which of the last two rules applies to a percent sign is left
open here. -/
inductive Parts : List Char → List Segment → Prop where
  | none : Parts [] []
  | percent {cs : List Char} {segments : List Segment} :
      Parts cs segments → Parts ('%' :: '%' :: cs) (.literal '%' :: segments)
  | code {code cs : List Char} {field : Field} {slot : Slot} {segments : List Segment} :
      (∀ c ∈ code, isLetter c = true) → Parts cs segments →
        Parts ('%' :: (code ++ cs)) (.wildcard field slot :: segments)
  | self {c : Char} {cs : List Char} {segments : List Segment} :
      Parts cs segments → Parts (c :: cs) (.literal c :: segments)

theorem parts_scanFrom (done : List Segment) (cs : List Char) :
    ∃ segments, scanFrom done cs = done.reverse ++ segments ∧ Parts cs segments := by
  -- on the scan; the segments done so far stay in front, the latest first
  fun_induction scanFrom done cs with
  | case1 done => exact ⟨[], (List.append_nil _).symm, .none⟩
  | case2 done rest hsecond ih =>
    obtain ⟨segments, hscan, hparts⟩ := ih
    obtain ⟨rest, rfl⟩ := List.head?_eq_some_iff.mp hsecond
    exact ⟨_, by rw [hscan, List.reverse_cons, List.append_assoc]; rfl, .percent hparts⟩
  | case3 done rest hsecond w rest' hw ih =>
    obtain ⟨segments, hscan, hparts⟩ := ih
    obtain ⟨code, rfl, hletter, field, slot, rfl⟩ := wildcard?_eq_some hw
    exact ⟨_, by rw [hscan, List.reverse_cons, List.append_assoc]; rfl, .code hletter hparts⟩
  | case4 done rest hsecond hnone ih =>
    obtain ⟨segments, hscan, hparts⟩ := ih
    exact ⟨_, by rw [hscan, List.reverse_cons, List.append_assoc]; rfl, .self hparts⟩
  | case5 done c rest hne ih =>
    obtain ⟨segments, hscan, hparts⟩ := ih
    exact ⟨_, by rw [hscan, List.reverse_cons, List.append_assoc]; rfl, .self hparts⟩

theorem parts_scan (template : List Char) : Parts template (scan template) := by
  obtain ⟨segments, hscan, hparts⟩ := parts_scanFrom [] template
  rw [scan, hscan]
  exact hparts

/-- Every literal character stands in the template. -/
theorem Parts.mem_of_literal {cs : List Char} {segments : List Segment} (h : Parts cs segments)
    {c : Char} (hc : .literal c ∈ segments) : c ∈ cs := by
  induction h with
  | none => cases hc
  | percent _ ih =>
    simp only [List.mem_cons, Segment.literal.injEq] at hc ⊢
    obtain rfl | hc := hc
    · exact .inl rfl
    · exact .inr (.inr (ih hc))
  | code _ _ ih =>
    simp only [List.mem_cons, reduceCtorEq, false_or, List.mem_append] at hc ⊢
    exact .inr (.inr (ih hc))
  | self _ ih =>
    simp only [List.mem_cons, Segment.literal.injEq] at hc ⊢
    obtain rfl | hc := hc
    · exact .inl rfl
    · exact .inr (ih hc)

/-- A character is literal, but for percent signs and the letters of codes. -/
theorem Parts.literal_of_mem {cs : List Char} {segments : List Segment} (h : Parts cs segments)
    {c : Char} (hc : c ∈ cs) (hpercent : c ≠ '%') (hletter : isLetter c = false) :
    .literal c ∈ segments := by
  induction h with
  | none => cases hc
  | percent _ ih =>
    simp only [List.mem_cons, Segment.literal.injEq, hpercent, false_or] at hc ⊢
    exact ih hc
  | code hcode _ ih =>
    simp only [List.mem_cons, List.mem_append, hpercent, reduceCtorEq, false_or] at hc ⊢
    obtain hc | hc := hc
    · rw [hcode c hc] at hletter
      cases hletter
    · exact ih hc
  | self _ ih =>
    simp only [List.mem_cons, Segment.literal.injEq] at hc ⊢
    obtain rfl | hc := hc
    · exact .inl rfl
    · exact .inr (ih hc)

end Template
end PadRelay
