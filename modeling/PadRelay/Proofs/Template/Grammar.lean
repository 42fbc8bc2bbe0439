import Mathlib.Data.List.Basic
import PadRelay.Template

/-!
# PadRelay.Proofs.Template.Grammar

The grammar of templates, and the scan that reads by it.

* `letterCodes`, `pairCodes`: the codes of the fields; `IsCode`: a code as it is written for one of
  the two events.
* `codes_in_front`: what can stand behind a percent sign.
* `Segmented`: a template taken apart by the grammar, one rule for each kind of segment.
* `segmented_iff_scan`: the scan finds the one way to do so, rule by rule.
* `resolve_eq_segments`: what a template resolves to, segment by segment.
-/

namespace PadRelay
namespace Template

/-! ## Codes -/

def letterCodes : List (String × Field) :=
  [("a", .artist), ("b", .label), ("c", .client), ("e", .agency), ("g", .groupName),
    ("h", .length), ("i", .description), ("j", .cutNumber), ("l", .album), ("m", .composer),
    ("n", .cartNumber), ("o", .outcue), ("p", .publisher), ("r", .conductor), ("s", .songId),
    ("t", .title), ("u", .userDefined), ("x", .externalEventId), ("y", .year)]

def pairCodes : List (String × Field) :=
  [("wi", .isrc), ("wc", .isci), ("wm", .recordingMbId), ("wr", .releaseMbId)]

/-- How a code is written: in lowercase for the event playing now, in uppercase for the next. -/
def spell : Slot → String → List Char
  | .now, code => code.toList
  | .next, code => code.toList.map Char.toUpper

/-- A text is a code of the table, written for the slot. -/
def IsCode (table : List (String × Field)) (text : List Char) (field : Field) (slot : Slot) :
    Prop :=
  ∃ code, (code, field) ∈ table ∧ text = spell slot code

/-- No code of the table stands in front of the text. -/
def NoCode (table : List (String × Field)) (cs : List Char) : Prop :=
  ∀ code field slot, IsCode table code field slot → ¬ code <+: cs

theorem toUpper_small {c : Char} (h : isCapital c = true) : (small c).toUpper = c := by
  have hall : ∀ n < 91, 65 ≤ n → (small (Char.ofNat n)).toUpper = Char.ofNat n := by decide
  simp only [isCapital, Bool.and_eq_true, decide_eq_true_eq] at h
  have hfirst : 65 ≤ c.toNat := h.1
  have hlast : c.toNat ≤ 90 := h.2
  have hc := hall c.toNat (by omega) hfirst
  rwa [Char.ofNat_toNat] at hc

/-- The letters of codes are small ones, each with its capital. -/
theorem small_toUpper_of_mem {code : String} {field : Field}
    (h : (code, field) ∈ letterCodes ++ pairCodes) :
    ∀ c ∈ code.toList,
      isCapital c = false ∧ isCapital c.toUpper = true ∧ small c.toUpper = c := by
  have hall : ∀ e ∈ letterCodes ++ pairCodes, e.1.toList.all fun c =>
      decide (isCapital c = false ∧ isCapital c.toUpper = true ∧ small c.toUpper = c) := by decide
  intro c hc
  exact of_decide_eq_true (List.all_eq_true.mp (hall _ h) c hc)

section

variable {table : List (String × Field)} {text : List Char} {field : Field}

theorem isCode_now_iff :
    IsCode table text field .now ↔ (String.ofList text, field) ∈ table := by
  constructor
  · rintro ⟨code, hcode, rfl⟩
    rwa [spell, String.ofList_toList]
  · intro h
    exact ⟨_, h, by rw [spell, String.toList_ofList]⟩

theorem isCode_next_iff (htable : table ⊆ letterCodes ++ pairCodes) :
    IsCode table text field .next ↔
      (∀ c ∈ text, isCapital c = true) ∧ (String.ofList (text.map small), field) ∈ table := by
  constructor
  · rintro ⟨code, hcode, rfl⟩
    have hcase := small_toUpper_of_mem (htable hcode)
    have hback : (spell .next code).map small = code.toList := by
      rw [spell, List.map_map]
      exact (List.map_congr_left fun c hc => (hcase c hc).2.2).trans (List.map_id _)
    rw [hback, String.ofList_toList]
    refine ⟨fun c hc => ?_, hcode⟩
    obtain ⟨d, hd, rfl⟩ := List.mem_map.mp hc
    exact (hcase d hd).2.1
  · rintro ⟨hcapital, h⟩
    refine ⟨_, h, ?_⟩
    rw [spell, String.toList_ofList, List.map_map]
    exact (List.map_id _).symm.trans
      (List.map_congr_left fun c hc => (toUpper_small (hcapital c hc)).symm)

end

theorem ofCode?_of_mem {code : String} {field : Field}
    (h : (code, field) ∈ letterCodes ++ pairCodes) : Field.ofCode? code = some field := by
  have hall : ∀ e ∈ letterCodes ++ pairCodes, Field.ofCode? e.1 = some e.2 := by decide
  exact hall _ h

theorem ofLetter?_eq_some_iff {a : Char} {field : Field} :
    Field.ofLetter? a = some field ↔ (String.ofList [a], field) ∈ letterCodes := by
  constructor
  · intro h
    unfold Field.ofLetter? at h
    split at h <;> cases h <;> decide
  · intro h
    have hcode := ofCode?_of_mem (List.mem_append_left _ h)
    rwa [Field.ofCode?, String.toList_ofList] at hcode

theorem ofPair?_eq_some_iff {a b : Char} {field : Field} :
    Field.ofPair? a b = some field ↔ (String.ofList [a, b], field) ∈ pairCodes := by
  constructor
  · intro h
    unfold Field.ofPair? at h
    split at h <;> cases h <;> decide
  · intro h
    have hcode := ofCode?_of_mem (List.mem_append_right _ h)
    rwa [Field.ofCode?, String.toList_ofList] at hcode

/-- What is looked up in lowercase where all is in capitals, and else as it is written, is a code
written for the next event or for the one playing now. -/
theorem lookup_eq_some_iff_isCode {table : List (String × Field)}
    (htable : table ⊆ letterCodes ++ pairCodes) {text : List Char} (hne : text ≠ [])
    {inSmall asWritten : Option Field} {w : Segment}
    (hsmall : ∀ field,
      inSmall = some field ↔ (String.ofList (text.map small), field) ∈ table)
    (hwritten : ∀ field, asWritten = some field ↔ (String.ofList text, field) ∈ table) :
    (if text.all isCapital then inSmall.map (Segment.wildcard · .next)
      else asWritten.map (Segment.wildcard · .now)) = some w ↔
      ∃ field slot, IsCode table text field slot ∧ w = .wildcard field slot := by
  constructor
  · intro h
    split at h
    · next hcapital =>
      obtain ⟨field, hfield, rfl⟩ := Option.map_eq_some_iff.mp h
      have hcode := (isCode_next_iff htable).mpr
        ⟨List.all_eq_true.mp hcapital, (hsmall field).mp hfield⟩
      exact ⟨field, .next, hcode, rfl⟩
    · obtain ⟨field, hfield, rfl⟩ := Option.map_eq_some_iff.mp h
      exact ⟨field, .now, isCode_now_iff.mpr ((hwritten field).mp hfield), rfl⟩
  · rintro ⟨field, slot, hcode, rfl⟩
    cases slot with
    | now =>
      have hmem := isCode_now_iff.mp hcode
      obtain ⟨c, rest, rfl⟩ := List.exists_cons_of_ne_nil hne
      have hcase := small_toUpper_of_mem (htable hmem) c (by simp)
      rw [List.all_cons, hcase.1, Bool.false_and, if_neg Bool.false_ne_true,
        (hwritten field).mpr hmem]
      rfl
    | next =>
      obtain ⟨hcapital, hmem⟩ := (isCode_next_iff htable).mp hcode
      rw [if_pos (List.all_eq_true.mpr hcapital), (hsmall field).mpr hmem]
      rfl

/-- A letter is a code exactly if it is read as a wildcard. -/
theorem letter?_eq_some_iff {a : Char} {w : Segment} :
    letter? a = some w ↔
      ∃ field slot, IsCode letterCodes [a] field slot ∧ w = .wildcard field slot := by
  rw [← lookup_eq_some_iff_isCode (List.subset_append_left _ _) (List.cons_ne_nil a [])
    (fun _ => ofLetter?_eq_some_iff) (fun _ => ofLetter?_eq_some_iff), letter?, List.all_cons,
    List.all_nil, Bool.and_true]

/-- So are two letters. -/
theorem pair?_eq_some_iff {a b : Char} {w : Segment} :
    pair? a b = some w ↔
      ∃ field slot, IsCode pairCodes [a, b] field slot ∧ w = .wildcard field slot := by
  rw [← lookup_eq_some_iff_isCode (List.subset_append_right _ _) (List.cons_ne_nil a [b])
    (fun _ => ofPair?_eq_some_iff) (fun _ => ofPair?_eq_some_iff), pair?, List.all_cons,
    List.all_cons, List.all_nil, Bool.and_true]

/-! ## Wildcards -/

theorem length_spell (slot : Slot) (code : String) :
    (spell slot code).length = code.toList.length := by
  cases slot with
  | now => rfl
  | next => exact List.length_map ..

theorem IsCode.eq_singleton {text : List Char} {field : Field} {slot : Slot}
    (h : IsCode letterCodes text field slot) : ∃ a, text = [a] := by
  have hall : ∀ e ∈ letterCodes, e.1.toList.length = 1 := by decide
  obtain ⟨code, hcode, rfl⟩ := h
  rw [← List.length_eq_one_iff, length_spell]
  exact hall _ hcode

theorem IsCode.eq_pair {text : List Char} {field : Field} {slot : Slot}
    (h : IsCode pairCodes text field slot) : ∃ a b, text = [a, b] := by
  have hall : ∀ e ∈ pairCodes, e.1.toList.length = 2 := by decide
  obtain ⟨code, hcode, rfl⟩ := h
  rw [← List.length_eq_two, length_spell]
  exact hall _ hcode

theorem noCode_letterCodes_iff {cs : List Char} :
    NoCode letterCodes cs ↔ ∀ a rest, cs = a :: rest → letter? a = none := by
  constructor
  · rintro h a rest rfl
    rw [Option.eq_none_iff_forall_ne_some]
    intro w hw
    obtain ⟨field, slot, hcode, -⟩ := letter?_eq_some_iff.mp hw
    exact h _ _ _ hcode ⟨rest, rfl⟩
  · rintro h code field slot hcode ⟨rest, rfl⟩
    obtain ⟨a, rfl⟩ := hcode.eq_singleton
    have hsome := letter?_eq_some_iff.mpr ⟨field, slot, hcode, rfl⟩
    rw [h a rest rfl] at hsome
    cases hsome

theorem noCode_pairCodes_iff {cs : List Char} :
    NoCode pairCodes cs ↔ ∀ a b rest, cs = a :: b :: rest → pair? a b = none := by
  constructor
  · rintro h a b rest rfl
    rw [Option.eq_none_iff_forall_ne_some]
    intro w hw
    obtain ⟨field, slot, hcode, -⟩ := pair?_eq_some_iff.mp hw
    exact h _ _ _ hcode ⟨rest, rfl⟩
  · rintro h code field slot hcode ⟨rest, rfl⟩
    obtain ⟨a, b, rfl⟩ := hcode.eq_pair
    have hsome := pair?_eq_some_iff.mpr ⟨field, slot, hcode, rfl⟩
    rw [h a b rest rfl] at hsome
    cases hsome

/-- A code of two letters in front of the text is taken off. -/
theorem wildcard?_of_pair {code : List Char} {field : Field} {slot : Slot}
    (h : IsCode pairCodes code field slot) (rest : List Char) :
    wildcard? (code ++ rest) = some (.wildcard field slot, rest) := by
  obtain ⟨a, b, rfl⟩ := h.eq_pair
  have hpair := pair?_eq_some_iff.mpr ⟨field, slot, h, rfl⟩
  simp only [List.cons_append, List.nil_append, wildcard?, hpair]

/-- So is one of one letter, if there is none of two. -/
theorem wildcard?_of_letter {code rest : List Char} {field : Field} {slot : Slot}
    (h : IsCode letterCodes code field slot) (hpair : NoCode pairCodes (code ++ rest)) :
    wildcard? (code ++ rest) = some (.wildcard field slot, rest) := by
  obtain ⟨a, rfl⟩ := h.eq_singleton
  have hletter := letter?_eq_some_iff.mpr ⟨field, slot, h, rfl⟩
  cases rest with
  | nil => simp only [List.append_nil, wildcard?, hletter, Option.map_some]
  | cons b rest =>
    have hnone : pair? a b = none := noCode_pairCodes_iff.mp hpair a b rest rfl
    simp only [List.cons_append, List.nil_append, wildcard?, hnone, hletter, Option.map_some]

theorem wildcard?_of_noCode {cs : List Char} (hpair : NoCode pairCodes cs)
    (hletter : NoCode letterCodes cs) : wildcard? cs = none := by
  match cs with
  | [] => rfl
  | [a] =>
    have hnone := noCode_letterCodes_iff.mp hletter a [] rfl
    simp only [wildcard?, hnone, Option.map_none]
  | a :: b :: rest =>
    have hfirst := noCode_pairCodes_iff.mp hpair a b rest rfl
    have hsecond := noCode_letterCodes_iff.mp hletter a (b :: rest) rfl
    simp only [wildcard?, hfirst, hsecond, Option.map_none]

/-- What is in front of a text: a code of two letters, else one of one letter, else none. -/
theorem codes_in_front (cs : List Char) :
    (∃ code field slot rest, cs = code ++ rest ∧ IsCode pairCodes code field slot) ∨
      (∃ code field slot rest, cs = code ++ rest ∧ IsCode letterCodes code field slot ∧
        NoCode pairCodes cs) ∨
      NoCode pairCodes cs ∧ NoCode letterCodes cs := by
  by_cases hpair : NoCode pairCodes cs
  · by_cases hletter : NoCode letterCodes cs
    · exact .inr (.inr ⟨hpair, hletter⟩)
    · simp only [NoCode, not_forall, not_not] at hletter
      obtain ⟨code, field, slot, hcode, rest, rfl⟩ := hletter
      exact .inr (.inl ⟨code, field, slot, rest, rfl, hcode, hpair⟩)
  · simp only [NoCode, not_forall, not_not] at hpair
    obtain ⟨code, field, slot, hcode, rest, rfl⟩ := hpair
    exact .inl ⟨code, field, slot, rest, rfl, hcode⟩

/-! ## Segments -/

/-- A template taken apart. Two percent signs stand for one, and one with a code behind it for a
field, where a code of two letters goes before one of one letter. Any other percent sign and any
other character stand for themselves. -/
inductive Segmented : List Char → List Segment → Prop where
  | nil : Segmented [] []
  | percent {cs : List Char} {segments : List Segment} :
      Segmented cs segments → Segmented ('%' :: '%' :: cs) (.literal '%' :: segments)
  | pair {code cs : List Char} {field : Field} {slot : Slot} {segments : List Segment} :
      IsCode pairCodes code field slot → Segmented cs segments →
        Segmented ('%' :: (code ++ cs)) (.wildcard field slot :: segments)
  | letter {code cs : List Char} {field : Field} {slot : Slot} {segments : List Segment} :
      IsCode letterCodes code field slot → NoCode pairCodes (code ++ cs) → Segmented cs segments →
        Segmented ('%' :: (code ++ cs)) (.wildcard field slot :: segments)
  | loose {cs : List Char} {segments : List Segment} :
      cs.head? ≠ some '%' → NoCode pairCodes cs → NoCode letterCodes cs → Segmented cs segments →
        Segmented ('%' :: cs) (.literal '%' :: segments)
  | other {c : Char} {cs : List Char} {segments : List Segment} :
      c ≠ '%' → Segmented cs segments → Segmented (c :: cs) (.literal c :: segments)

/-- No percent sign starts a code, so it is not mistaken for the second one of two. -/
theorem IsCode.head?_append {table : List (String × Field)} {code : List Char} {field : Field}
    {slot : Slot} (htable : table ⊆ letterCodes ++ pairCodes) (h : IsCode table code field slot)
    (hne : code ≠ []) (cs : List Char) : (code ++ cs).head? ≠ some '%' := by
  have hletter : ∀ c ∈ code, c ≠ '%' := by
    obtain ⟨text, htext, rfl⟩ := h
    have hcase := small_toUpper_of_mem (htable htext)
    cases slot with
    | now =>
      rintro c hc rfl
      exact absurd (hcase _ hc).2.1 (by decide)
    | next =>
      rintro c hc rfl
      obtain ⟨d, hd, heq⟩ := List.mem_map.mp hc
      exact absurd (heq ▸ (hcase d hd).2.1) (by decide)
  obtain ⟨c, rest, rfl⟩ := List.exists_cons_of_ne_nil hne
  simpa using hletter c List.mem_cons_self

theorem scanFrom_wildcard {done : List Segment} {cs rest : List Char} {w : Segment}
    (hhead : cs.head? ≠ some '%') (h : wildcard? cs = some (w, rest)) :
    scanFrom done ('%' :: cs) = scanFrom (w :: done) rest := by
  rw [scanFrom, if_pos rfl, if_neg hhead]
  split
  · next hw =>
    rw [h] at hw
    cases hw
    rfl
  · next hw =>
    rw [h] at hw
    cases hw

theorem scanFrom_loose {done : List Segment} {cs : List Char} (hhead : cs.head? ≠ some '%')
    (h : wildcard? cs = none) :
    scanFrom done ('%' :: cs) = scanFrom (.literal '%' :: done) cs := by
  rw [scanFrom, if_pos rfl, if_neg hhead]
  split
  · next hw =>
    rw [h] at hw
    cases hw
  · rfl

/-- The scan finds the segments of the grammar behind those done so far. -/
theorem Segmented.scanFrom_eq {cs : List Char} {segments : List Segment}
    (h : Segmented cs segments) (done : List Segment) :
    scanFrom done cs = done.reverse ++ segments := by
  -- on the grammar; each rule is one turn of the scan
  induction h generalizing done with
  | nil => rw [scanFrom, List.append_nil]
  | percent _ ih =>
    rw [scanFrom, if_pos rfl, if_pos List.head?_cons, List.tail_cons, ih, List.reverse_cons,
      List.append_assoc]
    rfl
  | @pair code cs field slot segments hcode _ ih =>
    obtain ⟨a, b, hab⟩ := hcode.eq_pair
    have hhead := hcode.head?_append (List.subset_append_right _ _) (by simp [hab]) cs
    rw [scanFrom_wildcard hhead (wildcard?_of_pair hcode cs), ih, List.reverse_cons,
      List.append_assoc]
    rfl
  | @letter code cs field slot segments hcode hpair _ ih =>
    obtain ⟨a, ha⟩ := hcode.eq_singleton
    have hhead := hcode.head?_append (List.subset_append_left _ _) (by simp [ha]) cs
    rw [scanFrom_wildcard hhead (wildcard?_of_letter hcode hpair), ih, List.reverse_cons,
      List.append_assoc]
    rfl
  | loose hhead hpair hletter _ ih =>
    rw [scanFrom_loose hhead (wildcard?_of_noCode hpair hletter), ih, List.reverse_cons,
      List.append_assoc]
    rfl
  | other hne _ ih =>
    rw [scanFrom, if_neg hne, ih, List.reverse_cons, List.append_assoc]
    rfl

/-- Every template can be taken apart. -/
theorem exists_segmented (cs : List Char) : ∃ segments, Segmented cs segments := by
  -- on the length, since a code takes more than one character off
  induction hlength : cs.length using Nat.strongRecOn generalizing cs with
  | ind n ih =>
    cases cs with
    | nil => exact ⟨[], .nil⟩
    | cons c rest =>
      have hsuffix : ∀ cs, cs <:+ rest → ∃ segments, Segmented cs segments := by
        intro cs hcs
        have hle := hcs.length_le
        rw [List.length_cons] at hlength
        exact ih cs.length (by omega) cs rfl
      obtain ⟨segments, hrest⟩ := hsuffix rest List.suffix_rfl
      by_cases hpercent : c = '%'
      · subst hpercent
        by_cases hhead : rest.head? = some '%'
        · obtain ⟨cs, rfl⟩ := List.head?_eq_some_iff.mp hhead
          obtain ⟨segments, hcs⟩ := hsuffix cs (List.suffix_cons _ _)
          exact ⟨_, .percent hcs⟩
        · rcases codes_in_front rest with ⟨code, field, slot, cs, rfl, hcode⟩ |
            ⟨code, field, slot, cs, rfl, hcode, hpair⟩ | ⟨hpair, hletter⟩
          · obtain ⟨segments, hcs⟩ := hsuffix cs (List.suffix_append _ _)
            exact ⟨_, .pair hcode hcs⟩
          · obtain ⟨segments, hcs⟩ := hsuffix cs (List.suffix_append _ _)
            exact ⟨_, .letter hcode hpair hcs⟩
          · exact ⟨_, .loose hhead hpair hletter hrest⟩
      · exact ⟨_, .other hpercent hrest⟩

/-- The scan finds the one way to take a template apart. -/
theorem segmented_iff_scan {cs : List Char} {segments : List Segment} :
    Segmented cs segments ↔ scan cs = segments := by
  have hscan : ∀ {found : List Segment}, Segmented cs found → scan cs = found :=
    fun h => h.scanFrom_eq []
  refine ⟨hscan, ?_⟩
  rintro rfl
  obtain ⟨found, hfound⟩ := exists_segmented cs
  rwa [hscan hfound]

/-- A code of one letter alone. -/
theorem scan_of_letter {code : List Char} {field : Field} {slot : Slot}
    (h : IsCode letterCodes code field slot) : scan ('%' :: code) = [.wildcard field slot] := by
  have hpair : NoCode pairCodes (code ++ []) := by
    obtain ⟨a, rfl⟩ := h.eq_singleton
    exact noCode_pairCodes_iff.mpr nofun
  have hsegmented := Segmented.letter h hpair .nil
  rw [List.append_nil] at hsegmented
  exact segmented_iff_scan.mp hsegmented

/-- **A template resolves to its segments, one after the other.** How it is taken apart is decided
by the template alone, in one way for all events and escapes. A literal stands as it is, and a
wildcard for the escaped value of its field, which stands in the text as it comes and is read no
more, or for nothing if there is no such event. -/
theorem resolve_eq_segments (template : String) :
    ∃ segments, (∀ found, Segmented template.toList found ↔ found = segments) ∧
      ∀ now next escape, (resolve template now next escape).toList = segments.flatMap fun
        | .literal c => [c]
        | .wildcard field slot =>
          match (match slot with | .now => now | .next => next) with
          | some event => (escape.apply (field.value event)).toList
          | none => [] := by
  refine ⟨scan template.toList, fun found => ?_, fun now next escape => ?_⟩
  · rw [segmented_iff_scan, eq_comm]
  · rw [resolve, String.toList_ofList, render]
    refine List.flatMap_congr fun segment _ => ?_
    cases segment with
    | literal c => rfl
    | wildcard field slot => cases slot <;> rfl

/-- A pair goes before a letter, letters of two cases are none, and a percent sign in front of no
code stands for itself. What comes out of a title is not resolved. -/
example :
    resolve "%wi%Wi%aB%%t%é%T%" none (some { Pad.Event.blank with title := some "%a" }) .none =
      "%WiB%t%é%a%" := by
  decide +kernel

end Template
end PadRelay
