import PadRelay.Proofs.Json.Integer
import PadRelay.Proofs.Json.Skip

/-!
# PadRelay.Proofs.Json.Faithful

Values are read from every text that says them, and are written as such a text.

* `Form`: which trees say a value.
* `Codec.Faithful`: what a codec does with the texts of a form.
* `text_faithful`, `flag_faithful`, `word32_faithful`, `word64_faithful`, `signed64_faithful`:
  single values.
* `optional_faithful`: values that may be absent.
-/

namespace PadRelay
namespace Json

/-- Which trees say a value. -/
abbrev Form (α : Type) : Type := α → Tree → Prop

namespace Form

def text : Form String := fun s v => v = .text (units s)

def flag : Form Bool := fun b v => v = .boolean b

def word32 : Form UInt32 := fun n v => v = .number (Codec.writeNatural n.toNat)

def word64 : Form UInt64 := fun n v => v = .number (Codec.writeNatural n.toNat)

def signed64 : Form Int64 := fun n v => v = .number (Codec.writeInteger n.toInt)

/-- What is absent is said by `null`. -/
def optional {α : Type} (form : Form α) : Form (Option α)
  | none, v => v = .null
  | some a, v => form a v

end Form

namespace Codec

variable {α : Type}

/-- A value is read from every text of a tree that says it, behind any blanks and in front of any
delimiter. What is written for it is such a text and holds no control character. -/
structure Faithful (c : Codec α) (form : Form α) : Prop where
  read : ∀ {a : α} {v : Tree} {s s' t : List Char}, form a v → Blanks s s' →
    Written (.value v) s' t → Delimited (wire t) → c.read (wire s) = .ok (a, wire t)
  write : ∀ a, ∃ v, form a v ∧ ∀ t, Written (.value v) (c.write a ++ t) t
  printable : ∀ a, ∀ d ∈ c.write a, 32 ≤ d.toNat

/-! ## Single values -/

theorem text_faithful : text.Faithful Form.text where
  read := by
    rintro a v s s' t rfl hb hv -
    cases hv with
    | text hs =>
      have hread := readString_of_spells hs []
      rw [List.append_nil, List.append_nil] at hread
      have hquote := hb.skipBlank_cons
      show readTextValue (wire s) = _
      rw [readTextValue]
      simp only [hquote, if_true, hread]
  write := by
    intro a
    refine ⟨_, rfl, fun t => ?_⟩
    show Written _ (writeText a ++ t) t
    rw [writeText, List.cons_append, List.cons_append, List.append_assoc]
    exact .text (spells_units a _)
  printable := le_of_mem_writeText

theorem flag_faithful : flag.Faithful Form.flag where
  read := by
    rintro a v s s' t rfl hb hv -
    have hskip := hb.skipBlank
    show readFlag (wire s) = _
    rw [readFlag, hskip]
    cases hv with
    | yes => rfl
    | no => rfl
  write := by
    intro a
    refine ⟨_, rfl, fun t => ?_⟩
    cases a with
    | true => exact .yes
    | false => exact .no
  printable := by
    intro a
    cases a with
    | false => exact printable_of_all (by decide)
    | true => exact printable_of_all (by decide)

/-- Whole numbers are faithful if they are written as literals that denote them. -/
theorem readAccepted_faithful {expected : String} {accept : Number → Option α} {value : α → Int}
    {least greatest : Int} (hc : Counts accept value least greatest) {write : α → List Char}
    (hplain : ∀ a, Plain (write a) (value a)) (hzero : ∀ a, write a ≠ ['-', '0']) :
    (⟨write, readAccepted expected accept, length_readAccepted_lt⟩ : Codec α).Faithful
      fun a v => v = .number (write a) where
  read := by
    intro a v s s' t hform hb hv ht
    cases hv with
    | number _ =>
      cases hform
      have hskip := hb.skipBlank
      show readAccepted expected accept (wire s) = _
      rw [readAccepted, hskip, ← readAccepted, wire_append,
        hc.readAccepted_iff (hplain a).numeral ht]
      exact ⟨rfl, hplain a, hzero a, (hc.range _).mp ⟨a, rfl⟩⟩
    | null | yes | no | text | emptyList | list | emptyObject | object => cases hform
  write := fun a => ⟨_, rfl, fun _ => .number (hplain a).numeral⟩
  printable := fun a d hd => le_of_isNumeric ((hplain a).numeral.isNumeric d hd)

theorem word32_faithful : word32.Faithful Form.word32 :=
  readAccepted_faithful word32_counts (fun n => plain_writeNatural n.toNat)
    fun n => (whole_writeNatural n.toNat).ne_cons_minus

theorem word64_faithful : word64.Faithful Form.word64 :=
  readAccepted_faithful word64_counts (fun n => plain_writeNatural n.toNat)
    fun n => (whole_writeNatural n.toNat).ne_cons_minus

theorem signed64_faithful : signed64.Faithful Form.signed64 :=
  readAccepted_faithful signed64_counts (fun n => plain_writeInteger n.toInt)
    fun n => writeInteger_ne n.toInt

/-! ## Values that may be absent -/

theorem optional_faithful {c : Codec α} {form : Form α} (h : c.Faithful form)
    (hnull : ∀ a, ¬ form a .null) : (optional c).Faithful (Form.optional form) where
  read := by
    intro a v s s' t hform hb hv ht
    show readOptional c (wire s) = _
    cases a with
    | none =>
      have hskip := hb.skipBlank
      rw [readOptional, hskip]
      cases hv with
      | null => rfl
      | yes | no | number | text | emptyList | list | emptyObject | object => cases hform
    | some a =>
      have hne : v ≠ .null := by
        rintro rfl
        exact hnull a hform
      obtain ⟨d, s'', rfl, hlt, hblank, -, hfirst⟩ := hv.value_starts
      have hskip := hb.skipBlank_cons ⟨hlt, hblank⟩
      have hread := h.read hform .none hv ht
      rw [wire_ascii hlt] at hread
      rw [readOptional]
      simp only [hskip, if_neg (hfirst hne), hread]
      rfl
  write := by
    intro a
    cases a with
    | none => exact ⟨.null, rfl, fun _ => .null⟩
    | some a => exact h.write a
  printable := by
    intro a
    cases a with
    | none =>
      have hnull : ∀ d ∈ "null".toList, 32 ≤ d.toNat := printable_of_all (by decide)
      exact hnull
    | some a => exact h.printable a

end Codec
end Json
end PadRelay
