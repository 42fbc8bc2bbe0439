import PadRelay.Json.Skip
import PadRelay.Proofs.Json.Number
import PadRelay.Proofs.Json.Spelling

/-!
# PadRelay.Proofs.Json.Skip

Values that are not asked for are passed over, to any depth.

* `Passes`: what passing over a phrase means with containers open around it.
* `Written.passes`: every phrase of the grammar is passed over, by induction on its derivation.
* `skipValue_of_written`: hence a value is, whatever it says.
* `skipValue_of_document`: so is a whole text, up to blanks.
* `not_wellFormed_of_skipValue`: what is not passed over is not well-formed.
-/

namespace PadRelay
namespace Json

/-! ## Blanks and what follows a value -/

theorem isBlank_of_mem_blanks {c : Char} (h : c ∈ blanks) :
    c.toNat < 128 ∧ isBlank (byte c) = true ∧ isDigit (byte c) = false ∧ byte c ≠ byte '.' ∧
      byte c ≠ byte 'e' ∧ byte c ≠ byte 'E' := by
  simp only [blanks, List.mem_cons, List.not_mem_nil, or_false] at h
  rcases h with rfl | rfl | rfl | rfl <;> decide

theorem Blanks.skipBlank {s t : List Char} (h : Blanks s t) :
    skipBlank (wire s) = skipBlank (wire t) := by
  induction h with
  | none => rfl
  | more hc _ ih =>
    obtain ⟨hlt, hblank, -⟩ := isBlank_of_mem_blanks hc
    rw [wire_ascii hlt, Json.skipBlank, List.dropWhile_cons_of_pos hblank]
    exact ih

theorem Blanks.skipBlank_cons {c : Char} {s t : List Char} (h : Blanks s (c :: t))
    (hc : c.toNat < 128 ∧ isBlank (byte c) = false := by decide) :
    Json.skipBlank (wire s) = byte c :: wire t := by
  rw [h.skipBlank, wire_ascii hc.1, Json.skipBlank, List.dropWhile_cons_of_neg (by simp [hc.2])]

theorem Blanks.trans {s t u : List Char} (h : Blanks s t) (h' : Blanks t u) : Blanks s u := by
  induction h with
  | none => exact h'
  | more hc _ ih => exact .more hc (ih h')

theorem delimited_wire {c : Char} (s : List Char)
    (hc : c.toNat < 128 ∧ isDigit (byte c) = false ∧ byte c ≠ byte '.' ∧ byte c ≠ byte 'e' ∧
      byte c ≠ byte 'E' := by decide) :
    Delimited (wire (c :: s)) := by
  rw [wire_ascii hc.1]
  exact delimited_cons hc.2 _

theorem Blanks.delimited {s t : List Char} (h : Blanks s t) (ht : Delimited (wire t)) :
    Delimited (wire s) := by
  cases h with
  | none => exact ht
  | more hc _ =>
    obtain ⟨hlt, -, hdelimited⟩ := isBlank_of_mem_blanks hc
    exact delimited_wire _ ⟨hlt, hdelimited⟩

/-- The first character of a value tells it from a blank, from the end of a list and, but for
`null` itself, from `null`. -/
theorem Written.value_starts {v : Tree} {s t : List Char} (h : Written (.value v) s t) :
    ∃ c s', s = c :: s' ∧ c.toNat < 128 ∧ isBlank (byte c) = false ∧ byte c ≠ byte ']' ∧
      (v ≠ .null → byte c ≠ byte 'n') := by
  cases h with
  | null => exact ⟨_, _, rfl, by decide, by decide, by decide, fun hv => absurd rfl hv⟩
  | yes => exact ⟨_, _, rfl, by decide, by decide, by decide, fun _ => by decide⟩
  | no => exact ⟨_, _, rfl, by decide, by decide, by decide, fun _ => by decide⟩
  | number hn =>
    obtain ⟨c, rest, rfl, hlt, hnumber⟩ := hn.starts
    obtain ⟨hblank, hnull, -, -, hclosing⟩ := isBlank_of_number hnumber
    exact ⟨_, _, rfl, hlt, hblank, hclosing, fun _ => hnull⟩
  | text _ => exact ⟨_, _, rfl, by decide, by decide, by decide, fun _ => by decide⟩
  | emptyList _ => exact ⟨_, _, rfl, by decide, by decide, by decide, fun _ => by decide⟩
  | list _ => exact ⟨_, _, rfl, by decide, by decide, by decide, fun _ => by decide⟩
  | emptyObject _ => exact ⟨_, _, rfl, by decide, by decide, by decide, fun _ => by decide⟩
  | object _ => exact ⟨_, _, rfl, by decide, by decide, by decide, fun _ => by decide⟩

theorem Written.elements_starts {vs : List Tree} {s t : List Char}
    (h : Written (.elements vs) s t) :
    ∃ v s' t', Blanks s s' ∧ Written (.value v) s' t' := by
  cases h with
  | lastElement he =>
    cases he with
    | element hb hv _ => exact ⟨_, _, _, hb, hv⟩
  | nextElement he _ =>
    cases he with
    | element hb hv _ => exact ⟨_, _, _, hb, hv⟩

theorem Written.members_starts {ms : List (List Nat × Tree)} {s t : List Char}
    (h : Written (.members ms) s t) : ∃ s', Blanks s ('"' :: s') := by
  cases h with
  | lastMember hm =>
    cases hm with
    | member hb _ _ _ => exact ⟨_, hb⟩
  | nextMember hm _ =>
    cases hm with
    | member hb _ _ _ => exact ⟨_, hb⟩

/-! ## The open containers -/

/-- What is left of the document, given what is open (innermost first) and has an item due. -/
def skipOpen : Result (List Container) → Except DecodeError Bytes
  | .error e => .error e
  | .ok ([], rest) => .ok rest
  | .ok (c :: outer, rest) => skipItems (c :: outer) rest

/-- What is left behind a value inside these containers. -/
def skipBehind (containers : List Container) (s : Bytes) : Except DecodeError Bytes :=
  skipOpen (closeEnded containers s)

/-- What is left behind a value that is due inside these containers. -/
def skipDue (containers : List Container) (s : Bytes) : Except DecodeError Bytes :=
  match skipStart s with
  | .error e => .error e
  | .ok (none, s) => skipBehind containers s
  | .ok (some c, s) => skipOpen (closeEmpty c containers s)

theorem skipItems_eq_skipOpen (containers : List Container) (s : Bytes) :
    skipItems containers s = skipOpen (skipItem containers s) := by
  rw [skipItems]
  split
  · next h => rw [h]; rfl
  · next h => rw [h]; rfl
  · next h => rw [h]; rfl

theorem skipItems_of_skipToValue {containers : List Container} {s s' : Bytes}
    (h : skipToValue containers s = .ok s') : skipItems containers s = skipDue containers s' := by
  rw [skipItems_eq_skipOpen, skipItem, h]
  simp only [skipDue, skipBehind]
  cases skipStart s' with
  | error e => rfl
  | ok r =>
    obtain ⟨c, rest⟩ := r
    cases c with
    | none => rfl
    | some c => rfl

theorem skipValue_eq_skipDue (s : Bytes) : skipValue s = skipDue [] s :=
  skipItems_of_skipToValue rfl

theorem skipDue_of_start {s t : Bytes} (h : skipStart s = .ok (none, t))
    (containers : List Container) : skipDue containers s = skipBehind containers t := by
  rw [skipDue, h]

theorem skipDue_of_blanks {s t : List Char} (h : Blanks s t) (containers : List Container) :
    skipDue containers (wire s) = skipDue containers (wire t) := by
  rw [skipDue, skipDue, skipStart, skipStart, h.skipBlank]

theorem skipBehind_of_blanks {s t : List Char} (h : Blanks s t) (c : Container)
    (outer : List Container) :
    skipBehind (c :: outer) (wire s) = skipBehind (c :: outer) (wire t) := by
  rw [skipBehind, skipBehind, closeEnded, closeEnded, h.skipBlank]

theorem skipBehind_comma (c : Container) (outer : List Container) (t : List Char) :
    skipBehind (c :: outer) (wire (',' :: t)) = skipItems (c :: outer) (wire t) := by
  have hblank : skipBlank (wire (',' :: t)) = byte ',' :: wire t :=
    Blanks.none.skipBlank_cons
  rw [skipBehind, closeEnded]
  simp only [hblank, if_true]
  rfl

theorem skipBehind_closing {c : Container} {s t : Bytes} (h : skipBlank s = c.closing :: t)
    (outer : List Container) : skipBehind (c :: outer) s = skipBehind outer t := by
  have hne : c.closing ≠ byte ',' := by cases c <;> decide
  rw [skipBehind, skipBehind, closeEnded]
  simp only [h, if_neg hne, if_true]

theorem closeEmpty_closing {c : Container} {s t : Bytes} (h : skipBlank s = c.closing :: t)
    (outer : List Container) : skipOpen (closeEmpty c outer s) = skipBehind outer t := by
  rw [closeEmpty, skipBehind]
  simp only [h, if_true]

theorem closeEmpty_item {c : Container} {b : UInt8} {s t : Bytes} (h : skipBlank s = b :: t)
    (hb : b ≠ c.closing) (outer : List Container) :
    skipOpen (closeEmpty c outer s) = skipItems (c :: outer) s := by
  rw [closeEmpty]
  simp only [h, if_neg hb]
  rfl

/-! ## Phrases -/

/-- Passing over a phrase: a value leads on to what stands behind it, the items of a container
to what stands behind the container. -/
def Passes : Phrase → List Char → List Char → Prop
  | .value _, s, t =>
    Delimited (wire t) → ∀ outer, skipDue outer (wire s) = skipBehind outer (wire t)
  | .element _, s, t =>
    Delimited (wire t) →
      ∀ c outer, skipDue (c :: outer) (wire s) = skipBehind (c :: outer) (wire t)
  | .elements _, s, t =>
    ∀ t', t = ']' :: t' →
      ∀ outer, skipItems (.list :: outer) (wire s) = skipBehind outer (wire t')
  | .member _ _, s, t =>
    Delimited (wire t) →
      ∀ outer, skipItems (.object :: outer) (wire s) = skipBehind (.object :: outer) (wire t)
  | .members _, s, t =>
    ∀ t', t = '\x7d' :: t' →
      ∀ outer, skipItems (.object :: outer) (wire s) = skipBehind outer (wire t')

theorem skipStart_of_number {n t : List Char} (hn : Numeral n) (ht : Delimited (wire t)) :
    skipStart (wire (n ++ t)) = .ok (none, wire t) := by
  obtain ⟨l, hl⟩ := readLiteral_of_numeral hn ht .invalidNumber
  obtain ⟨c, rest, rfl, hlt, hnumber⟩ := hn.starts
  obtain ⟨hblank, hnull, hyes, hno, -⟩ := isBlank_of_number hnumber
  rw [← wire_append, List.cons_append, wire_ascii hlt] at hl
  have hskip : skipBlank (wire (c :: rest ++ t)) = byte c :: wire (rest ++ t) :=
    Blanks.none.skipBlank_cons ⟨hlt, hblank⟩
  rw [skipStart]
  simp only [hskip, if_neg hnull, if_neg hyes, if_neg hno, if_pos hnumber, hl]
  rfl

theorem skipStart_of_text {us : List Nat} {s t : List Char} (h : Spells us s ('"' :: t)) :
    skipStart (wire ('"' :: s)) = .ok (none, wire t) := by
  have hskip : skipBlank (wire ('"' :: s)) = byte '"' :: wire s :=
    Blanks.none.skipBlank_cons
  rw [skipStart]
  simp only [hskip, skipText_of_spells h]
  rfl

theorem skipName_of_spells {us : List Nat} {s s' t' u : List Char} (hs : Blanks s ('"' :: s'))
    (h : Spells us s' ('"' :: t')) (hu : Blanks t' (':' :: u)) :
    skipName (wire s) = .ok (wire u) := by
  have hquote : skipBlank (wire s) = byte '"' :: wire s' :=
    hs.skipBlank_cons
  have hcolon : skipBlank (wire t') = byte ':' :: wire u :=
    hu.skipBlank_cons
  rw [skipName]
  simp only [hquote, if_true, skipText_of_spells h, readColon, hcolon]

theorem skipDue_object {s s' : List Char} (hb : Blanks s ('"' :: s')) (outer : List Container) :
    skipDue outer (wire ('\x7b' :: s)) = skipItems (.object :: outer) (wire s) :=
  closeEmpty_item (c := .object) hb.skipBlank_cons (by decide) outer

theorem skipDue_of_skipText {s : List Char} {e : DecodeError} (h : skipText (wire s) = .error e)
    (containers : List Container) : skipDue containers (wire ('"' :: s)) = .error e := by
  have hskip : skipBlank (wire ('"' :: s)) = byte '"' :: wire s :=
    Blanks.none.skipBlank_cons
  have hstart : skipStart (wire ('"' :: s)) = .error e := by
    rw [skipStart]
    simp only [hskip, h]
    rfl
  rw [skipDue, hstart]

theorem skipItems_member {us : List Nat} {s s' t' u : List Char} (hs : Blanks s ('"' :: s'))
    (h : Spells us s' ('"' :: t')) (hu : Blanks t' (':' :: u)) (outer : List Container) :
    skipItems (.object :: outer) (wire s) = skipDue (.object :: outer) (wire u) := by
  have hname : skipToValue (.object :: outer) (wire s) = .ok (wire u) := skipName_of_spells hs h hu
  exact skipItems_of_skipToValue hname

/-- Every phrase is passed over. -/
theorem Written.passes {p : Phrase} {s t : List Char} (h : Written p s t) : Passes p s t := by
  induction h with
  | null => exact fun _ outer => skipDue_of_start rfl outer
  | yes => exact fun _ outer => skipDue_of_start rfl outer
  | no => exact fun _ outer => skipDue_of_start rfl outer
  | number hn => exact fun ht outer => skipDue_of_start (skipStart_of_number hn ht) outer
  | text hs => exact fun _ outer => skipDue_of_start (skipStart_of_text hs) outer
  | emptyList hb =>
    intro _ outer
    exact closeEmpty_closing hb.skipBlank_cons outer
  | emptyObject hb =>
    intro _ outer
    exact closeEmpty_closing hb.skipBlank_cons outer
  | list hvs ih =>
    intro _ outer
    obtain ⟨v, s', t', hb, hv⟩ := hvs.elements_starts
    obtain ⟨c, s'', rfl, hlt, hblank, hclosing, -⟩ := hv.value_starts
    rw [← ih _ rfl outer]
    exact closeEmpty_item (c := .list) (hb.skipBlank_cons ⟨hlt, hblank⟩) hclosing outer
  | object hms ih =>
    intro _ outer
    obtain ⟨s', hb⟩ := hms.members_starts
    rw [← ih _ rfl outer]
    exact skipDue_object hb outer
  | element hb _ hb' ih =>
    intro ht c outer
    rw [skipDue_of_blanks hb, ih (hb'.delimited ht), skipBehind_of_blanks hb']
  | lastElement _ ih =>
    rintro t' rfl outer
    rw [skipItems_of_skipToValue rfl, ih (delimited_wire _),
      skipBehind_closing Blanks.none.skipBlank_cons]
  | nextElement _ _ ih ih' =>
    rintro t' rfl outer
    rw [skipItems_of_skipToValue rfl, ih (delimited_wire _), skipBehind_comma, ih' _ rfl]
  | member hb hn hc _ ih =>
    intro ht outer
    rw [skipItems_member hb hn hc, ih ht .object outer]
  | lastMember _ ih =>
    rintro t' rfl outer
    rw [ih (delimited_wire _), skipBehind_closing Blanks.none.skipBlank_cons]
  | nextMember _ _ ih ih' =>
    rintro t' rfl outer
    rw [ih (delimited_wire _), skipBehind_comma, ih' _ rfl]

/-- A value is passed over whatever it says. -/
theorem skipValue_of_written {v : Tree} {s s' t : List Char} (hs : Blanks s s')
    (h : Written (.value v) s' t) (ht : Delimited (wire t)) :
    skipValue (wire s) = .ok (wire t) := by
  rw [skipValue, skipItems_of_skipToValue rfl, skipDue_of_blanks hs, h.passes ht]
  rfl

theorem delimited_nil : Delimited (wire []) := by
  intro b hb
  cases hb

/-- Behind the value of a whole text only blanks are left. -/
theorem skipValue_of_document {v : Tree} {doc : List Char} (h : Document v doc) :
    ∃ rest, skipValue (wire doc) = .ok rest ∧ skipBlank rest = [] := by
  cases h with
  | element hb hv hb' =>
    exact ⟨_, skipValue_of_written hb hv (hb'.delimited delimited_nil), hb'.skipBlank⟩

/-- A text that cannot be passed over as one value says nothing. -/
theorem not_wellFormed_of_skipValue {doc : List Char} {e : DecodeError}
    (h : skipValue (wire doc) = .error e) : ¬ WellFormed doc := by
  rintro ⟨v, hdoc⟩
  obtain ⟨rest, hskip, -⟩ := skipValue_of_document hdoc
  rw [hskip] at h
  cases h

end Json
end PadRelay
