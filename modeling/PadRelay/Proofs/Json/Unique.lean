import PadRelay.Proofs.Json.Skip

/-!
# PadRelay.Proofs.Json.Unique

A text says one thing.

* `Spells.unique`: what stands up to the next quote spells one sequence of code units.
* `Numeral.unique`: a number ends where its characters end.
* `Written.unique`: the grammar derives one phrase of a kind, by induction on the derivation.
* `Document.unique`: hence a whole text says one thing.
-/

namespace PadRelay
namespace Json

/-! ## Blanks -/

def NoBlank (t : List Char) : Prop := ∀ c ∈ t.head?, c ∉ blanks

theorem noBlank_cons {c : Char} (t : List Char) (h : c ∉ blanks := by decide) :
    NoBlank (c :: t) := by
  rintro _ ⟨⟩
  exact h

theorem Blanks.unique {s t t' : List Char} (h : Blanks s t) (h' : Blanks s t') (ht : NoBlank t)
    (ht' : NoBlank t') : t = t' := by
  induction h with
  | none =>
    cases h' with
    | none => rfl
    | more hc _ => exact absurd hc (ht _ rfl)
  | more hc _ ih =>
    cases h' with
    | none => exact absurd hc (ht' _ rfl)
    | more _ h' => exact ih h' ht

theorem Written.value_noBlank {v : Tree} {s t : List Char} (h : Written (.value v) s t) :
    NoBlank s := by
  obtain ⟨c, s', rfl, -, hblank, -⟩ := h.value_starts
  refine noBlank_cons s' (fun hc => ?_)
  rw [(isBlank_of_mem_blanks hc).2.1] at hblank
  cases hblank

/-! ## Strings -/

theorem Spells.unique {us us' : List Nat} {s t t' : List Char} (h : Spells us s ('"' :: t))
    (h' : Spells us' s ('"' :: t')) : us = us' ∧ t = t' := by
  generalize hu : '"' :: t = u at h
  induction h generalizing us' with
  | done =>
    subst hu
    cases h' with
    | done => exact ⟨rfl, rfl⟩
    | plain hc _ => exact absurd hc (by decide)
  | plain hc _ ih =>
    cases h' with
    | done => exact absurd hc (by decide)
    | plain _ h' =>
      obtain ⟨rfl, ht⟩ := ih h' hu
      exact ⟨rfl, ht⟩
    | letter _ _ => exact absurd hc (by decide)
    | hex _ _ => exact absurd hc (by decide)
  | letter hl _ ih =>
    cases h' with
    | plain hc _ => exact absurd hc (by decide)
    | letter hl' h' =>
      obtain rfl := Option.some.inj (hl.symm.trans hl')
      obtain ⟨rfl, ht⟩ := ih h' hu
      exact ⟨rfl, ht⟩
    | hex _ _ => cases hl
  | hex hx _ ih =>
    cases h' with
    | plain hc _ => exact absurd hc (by decide)
    | letter hl _ => cases hl
    | hex hx' h' =>
      obtain rfl := Option.some.inj (hx.symm.trans hx')
      obtain ⟨rfl, ht⟩ := ih h' hu
      exact ⟨rfl, ht⟩

/-! ## Numbers -/

def NoNumeric (t : List Char) : Prop := ∀ c ∈ t.head?, isNumeric c = false

theorem noNumeric_cons {c : Char} (t : List Char) (h : isNumeric c = false := by decide) :
    NoNumeric (c :: t) := by
  rintro _ ⟨⟩
  exact h

theorem Blanks.noNumeric {s t : List Char} (h : Blanks s t) (ht : NoNumeric t) : NoNumeric s := by
  cases h with
  | none => exact ht
  | more hc _ =>
    refine noNumeric_cons _ ?_
    simp only [blanks, List.mem_cons, List.not_mem_nil, or_false] at hc
    rcases hc with rfl | rfl | rfl | rfl <;> rfl

theorem takeWhile_isNumeric {n t : List Char} (hn : Numeral n) (ht : NoNumeric t) :
    (n ++ t).takeWhile isNumeric = n := by
  rw [List.takeWhile_append_of_pos hn.isNumeric]
  cases t with
  | nil => simp
  | cons c t => simp [ht c rfl]

theorem Numeral.unique {n n' t t' : List Char} (hn : Numeral n) (hn' : Numeral n')
    (ht : NoNumeric t) (ht' : NoNumeric t') (h : n ++ t = n' ++ t') : n = n' ∧ t = t' := by
  have hsame : n = n' := by
    rw [← takeWhile_isNumeric hn ht, h, takeWhile_isNumeric hn' ht']
  subst hsame
  exact ⟨rfl, List.append_cancel_left h⟩

/-- An item ends here: neither a blank nor a character of a number stands in front. -/
def Ends (t : List Char) : Prop := NoNumeric t ∧ NoBlank t

theorem ends_cons {c : Char} (t : List Char)
    (h : isNumeric c = false ∧ c ∉ blanks := by decide) : Ends (c :: t) :=
  ⟨noNumeric_cons t h.1, noBlank_cons t h.2⟩

theorem ends_nil : Ends [] := by
  constructor <;> rintro _ ⟨⟩

/-! ## Values -/

/-- What value stands up to `t` in a text, told from its first character. -/
def Stands (v : Tree) (t : List Char) : List Char → Prop
  | 'n' :: s => v = .null ∧ s = 'u' :: 'l' :: 'l' :: t
  | 't' :: s => v = .boolean true ∧ s = 'r' :: 'u' :: 'e' :: t
  | 'f' :: s => v = .boolean false ∧ s = 'a' :: 'l' :: 's' :: 'e' :: t
  | '"' :: s => ∃ us, v = .text us ∧ Spells us s ('"' :: t)
  | '[' :: s =>
    v = .list [] ∧ Blanks s (']' :: t) ∨ ∃ vs, v = .list vs ∧ Written (.elements vs) s (']' :: t)
  | '\x7b' :: s =>
    v = .object [] ∧ Blanks s ('\x7d' :: t) ∨
      ∃ ms, v = .object ms ∧ Written (.members ms) s ('\x7d' :: t)
  | s => ∃ n, v = .number n ∧ Numeral n ∧ s = n ++ t

theorem stands_number {n : List Char} (hn : Numeral n) (v : Tree) (u t : List Char) :
    Stands v t (n ++ u) ↔ ∃ m, v = .number m ∧ Numeral m ∧ n ++ u = m ++ t := by
  obtain ⟨c, rest, rfl, -, hnumber⟩ := hn.starts
  have hother : ∀ d : Char, ¬ (byte d = byte '-' ∨ isDigit (byte d) = true) → c ≠ d := by
    rintro d hd rfl
    exact hd hnumber
  rw [List.cons_append]
  unfold Stands
  split
  · next heq => exact absurd (List.cons.inj heq).1 (hother _ (by decide))
  · next heq => exact absurd (List.cons.inj heq).1 (hother _ (by decide))
  · next heq => exact absurd (List.cons.inj heq).1 (hother _ (by decide))
  · next heq => exact absurd (List.cons.inj heq).1 (hother _ (by decide))
  · next heq => exact absurd (List.cons.inj heq).1 (hother _ (by decide))
  · next heq => exact absurd (List.cons.inj heq).1 (hother _ (by decide))
  · rfl

theorem Written.stands {v : Tree} {s t : List Char} (h : Written (.value v) s t) :
    Stands v t s := by
  cases h with
  | null => exact ⟨rfl, rfl⟩
  | yes => exact ⟨rfl, rfl⟩
  | no => exact ⟨rfl, rfl⟩
  | number hn => exact (stands_number hn _ _ _).mpr ⟨_, rfl, hn, rfl⟩
  | text hs => exact ⟨_, rfl, hs⟩
  | emptyList hb => exact .inl ⟨rfl, hb⟩
  | list hvs => exact .inr ⟨_, rfl, hvs⟩
  | emptyObject hb => exact .inl ⟨rfl, hb⟩
  | object hms => exact .inr ⟨_, rfl, hms⟩

theorem Written.not_blanks_list {vs : List Tree} {s t t' : List Char}
    (h : Written (.elements vs) s t) : ¬ Blanks s (']' :: t') := by
  intro hb
  obtain ⟨v, s', u, hb', hv⟩ := h.elements_starts
  have hs := hb'.unique hb hv.value_noBlank (noBlank_cons t')
  obtain ⟨c, s'', rfl, -, -, hclosing, -⟩ := hv.value_starts
  exact hclosing (congrArg byte (List.cons.inj hs).1)

theorem Written.not_blanks_object {ms : List (List Nat × Tree)} {s t t' : List Char}
    (h : Written (.members ms) s t) : ¬ Blanks s ('\x7d' :: t') := by
  intro hb
  obtain ⟨s', hb'⟩ := h.members_starts
  have hs := hb'.unique hb (noBlank_cons s') (noBlank_cons t')
  exact absurd (List.cons.inj hs).1 (by decide)

/-! ## Phrases -/

/-- No other phrase of the kind stands in the text, and it does not end elsewhere. -/
def Alone : Phrase → List Char → List Char → Prop
  | .value v, s, t =>
    NoNumeric t → ∀ v' t', Written (.value v') s t' → NoNumeric t' → v = v' ∧ t = t'
  | .element v, s, t =>
    Ends t → ∀ v' t', Written (.element v') s t' → Ends t' → v = v' ∧ t = t'
  | .elements vs, s, t =>
    ∀ r, t = ']' :: r → ∀ vs' r', Written (.elements vs') s (']' :: r') → vs = vs' ∧ r = r'
  | .member name v, s, t =>
    Ends t → ∀ name' v' t', Written (.member name' v') s t' → Ends t' →
      (name = name' ∧ v = v') ∧ t = t'
  | .members ms, s, t =>
    ∀ r, t = '\x7d' :: r → ∀ ms' r', Written (.members ms') s ('\x7d' :: r') → ms = ms' ∧ r = r'

/-- The grammar is unambiguous. -/
theorem Written.unique {p : Phrase} {s t : List Char} (h : Written p s t) : Alone p s t := by
  -- on the first derivation; the second one is split in each case
  induction h with
  | null =>
    intro _ v' t' h' _
    obtain ⟨rfl, hs⟩ := h'.stands
    cases hs
    exact ⟨rfl, rfl⟩
  | yes =>
    intro _ v' t' h' _
    obtain ⟨rfl, hs⟩ := h'.stands
    cases hs
    exact ⟨rfl, rfl⟩
  | no =>
    intro _ v' t' h' _
    obtain ⟨rfl, hs⟩ := h'.stands
    cases hs
    exact ⟨rfl, rfl⟩
  | number hn =>
    intro ht v' t' h' ht'
    obtain ⟨n', rfl, hn', hs⟩ := (stands_number hn _ _ _).mp h'.stands
    obtain ⟨rfl, rfl⟩ := hn.unique hn' ht ht' hs
    exact ⟨rfl, rfl⟩
  | text hs =>
    intro _ v' t' h' _
    obtain ⟨us', rfl, hs'⟩ := h'.stands
    obtain ⟨rfl, rfl⟩ := hs.unique hs'
    exact ⟨rfl, rfl⟩
  | emptyList hb =>
    intro _ v' t' h' _
    obtain ⟨rfl, hb'⟩ | ⟨vs', -, hvs'⟩ := h'.stands
    · have hs := hb.unique hb' (noBlank_cons _) (noBlank_cons _)
      exact ⟨rfl, (List.cons.inj hs).2⟩
    · exact absurd hb hvs'.not_blanks_list
  | list hvs ih =>
    intro _ v' t' h' _
    obtain ⟨-, hb'⟩ | ⟨vs', rfl, hvs'⟩ := h'.stands
    · exact absurd hb' hvs.not_blanks_list
    · obtain ⟨rfl, rfl⟩ := ih _ rfl _ _ hvs'
      exact ⟨rfl, rfl⟩
  | emptyObject hb =>
    intro _ v' t' h' _
    obtain ⟨rfl, hb'⟩ | ⟨ms', -, hms'⟩ := h'.stands
    · have hs := hb.unique hb' (noBlank_cons _) (noBlank_cons _)
      exact ⟨rfl, (List.cons.inj hs).2⟩
    · exact absurd hb hms'.not_blanks_object
  | object hms ih =>
    intro _ v' t' h' _
    obtain ⟨-, hb'⟩ | ⟨ms', rfl, hms'⟩ := h'.stands
    · exact absurd hb' hms.not_blanks_object
    · obtain ⟨rfl, rfl⟩ := ih _ rfl _ _ hms'
      exact ⟨rfl, rfl⟩
  | element hb hv hb' ih =>
    intro ht v' t' h' ht'
    cases h' with
    | element hb₂ hv₂ hb₂' =>
      obtain rfl := hb.unique hb₂ hv.value_noBlank hv₂.value_noBlank
      obtain ⟨rfl, rfl⟩ := ih (hb'.noNumeric ht.1) _ _ hv₂ (hb₂'.noNumeric ht'.1)
      exact ⟨rfl, hb'.unique hb₂' ht.2 ht'.2⟩
  | lastElement _ ih =>
    rintro r rfl vs' r' h'
    have hunique := ih (ends_cons _)
    cases h' with
    | lastElement he' =>
      obtain ⟨rfl, hr⟩ := hunique _ _ he' (ends_cons _)
      exact ⟨rfl, (List.cons.inj hr).2⟩
    | nextElement he' _ =>
      -- the same element would end at a bracket and at a comma
      obtain ⟨-, hr⟩ := hunique _ _ he' (ends_cons _)
      exact absurd (List.cons.inj hr).1 (by decide)
  | nextElement _ _ ih ih' =>
    rintro r rfl vs' r' h'
    have hunique := ih (ends_cons _)
    cases h' with
    | lastElement he' =>
      obtain ⟨-, hr⟩ := hunique _ _ he' (ends_cons _)
      exact absurd (List.cons.inj hr).1 (by decide)
    | nextElement he' hmore' =>
      obtain ⟨rfl, hr⟩ := hunique _ _ he' (ends_cons _)
      cases hr
      obtain ⟨rfl, rfl⟩ := ih' _ rfl _ _ hmore'
      exact ⟨rfl, rfl⟩
  | member hb hn hc _ ih =>
    intro ht name' v' t' h' ht'
    cases h' with
    | member hb' hn' hc' he' =>
      have hs := hb.unique hb' (noBlank_cons _) (noBlank_cons _)
      cases hs
      obtain ⟨rfl, rfl⟩ := hn.unique hn'
      have hu := hc.unique hc' (noBlank_cons _) (noBlank_cons _)
      cases hu
      obtain ⟨rfl, rfl⟩ := ih ht _ _ he' ht'
      exact ⟨⟨rfl, rfl⟩, rfl⟩
  | lastMember _ ih =>
    rintro r rfl ms' r' h'
    have hunique := ih (ends_cons _)
    cases h' with
    | lastMember hm' =>
      obtain ⟨⟨rfl, rfl⟩, hr⟩ := hunique _ _ _ hm' (ends_cons _)
      exact ⟨rfl, (List.cons.inj hr).2⟩
    | nextMember hm' _ =>
      obtain ⟨-, hr⟩ := hunique _ _ _ hm' (ends_cons _)
      exact absurd (List.cons.inj hr).1 (by decide)
  | nextMember _ _ ih ih' =>
    rintro r rfl ms' r' h'
    have hunique := ih (ends_cons _)
    cases h' with
    | lastMember hm' =>
      obtain ⟨-, hr⟩ := hunique _ _ _ hm' (ends_cons _)
      exact absurd (List.cons.inj hr).1 (by decide)
    | nextMember hm' hmore' =>
      obtain ⟨⟨rfl, rfl⟩, hr⟩ := hunique _ _ _ hm' (ends_cons _)
      cases hr
      obtain ⟨rfl, rfl⟩ := ih' _ rfl _ _ hmore'
      exact ⟨rfl, rfl⟩

/-- A whole text says one thing. -/
theorem Document.unique {v v' : Tree} {doc : List Char} (h : Document v doc)
    (h' : Document v' doc) : v = v' :=
  (Written.unique h ends_nil _ _ h' ends_nil).1

end Json
end PadRelay
