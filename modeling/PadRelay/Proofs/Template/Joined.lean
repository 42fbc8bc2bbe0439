import PadRelay.Proofs.Template.Grammar

/-!
# PadRelay.Proofs.Template.Joined

Templates put together.

* `Turn`: one turn of the scan, one rule for each kind of it; `Turn.scan_eq`: the scan takes turns.
* `Turn.append`: text added at the end does not change a turn, but for three open ends.
* `openEnd`: the end of a template that the scan leaves open; `exists_scan_append`: all before it is
  settled, by induction on the turns.
* `resolve_append_iff`: templates resolve one by one exactly if the first has no open end.
* `resolve_quoted_append`: text with its percent signs doubled resolves to itself.
-/

namespace PadRelay
namespace Template

open Pad (Event)

/-! ## Turns -/

/-- One turn of the scan: the segment in front of a text, and what is left behind it. -/
def turn? : List Char → Option (Segment × List Char)
  | [] => none
  | c :: rest =>
    if c = '%' then
      if rest.head? = some '%' then some (.literal '%', rest.tail)
      else some ((wildcard? rest).getD (.literal '%', rest))
    else some (.literal c, rest)

inductive Turn : List Char → Segment → List Char → Prop where
  | percent {cs : List Char} : Turn ('%' :: '%' :: cs) (.literal '%') cs
  | code {cs rest : List Char} {w : Segment} :
      cs.head? ≠ some '%' → wildcard? cs = some (w, rest) → Turn ('%' :: cs) w rest
  | loose {cs : List Char} :
      cs.head? ≠ some '%' → wildcard? cs = none → Turn ('%' :: cs) (.literal '%') cs
  | other {c : Char} {cs : List Char} : c ≠ '%' → Turn (c :: cs) (.literal c) cs

theorem turn_of_turn? {cs rest : List Char} {w : Segment} (h : turn? cs = some (w, rest)) :
    Turn cs w rest := by
  cases cs with
  | nil => cases h
  | cons c tail =>
    simp only [turn?] at h
    split at h
    · next hpercent =>
      subst hpercent
      split at h
      · next hhead =>
        obtain ⟨more, rfl⟩ := List.head?_eq_some_iff.mp hhead
        cases h
        exact .percent
      · next hhead =>
        cases hw : wildcard? tail with
        | none =>
          rw [hw] at h
          cases h
          exact .loose hhead hw
        | some found =>
          rw [hw] at h
          cases h
          exact .code hhead hw
    · next hne =>
      cases h
      exact .other hne

theorem eq_nil_of_turn?_eq_none {cs : List Char} (h : turn? cs = none) : cs = [] := by
  cases cs with
  | nil => rfl
  | cons c rest =>
    simp only [turn?] at h
    split_ifs at h

theorem Turn.length_lt {cs rest : List Char} {w : Segment} (h : Turn cs w rest) :
    rest.length < cs.length := by
  cases h with
  | percent => simp only [List.length_cons]; omega
  | code _ hw =>
    have := length_wildcard?_lt hw
    simp only [List.length_cons]
    omega
  | loose => simp
  | other => simp

theorem scanFrom_eq_append (done : List Segment) (cs : List Char) :
    scanFrom done cs = done.reverse ++ scan cs := by
  obtain ⟨segments, h⟩ := exists_segmented cs
  rw [h.scanFrom_eq, segmented_iff_scan.mp h]

theorem Turn.scan_eq {cs rest : List Char} {w : Segment} (h : Turn cs w rest) :
    scan cs = w :: scan rest := by
  suffices hturn : scan cs = scanFrom [w] rest by
    rw [hturn, scanFrom_eq_append]
    rfl
  cases h with
  | percent => rw [scan, scanFrom, if_pos rfl, if_pos List.head?_cons, List.tail_cons]
  | code hhead hw => exact scanFrom_wildcard hhead hw
  | loose hhead hw => exact scanFrom_loose hhead hw
  | other hne => rw [scan, scanFrom, if_neg hne]

/-! ## Text added at the end -/

/-- Only a `w` starts a code of two letters. -/
theorem pair?_eq_none {a : Char} (hsmall : a ≠ 'w') (hcapital : a ≠ 'W') (b : Char) :
    pair? a b = none := by
  rw [Option.eq_none_iff_forall_ne_some]
  intro w hw
  obtain ⟨field, slot, ⟨code, hcode, hspell⟩, -⟩ := pair?_eq_some_iff.mp hw
  have hfirst : ∀ e ∈ pairCodes, ∀ slot, (spell slot e.1).head? = some 'w' ∨
      (spell slot e.1).head? = some 'W' := by
    intro e he slot
    cases slot <;> revert e <;> decide
  have ha : (spell slot code).head? = some a := by rw [← hspell, List.head?_cons]
  rcases hfirst _ hcode slot with hw | hw
  · rw [ha, Option.some.injEq] at hw
    exact hsmall hw
  · rw [ha, Option.some.injEq] at hw
    exact hcapital hw

/-- A percent sign with nothing behind it, or with nothing but a `w` in either case. What comes next
may still make it one of two percent signs, or part of a code. -/
def openEnds : List (List Char) := [['%'], ['%', 'w'], ['%', 'W']]

theorem ne_of_not_mem_openEnds {cs : List Char} (h : '%' :: cs ∉ openEnds) :
    cs ≠ [] ∧ cs ≠ ['w'] ∧ cs ≠ ['W'] := by
  simpa [openEnds] using h

theorem wildcard?_append {cs : List Char} (hopen : '%' :: cs ∉ openEnds) (b : List Char) :
    wildcard? (cs ++ b) = (wildcard? cs).map fun x => (x.1, x.2 ++ b) := by
  obtain ⟨hne, hsmall, hcapital⟩ := ne_of_not_mem_openEnds hopen
  match cs with
  | [] => exact absurd rfl hne
  | [a] =>
    have hpair : ∀ c, pair? a c = none :=
      pair?_eq_none (fun h => hsmall (h ▸ rfl)) (fun h => hcapital (h ▸ rfl))
    cases b with
    | nil => simp [wildcard?, Function.comp_def]
    | cons c b => simp [wildcard?, hpair, Function.comp_def]
  | a :: c :: rest =>
    simp only [List.cons_append, wildcard?]
    cases pair? a c with
    | some w => rfl
    | none => simp [Function.comp_def]

theorem head?_append {cs : List Char} (hopen : '%' :: cs ∉ openEnds) (b : List Char) :
    (cs ++ b).head? = cs.head? :=
  List.head?_append_of_ne_nil cs (ne_of_not_mem_openEnds hopen).1

theorem Turn.append {cs rest : List Char} {w : Segment} (h : Turn cs w rest)
    (hopen : cs ∉ openEnds) (b : List Char) : Turn (cs ++ b) w (rest ++ b) := by
  cases h with
  | percent => exact .percent
  | code hhead hw =>
    rw [List.cons_append]
    exact .code (by rwa [head?_append hopen]) (by rw [wildcard?_append hopen, hw]; rfl)
  | loose hhead hw =>
    rw [List.cons_append]
    exact .loose (by rwa [head?_append hopen]) (by rw [wildcard?_append hopen, hw]; rfl)
  | other hne => exact .other hne

/-- The end of a template that its scan leaves open: a percent sign that it comes to as the last
character, or with nothing but a `w` or `W` behind it. -/
def openEnd (cs : List Char) : List Char :=
  if cs ∈ openEnds then cs
  else
    match _h : turn? cs with
    | some (_, rest) => openEnd rest
    | none => []
termination_by cs.length
decreasing_by exact (turn_of_turn? _h).length_lt

theorem openEnd_eq_nil_or_mem (cs : List Char) : openEnd cs = [] ∨ openEnd cs ∈ openEnds := by
  fun_induction openEnd cs with
  | case1 cs hopen => exact .inr hopen
  | case2 cs hopen w rest hturn ih => exact ih
  | case3 cs hopen hturn => exact .inl rfl

/-- Whatever is added at the end, all before the open end stays as it is. -/
theorem exists_scan_append (cs : List Char) :
    ∃ front, ∀ b, scan (cs ++ b) = front ++ scan (openEnd cs ++ b) := by
  -- on the turns of the scan; each of them is the same with `b` at the end
  fun_induction openEnd cs with
  | case1 cs hopen => exact ⟨[], fun b => rfl⟩
  | case2 cs hopen w rest hturn ih =>
    obtain ⟨front, hfront⟩ := ih
    refine ⟨w :: front, fun b => ?_⟩
    rw [((turn_of_turn? hturn).append hopen b).scan_eq, hfront, List.cons_append]
  | case3 cs hopen hturn =>
    obtain rfl := eq_nil_of_turn?_eq_none hturn
    exact ⟨[], fun b => rfl⟩

/-! ## Resolution -/

theorem render_append (now next : Option Event) (escape : Escape) (xs ys : List Segment) :
    render now next escape (xs ++ ys) = render now next escape xs ++ render now next escape ys :=
  List.flatMap_append

/-- An open end resolves in another way with some text behind it. -/
theorem exists_render_ne {cs : List Char} (h : cs ∈ openEnds) :
    ∃ b, render none none .none (scan (cs ++ b)) ≠
      render none none .none (scan cs) ++ render none none .none (scan b) := by
  simp only [openEnds, List.mem_cons, List.not_mem_nil, or_false] at h
  rcases h with rfl | rfl | rfl
  · exact ⟨['%'], by decide +kernel⟩
  · exact ⟨['i'], by decide +kernel⟩
  · exact ⟨['I'], by decide +kernel⟩

/-- **Templates resolve one by one**, for all events and escapes and whatever the second one is, if
and only if the scan of the first ends neither in a percent sign that stands for itself nor in such
a one with a `w` or `W` behind it. -/
theorem resolve_append_iff (a : String) :
    (∀ b now next escape,
      resolve (a ++ b) now next escape = resolve a now next escape ++ resolve b now next escape) ↔
      openEnd a.toList = [] := by
  obtain ⟨front, hfront⟩ := exists_scan_append a.toList
  have hscan : scan a.toList = front ++ scan (openEnd a.toList) := by
    have := hfront []
    rwa [List.append_nil, List.append_nil] at this
  constructor
  · intro hall
    rcases openEnd_eq_nil_or_mem a.toList with hnil | hopen
    · exact hnil
    · obtain ⟨b, hb⟩ := exists_render_ne hopen
      have heq := congrArg String.toList (hall (String.ofList b) none none .none)
      simp only [resolve, String.toList_ofList, String.toList_append, hfront, hscan, render_append,
        List.append_assoc, List.append_cancel_left_eq] at heq
      exact absurd heq hb
  · intro hclosed b now next escape
    have hjoined : ∀ b, scan (a.toList ++ b) = front ++ scan b := by
      simpa only [hclosed, List.nil_append] using hfront
    have hfirst : scan a.toList = front := by
      rw [hscan, hclosed, segmented_iff_scan.mp .nil, List.append_nil]
    rw [resolve, String.toList_append, hjoined, render_append, String.ofList_append, resolve,
      resolve, hfirst]

/-- A third percent sign stays open, and so does one before a capital; one of two does not. -/
example : openEnd "%%%".toList = ['%'] ∧ openEnd "%t%W".toList = ['%', 'W'] ∧
    openEnd "%wi100%%w".toList = [] := by
  decide +kernel

/-! ## Literal text -/

/-- A text as a template says it: with every percent sign doubled. -/
def quoted (s : String) : String :=
  String.ofList (s.toList.flatMap fun c => if c = '%' then ['%', '%'] else [c])

theorem scan_quoted_append (s cs : List Char) :
    scan ((s.flatMap fun c => if c = '%' then ['%', '%'] else [c]) ++ cs) =
      s.map .literal ++ scan cs := by
  induction s with
  | nil => rfl
  | cons c s ih =>
    rw [List.flatMap_cons, List.append_assoc, List.map_cons, List.cons_append, ← ih]
    by_cases hpercent : c = '%'
    · subst hpercent
      exact Turn.percent.scan_eq
    · rw [if_neg hpercent]
      exact (Turn.other hpercent).scan_eq

theorem render_literals (now next : Option Event) (escape : Escape) (s : List Char) :
    render now next escape (s.map .literal) = s := by
  rw [render, List.flatMap_map]
  exact List.flatMap_singleton' s

/-- **Any text can be written in a template.** With its percent signs doubled, it resolves to itself
before any other template. -/
theorem resolve_quoted_append (s template : String) (now next : Option Event) (escape : Escape) :
    resolve (quoted s ++ template) now next escape = s ++ resolve template now next escape := by
  rw [resolve, quoted, String.toList_append, String.toList_ofList, scan_quoted_append,
    render_append, render_literals, String.ofList_append, String.ofList_toList, resolve]

/-- Three percent signs before a code letter, and one before the template's wildcard. -/
example :
    quoted "%%%t%" ++ "%t" = "%%%%%%t%%%t" ∧
      resolve "%%%%%%t%%%t" (some { Pad.Event.blank with title := some "T" }) none .xml =
        "%%%t%T" := by
  decide +kernel

end Template
end PadRelay
