import Mathlib.Data.List.TakeWhile
import PadRelay.Text.Blank
import PadRelay.Text.Lines

/-!
# PadRelay.Proofs.Text.Lines

Lines put together are taken apart again, and what trimming leaves alone.

* `trim_eq_self_iff`: a text is trimmed if there is no white space at either end.
* `trim_append`: white space in front of a trimmed text goes away.
* `trim_trim`: trimming a second time does nothing.
* `lines_ended`: lines that are ended one by one are read back.
* `lines_of_append`: also if the last one is not ended.
-/

namespace PadRelay
namespace Text

/-! ## White space -/

theorem dropWhile_eq_self_iff {α : Type} {p : α → Bool} {as : List α} :
    as.dropWhile p = as ↔ ∀ a ∈ as.head?, p a = false := by
  cases as with
  | nil => simp
  | cons a as => simp [List.dropWhile_eq_self_iff]

theorem trim_eq_self_iff {cs : List Char} :
    trim cs = cs ↔
      (∀ c ∈ cs.head?, isBlank c = false) ∧ ∀ c ∈ cs.getLast?, isBlank c = false := by
  have hstart : trimStart cs = cs ↔ ∀ c ∈ cs.head?, isBlank c = false := dropWhile_eq_self_iff
  have hend : trimEnd cs = cs ↔ ∀ c ∈ cs.getLast?, isBlank c = false := by
    rw [trimEnd, List.reverse_eq_iff, dropWhile_eq_self_iff, List.head?_reverse]
  rw [← hstart, ← hend]
  constructor
  · intro h
    have hsuffix : trimStart cs <:+ cs := List.dropWhile_suffix _
    have hle : (trim cs).length ≤ (trimStart cs).length := by
      have hlength := (List.dropWhile_suffix isBlank (l := (trimStart cs).reverse)).length_le
      rw [trim, trimEnd, List.length_reverse]
      rw [List.length_reverse] at hlength
      exact hlength
    rw [h] at hle
    have hself : trimStart cs = cs := hsuffix.eq_of_length_le hle
    rw [trim, hself] at h
    exact ⟨hself, h⟩
  · rintro ⟨hs, he⟩
    rw [trim, hs, he]

/-- White space in front of a trimmed text goes away. -/
theorem trim_append {indent cs : List Char} (hindent : ∀ c ∈ indent, isBlank c = true)
    (h : trim cs = cs) : trim (indent ++ cs) = cs := by
  rw [trim, trimStart, List.dropWhile_append_of_pos hindent]
  exact h

theorem prefix_trimEnd (cs : List Char) : trimEnd cs <+: cs := by
  rw [trimEnd, ← List.reverse_suffix, List.reverse_reverse]
  exact List.dropWhile_suffix _

/-- Only what stands in a text is left of it. -/
theorem mem_of_mem_trim {c : Char} {cs : List Char} (h : c ∈ trim cs) : c ∈ cs :=
  (List.dropWhile_suffix isBlank).subset ((prefix_trimEnd _).subset h)

theorem isBlank_of_head?_dropWhile {cs : List Char} :
    ∀ c ∈ (cs.dropWhile isBlank).head?, isBlank c = false := by
  intro c hc
  have hhead := List.head?_dropWhile_not isBlank cs
  rw [Option.mem_def.mp hc] at hhead
  exact hhead

/-- What was trimmed is trimmed. -/
theorem trim_trim (cs : List Char) : trim (trim cs) = trim cs := by
  rw [trim_eq_self_iff]
  constructor
  · intro c hc
    have hstart : (trimStart cs).head? = some c := by
      obtain ⟨rest, hrest⟩ := List.head?_eq_some_iff.mp hc
      obtain ⟨back, hback⟩ := prefix_trimEnd (trimStart cs)
      rw [← hback, show trimEnd (trimStart cs) = c :: rest from hrest]
      rfl
    exact isBlank_of_head?_dropWhile c hstart
  · intro c hc
    rw [trim, trimEnd, List.getLast?_reverse] at hc
    exact isBlank_of_head?_dropWhile c hc

/-! ## Lines -/

theorem linesFrom_append (done : List (List Char)) (line : List Char) {l : List Char}
    (h : '\n' ∉ l) (rest : List Char) :
    linesFrom done line (l ++ rest) = linesFrom done (l.reverse ++ line) rest := by
  induction l generalizing line with
  | nil => rfl
  | cons c l ih =>
    rw [List.mem_cons, not_or] at h
    obtain ⟨hc, hl⟩ := h
    rw [List.cons_append, linesFrom, if_neg (Ne.symm hc), ih _ hl, List.reverse_cons,
      List.append_assoc]
    rfl

theorem endLine_reverse {l : List Char} (h : l.getLast? ≠ some '\r') : endLine l.reverse = l := by
  unfold endLine
  split
  · next heq =>
    rw [← List.head?_reverse, heq] at h
    exact absurd rfl h
  · exact List.reverse_reverse l

theorem linesFrom_ended (done : List (List Char)) {ls : List (List Char)}
    (h : ∀ l ∈ ls, '\n' ∉ l ∧ l.getLast? ≠ some '\r') (rest : List Char) :
    linesFrom done [] (ls.flatMap (· ++ ['\n']) ++ rest) =
      linesFrom (ls.reverse ++ done) [] rest := by
  induction ls generalizing done with
  | nil => rfl
  | cons l ls ih =>
    obtain ⟨⟨hline, hreturn⟩, hmore⟩ := List.forall_mem_cons.mp h
    rw [List.flatMap_cons, List.append_assoc, List.append_assoc, linesFrom_append _ _ hline,
      List.append_nil, List.singleton_append, linesFrom, if_pos rfl, endLine_reverse hreturn,
      ih _ hmore, List.reverse_cons, List.append_assoc]
    rfl

/-- Lines that are ended one by one are read back. -/
theorem lines_ended {ls : List (List Char)} (h : ∀ l ∈ ls, '\n' ∉ l ∧ l.getLast? ≠ some '\r') :
    lines (ls.flatMap (· ++ ['\n'])) = ls := by
  have hlines := linesFrom_ended [] h []
  rw [List.append_nil, List.append_nil] at hlines
  rw [lines, hlines]
  simp [linesFrom]

/-- The last line need not be ended if there is something on it. -/
theorem lines_of_append {ls : List (List Char)} (h : ∀ l ∈ ls, '\n' ∉ l ∧ l.getLast? ≠ some '\r')
    (hne : ∀ l ∈ ls, l ≠ []) {cs : List Char} (hcs : cs ++ ['\n'] = ls.flatMap (· ++ ['\n'])) :
    lines cs = ls := by
  rcases List.eq_nil_or_concat ls with rfl | ⟨init, l, rfl⟩
  · simp at hcs
  · rw [List.concat_eq_append] at *
    obtain ⟨hinit, hl⟩ := List.forall_mem_append.mp h
    obtain ⟨hline, -⟩ := hl l List.mem_cons_self
    have hlast : l.reverse.isEmpty = false := by
      simpa using hne l (by simp)
    rw [List.flatMap_append, List.flatMap_singleton, ← List.append_assoc] at hcs
    rw [List.append_cancel_right hcs, lines, linesFrom_ended [] hinit, ← List.append_nil l,
      linesFrom_append _ _ hline, linesFrom]
    simp [hlast]

end Text
end PadRelay
