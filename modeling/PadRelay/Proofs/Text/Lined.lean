import Mathlib.Data.List.TakeWhile
import PadRelay.Proofs.Text.Lines

/-!
# PadRelay.Proofs.Text.Lined

A text as a list of lines, each ended by a line feed or by a carriage return and a line feed, but
for the last one, which need not be ended.

* `Lined`: the lines of a text and the text. Both ends may occur in one text, and a carriage return
  in front of a line feed may belong to the line as well as to its end.
* `lined_lines`: every text has lines, those that `lines` finds.
* `lines_fed`, `lines_returned`, `lines_of_free`: which lines are found, end by end.
* `trim_append_blank`, `trim_behind_blank`: what trimming does to a line with white space around it.
-/

namespace PadRelay
namespace Text

/-! ## White space around a line -/

theorem trimEnd_append_blank {trail : List Char} (h : ∀ c ∈ trail, isBlank c = true)
    (cs : List Char) : trimEnd (cs ++ trail) = trimEnd cs := by
  rw [trimEnd, List.reverse_append, List.dropWhile_append_of_pos, trimEnd]
  simpa using h

/-- White space behind a line goes away. -/
theorem trim_append_blank {trail : List Char} (h : ∀ c ∈ trail, isBlank c = true)
    (cs : List Char) : trim (cs ++ trail) = trim cs := by
  by_cases hcs : trimStart cs = []
  · have hall : ∀ c ∈ cs, isBlank c = true := List.dropWhile_eq_nil_iff.mp hcs
    rw [trim, trimStart, List.dropWhile_append_of_pos hall, List.dropWhile_eq_nil_iff.mpr h, trim,
      hcs]
  · have hstart : trimStart (cs ++ trail) = trimStart cs ++ trail := by
      rw [trimStart, List.dropWhile_append, if_neg (by simpa [trimStart] using hcs), trimStart]
    rw [trim, hstart, trimEnd_append_blank h, trim]

/-- What is left of a line starts with the first character that is no white space. -/
theorem trim_behind_blank {indent : List Char} (h : ∀ c ∈ indent, isBlank c = true) {c : Char}
    (hc : isBlank c = false) (cs : List Char) : ∃ rest, trim (indent ++ c :: cs) = c :: rest := by
  have hstart : trimStart (indent ++ c :: cs) = [c] ++ cs := by
    rw [trimStart, List.dropWhile_append_of_pos h, List.dropWhile_cons, hc]
    rfl
  have hkept : [c].dropWhile isBlank = [c] := by
    rw [List.dropWhile_cons, hc]
    rfl
  rw [trim, hstart, trimEnd, List.reverse_append, List.reverse_singleton, List.dropWhile_append]
  split
  · exact ⟨[], by rw [hkept]; rfl⟩
  · exact ⟨_, by rw [List.reverse_append]; rfl⟩

/-! ## Lines -/

inductive Lined : List (List Char) → List Char → Prop where
  | nil : Lined [] []
  | last {l : List Char} : '\n' ∉ l → Lined [l] l
  | fed {l : List Char} {ls : List (List Char)} {cs : List Char} :
      '\n' ∉ l → Lined ls cs → Lined (l :: ls) (l ++ '\n' :: cs)
  | returned {l : List Char} {ls : List (List Char)} {cs : List Char} :
      '\n' ∉ l → Lined ls cs → Lined (l :: ls) (l ++ '\r' :: '\n' :: cs)

theorem linesFrom_eq_append (done : List (List Char)) (line cs : List Char) :
    linesFrom done line cs = done.reverse ++ linesFrom [] line cs := by
  induction cs generalizing done line with
  | nil =>
    rw [linesFrom, linesFrom]
    split <;> simp
  | cons c cs ih =>
    rw [linesFrom, linesFrom]
    split
    · rw [ih, ih [endLine line]]
      simp
    · rw [ih]

/-- A line feed ends the first line. -/
theorem lines_fed {l : List Char} (h : '\n' ∉ l) (cs : List Char) :
    lines (l ++ '\n' :: cs) = endLine l.reverse :: lines cs := by
  rw [lines, linesFrom_append _ _ h, List.append_nil, linesFrom, if_pos rfl, linesFrom_eq_append]
  rfl

/-- So does a carriage return with a line feed behind it. -/
theorem lines_returned {l : List Char} (h : '\n' ∉ l) (cs : List Char) :
    lines (l ++ '\r' :: '\n' :: cs) = l :: lines cs := by
  have hfree : '\n' ∉ l ++ ['\r'] := by
    rw [List.mem_append, not_or]
    exact ⟨h, by decide⟩
  have hend : endLine (l ++ ['\r']).reverse = l := by
    rw [List.reverse_append]
    exact List.reverse_reverse l
  have hline := lines_fed hfree cs
  rwa [hend, List.append_assoc] at hline

theorem lines_of_free {l : List Char} (h : '\n' ∉ l) : lines l = if l = [] then [] else [l] := by
  have hline := linesFrom_append [] [] h []
  rw [List.append_nil, List.append_nil, linesFrom] at hline
  rw [lines, hline]
  cases l <;> simp

/-- A carriage return goes with the line feed behind it. -/
theorem reverse_eq_endLine (line : List Char) :
    line.reverse = endLine line ∨ line.reverse = endLine line ++ ['\r'] := by
  unfold endLine
  split
  · exact Or.inr List.reverse_cons
  · exact Or.inl rfl

/-- Every text has lines. -/
theorem lined_lines (cs : List Char) : Lined (lines cs) cs := by
  have hfrom : ∀ line : List Char, '\n' ∉ line →
      Lined (linesFrom [] line cs) (line.reverse ++ cs) := by
    induction cs with
    | nil =>
      intro line hline
      rw [linesFrom, List.append_nil]
      cases line with
      | nil => exact .nil
      | cons c line => exact .last (by rwa [List.mem_reverse])
    | cons c cs ih =>
      intro line hline
      rw [linesFrom]
      split
      · next hc =>
        subst hc
        rw [linesFrom_eq_append]
        have hrest : Lined (linesFrom [] [] cs) cs := ih [] List.not_mem_nil
        have hfree : '\n' ∉ line.reverse := by rwa [List.mem_reverse]
        rcases reverse_eq_endLine line with heq | heq
        · rw [heq] at hfree ⊢
          exact .fed hfree hrest
        · rw [heq, List.mem_append, not_or] at hfree
          rw [heq, List.append_assoc]
          exact .returned hfree.1 hrest
      · next hc =>
        have hmore := ih (c :: line) (by
          rw [List.mem_cons, not_or]
          exact ⟨Ne.symm hc, hline⟩)
        rwa [List.reverse_cons, List.append_assoc] at hmore
  exact hfrom [] List.not_mem_nil

end Text
end PadRelay
