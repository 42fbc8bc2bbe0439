import PadRelay.Ini.Parser
import PadRelay.Proofs.Text.Lined

/-!
# PadRelay.Proofs.Ini.Layout

What of a configuration's layout is not read: full-line comments, white space behind a line, and by
which of the two ends a line is ended.

* `parse_of_lined`: a text is read line by line, whichever ends its lines have.
* `Row`: a line of another layout, a comment that was put in or a line of the text with white space
  behind it.
* `Reading.readLines_texts`: the two-run law for some lines, by induction on the rows. Behind each
  row both runs are in one state, and a comment only moves the number of the next line.
* `parse_of_rows`: the law for texts.
-/

namespace PadRelay
namespace Ini

open Text (Lined)

/-! ## One line -/

theorem startsBlank_append {l : List Char} (h : l ≠ []) (cs : List Char) :
    startsBlank (l ++ cs) = startsBlank l := by
  obtain ⟨c, rest, rfl⟩ := List.exists_cons_of_ne_nil h
  rfl

/-- White space behind a line does not change what it is. -/
theorem ofText_append_blank {trail : List Char} (h : ∀ c ∈ trail, Text.isBlank c = true)
    (l : List Char) : Line.ofText (l ++ trail) = Line.ofText l := by
  unfold Line.ofText
  rw [Text.trim_append_blank h]
  split
  · rfl
  · next c rest htrim =>
    have hne : l ≠ [] := by
      rintro rfl
      cases htrim
    rw [startsBlank_append hne]

theorem ofText_endLine (line : List Char) :
    Line.ofText (Text.endLine line) = Line.ofText line.reverse := by
  rcases Text.reverse_eq_endLine line with h | h
  · rw [h]
  · rw [h, ofText_append_blank (List.all_eq_true.mp rfl)]

theorem ofText_comment {indent : List Char} (h : ∀ c ∈ indent, Text.isBlank c = true) {mark : Char}
    (hmark : mark = '#' ∨ mark = ';') (text : List Char) :
    Line.ofText (indent ++ mark :: text) = .comment := by
  have hblank : Text.isBlank mark = false := by
    rcases hmark with rfl | rfl <;> decide
  obtain ⟨rest, htrim⟩ := Text.trim_behind_blank h hblank text
  rw [Line.ofText, htrim]
  simp only [if_pos hmark]

namespace Reading

/-- Of a line no more is read than what it is. -/
theorem readLine_congr {l l' : List Char} (h : Line.ofText l = Line.ofText l') (r : Reading) :
    r.readLine l = r.readLine l' := by
  rw [readLine, readLine, h]

theorem readLine_of_comment {l : List Char} (h : Line.ofText l = .comment) (r : Reading) :
    r.readLine l = .ok r := by
  rw [readLine, h]

/-! ## A text -/

/-- What is found in a text is read as the lines by which it is put together. -/
theorem readLines_lines {ls : List (List Char)} {cs : List Char} (h : Lined ls cs) (r : Reading)
    (n : Nat) :
    (r.readLines n (Text.lines cs)).map profile = (r.readLines n ls).map profile := by
  induction h generalizing r n with
  | nil => rfl
  | last hl =>
    rw [Text.lines_of_free hl]
    split
    · next hnil =>
      rw [hnil]
      rfl
    · rfl
  | @fed l ls cs hl _ ih =>
    have hline : r.readLine (Text.endLine l.reverse) = r.readLine l := by
      refine readLine_congr ?_ r
      rw [ofText_endLine, List.reverse_reverse]
    rw [Text.lines_fed hl, readLines, readLines, hline]
    split
    · exact ih _ _
    · rfl
  | returned hl _ ih =>
    rw [Text.lines_returned hl, readLines, readLines]
    split
    · exact ih _ _
    · rfl

end Reading

/-- The lines without a byte order mark in front of the first one. -/
def unmarked (ls : List (List Char)) : List (List Char) := ls.modifyHead dropMark

theorem dropMark_cons (c : Char) (cs : List Char) :
    dropMark (c :: cs) = if c = '\ufeff' then cs else c :: cs := by
  unfold dropMark
  split
  · next heq =>
    cases heq
    rfl
  · next hmark =>
    rw [if_neg]
    rintro rfl
    exact hmark cs rfl

theorem dropMark_append {c : Char} (hc : c ≠ '\ufeff') (l cs : List Char) :
    dropMark (l ++ c :: cs) = dropMark l ++ c :: cs := by
  cases l with
  | nil => exact (dropMark_cons c cs).trans (if_neg hc)
  | cons first l =>
    rw [List.cons_append, dropMark_cons, dropMark_cons]
    split <;> rfl

theorem not_mem_dropMark {c : Char} {l : List Char} (h : c ∉ l) : c ∉ dropMark l := by
  unfold dropMark
  split
  · exact fun hin => h (List.mem_cons_of_mem _ hin)
  · exact h

theorem lined_unmarked {ls : List (List Char)} {cs : List Char} (h : Lined ls cs) :
    Lined (unmarked ls) (dropMark cs) := by
  cases h with
  | nil => exact .nil
  | last hl => exact .last (not_mem_dropMark hl)
  | fed hl hrest =>
    rw [dropMark_append (by decide)]
    exact .fed (not_mem_dropMark hl) hrest
  | returned hl hrest =>
    rw [dropMark_append (by decide)]
    exact .returned (not_mem_dropMark hl) hrest

/-- No line is changed if there is no mark in front of the first one. -/
theorem unmarked_of_head {ls : List (List Char)} (h : ∀ l ∈ ls.head?, l.head? ≠ some '\ufeff') :
    unmarked ls = ls := by
  cases ls with
  | nil => rfl
  | cons l ls =>
    have hl := h l rfl
    cases l with
    | nil => rfl
    | cons c l =>
      have hc : c ≠ '\ufeff' := fun heq => hl (congrArg some heq)
      rw [unmarked, List.modifyHead_cons, dropMark_cons, if_neg hc]

/-- A text is read line by line, whichever ends its lines have. -/
theorem parse_of_lined {text : String} {ls : List (List Char)} (h : Lined ls text.toList) :
    parse text = (Reading.start.readLines 1 (unmarked ls)).map Reading.profile :=
  Reading.readLines_lines (lined_unmarked h) _ _

/-! ## Another layout -/

/-- A line of another layout: a full-line comment that was put in, or a line of the text with white
space behind it. -/
inductive Row where
  | comment (indent : List Char) (mark : Char) (text : List Char)
      (indent_blank : ∀ c ∈ indent, Text.isBlank c = true) (mark_eq : mark = '#' ∨ mark = ';')
  | line (content trail : List Char) (trail_blank : ∀ c ∈ trail, Text.isBlank c = true)

namespace Row

def content? : Row → Option (List Char)
  | comment _ _ _ _ _ => none
  | line content _ _ => some content

def laid : Row → List Char
  | comment indent mark text _ _ => indent ++ mark :: text
  | line content trail _ => content ++ trail

end Row

def contents (rows : List Row) : List (List Char) := rows.filterMap Row.content?

def added (rows : List Row) : Nat := rows.countP (·.content?.isNone)

section

variable {indent : List Char} {mark : Char} {text content trail : List Char}
  {indent_blank : ∀ c ∈ indent, Text.isBlank c = true} {mark_eq : mark = '#' ∨ mark = ';'}
  {trail_blank : ∀ c ∈ trail, Text.isBlank c = true} {rows : List Row}

@[simp] theorem contents_comment :
    contents (.comment indent mark text indent_blank mark_eq :: rows) = contents rows := rfl

@[simp] theorem contents_line :
    contents (.line content trail trail_blank :: rows) = content :: contents rows := rfl

@[simp] theorem added_comment :
    added (.comment indent mark text indent_blank mark_eq :: rows) = added rows + 1 :=
  List.countP_cons_of_pos rfl

@[simp] theorem added_line : added (.line content trail trail_blank :: rows) = added rows :=
  List.countP_cons_of_neg Bool.false_ne_true

end

theorem length_contents_add_added (rows : List Row) :
    (contents rows).length + added rows = rows.length := by
  induction rows with
  | nil => rfl
  | cons row rows ih =>
    cases row with
    | comment indent mark text hindent hmark =>
      rw [contents_comment, added_comment, List.length_cons, ← ih, Nat.add_assoc]
    | line content trail htrail =>
      rw [contents_line, added_line, List.length_cons, List.length_cons, ← ih, Nat.add_right_comm]

/-- Lines in another layout lead to the same state, or fail at the same line for the same cause. -/
theorem Reading.readLines_laid (rows : List Row) (r : Reading) (n m : Nat) :
    (∀ r', r.readLines n (contents rows) = .ok r' → r.readLines m (rows.map Row.laid) = .ok r') ∧
      ∀ e, r.readLines n (contents rows) = .error e →
        ∃ before row after, rows = before ++ row :: after ∧ row.content?.isSome = true ∧
          e.line = n + (contents before).length ∧
          r.readLines m (rows.map Row.laid) = .error ⟨m + before.length, e.cause⟩ := by
  induction rows generalizing r n m with
  | nil => exact ⟨fun r' h => h, nofun⟩
  | cons row rows ih =>
    cases row with
    | comment indent mark text hindent hmark =>
      have hline : r.readLine (indent ++ mark :: text) = .ok r :=
        readLine_of_comment (ofText_comment hindent hmark text) r
      obtain ⟨hok, herror⟩ := ih r n (m + 1)
      rw [List.map_cons, Row.laid, readLines, hline]
      refine ⟨hok, fun e he => ?_⟩
      obtain ⟨before, row, after, rfl, hrow, hnumber, hlaid⟩ := herror e he
      refine ⟨.comment indent mark text hindent hmark :: before, row, after, rfl, hrow, hnumber, ?_⟩
      rw [List.length_cons, Nat.add_comm before.length, ← Nat.add_assoc]
      exact hlaid
    | line content trail htrail =>
      have hline : r.readLine (content ++ trail) = r.readLine content :=
        readLine_congr (ofText_append_blank htrail content) r
      rw [contents_line, List.map_cons, Row.laid, readLines, readLines, hline]
      cases hread : r.readLine content with
      | error cause =>
        refine ⟨nofun, fun e he => ?_⟩
        cases he
        exact ⟨[], _, rows, rfl, rfl, rfl, rfl⟩
      | ok r' =>
        obtain ⟨hok, herror⟩ := ih r' (n + 1) (m + 1)
        refine ⟨hok, fun e he => ?_⟩
        obtain ⟨before, row, after, rfl, hrow, hnumber, hlaid⟩ := herror e he
        refine ⟨.line content trail htrail :: before, row, after, rfl, hrow, ?_, ?_⟩
        · rw [contents_line, List.length_cons, hnumber]
          omega
        · rw [List.length_cons, Nat.add_comm before.length, ← Nat.add_assoc]
          exact hlaid

/-! ## No mark appears -/

theorem head?_of_lined {ls : List (List Char)} {cs : List Char} (h : Lined ls cs) {c : Char} :
    ∀ l ∈ ls.head?, l.head? = some c → cs.head? = some c := by
  have hfirst : ∀ l rest : List Char, l.head? = some c → (l ++ rest).head? = some c := by
    intro l rest hl
    rw [List.head?_append, hl]
    rfl
  cases h with
  | nil => rintro _ ⟨⟩
  | last hl =>
    rintro _ ⟨⟩
    exact id
  | fed hl _ =>
    rintro _ ⟨⟩
    exact hfirst _ _
  | returned hl _ =>
    rintro _ ⟨⟩
    exact hfirst _ _

/-- A layout has no byte order mark in front unless the text has. -/
theorem unmarked_laid {rows : List Row}
    (h : ∀ l ∈ (contents rows).head?, l.head? ≠ some '\ufeff') :
    unmarked (rows.map Row.laid) = rows.map Row.laid := by
  have hblank : ∀ cs : List Char, (∀ c ∈ cs, Text.isBlank c = true) → cs.head? ≠ some '\ufeff' := by
    intro cs hcs hhead
    exact absurd (hcs _ (List.mem_of_head? hhead)) (by decide)
  refine unmarked_of_head ?_
  cases rows with
  | nil => rintro _ ⟨⟩
  | cons row rows =>
    rintro _ ⟨⟩
    cases row with
    | comment indent mark text hindent hmark =>
      cases indent with
      | nil => rcases hmark with rfl | rfl <;> simp [Row.laid]
      | cons c indent => exact hblank (c :: indent) hindent
    | line content trail htrail =>
      cases content with
      | nil => exact hblank trail htrail
      | cons c content => exact h (c :: content) rfl

/-- **A configuration is read the same in every layout.** Comments put in anywhere, white space
behind lines and other ends of lines change neither what a text describes nor why it cannot be
read. The line that cannot be read is found behind the comments that were put in before it. -/
theorem parse_of_rows {text : String} (hmark : text.toList.head? ≠ some '\ufeff') :
    (∃ ls, Lined ls text.toList) ∧
      ∀ (rows : List Row) (laid : String), Lined (contents rows) text.toList →
        Lined (rows.map Row.laid) laid.toList →
          (∀ p, parse text = .ok p → parse laid = .ok p) ∧
            ∀ e, parse text = .error e → ∃ before l trail htrail after,
              rows = before ++ .line l trail htrail :: after ∧
                (contents before).length + 1 = e.line ∧
                parse laid = .error ⟨e.line + added before, e.cause⟩ := by
  refine ⟨⟨_, Text.lined_lines _⟩, fun rows laid htext hlaid => ?_⟩
  have hhead : ∀ l ∈ (contents rows).head?, l.head? ≠ some '\ufeff' :=
    fun l hl hc => hmark (head?_of_lined htext l hl hc)
  rw [parse_of_lined htext, parse_of_lined hlaid, unmarked_of_head hhead, unmarked_laid hhead]
  obtain ⟨hok, herror⟩ := Reading.start.readLines_laid rows 1 1
  cases hread : Reading.start.readLines 1 (contents rows) with
  | ok r =>
    rw [hok r hread]
    exact ⟨fun p h => h, nofun⟩
  | error e =>
    obtain ⟨before, row, after, rfl, hrow, hnumber, hlines⟩ := herror e hread
    have hlength := length_contents_add_added before
    refine ⟨nofun, fun e' he => ?_⟩
    cases he
    cases row with
    | comment indent mark text hindent hmark => cases hrow
    | line l trail htrail =>
      refine ⟨before, l, trail, htrail, after, rfl, by omega, ?_⟩
      rw [hlines, show 1 + before.length = e.line + added before by omega]
      rfl

/-- A value goes on behind a comment, and an option that is repeated is found two lines further
down than without the comments. -/
theorem parse_of_rows_of_commented_value :
    let rows : List Row := [
      .comment [] ';' " top".toList (List.all_eq_true.mp rfl) (by decide),
      .line "[A]".toList ['\t'] (List.all_eq_true.mp rfl),
      .line "k=1".toList [' ', ' '] (List.all_eq_true.mp rfl),
      .comment [' '] '#' " between".toList (List.all_eq_true.mp rfl) (by decide),
      .line "  more".toList [] (List.all_eq_true.mp rfl),
      .line "K: 2".toList ['\r'] (List.all_eq_true.mp rfl)]
    let text := "[A]\nk=1\n  more\nK: 2"
    let laid := "; top\r\n[A]\t\r\nk=1  \n # between\r\n  more\r\nK: 2\r\r\n"
    text.toList.head? ≠ some '\ufeff' ∧ Lined (contents rows) text.toList ∧
      Lined (rows.map Row.laid) laid.toList ∧
      parse text = .error ⟨4, .repeatedOption "A" "k"⟩ ∧
      parse laid = .error ⟨6, .repeatedOption "A" "k"⟩ := by
  intro rows text laid
  have hmark : text.toList.head? ≠ some '\ufeff' := by decide
  have htext : Lined (contents rows) text.toList := by
    have hends : text.toList = "[A]".toList ++ '\n' :: ("k=1".toList ++ '\n' ::
        ("  more".toList ++ '\n' :: "K: 2".toList)) := by decide
    rw [hends]
    exact .fed (by decide) (.fed (by decide) (.fed (by decide) (.last (by decide))))
  have hlaid : Lined (rows.map Row.laid) laid.toList := by
    have hends : laid.toList = "; top".toList ++ '\r' :: '\n' :: ("[A]\t".toList ++ '\r' :: '\n' ::
        ("k=1  ".toList ++ '\n' :: (" # between".toList ++ '\r' :: '\n' ::
          ("  more".toList ++ '\r' :: '\n' ::
            ("K: 2\r".toList ++ '\r' :: '\n' :: []))))) := by decide
    have hrows : rows.map Row.laid = ["; top".toList, "[A]\t".toList, "k=1  ".toList,
        " # between".toList, "  more".toList, "K: 2\r".toList] := by decide
    rw [hends, hrows]
    exact .returned (by decide) (.returned (by decide) (.fed (by decide) (.returned (by decide)
      (.returned (by decide) (.returned (by decide) .nil)))))
  have hfailed : parse text = .error ⟨4, .repeatedOption "A" "k"⟩ := by decide +kernel
  obtain ⟨before, l, trail, htrail, after, hrows, hnumber, hparse⟩ :=
    ((parse_of_rows hmark).2 rows laid htext hlaid).2 _ hfailed
  have hadded : added before = 2 := by
    have hbefore : before = rows.take before.length := by
      rw [hrows, List.take_left]
    have hlength : before.length < 6 := by
      have hall : rows.length = before.length + (after.length + 1) := by
        rw [hrows, List.length_append, List.length_cons]
      have : rows.length = 6 := rfl
      omega
    have hcount : ∀ k < 6, (contents (rows.take k)).length + 1 = 4 → added (rows.take k) = 2 := by
      decide
    rw [hbefore] at hnumber ⊢
    exact hcount _ hlength hnumber
  rw [hadded] at hparse
  exact ⟨hmark, htext, hlaid, hfailed, hparse⟩

end Ini
end PadRelay
