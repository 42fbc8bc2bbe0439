import PadRelay.Ini.Parser
import PadRelay.Proofs.Text.Lines

/-!
# PadRelay.Proofs.Ini.Written

Configurations as they are written, and how one line of them is read.

* `ProfileText`: a written configuration, with the choice of separators and indents. Its parts hold
  what makes them readable: keys and values without white space around them, no key or name twice.
* `ProfileText.text`, `ProfileText.profile`: the text, and what it describes.
* `readLine_header`, `readLine_option`, `readLine_continuation`: one line of each kind, whatever its
  name, key and value hold.
-/

namespace PadRelay
namespace Ini

/-! ## Written configurations -/

/-- A further line of a value, behind the white space that indents it. -/
structure Continuation where
  indent : List Char
  text : String
  indent_ne : indent ≠ [] := by decide
  indent_blank : indent.all Text.isBlank = true := by decide
  indent_line : '\n' ∉ indent := by decide
  text_ne : text.toList ≠ [] := by decide
  text_trim : Text.trim text.toList = text.toList := by decide
  text_line : '\n' ∉ text.toList := by decide
  text_head : text.toList.head? ∉ [some '#', some ';'] := by decide

/-- An option: its key, a separator, the first line of its value and the further ones. -/
structure OptionText where
  key : String
  separator : Char
  first : String
  more : List Continuation
  key_ne : key.toList ≠ [] := by decide
  key_trim : Text.trim key.toList = key.toList := by decide
  key_lower : Text.lowercase key.toList = key.toList := by decide
  key_chars : key.toList.any isSeparator = false := by decide
  key_line : '\n' ∉ key.toList := by decide
  key_head : key.toList.head? ∉ [some '#', some ';', some '['] := by decide
  separator_eq : isSeparator separator = true := by decide
  first_trim : Text.trim first.toList = first.toList := by decide
  first_line : '\n' ∉ first.toList := by decide

/-- A section: its header and its options. -/
structure SectionText where
  name : String
  options : List OptionText
  name_line : '\n' ∉ name.toList := by decide
  keys_nodup : (options.map (·.key)).Nodup := by decide

/-- A configuration: the defaults if there are any, and the sections. -/
structure ProfileText where
  defaults : Option SectionText
  sections : List SectionText
  defaults_name : ∀ s ∈ defaults, s.name = defaultsName := by decide
  sections_name : ∀ s ∈ sections, s.name ≠ defaultsName := by decide
  names_nodup : (sections.map (·.name)).Nodup := by decide

def Continuation.line (l : Continuation) : List Char := l.indent ++ l.text.toList

namespace OptionText

/-- The lines of the value, joined. -/
def value (o : OptionText) : String := "\n".intercalate (o.first :: o.more.map (·.text))

def entry (o : OptionText) : String × String := (o.key, o.value)

def line (o : OptionText) : List Char := o.key.toList ++ o.separator :: o.first.toList

def lines (o : OptionText) : List (List Char) :=
  o.line :: o.more.map Continuation.line

end OptionText

namespace SectionText

def lines (s : SectionText) : List (List Char) :=
  ('[' :: (s.name.toList ++ [']'])) :: s.options.flatMap OptionText.lines

def toSection (s : SectionText) : Section := ⟨s.name, s.options.map OptionText.entry⟩

end SectionText

namespace ProfileText

def lines (p : ProfileText) : List (List Char) :=
  (p.defaults.toList ++ p.sections).flatMap SectionText.lines

def text (p : ProfileText) : String := String.ofList (p.lines.flatMap (· ++ ['\n']))

def profile (p : ProfileText) : Profile :=
  ⟨⟨defaultsName, (p.defaults.map SectionText.toSection).elim [] (·.entries)⟩,
    p.sections.map SectionText.toSection⟩

end ProfileText

/-! ## Lines -/

/-- A line that is neither blank nor a comment, trimmed. -/
theorem ofText_of_trim {raw text : List Char} (htrim : Text.trim raw = text) (hne : text ≠ [])
    (hhead : text.head? ∉ [some '#', some ';']) :
    Line.ofText raw = .content (startsBlank raw) text := by
  obtain ⟨c, rest, rfl⟩ := List.exists_cons_of_ne_nil hne
  have hcomment : ¬ (c = '#' ∨ c = ';') := by
    simpa using hhead
  rw [Line.ofText, htrim]
  simp only [if_neg hcomment]

theorem trim_header (name : List Char) :
    Text.trim ('[' :: (name ++ [']'])) = '[' :: (name ++ [']']) := by
  rw [Text.trim_eq_self_iff, ← List.cons_append, List.getLast?_concat]
  constructor
  · rintro _ ⟨⟩
    decide
  · rintro _ ⟨⟩
    decide

theorem readLine_header (r : Reading) (name : String) :
    r.readLine ('[' :: (name.toList ++ [']'])) = r.openSection name := by
  have hline := ofText_of_trim (trim_header name.toList) (List.cons_ne_nil _ _)
    (by simp only [List.head?_cons]; decide)
  have hname : headerName? ('[' :: (name.toList ++ [']'])) = some name := by
    rw [headerName?, List.getLast?_concat, if_pos rfl, List.dropLast_concat, String.ofList_toList]
  simp only [Reading.readLine, hline, Statement.ofText, hname]
  rfl

namespace OptionText

variable (o : OptionText)

theorem separator_blank : Text.isBlank o.separator = false := by
  have hsep := o.separator_eq
  rw [isSeparator, Bool.or_eq_true, decide_eq_true_eq, decide_eq_true_eq] at hsep
  rcases hsep with h | h <;> rw [h] <;> decide

theorem getLast?_line : ∀ c ∈ o.line.getLast?, Text.isBlank c = false := by
  intro c hc
  rw [line, List.getLast?_append, List.getLast?_cons] at hc
  have hfirst := (Text.trim_eq_self_iff.mp o.first_trim).2
  cases hlast : o.first.toList.getLast? with
  | none =>
    rw [hlast] at hc
    cases hc
    exact o.separator_blank
  | some d =>
    rw [hlast] at hc
    cases hc
    exact hfirst d hlast

theorem head?_line : o.line.head? = o.key.toList.head? := by
  obtain ⟨c, rest, hkey⟩ := List.exists_cons_of_ne_nil o.key_ne
  rw [line, hkey]
  rfl

theorem trim_line : Text.trim o.line = o.line := by
  rw [Text.trim_eq_self_iff, head?_line]
  exact ⟨(Text.trim_eq_self_iff.mp o.key_trim).1, o.getLast?_line⟩

theorem startsBlank_line : startsBlank o.line = false := by
  obtain ⟨c, rest, hkey⟩ := List.exists_cons_of_ne_nil o.key_ne
  have hhead := (Text.trim_eq_self_iff.mp o.key_trim).1
  rw [hkey] at hhead
  rw [line, hkey]
  exact hhead c rfl

theorem headerName?_line : headerName? o.line = none := by
  obtain ⟨c, rest, hkey⟩ := List.exists_cons_of_ne_nil o.key_ne
  have hhead := o.key_head
  rw [hkey] at hhead
  have hne : c ≠ '[' := by
    rintro rfl
    simp at hhead
  rw [line, hkey, List.cons_append]
  unfold headerName?
  split
  · next heq => exact absurd (List.cons.inj heq).1 hne
  · rfl

/-- The key ends at the separator, which is the first one of the line. -/
theorem splitOption?_line : splitOption? o.line = some (o.key, o.first) := by
  have hkey : ∀ c ∈ o.key.toList, (!isSeparator c) = true := by
    intro c hc
    have hany := List.any_eq_false.mp o.key_chars c hc
    simpa using hany
  have hdrop : o.line.dropWhile (!isSeparator ·) = o.separator :: o.first.toList := by
    rw [line, List.dropWhile_append_of_pos hkey, List.dropWhile_cons, o.separator_eq]
    rfl
  have htake : o.line.takeWhile (!isSeparator ·) = o.key.toList := by
    rw [line, List.takeWhile_append_of_pos hkey, List.takeWhile_cons, o.separator_eq]
    exact List.append_nil _
  have hne : o.key.toList.isEmpty = false := by
    rw [List.isEmpty_eq_false_iff]
    exact o.key_ne
  simp only [splitOption?, hdrop, htake, o.key_trim, hne, o.key_lower, o.first_trim,
    String.ofList_toList]
  rfl

end OptionText

theorem OptionText.line_ne (o : OptionText) : o.line ≠ [] := by
  rw [line]
  exact List.append_ne_nil_of_right_ne_nil _ (List.cons_ne_nil _ _)

theorem readLine_option (r : Reading) (o : OptionText) :
    r.readLine o.line = r.addOption o.key o.first := by
  have hhead : o.line.head? ∉ [some '#', some ';'] := by
    rw [o.head?_line]
    intro h
    refine o.key_head ?_
    simp only [List.mem_cons, List.not_mem_nil, or_false] at h ⊢
    exact h.imp_right .inl
  have hline := ofText_of_trim o.trim_line o.line_ne hhead
  rw [o.startsBlank_line] at hline
  simp only [Reading.readLine, hline, Statement.ofText, o.headerName?_line, o.splitOption?_line]
  rfl

theorem readLine_continuation {r : Reading} (l : Continuation) (h : r.valueOpen = true) :
    r.readLine l.line = .ok (r.continueValue l.text.toList) := by
  have htrim : Text.trim l.line = l.text.toList :=
    Text.trim_append (List.all_eq_true.mp l.indent_blank) l.text_trim
  have hblank : startsBlank l.line = true := by
    obtain ⟨c, rest, hindent⟩ := List.exists_cons_of_ne_nil l.indent_ne
    have hc : c ∈ l.indent := by
      rw [hindent]
      exact List.mem_cons_self
    rw [Continuation.line, hindent]
    exact List.all_eq_true.mp l.indent_blank c hc
  have hline := ofText_of_trim htrim l.text_ne l.text_head
  simp only [Reading.readLine, hline, hblank, h]
  rfl

/-! ## The ends of lines -/

/-- A line with something on it, and neither a line feed nor white space at its end. -/
def Sound (l : List Char) : Prop :=
  l ≠ [] ∧ '\n' ∉ l ∧ ∀ c ∈ l.getLast?, Text.isBlank c = false

theorem sound_header {name : List Char} (h : '\n' ∉ name) : Sound ('[' :: (name ++ [']'])) := by
  refine ⟨List.cons_ne_nil _ _, by simp [h], ?_⟩
  exact (Text.trim_eq_self_iff.mp (trim_header name)).2

theorem OptionText.sound_line (o : OptionText) : Sound o.line := by
  refine ⟨o.line_ne, ?_, o.getLast?_line⟩
  have hsep : '\n' ≠ o.separator := by
    intro h
    have hseparator := o.separator_eq
    rw [← h] at hseparator
    cases hseparator
  simp only [line, List.mem_append, List.mem_cons, not_or]
  exact ⟨o.key_line, hsep, o.first_line⟩

theorem Continuation.sound_line (l : Continuation) : Sound l.line := by
  have hlast : l.line.getLast? = l.text.toList.getLast? := by
    obtain ⟨c, hc⟩ := Option.isSome_iff_exists.mp (List.getLast?_isSome.mpr l.text_ne)
    rw [line, List.getLast?_append, hc]
    rfl
  refine ⟨List.append_ne_nil_of_right_ne_nil _ l.text_ne, ?_, ?_⟩
  · rw [line, List.mem_append, not_or]
    exact ⟨l.indent_line, l.text_line⟩
  · rw [hlast]
    exact (Text.trim_eq_self_iff.mp l.text_trim).2

theorem OptionText.sound_lines (o : OptionText) : ∀ l ∈ o.lines, Sound l := by
  intro l hl
  obtain rfl | hl := List.mem_cons.mp hl
  · exact o.sound_line
  · obtain ⟨c, -, rfl⟩ := List.mem_map.mp hl
    exact c.sound_line

theorem SectionText.sound_lines (s : SectionText) : ∀ l ∈ s.lines, Sound l := by
  intro l hl
  obtain rfl | hl := List.mem_cons.mp hl
  · exact sound_header s.name_line
  · obtain ⟨o, -, hl⟩ := List.mem_flatMap.mp hl
    exact o.sound_lines l hl

theorem ProfileText.sound_lines (p : ProfileText) : ∀ l ∈ p.lines, Sound l := by
  intro l hl
  obtain ⟨s, -, hl⟩ := List.mem_flatMap.mp hl
  exact s.sound_lines l hl

theorem Sound.ended {l : List Char} (h : Sound l) : '\n' ∉ l ∧ l.getLast? ≠ some '\r' :=
  ⟨h.2.1, fun hlast => absurd (h.2.2 _ hlast) (by decide)⟩

/-- The text starts with the bracket of a header if there is anything in it. -/
theorem ProfileText.head?_text (p : ProfileText) : ∀ c ∈ p.text.toList.head?, c = '[' := by
  rw [text, String.toList_ofList, lines]
  cases p.defaults.toList ++ p.sections with
  | nil => rintro _ ⟨⟩
  | cons s ss =>
    rintro _ ⟨⟩
    rfl

end Ini
end PadRelay
