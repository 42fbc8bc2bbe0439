import PadRelay.Proofs.Ini.Layout
import PadRelay.Proofs.Ini.Roundtrip

/-!
# PadRelay.Proofs.Ini.Errors

Why a text is no configuration: the first line that does not fit decides, and nothing behind it.

* `IsHeader`, `IsOption`, `IsUnreadable`: what trimmed content can be, said of its characters.
* `Reading.Fresh`: a line with content that does not continue a value.
* `Offends`: when a line does not fit behind others, one case for each cause.
* `Reading.readLine_error_iff`: a line fails for a cause exactly if it offends so.
* `Reading.readLines_error_iff`, `Reading.readLines_ok_iff`: some lines, by induction.
* `parse_error_at_first_offence`: a text.
-/

namespace PadRelay
namespace Ini

open Text (Lined)

/-! ## Content -/

/-- A name in brackets. -/
def IsHeader (text : List Char) (name : String) : Prop := text = '[' :: (name.toList ++ [']'])

/-- A text in front of its first separator, and what is behind it. -/
def SplitsAt (text front back : List Char) : Prop :=
  ∃ sep, text = front ++ sep :: back ∧ isSeparator sep = true ∧ ∀ c ∈ front, isSeparator c = false

/-- No header, but a key in front of a separator. -/
def IsOption (text : List Char) (key : String) : Prop :=
  (∀ name, ¬ IsHeader text name) ∧ ∃ front back, SplitsAt text front back ∧
    Text.trim front ≠ [] ∧ key = String.ofList (Text.lowercase (Text.trim front))

/-- Neither a header nor an option: there is no separator, or nothing in front of it. -/
def IsUnreadable (text : List Char) : Prop :=
  (∀ name, ¬ IsHeader text name) ∧ ((∀ c ∈ text, isSeparator c = false) ∨
    ∃ front back, SplitsAt text front back ∧ Text.trim front = [])

theorem headerName?_eq_some_iff {text : List Char} {name : String} :
    headerName? text = some name ↔ IsHeader text name := by
  rw [IsHeader]
  constructor
  · intro h
    unfold headerName? at h
    split at h
    · next rest =>
      split at h
      · next hlast =>
        cases h
        obtain ⟨init, rfl⟩ := List.getLast?_eq_some_iff.mp hlast
        rw [List.dropLast_concat, String.toList_ofList]
      · cases h
    · cases h
  · rintro rfl
    rw [headerName?, List.getLast?_concat, if_pos rfl, List.dropLast_concat, String.ofList_toList]

theorem headerName?_eq_none_iff {text : List Char} :
    headerName? text = none ↔ ∀ name, ¬ IsHeader text name := by
  rw [Option.eq_none_iff_forall_ne_some]
  exact forall_congr' fun name => not_congr headerName?_eq_some_iff

theorem SplitsAt.dropWhile_eq {text front back : List Char} (h : SplitsAt text front back) :
    ∃ sep, text.dropWhile (!isSeparator ·) = sep :: back ∧
      text.takeWhile (!isSeparator ·) = front := by
  obtain ⟨sep, rfl, hsep, hfront⟩ := h
  have hpos : ∀ c ∈ front, (!isSeparator c) = true := by
    intro c hc
    rw [hfront c hc]
    rfl
  refine ⟨sep, ?_, ?_⟩
  · rw [List.dropWhile_append_of_pos hpos, List.dropWhile_cons, hsep]
    rfl
  · rw [List.takeWhile_append_of_pos hpos, List.takeWhile_cons, hsep]
    exact List.append_nil _

theorem splitsAt_or_free (text : List Char) :
    (∃ front back, SplitsAt text front back) ∨ ∀ c ∈ text, isSeparator c = false := by
  induction text with
  | nil => exact Or.inr (fun c hc => absurd hc List.not_mem_nil)
  | cons first text ih =>
    cases hfirst : isSeparator first with
    | true => exact Or.inl ⟨[], text, first, rfl, hfirst, fun c hc => absurd hc List.not_mem_nil⟩
    | false =>
      rcases ih with ⟨front, back, sep, rfl, hsep, hfront⟩ | hfree
      · exact Or.inl ⟨first :: front, back, sep, rfl, hsep,
          List.forall_mem_cons.mpr ⟨hfirst, hfront⟩⟩
      · exact Or.inr (List.forall_mem_cons.mpr ⟨hfirst, hfree⟩)

theorem splitOption?_of_splitsAt {text front back : List Char} (h : SplitsAt text front back) :
    splitOption? text = if (Text.trim front).isEmpty then none
      else some (String.ofList (Text.lowercase (Text.trim front)),
        String.ofList (Text.trim back)) := by
  obtain ⟨sep, hdrop, htake⟩ := h.dropWhile_eq
  simp only [splitOption?, hdrop, htake]

theorem splitOption?_of_free {text : List Char} (h : ∀ c ∈ text, isSeparator c = false) :
    splitOption? text = none := by
  have hdrop : text.dropWhile (!isSeparator ·) = [] := by
    rw [List.dropWhile_eq_nil_iff]
    intro c hc
    rw [h c hc]
    rfl
  simp only [splitOption?, hdrop]

/-! ## Statements -/

variable {text : List Char} {name key : String}

theorem statement_of_header (h : IsHeader text name) : Statement.ofText text = .header name := by
  rw [Statement.ofText, headerName?_eq_some_iff.mpr h]

theorem statement_of_option (h : IsOption text key) :
    ∃ value, Statement.ofText text = .option key value := by
  obtain ⟨hheader, front, back, hsplit, hne, rfl⟩ := h
  refine ⟨String.ofList (Text.trim back), ?_⟩
  rw [Statement.ofText, headerName?_eq_none_iff.mpr hheader, splitOption?_of_splitsAt hsplit,
    if_neg (by rwa [List.isEmpty_iff])]

theorem statement_of_unreadable (h : IsUnreadable text) :
    Statement.ofText text = .unreadable := by
  obtain ⟨hheader, hfree | ⟨front, back, hsplit, hnil⟩⟩ := h
  · rw [Statement.ofText, headerName?_eq_none_iff.mpr hheader, splitOption?_of_free hfree]
  · rw [Statement.ofText, headerName?_eq_none_iff.mpr hheader, splitOption?_of_splitsAt hsplit,
      if_pos (by rw [hnil]; rfl)]

/-- Content is one of the three. -/
theorem exists_statement (text : List Char) :
    (∃ name, IsHeader text name) ∨ (∃ key, IsOption text key) ∨ IsUnreadable text := by
  by_cases hheader : ∃ name, IsHeader text name
  · exact Or.inl hheader
  · have hnone : ∀ name, ¬ IsHeader text name := not_exists.mp hheader
    rcases splitsAt_or_free text with ⟨front, back, hsplit⟩ | hfree
    · by_cases hnil : Text.trim front = []
      · exact Or.inr (Or.inr ⟨hnone, Or.inr ⟨front, back, hsplit, hnil⟩⟩)
      · exact Or.inr (Or.inl ⟨_, hnone, front, back, hsplit, hnil, rfl⟩)
    · exact Or.inr (Or.inr ⟨hnone, Or.inl hfree⟩)

theorem isHeader_iff : IsHeader text name ↔ Statement.ofText text = .header name := by
  refine ⟨statement_of_header, fun h => ?_⟩
  rcases exists_statement text with ⟨name', hname⟩ | ⟨key, hkey⟩ | hunreadable
  · rw [statement_of_header hname, Statement.header.injEq] at h
    exact h ▸ hname
  · obtain ⟨value, hvalue⟩ := statement_of_option hkey
    rw [hvalue] at h
    cases h
  · rw [statement_of_unreadable hunreadable] at h
    cases h

theorem isOption_iff : IsOption text key ↔ ∃ value, Statement.ofText text = .option key value := by
  refine ⟨statement_of_option, fun ⟨value, h⟩ => ?_⟩
  rcases exists_statement text with ⟨name, hname⟩ | ⟨key', hkey⟩ | hunreadable
  · rw [statement_of_header hname] at h
    cases h
  · obtain ⟨value', hvalue⟩ := statement_of_option hkey
    rw [hvalue, Statement.option.injEq] at h
    exact h.1 ▸ hkey
  · rw [statement_of_unreadable hunreadable] at h
    cases h

theorem isUnreadable_iff : IsUnreadable text ↔ Statement.ofText text = .unreadable := by
  refine ⟨statement_of_unreadable, fun h => ?_⟩
  rcases exists_statement text with ⟨name, hname⟩ | ⟨key, hkey⟩ | hunreadable
  · rw [statement_of_header hname] at h
    cases h
  · obtain ⟨value, hvalue⟩ := statement_of_option hkey
    rw [hvalue] at h
    cases h
  · exact hunreadable

/-! ## One line -/

namespace Reading

variable {r r' : Reading} {l : List Char} {cause : Cause}

/-- A line that is neither blank nor a comment, and does not continue a value. -/
def Fresh (r : Reading) (l : List Char) : Prop :=
  Text.trim l ≠ [] ∧ (Text.trim l).head? ∉ [some '#', some ';'] ∧
    ¬ (r.valueOpen = true ∧ startsBlank l = true)

theorem readLine_of_fresh (h : r.Fresh l) :
    r.readLine l = match Statement.ofText (Text.trim l) with
      | .header name => r.openSection name
      | .option key value => r.addOption key value
      | .unreadable => .error (.unreadable (String.ofList (Text.trim l))) := by
  obtain ⟨hne, hhead, hopen⟩ := h
  have hcontinues : ¬ (startsBlank l && r.valueOpen) = true := by
    rw [Bool.and_eq_true]
    exact fun h => hopen h.symm
  rw [readLine, ofText_of_trim rfl hne hhead]
  exact if_neg hcontinues

/-- A blank line and a comment are no headers and lead on in the same section, and a continuation
leads on, too. -/
theorem readLine_of_not_fresh (h : ¬ r.Fresh l) :
    ((∀ name, ¬ IsHeader (Text.trim l) name) ∧
        ∃ r', r.readLine l = .ok r' ∧ r'.current? = r.current? ∧
          (r'.valueOpen = true → r.valueOpen = true)) ∨
      r.valueOpen = true ∧ r.readLine l = .ok (r.continueValue (Text.trim l)) := by
  by_cases hnil : Text.trim l = []
  · refine Or.inl ⟨fun name hname => ?_, { r with valueOpen := false }, ?_, rfl, nofun⟩
    · rw [hnil] at hname
      cases hname
    · rw [readLine, Line.ofText, hnil]
  · obtain ⟨c, rest, htrim⟩ := List.exists_cons_of_ne_nil hnil
    by_cases hmark : c = '#' ∨ c = ';'
    · refine Or.inl ⟨fun name hname => ?_, r, ?_, rfl, id⟩
      · rw [htrim] at hname
        obtain ⟨rfl, -⟩ := List.cons.inj hname
        exact absurd hmark (by decide)
      · rw [readLine, Line.ofText, htrim]
        simp only [if_pos hmark]
    · have hhead : (Text.trim l).head? ∉ [some '#', some ';'] := by
        simpa [htrim] using hmark
      have hcontinues : r.valueOpen = true ∧ startsBlank l = true := by
        by_contra hopen
        exact h ⟨hnil, hhead, hopen⟩
      refine Or.inr ⟨hcontinues.1, ?_⟩
      rw [readLine, ofText_of_trim rfl hnil hhead]
      simp only [hcontinues.1, hcontinues.2, Bool.and_self, if_true]

theorem openSection_error_iff : r.openSection name = .error cause ↔
    name ≠ defaultsName ∧ (∃ s ∈ r.profile.sections, s.name = name) ∧
      cause = .repeatedSection name := by
  have hnamed : r.sections.any (·.name == name) = true ↔
      ∃ s ∈ r.profile.sections, s.name = name := by
    simp [profile, Draft.toSection]
  unfold openSection
  split
  · next hdefaults =>
    constructor
    · intro h
      cases h
    · exact fun h => absurd hdefaults h.1
  · next hne =>
    split
    · next hany =>
      constructor
      · intro h
        cases h
        exact ⟨hne, hnamed.mp hany, rfl⟩
      · rintro ⟨-, -, rfl⟩
        rfl
    · next hany =>
      constructor
      · intro h
        cases h
      · exact fun h => absurd (hnamed.mpr h.2.1) hany

theorem addOption_error_iff {value : String} : r.addOption key value = .error cause ↔
    (r.current? = none ∧ cause = .outsideSection) ∨
      ∃ d, r.current? = some d ∧ key ∈ d.entries.map Prod.fst ∧
        cause = .repeatedOption d.name key := by
  unfold addOption
  cases hcurrent : r.current? with
  | none =>
    constructor
    · intro h
      cases h
      exact Or.inl ⟨rfl, rfl⟩
    · rintro (⟨-, rfl⟩ | ⟨d, hd, -⟩)
      · rfl
      · cases hd
  | some d =>
    have hkey : d.hasKey key = true ↔ key ∈ d.entries.map Prod.fst := by
      simp [Draft.hasKey]
    simp only
    split
    · next hhas =>
      constructor
      · intro h
        cases h
        exact Or.inr ⟨d, rfl, hkey.mp hhas, rfl⟩
      · rintro (⟨hd, -⟩ | ⟨_, hd, -, rfl⟩)
        · cases hd
        · cases hd
          rfl
    · next hhas =>
      constructor
      · intro h
        cases h
      · rintro (⟨hd, -⟩ | ⟨_, hd, hin, -⟩)
        · cases hd
        · cases hd
          exact absurd (hkey.mpr hin) hhas

/-! ## Which section is open -/

theorem current?_setCurrent {d : Draft} (h : r.current? = some d) (d' : Draft) :
    (r.setCurrent d').current? = some d' := by
  obtain ⟨defaults, sections, place, valueOpen⟩ := r
  cases place with
  | nowhere => cases h
  | defaults => rfl
  | newest => rfl

theorem current?_openSection (h : r.openSection name = .ok r') : r'.current? ≠ none := by
  unfold openSection at h
  split at h
  · cases h
    exact nofun
  · split at h
    · cases h
    · cases h
      exact nofun

/-- A value is open only in a section. -/
def Housed (r : Reading) : Prop := r.current? = none → r.valueOpen = false

/-- A line that leads on leaves the loop outside of any section if it was and the line is no
header. -/
theorem Housed.readLine (h : r.Housed) (hread : r.readLine l = .ok r') :
    r'.Housed ∧
      (r'.current? = none ↔ r.current? = none ∧ ∀ name, ¬ IsHeader (Text.trim l) name) := by
  have hinside : ∀ d, r.current? = some d → r'.current? ≠ none →
      r'.Housed ∧
        (r'.current? = none ↔ r.current? = none ∧ ∀ name, ¬ IsHeader (Text.trim l) name) := by
    intro d hd hd'
    refine ⟨fun hnone => absurd hnone hd', iff_of_false hd' ?_⟩
    rw [hd]
    exact fun h => Option.some_ne_none d h.1
  by_cases hfresh : r.Fresh l
  · rw [readLine_of_fresh hfresh] at hread
    rcases exists_statement (Text.trim l) with ⟨name, hname⟩ | ⟨key, hkey⟩ | hunreadable
    · rw [statement_of_header hname] at hread
      have hopened := current?_openSection hread
      exact ⟨fun hnone => absurd hnone hopened, iff_of_false hopened fun hno => hno.2 name hname⟩
    · obtain ⟨value, hstatement⟩ := statement_of_option hkey
      rw [hstatement] at hread
      simp only [addOption] at hread
      split at hread
      · cases hread
      · next d hd =>
        split at hread
        · cases hread
        · cases hread
          refine hinside d hd ?_
          rw [show ({ r.setCurrent (d.add key value) with valueOpen := true } : Reading) =
            r.holding (d.add key value) from rfl, current?_holding hd]
          exact Option.some_ne_none _
    · rw [statement_of_unreadable hunreadable] at hread
      cases hread
  · rcases readLine_of_not_fresh hfresh with ⟨hheader, s, hs, hcurrent, hopen⟩ | ⟨hopen, hs⟩
    · rw [hs] at hread
      cases hread
      rw [hcurrent]
      refine ⟨fun hnone => ?_, (and_iff_left hheader).symm⟩
      rw [hcurrent] at hnone
      refine Bool.eq_false_iff.mpr fun hvalue => ?_
      exact Bool.false_ne_true ((h hnone).symm.trans (hopen hvalue))
    · rw [hs] at hread
      cases hread
      cases hd : r.current? with
      | none => exact absurd (h hd) (by simp [hopen])
      | some d =>
        have hstill : (r.continueValue (Text.trim l)).current? ≠ none := by
          rw [continueValue, hd]
          simp only [current?_setCurrent hd]
          exact Option.some_ne_none _
        rw [← hd]
        exact hinside d hd hstill

/-- Outside of any section no header came before. -/
theorem Leads.current?_eq_none_iff {before : List (List Char)} (hleads : Leads r before r')
    (h : r.Housed) :
    r'.current? = none ↔
      r.current? = none ∧ ∀ l ∈ before, ∀ name, ¬ IsHeader (Text.trim l) name := by
  induction hleads with
  | nil => simp
  | cons hread _ ih =>
    obtain ⟨hhoused, hfirst⟩ := h.readLine hread
    rw [ih hhoused, hfirst, List.forall_mem_cons, and_assoc]

end Reading

open Reading

/-! ## Lines that do not fit -/

/-- When a line does not fit behind others, which led to this state. -/
def Offends (before : List (List Char)) (r : Reading) (l : List Char) : Cause → Prop
  | .repeatedSection name =>
    r.Fresh l ∧ IsHeader (Text.trim l) name ∧ name ≠ defaultsName ∧
      ∃ s ∈ r.profile.sections, s.name = name
  | .outsideSection =>
    r.Fresh l ∧ (∃ key, IsOption (Text.trim l) key) ∧
      ∀ l' ∈ before, ∀ name, ¬ IsHeader (Text.trim l') name
  | .repeatedOption name key =>
    r.Fresh l ∧ IsOption (Text.trim l) key ∧
      ∃ d, r.current? = some d ∧ d.name = name ∧ key ∈ d.entries.map Prod.fst
  | .unreadable text => r.Fresh l ∧ IsUnreadable (Text.trim l) ∧ text = String.ofList (Text.trim l)

namespace Reading

/-- A line fails for a cause exactly if it offends so. -/
theorem readLine_error_iff {before : List (List Char)} {r : Reading} (h : Leads start before r)
    {l : List Char} {cause : Cause} : r.readLine l = .error cause ↔ Offends before r l cause := by
  have houtside : r.current? = none ↔ ∀ l' ∈ before, ∀ name, ¬ IsHeader (Text.trim l') name := by
    rw [h.current?_eq_none_iff fun _ => rfl]
    exact and_iff_right rfl
  by_cases hfresh : r.Fresh l
  · rw [readLine_of_fresh hfresh]
    cases hs : Statement.ofText (Text.trim l) with
    | header name =>
      have hname : ∀ name', IsHeader (Text.trim l) name' ↔ name = name' := by
        simp [isHeader_iff, hs]
      refine openSection_error_iff.trans ?_
      cases cause <;> grind [Offends, isOption_iff, isUnreadable_iff]
    | option key value =>
      have hkey : ∀ key', IsOption (Text.trim l) key' ↔ key = key' := by
        simp [isOption_iff, hs]
      have hsome : ∃ key', IsOption (Text.trim l) key' := ⟨key, (hkey key).mpr rfl⟩
      refine addOption_error_iff.trans ?_
      rw [houtside]
      cases cause <;> grind [Offends, isHeader_iff, isUnreadable_iff]
    | unreadable =>
      cases cause <;> grind [Offends, isHeader_iff, isOption_iff, isUnreadable_iff]
  · have hok : ∃ r', r.readLine l = .ok r' := by
      rcases readLine_of_not_fresh hfresh with ⟨-, r', hr', -⟩ | ⟨-, hr'⟩
      · exact ⟨r', hr'⟩
      · exact ⟨_, hr'⟩
    obtain ⟨r', hr'⟩ := hok
    rw [hr']
    refine ⟨nofun, fun hoffends => absurd ?_ hfresh⟩
    cases cause <;> exact hoffends.1

/-! ## Lines up to one that does not fit -/

variable {r r' : Reading} {n : Nat} {ls : List (List Char)} {e : ParseError}

theorem readLines_ok_iff : r.readLines n ls = .ok r' ↔ Leads r ls r' := by
  refine ⟨fun h => ?_, fun h => h.readLines n⟩
  induction ls generalizing r n with
  | nil =>
    cases h
    exact .nil
  | cons l ls ih =>
    rw [readLines] at h
    split at h
    · next s hs => exact .cons hs (ih h)
    · cases h

theorem Leads.of_cons {l : List Char} (h : Leads r (l :: ls) r') :
    ∃ s, r.readLine l = .ok s ∧ Leads s ls r' := by
  cases h with
  | cons hline hrest => exact ⟨_, hline, hrest⟩

theorem Leads.of_append {ls' : List (List Char)} (h : Leads r (ls ++ ls') r') :
    ∃ s, Leads r ls s ∧ Leads s ls' r' := by
  induction ls generalizing r with
  | nil => exact ⟨r, .nil, h⟩
  | cons l ls ih =>
    obtain ⟨s, hline, hrest⟩ := h.of_cons
    obtain ⟨t, hls, hls'⟩ := ih hrest
    exact ⟨t, .cons hline hls, hls'⟩

/-- The first line that does not fit decides. -/
theorem readLines_error_iff : r.readLines n ls = .error e ↔
    ∃ before l after r', ls = before ++ l :: after ∧ n + before.length = e.line ∧
      Leads r before r' ∧ r'.readLine l = .error e.cause := by
  constructor
  · intro h
    induction ls generalizing r n with
    | nil => cases h
    | cons l ls ih =>
      rw [readLines] at h
      split at h
      · next s hs =>
        obtain ⟨before, l', after, r', rfl, hnumber, hleads, herror⟩ := ih h
        refine ⟨l :: before, l', after, r', rfl, ?_, .cons hs hleads, herror⟩
        rw [List.length_cons, ← hnumber]
        omega
      · next cause hcause =>
        cases h
        exact ⟨[], l, ls, r, rfl, rfl, .nil, hcause⟩
  · rintro ⟨before, l, after, r', rfl, hnumber, hleads, herror⟩
    induction hleads generalizing n with
    | nil =>
      rw [List.nil_append, readLines, herror]
      have hfirst : n = e.line := hnumber
      rw [hfirst]
    | cons hread _ ih =>
      rw [List.cons_append, readLines, hread]
      refine ih ?_ herror
      rw [← hnumber, List.length_cons]
      omega

end Reading

/-- **A text that is no configuration fails at its first line that offends, for the one cause for
which it does.** The lines before it are read, nothing behind it matters, and no line of a
configuration offends. -/
theorem parse_error_at_first_offence (text : String) :
    (∃ ls, Lined ls text.toList) ∧ ∀ ls, Lined ls text.toList →
      (∀ e, parse text = .error e →
        ∃ before l after r, unmarked ls = before ++ l :: after ∧ before.length + 1 = e.line ∧
          Leads start before r ∧ (∀ cause, Offends before r l cause ↔ cause = e.cause) ∧
          (∀ u us, Lined us u.toList → unmarked us = before → parse u = .ok r.profile) ∧
          ∀ u us more, Lined us u.toList → unmarked us = before ++ l :: more →
            parse u = .error e) ∧
      ∀ p, parse text = .ok p →
        (∀ before l after, unmarked ls = before ++ l :: after →
          ∃ r, Leads start before r ∧ ∀ cause, ¬ Offends before r l cause) ∧
        ∀ u us, Lined us u.toList → unmarked us <+: unmarked ls → ∃ q, parse u = .ok q := by
  refine ⟨⟨_, Text.lined_lines _⟩, fun ls htext => ⟨fun e he => ?_, fun p hp => ?_⟩⟩
  · rw [parse_of_lined htext] at he
    cases hread : start.readLines 1 (unmarked ls) with
    | ok r =>
      rw [hread] at he
      cases he
    | error e' =>
      rw [hread] at he
      cases he
      obtain ⟨before, l, after, r, hls, hnumber, hleads, herror⟩ := readLines_error_iff.mp hread
      refine ⟨before, l, after, r, hls, by omega, hleads, fun cause => ?_, fun u us hu hus => ?_,
        fun u us more hu hus => ?_⟩
      · rw [← readLine_error_iff hleads, herror, Except.error.injEq, eq_comm]
      · rw [parse_of_lined hu, hus, hleads.readLines]
        rfl
      · have hfails : start.readLines 1 (unmarked us) = .error e :=
          readLines_error_iff.mpr ⟨before, l, more, r, hus, hnumber, hleads, herror⟩
        rw [parse_of_lined hu, hfails]
        rfl
  · rw [parse_of_lined htext] at hp
    cases hread : start.readLines 1 (unmarked ls) with
    | error e =>
      rw [hread] at hp
      cases hp
    | ok r =>
      have hleads := readLines_ok_iff.mp hread
      constructor
      · intro before l after hls
        rw [hls] at hleads
        obtain ⟨s, hbefore, hrest⟩ := hleads.of_append
        obtain ⟨s', hline, -⟩ := hrest.of_cons
        refine ⟨s, hbefore, fun cause hoffends => ?_⟩
        rw [(readLine_error_iff hbefore).mpr hoffends] at hline
        cases hline
      · rintro u us hu ⟨more, hmore⟩
        rw [← hmore] at hleads
        obtain ⟨s, hus, -⟩ := hleads.of_append
        rw [parse_of_lined hu, hus.readLines]
        exact ⟨s.profile, rfl⟩

/-- An indented header goes on with a value, and behind a blank line it is a header whose name is
taken. So the same lines with other ends and nothing behind them fail, too; the lines before it are
read, and so are fewer of them. -/
theorem parse_error_at_first_offence_of_indented_header :
    let text := "[A]\nk=1\n [A]\n\n [A]\n=2"
    let other := "[A]\r\nk=1\r\n [A]\r\n\r\n [A]"
    let before := "[A]\nk=1\n [A]\n"
    parse text = .error ⟨5, .repeatedSection "A"⟩ ∧ parse other = .error ⟨5, .repeatedSection "A"⟩ ∧
      parse before = .ok ⟨⟨defaultsName, []⟩, [⟨"A", [("k", "1\n[A]")]⟩]⟩ ∧
      ∃ q, parse "[A]\nk=1" = .ok q := by
  intro text other before
  let lines := ["[A]".toList, "k=1".toList, " [A]".toList, [], " [A]".toList, "=2".toList]
  have htext : Lined lines text.toList := by
    have hends : text.toList = "[A]".toList ++ '\n' :: ("k=1".toList ++ '\n' ::
        (" [A]".toList ++ '\n' :: ([] ++ '\n' :: (" [A]".toList ++ '\n' :: "=2".toList)))) := by
      decide
    rw [hends]
    exact .fed (by decide) (.fed (by decide) (.fed (by decide) (.fed (by decide) (.fed (by decide)
      (.last (by decide))))))
  have hother : Lined (lines.take 5) other.toList := by
    have hends : other.toList = "[A]".toList ++ '\r' :: '\n' :: ("k=1".toList ++ '\r' :: '\n' ::
        (" [A]".toList ++ '\r' :: '\n' :: ([] ++ '\r' :: '\n' :: " [A]".toList))) := by
      decide
    rw [hends]
    exact .returned (by decide) (.returned (by decide) (.returned (by decide) (.returned (by decide)
      (.last (by decide)))))
  have hbefore : Lined (lines.take 3) before.toList := by
    have hends : before.toList = "[A]".toList ++ '\n' :: ("k=1".toList ++ '\n' ::
        (" [A]".toList ++ '\n' :: [])) := by decide
    rw [hends]
    exact .fed (by decide) (.fed (by decide) (.fed (by decide) .nil))
  have hfewer : Lined (lines.take 2) "[A]\nk=1".toList := by
    have hends : "[A]\nk=1".toList = "[A]".toList ++ '\n' :: "k=1".toList := by decide
    rw [hends]
    exact .fed (by decide) (.last (by decide))
  have hfailed : parse text = .error ⟨5, .repeatedSection "A"⟩ := by decide +kernel
  have hread : parse before = .ok ⟨⟨defaultsName, []⟩, [⟨"A", [("k", "1\n[A]")]⟩]⟩ := by
    decide +kernel
  obtain ⟨front, l, back, r, hlines, hnumber, -, -, -, hsame⟩ :=
    ((parse_error_at_first_offence text).2 lines htext).1 _ hfailed
  have hfive : unmarked (lines.take 5) = front ++ l :: [] := by
    have hlength : (front ++ [l]).length = 5 := by
      rw [List.length_append, List.length_singleton]
      exact hnumber
    have htake : unmarked (lines.take 5) = (unmarked lines).take 5 := by decide
    rw [htake, hlines, List.append_cons, List.take_left' hlength]
  obtain ⟨-, hprefix⟩ := ((parse_error_at_first_offence before).2 _ hbefore).2 _ hread
  exact ⟨hfailed, hsame other _ [] hother hfive, hread, hprefix _ _ hfewer (by decide)⟩

end Ini
end PadRelay
