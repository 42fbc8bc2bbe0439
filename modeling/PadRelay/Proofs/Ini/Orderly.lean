import Mathlib.Data.List.Nodup
import PadRelay.Proofs.Ini.Errors

/-!
# PadRelay.Proofs.Ini.Orderly

What every configuration that was read is like.

* `IsKey`, `IsValue`: what keys and values are made of.
* `headersFrom`: the names in the headers of some lines.
* `Ordered`, `Profile.Orderly`: no key and no name twice, all keys and values as above.
* `Reading.Reads`: what a line that is read does, one case for each kind of line.
* `Reading.Orderly.readLine`: what a line keeps. `Reading.Leads.names_eq`: the sections that lines
  add, by induction on them.
* `orderly_of_parse`, `Profile.Distinct.get?_eq_some_iff`: a text, and what is found in what it
  describes.
* `parse_orderly`: both of every text that is read.
-/

namespace PadRelay
namespace Ini

/-! ## Keys and values -/

/-- A key: the folded form of a text without white space around it, separators and line feeds. -/
def IsKey (key : String) : Prop :=
  ∃ written : String, written ≠ "" ∧ Text.trim written.toList = written.toList ∧
    '\n' ∉ written.toList ∧ (∀ c ∈ written.toList, isSeparator c = false) ∧ key = foldKey written

/-- A line without white space around it. -/
def IsTrimmedLine (line : String) : Prop :=
  Text.trim line.toList = line.toList ∧ '\n' ∉ line.toList

/-- A value: trimmed lines, of which all but the first have something on them and are no
comments. -/
def IsValue (value : String) : Prop :=
  ∃ first more, value = "\n".intercalate (first :: more) ∧ IsTrimmedLine first ∧
    ∀ line ∈ more, IsTrimmedLine line ∧ line ≠ "" ∧ line.toList.head? ∉ [some '#', some ';']

theorem ofList_ne_empty {cs : List Char} (h : cs ≠ []) : String.ofList cs ≠ "" := by
  intro heq
  have hlist := congrArg String.toList heq
  rw [String.toList_ofList] at hlist
  exact h hlist

theorem isTrimmedLine_trim {cs : List Char} (h : '\n' ∉ cs) :
    IsTrimmedLine (String.ofList (Text.trim cs)) := by
  rw [IsTrimmedLine, String.toList_ofList]
  exact ⟨Text.trim_trim cs, fun hin => h (Text.mem_of_mem_trim hin)⟩

theorem isValue_of_isTrimmedLine {line : String} (h : IsTrimmedLine line) : IsValue line :=
  ⟨line, [], rfl, h, nofun⟩

theorem intercalate_concat (first line : String) (more : List String) :
    "\n".intercalate (first :: (more ++ [line])) =
      "\n".intercalate (first :: more) ++ "\n" ++ line := by
  induction more generalizing first with
  | nil => rfl
  | cons l more ih => exact ih (first ++ "\n" ++ l)

/-- A value goes on with one more line. -/
theorem IsValue.concat {value line : String} (h : IsValue value) (htrim : IsTrimmedLine line)
    (hne : line ≠ "") (hhead : line.toList.head? ∉ [some '#', some ';']) :
    IsValue (value ++ "\n" ++ line) := by
  obtain ⟨first, more, rfl, hfirst, hmore⟩ := h
  refine ⟨first, more ++ [line], (intercalate_concat first line more).symm, hfirst, ?_⟩
  rw [List.forall_mem_append]
  exact ⟨hmore, List.forall_mem_singleton.mpr ⟨htrim, hne, hhead⟩⟩

/-- An option has a key, and its value is one line. -/
theorem isKey_of_splitOption? {text : List Char} {key value : String} (hline : '\n' ∉ text)
    (h : splitOption? text = some (key, value)) : IsKey key ∧ IsTrimmedLine value := by
  rcases splitsAt_or_free text with ⟨front, back, hsplit⟩ | hfree
  · rw [splitOption?_of_splitsAt hsplit] at h
    obtain ⟨sep, rfl, -, hfront⟩ := hsplit
    simp only [List.mem_append, List.mem_cons, not_or] at hline
    split at h
    · cases h
    · next hne =>
      rw [List.isEmpty_iff] at hne
      cases h
      refine ⟨⟨String.ofList (Text.trim front), ofList_ne_empty hne, ?_, ?_, ?_, ?_⟩,
        isTrimmedLine_trim hline.2.2⟩
      · exact (isTrimmedLine_trim hline.1).1
      · exact (isTrimmedLine_trim hline.1).2
      · rw [String.toList_ofList]
        exact fun c hc => hfront c (Text.mem_of_mem_trim hc)
      · rw [foldKey, String.toList_ofList]
  · rw [splitOption?_of_free hfree] at h
    cases h

/-! ## Orderly configurations -/

/-- The options of a section: no key twice, and keys and values made as they should be. -/
structure Ordered (entries : List (String × String)) : Prop where
  keys_nodup : (entries.map Prod.fst).Nodup
  keys : ∀ e ∈ entries, IsKey e.1
  values : ∀ e ∈ entries, IsValue e.2

theorem ordered_nil : Ordered [] := ⟨List.nodup_nil, nofun, nofun⟩

theorem Ordered.reverse {entries : List (String × String)} (h : Ordered entries) :
    Ordered entries.reverse where
  keys_nodup := by
    rw [List.map_reverse, List.nodup_reverse]
    exact h.keys_nodup
  keys := fun e he => h.keys e (List.mem_reverse.mp he)
  values := fun e he => h.values e (List.mem_reverse.mp he)

theorem Ordered.cons {entries : List (String × String)} {key value : String}
    (h : Ordered entries) (hnew : key ∉ entries.map Prod.fst) (hkey : IsKey key)
    (hvalue : IsValue value) : Ordered ((key, value) :: entries) where
  keys_nodup := List.nodup_cons.mpr ⟨hnew, h.keys_nodup⟩
  keys := List.forall_mem_cons.mpr ⟨hkey, h.keys⟩
  values := List.forall_mem_cons.mpr ⟨hvalue, h.values⟩

theorem Ordered.of_cons {entries : List (String × String)} {key value : String}
    (h : Ordered ((key, value) :: entries)) :
    Ordered entries ∧ key ∉ entries.map Prod.fst ∧ IsKey key ∧ IsValue value := by
  obtain ⟨hnew, hnodup⟩ := List.nodup_cons.mp h.keys_nodup
  obtain ⟨hkey, hkeys⟩ := List.forall_mem_cons.mp h.keys
  obtain ⟨hvalue, hvalues⟩ := List.forall_mem_cons.mp h.values
  exact ⟨⟨hnodup, hkeys, hvalues⟩, hnew, hkey, hvalue⟩

/-- The names in the headers of lines. Where a value is open, an indented line goes on with it and
is no header. -/
def headersFrom (valueOpen : Bool) : List (List Char) → List String
  | [] => []
  | l :: ls =>
    match Line.ofText l with
    | .blank => headersFrom false ls
    | .comment => headersFrom valueOpen ls
    | .content indented text =>
      if indented && valueOpen then headersFrom true ls
      else
        match headerName? text with
        | some name => name :: headersFrom false ls
        | none => headersFrom true ls

/-- No name and no key is there twice. -/
structure Profile.Distinct (p : Profile) : Prop where
  names_nodup : (p.sections.map (·.name)).Nodup
  keys_nodup : ∀ s ∈ p.defaults :: p.sections, (s.entries.map Prod.fst).Nodup

/-- A configuration with these headers, as it is when it was read. -/
structure Profile.Orderly (headers : List String) (p : Profile) : Prop where
  /-- The sections stand in the order of their headers. -/
  names : p.sections.map (·.name) = headers.filter (· ≠ defaultsName)
  names_nodup : (p.sections.map (·.name)).Nodup
  names_ne : defaultsName ∉ p.sections.map (·.name)
  defaults_name : p.defaults.name = defaultsName
  ordered : ∀ s ∈ p.defaults :: p.sections, Ordered s.entries

theorem Profile.Orderly.distinct {headers : List String} {p : Profile} (h : p.Orderly headers) :
    p.Distinct :=
  ⟨h.names_nodup, fun s hs => (h.ordered s hs).keys_nodup⟩

/-! ## One line -/

theorem ofText_eq_content {raw text : List Char} {indented : Bool}
    (h : Line.ofText raw = .content indented text) :
    text = Text.trim raw ∧ text ≠ [] ∧ text.head? ∉ [some '#', some ';'] := by
  unfold Line.ofText at h
  split at h
  · cases h
  · next c rest htrim =>
    split at h
    · cases h
    · next hmark =>
      cases h
      exact ⟨htrim.symm, List.cons_ne_nil _ _, by simpa using hmark⟩

namespace Reading

variable {r r' : Reading} {l : List Char}

/-- What a line that is read does. -/
inductive Reads (r : Reading) (l : List Char) : Reading → Prop where
  | blank : Line.ofText l = .blank → Reads r l { r with valueOpen := false }
  | comment : Line.ofText l = .comment → Reads r l r
  | continuation {indented : Bool} {text : List Char} :
      Line.ofText l = .content indented text → (indented && r.valueOpen) = true →
        Reads r l (r.continueValue text)
  | header {indented : Bool} {text : List Char} {name : String} {r' : Reading} :
      Line.ofText l = .content indented text → (indented && r.valueOpen) = false →
        headerName? text = some name → r.openSection name = .ok r' → Reads r l r'
  | option {indented : Bool} {text : List Char} {key value : String} {r' : Reading} :
      Line.ofText l = .content indented text → (indented && r.valueOpen) = false →
        headerName? text = none → splitOption? text = some (key, value) →
        r.addOption key value = .ok r' → Reads r l r'

theorem reads_of_readLine (h : r.readLine l = .ok r') : Reads r l r' := by
  unfold readLine at h
  split at h
  · next hline =>
    cases h
    exact .blank hline
  · next hline =>
    cases h
    exact .comment hline
  · next indented text hline =>
    split at h
    · next hopen =>
      cases h
      exact .continuation hline hopen
    · next hopen =>
      rw [Bool.not_eq_true] at hopen
      unfold Statement.ofText at h
      cases hname : headerName? text with
      | some name =>
        rw [hname] at h
        exact .header hline hopen hname h
      | none =>
        rw [hname] at h
        cases hoption : splitOption? text with
        | some option =>
          rw [hoption] at h
          exact .option hline hopen hname hoption h
        | none =>
          rw [hoption] at h
          cases h

/-- A header goes back to the defaults or starts a section of a new name. -/
theorem openSection_cases {name : String} (h : r.openSection name = .ok r') :
    (name = defaultsName ∧ r' = { r with place := .defaults, valueOpen := false }) ∨
      name ≠ defaultsName ∧ name ∉ r.sections.map (·.name) ∧
        r' = { r with
          sections := ⟨name, []⟩ :: r.sections, place := .newest, valueOpen := false } := by
  unfold openSection at h
  split at h
  · next hdefaults =>
    cases h
    exact .inl ⟨hdefaults, rfl⟩
  · next hne =>
    split at h
    · cases h
    · next hany =>
      cases h
      exact .inr ⟨hne, by simpa using hany, rfl⟩

/-- An option goes to the current section, where its key is new. -/
theorem addOption_cases {key value : String} (h : r.addOption key value = .ok r') :
    ∃ d, r.current? = some d ∧ key ∉ d.entries.map Prod.fst ∧
      r' = r.holding (d.add key value) := by
  unfold addOption at h
  split at h
  · cases h
  · next d hd =>
    split at h
    · cases h
    · next hkey =>
      cases h
      exact ⟨d, hd, by simpa [Draft.hasKey] using hkey, rfl⟩

/-- What holds of a configuration while it is read. -/
structure Orderly (r : Reading) : Prop where
  names_nodup : (r.sections.map (·.name)).Nodup
  names_ne : defaultsName ∉ r.sections.map (·.name)
  defaults_name : r.defaults.name = defaultsName
  ordered : ∀ d ∈ r.defaults :: r.sections, Ordered d.entries

theorem orderly_start : start.Orderly where
  names_nodup := List.nodup_nil
  names_ne := nofun
  defaults_name := rfl
  ordered := List.forall_mem_singleton.mpr ordered_nil

section

variable {d d' : Draft}

theorem names_setCurrent (hcurrent : r.current? = some d) (hname : d'.name = d.name) :
    (r.setCurrent d').sections.map (·.name) = r.sections.map (·.name) := by
  obtain ⟨defaults, sections, place, valueOpen⟩ := r
  cases place with
  | nowhere => cases hcurrent
  | defaults => rfl
  | newest =>
    obtain ⟨more, rfl⟩ := List.head?_eq_some_iff.mp hcurrent
    exact congrArg (· :: more.map (·.name)) hname

theorem Orderly.current (h : r.Orderly) (hcurrent : r.current? = some d) : Ordered d.entries := by
  obtain ⟨defaults, sections, place, valueOpen⟩ := r
  refine h.ordered d ?_
  cases place with
  | nowhere => cases hcurrent
  | defaults =>
    cases hcurrent
    exact List.mem_cons_self
  | newest => exact List.mem_cons_of_mem _ (List.mem_of_head? hcurrent)

theorem Orderly.setCurrent (h : r.Orderly) (hcurrent : r.current? = some d)
    (hname : d'.name = d.name) (hentries : Ordered d'.entries) : (r.setCurrent d').Orderly := by
  have hnames := names_setCurrent hcurrent hname
  have hnodup := hnames ▸ h.names_nodup
  have hne := hnames ▸ h.names_ne
  obtain ⟨defaults, sections, place, valueOpen⟩ := r
  obtain ⟨hdefaults, hsections⟩ := List.forall_mem_cons.mp h.ordered
  cases place with
  | nowhere => cases hcurrent
  | defaults =>
    cases hcurrent
    exact ⟨hnodup, hne, hname.trans h.defaults_name, List.forall_mem_cons.mpr ⟨hentries, hsections⟩⟩
  | newest =>
    obtain ⟨more, rfl⟩ := List.head?_eq_some_iff.mp hcurrent
    obtain ⟨-, hmore⟩ := List.forall_mem_cons.mp hsections
    exact ⟨hnodup, hne, h.defaults_name,
      List.forall_mem_cons.mpr ⟨hdefaults, List.forall_mem_cons.mpr ⟨hentries, hmore⟩⟩⟩

/-- Whether a value is open is of no interest. -/
theorem Orderly.valueOpen (h : r.Orderly) (valueOpen : Bool) :
    Orderly { r with valueOpen } := ⟨h.names_nodup, h.names_ne, h.defaults_name, h.ordered⟩

theorem Orderly.openSection (h : r.Orderly) {name : String} (hopen : r.openSection name = .ok r') :
    r'.Orderly := by
  rcases openSection_cases hopen with ⟨-, rfl⟩ | ⟨hne, hnew, rfl⟩
  · exact ⟨h.names_nodup, h.names_ne, h.defaults_name, h.ordered⟩
  · obtain ⟨hdefaults, hsections⟩ := List.forall_mem_cons.mp h.ordered
    refine ⟨List.nodup_cons.mpr ⟨hnew, h.names_nodup⟩, ?_, h.defaults_name,
      List.forall_mem_cons.mpr ⟨hdefaults, List.forall_mem_cons.mpr ⟨ordered_nil, hsections⟩⟩⟩
    rw [List.map_cons, List.mem_cons, not_or]
    exact ⟨Ne.symm hne, h.names_ne⟩

theorem Orderly.continueValue (h : r.Orderly) {text : List Char}
    (htrim : IsTrimmedLine (.ofList text)) (hne : text ≠ [])
    (hhead : text.head? ∉ [some '#', some ';']) : (r.continueValue text).Orderly := by
  unfold Reading.continueValue
  split
  · exact h
  · next d hd =>
    have hentries := h.current hd
    obtain ⟨name, entries⟩ := d
    cases entries with
    | nil => exact h.setCurrent hd rfl hentries
    | cons e entries =>
      obtain ⟨key, value⟩ := e
      obtain ⟨hrest, hnew, hkey, hvalue⟩ := hentries.of_cons
      have hhead' : (String.ofList text).toList.head? ∉ [some '#', some ';'] := by
        rwa [String.toList_ofList]
      exact h.setCurrent hd rfl
        (hrest.cons hnew hkey (hvalue.concat htrim (ofList_ne_empty hne) hhead'))

theorem Orderly.addOption (h : r.Orderly) {key value : String} (hkey : IsKey key)
    (hvalue : IsValue value) (hadd : r.addOption key value = .ok r') : r'.Orderly := by
  obtain ⟨d, hd, hnew, rfl⟩ := addOption_cases hadd
  have hset : (r.setCurrent (d.add key value)).Orderly :=
    h.setCurrent hd rfl ((h.current hd).cons hnew hkey hvalue)
  exact hset.valueOpen true

/-- A line that is read keeps it all. -/
theorem Orderly.readLine (h : r.Orderly) (hline : '\n' ∉ l) (hread : r.readLine l = .ok r') :
    r'.Orderly := by
  have hfree : ∀ {text : List Char} {indented : Bool}, Line.ofText l = .content indented text →
      '\n' ∉ text := by
    intro text indented htext hin
    rw [(ofText_eq_content htext).1] at hin
    exact hline (Text.mem_of_mem_trim hin)
  cases reads_of_readLine hread with
  | blank => exact h.valueOpen false
  | comment => exact h
  | continuation htext hopen =>
    obtain ⟨htrim, hne, hhead⟩ := ofText_eq_content htext
    exact h.continueValue (htrim ▸ isTrimmedLine_trim hline) hne hhead
  | header htext _ _ hopened => exact h.openSection hopened
  | option htext _ _ hoption hadded =>
    obtain ⟨hkey, hvalue⟩ := isKey_of_splitOption? (hfree htext) hoption
    exact h.addOption hkey (isValue_of_isTrimmedLine hvalue) hadded

end

/-! ## Some lines -/

theorem Leads.orderly {ls : List (List Char)} (hleads : Leads r ls r') (h : r.Orderly)
    (hlines : ∀ l ∈ ls, '\n' ∉ l) : r'.Orderly := by
  induction hleads with
  | nil => exact h
  | cons hread _ ih =>
    obtain ⟨hline, hmore⟩ := List.forall_mem_cons.mp hlines
    exact ih (h.readLine hline hread) hmore

def names (r : Reading) : List String := (r.sections.map (·.name)).reverse

theorem names_of_current {d d' : Draft} (hcurrent : r.current? = some d)
    (hname : d'.name = d.name) : (r.setCurrent d').names = r.names := by
  rw [names, names_setCurrent hcurrent hname, names]

theorem valueOpen_setCurrent (r : Reading) (d : Draft) :
    (r.setCurrent d).valueOpen = r.valueOpen := by
  obtain ⟨defaults, sections, place, valueOpen⟩ := r
  cases place <;> rfl

theorem continueValue_names (r : Reading) (text : List Char) :
    (r.continueValue text).names = r.names ∧
      (r.continueValue text).valueOpen = r.valueOpen := by
  unfold continueValue
  split
  · exact ⟨rfl, rfl⟩
  · next d hd =>
    have hname : (d.extend text).name = d.name := by
      unfold Draft.extend
      split <;> rfl
    exact ⟨names_of_current hd hname, valueOpen_setCurrent r _⟩

theorem openSection_names {name : String} (h : r.openSection name = .ok r') :
    r'.names = r.names ++ [name].filter (· ≠ defaultsName) ∧ r'.valueOpen = false := by
  rcases openSection_cases h with ⟨rfl, rfl⟩ | ⟨hne, -, rfl⟩
  · exact ⟨(List.append_nil _).symm, rfl⟩
  · refine ⟨?_, rfl⟩
    rw [List.filter_singleton, decide_eq_true hne, names, List.map_cons, List.reverse_cons]
    rfl

theorem addOption_names {key value : String} (h : r.addOption key value = .ok r') :
    r'.names = r.names ∧ r'.valueOpen = true := by
  obtain ⟨d, hd, -, rfl⟩ := addOption_cases h
  exact ⟨names_of_current hd rfl, rfl⟩

/-- The names of new sections are those of the headers, the defaults left out. -/
theorem Leads.names_eq {ls : List (List Char)} (h : Leads r ls r') :
    r'.names = r.names ++ (headersFrom r.valueOpen ls).filter (· ≠ defaultsName) := by
  induction h with
  | nil => exact (List.append_nil _).symm
  | @cons r s r' l ls hread _ ih =>
    rw [ih]
    cases reads_of_readLine hread with
    | blank hline =>
      simp only [headersFrom, hline]
      rfl
    | comment hline => simp only [headersFrom, hline]
    | continuation hline hopen =>
      obtain ⟨hnames, hvalue⟩ := continueValue_names r _
      rw [hnames, hvalue, (Bool.and_eq_true_iff.mp hopen).2]
      simp only [headersFrom, hline, (Bool.and_eq_true_iff.mp hopen).1, Bool.and_self, if_true]
    | header hline hopen hname hopened =>
      obtain ⟨hnames, hvalue⟩ := openSection_names hopened
      simp only [headersFrom, hline, hopen, hname, hnames, hvalue, Bool.false_eq_true, if_false]
      rw [List.append_assoc, ← List.filter_append]
      rfl
    | option hline hopen hname _ hadded =>
      obtain ⟨hnames, hvalue⟩ := addOption_names hadded
      simp only [headersFrom, hline, hopen, hname, hnames, hvalue, Bool.false_eq_true, if_false]

end Reading

open Reading

/-! ## A text -/

theorem not_mem_of_lined {ls : List (List Char)} {cs : List Char} (h : Text.Lined ls cs) :
    ∀ l ∈ ls, '\n' ∉ l := by
  induction h with
  | nil => exact nofun
  | last hl => exact List.forall_mem_singleton.mpr hl
  | fed hl _ ih => exact List.forall_mem_cons.mpr ⟨hl, ih⟩
  | returned hl _ ih => exact List.forall_mem_cons.mpr ⟨hl, ih⟩

theorem orderly_profile {r : Reading} (h : r.Orderly) {headers : List String}
    (hnames : r.names = headers.filter (· ≠ defaultsName)) : r.profile.Orderly headers := by
  have hsections : r.profile.sections.map (·.name) = r.names := by
    rw [Reading.profile, names, List.map_reverse, List.map_map]
    rfl
  refine ⟨hsections.trans hnames, ?_, ?_, h.defaults_name, ?_⟩
  · rw [hsections, names, List.nodup_reverse]
    exact h.names_nodup
  · rw [hsections, names, List.mem_reverse]
    exact h.names_ne
  · obtain ⟨hdefaults, hordered⟩ := List.forall_mem_cons.mp h.ordered
    refine List.forall_mem_cons.mpr ⟨hdefaults.reverse, fun s hs => ?_⟩
    obtain ⟨d, hd, rfl⟩ := List.mem_map.mp (List.mem_reverse.mp hs)
    exact (hordered d hd).reverse

def headers (text : String) : List String :=
  headersFrom false (Text.lines (dropMark text.toList))

theorem orderly_of_parse {text : String} {p : Profile} (h : parse text = .ok p) :
    p.Orderly (headers text) := by
  unfold parse at h
  cases hread : start.readLines 1 (Text.lines (dropMark text.toList)) with
  | error e =>
    rw [hread] at h
    cases h
  | ok r =>
    rw [hread] at h
    cases h
    have hleads := readLines_ok_iff.mp hread
    have hlines := not_mem_of_lined (Text.lined_lines (dropMark text.toList))
    exact orderly_profile (hleads.orderly orderly_start hlines) hleads.names_eq

/-! ## What is found -/

theorem lookup_eq_some_iff_mem {entries : List (String × String)}
    (h : (entries.map Prod.fst).Nodup) {key value : String} :
    entries.lookup key = some value ↔ (key, value) ∈ entries := by
  induction entries with
  | nil => simp
  | cons e entries ih =>
    obtain ⟨first, v⟩ := e
    obtain ⟨hnew, hnodup⟩ := List.nodup_cons.mp h
    rw [List.lookup_cons, List.mem_cons, Prod.mk.injEq]
    by_cases hkey : key = first
    · subst hkey
      have habsent : (key, value) ∉ entries :=
        fun hin => hnew (List.mem_map.mpr ⟨(key, value), hin, rfl⟩)
      simp [habsent, eq_comm]
    · rw [beq_eq_false_iff_ne.mpr hkey, ← ih hnodup]
      simp [hkey]

theorem lookup_eq_none_iff_not_mem {entries : List (String × String)} {key : String} :
    entries.lookup key = none ↔ key ∉ entries.map Prod.fst := by
  rw [List.lookup_eq_none_iff, List.mem_map, not_exists]
  refine forall_congr' fun e => ?_
  rw [not_and, bne_iff_ne, ne_comm]

/-- An option that counts in a section: one of its own, or else one of the defaults. -/
def Section.Gives (s defaults : Section) (key value : String) : Prop :=
  (key, value) ∈ s.entries ∨ key ∉ s.entries.map Prod.fst ∧ (key, value) ∈ defaults.entries

namespace Profile

variable {p : Profile} {name key value : String}

theorem section?_eq_none_iff : p.section? name = none ↔ ∀ s ∈ p.sections, s.name ≠ name := by
  rw [section?, List.find?_eq_none]
  simp

theorem mem_of_section? {s : Section} (h : p.section? name = some s) :
    s ∈ p.sections ∧ s.name = name := by
  unfold section? at h
  exact ⟨List.mem_of_find?_eq_some h, by simpa using List.find?_some h⟩

theorem Distinct.section?_eq_some_iff (h : p.Distinct) {s : Section} :
    p.section? name = some s ↔ s ∈ p.sections ∧ s.name = name := by
  refine ⟨mem_of_section?, ?_⟩
  rintro ⟨hs, rfl⟩
  cases hfound : p.section? s.name with
  | none => exact absurd rfl (section?_eq_none_iff.mp hfound s hs)
  | some t =>
    obtain ⟨ht, hname⟩ := mem_of_section? hfound
    rw [List.inj_on_of_nodup_map h.names_nodup ht hs hname]

/-- A value is found in the one section of this name, under the one key that is the folded one, and
else among the defaults. -/
theorem Distinct.get?_eq_some_iff (h : p.Distinct) :
    p.get? name key = some value ↔
      ∃ s ∈ p.sections, s.name = name ∧ s.Gives p.defaults (foldKey key) value := by
  obtain ⟨hdefaults, hsections⟩ := List.forall_mem_cons.mp h.keys_nodup
  have hvalue : ∀ s ∈ p.sections, (s.get? key).or (p.defaults.get? key) = some value ↔
      s.Gives p.defaults (foldKey key) value := by
    intro s hs
    rw [Section.Gives, Option.or_eq_some_iff, Section.get?, Section.get?,
      lookup_eq_some_iff_mem (hsections s hs), lookup_eq_none_iff_not_mem,
      lookup_eq_some_iff_mem hdefaults]
  constructor
  · intro hget
    unfold get? at hget
    split at hget
    · next s hs =>
      obtain ⟨hin, hname⟩ := h.section?_eq_some_iff.mp hs
      exact ⟨s, hin, hname, (hvalue s hin).mp hget⟩
    · cases hget
  · rintro ⟨s, hs, hname, hentry⟩
    rw [get?, h.section?_eq_some_iff.mpr ⟨hs, hname⟩]
    exact (hvalue s hs).mpr hentry

theorem Distinct.get?_eq_none_iff (h : p.Distinct) :
    p.get? name key = none ↔ ∀ s ∈ p.sections, s.name = name →
      foldKey key ∉ s.entries.map Prod.fst ∧ foldKey key ∉ p.defaults.entries.map Prod.fst := by
  have hvalue : ∀ s : Section, (s.get? key).or (p.defaults.get? key) = none ↔
      foldKey key ∉ s.entries.map Prod.fst ∧ foldKey key ∉ p.defaults.entries.map Prod.fst := by
    intro s
    rw [Option.or_eq_none_iff, Section.get?, Section.get?, lookup_eq_none_iff_not_mem,
      lookup_eq_none_iff_not_mem]
  cases hs : p.section? name with
  | none =>
    rw [get?, hs]
    exact iff_of_true rfl fun s hin hname => absurd hname (section?_eq_none_iff.mp hs s hin)
  | some s =>
    obtain ⟨hin, hname⟩ := h.section?_eq_some_iff.mp hs
    rw [get?, hs]
    refine (hvalue s).trans ⟨fun habsent t ht htname => ?_, fun hall => hall s hin hname⟩
    rw [h.section?_eq_some_iff.mpr ⟨ht, htname⟩, Option.some.injEq] at hs
    exact hs ▸ habsent

end Profile

/-- **What a text describes is in order.** Its sections have different names, none of them that of
the defaults, and stand in the order of their headers. In no section is a key twice; every key is
the folded form of a trimmed text without separators, and every value is made of trimmed lines. So a
value that is asked for is that of the one option with the folded key in the section, else of the
one among the defaults, and without either or without the section there is none. -/
theorem parse_orderly {text : String} {p : Profile} (h : parse text = .ok p) :
    p.Orderly (headers text) ∧
      (∀ name key value, p.get? name key = some value ↔
        ∃ s ∈ p.sections, s.name = name ∧ s.Gives p.defaults (foldKey key) value) ∧
      ∀ name key, p.get? name key = none ↔ ∀ s ∈ p.sections, s.name = name →
        foldKey key ∉ s.entries.map Prod.fst ∧ foldKey key ∉ p.defaults.entries.map Prod.fst := by
  have horderly := orderly_of_parse h
  exact ⟨horderly, fun _ _ _ => horderly.distinct.get?_eq_some_iff,
    fun _ _ => horderly.distinct.get?_eq_none_iff⟩

/-- The defaults are opened twice and a key is folded. A line that looks like a header goes on with
a value, and one behind a blank line starts a section. -/
theorem parse_orderly_of_reopened_defaults :
    let text := "[B]\nKEY= 1\n [x]\n\n [A]\n[DEFAULT]\nk:2\n[DEFAULT]\nM=3 "
    let p : Profile := ⟨⟨"DEFAULT", [("k", "2"), ("m", "3")]⟩,
      [⟨"B", [("key", "1\n[x]")]⟩, ⟨"A", []⟩]⟩
    parse text = .ok p ∧ p.Orderly ["B", "A", "DEFAULT", "DEFAULT"] ∧
      p.get? "B" "Key" = some "1\n[x]" ∧ p.get? "A" "K" = some "2" ∧ p.get? "B" "x" = none ∧
      p.get? "DEFAULT" "k" = none := by
  intro text p
  have hread : parse text = .ok p := by decide +kernel
  have hheaders : headers text = ["B", "A", "DEFAULT", "DEFAULT"] := by decide +kernel
  obtain ⟨horderly, hsome, hnone⟩ := parse_orderly hread
  rw [hheaders] at horderly
  refine ⟨hread, horderly, ?_, ?_, ?_, ?_⟩
  · exact (hsome _ _ _).mpr ⟨_, List.mem_cons_self, rfl, .inl (by decide)⟩
  · exact (hsome _ _ _).mpr ⟨⟨"A", []⟩, by decide, rfl, .inr (by decide)⟩
  · exact (hnone _ _).mpr (by decide)
  · exact (hnone _ _).mpr (by decide)

end Ini
end PadRelay
