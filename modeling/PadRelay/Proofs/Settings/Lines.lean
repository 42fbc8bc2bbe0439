import Mathlib.Data.List.Perm.Subperm
import Mathlib.Order.Bounds.Defs
import PadRelay.Proofs.Ini.Rearranged
import PadRelay.Settings

/-!
# PadRelay.Proofs.Settings.Lines

The numbered sections of a configuration.

* `Unbroken.le_length`: sections in a row have names of their own, so there are not more than there
  are sections.
* `lineNumbers_eq`: the numbers up to the first gap.
* `mapM_range'_eq_ok_iff`, `mapM_range'_eq_error_iff`: what is read for numbers in order.
* `LineScan`: a search for one section after the other, with nothing to bound it.
* `lineScan_iff`: it comes to the first gap or the first error, and to no other end.
* `lineMappings_up_to_gap`: what is read, what is missing, how much is looked at and what is not.
-/

namespace PadRelay

open Ini (Profile)

variable {p q : Profile} {n last : Nat}

/-! ## Sections in a row -/

/-- The sections `Line1`, `Line2` and so on up to this number are all there. -/
def Unbroken (p : Profile) (n : Nat) : Prop :=
  ∀ i, 1 ≤ i → i ≤ n → p.hasSection (lineSection i) = true

theorem lineSection_injective : Function.Injective lineSection := by
  intro m n h
  rw [lineSection, lineSection, String.append_right_inj] at h
  have hdigits : Nat.toDigits 10 m = Nat.toDigits 10 n := by
    simpa [Nat.toString_eq_repr] using congrArg String.toList h
  simpa using congrArg (Nat.ofDigitChars 10 · 0) hdigits

theorem Unbroken.le_length (h : Unbroken p n) : n ≤ p.sections.length := by
  have hnodup : ((List.range' 1 n).map lineSection).Nodup :=
    (List.nodup_range' 1).map lineSection_injective
  have hsubset : (List.range' 1 n).map lineSection ⊆ p.sections.map (·.name) := by
    intro name hname
    obtain ⟨i, hi, rfl⟩ := List.mem_map.mp hname
    rw [List.mem_range'_1] at hi
    exact Profile.hasSection_iff.mp (h i (by omega) (by omega))
  simpa using (List.subperm_of_subset hnodup hsubset).length_le

theorem unbroken_succ_iff :
    Unbroken p (n + 1) ↔ Unbroken p n ∧ p.hasSection (lineSection (n + 1)) = true := by
  constructor
  · intro h
    exact ⟨fun i hone hle => h i hone (by omega), h (n + 1) (by omega) (by omega)⟩
  · rintro ⟨h, hnext⟩ i hone hle
    rcases Nat.lt_or_ge n i with hlt | hge
    · obtain rfl : i = n + 1 := by omega
      exact hnext
    · exact h i hone hge

/-- The last section in a row is the one before the first that is not there. -/
theorem isGreatest_unbroken_iff :
    IsGreatest {n | Unbroken p n} last ↔
      Unbroken p last ∧ p.hasSection (lineSection (last + 1)) = false := by
  constructor
  · rintro ⟨hlast, hupper⟩
    refine ⟨hlast, ?_⟩
    by_contra hnext
    rw [Bool.not_eq_false] at hnext
    have := hupper (unbroken_succ_iff.mpr ⟨hlast, hnext⟩)
    omega
  · rintro ⟨hlast, hgap⟩
    refine ⟨hlast, fun m hm => ?_⟩
    by_contra hlt
    rw [hm (last + 1) (by omega) (by omega)] at hgap
    cases hgap

theorem exists_isGreatest_unbroken (p : Profile) : ∃ last, IsGreatest {n | Unbroken p n} last := by
  by_contra hnone
  -- without a gap there would be more sections in a row than there are sections
  have hall : ∀ n, Unbroken p n := by
    intro n
    induction n with
    | zero =>
      intro i hone hle
      omega
    | succ n ih =>
      refine unbroken_succ_iff.mpr ⟨ih, ?_⟩
      by_contra hnext
      rw [Bool.not_eq_true] at hnext
      exact hnone ⟨n, isGreatest_unbroken_iff.mpr ⟨ih, hnext⟩⟩
  have := (hall (p.sections.length + 1)).le_length
  omega

theorem lineNumbers_eq (h : IsGreatest {n | Unbroken p n} last) :
    lineNumbers p = List.range' 1 last := by
  obtain ⟨hlast, hgap⟩ := isGreatest_unbroken_iff.mp h
  obtain ⟨k, hk⟩ := Nat.exists_eq_add_of_le hlast.le_length
  have hnumbers : (List.range p.sections.length).map (· + 1) =
      List.range' 1 last ++ List.range' (1 + last) k := by
    rw [List.range'_append_1, ← hk, List.range'_eq_map_range]
    simp only [Nat.add_comm]
  have hfound : ∀ i ∈ List.range' 1 last, p.hasSection (lineSection i) = true := by
    intro i hi
    rw [List.mem_range'_1] at hi
    exact hlast i (by omega) (by omega)
  rw [lineNumbers, hnumbers, List.takeWhile_append_of_pos hfound, Nat.add_comm 1 last]
  cases k with
  | zero => simp
  | succ k => simp [List.range'_succ, hgap]

/-! ## Numbers in order -/

section

variable {ε α β : Type}

theorem bind_eq_ok_iff {x : Except ε α} {g : α → Except ε β} {b : β} :
    (x >>= g) = .ok b ↔ ∃ a, x = .ok a ∧ g a = .ok b := by
  cases x <;> simp [bind, Except.bind]

theorem bind_eq_error_iff {x : Except ε α} {g : α → Except ε β} {e : ε} :
    (x >>= g) = .error e ↔ x = .error e ∨ ∃ a, x = .ok a ∧ g a = .error e := by
  cases x <;> simp [bind, Except.bind]

theorem mapM_congr {f g : α → Except ε β} {xs : List α} (h : ∀ x ∈ xs, f x = g x) :
    xs.mapM f = xs.mapM g := by
  induction xs with
  | nil => rfl
  | cons x xs ih =>
    obtain ⟨hx, hxs⟩ := List.forall_mem_cons.mp h
    rw [List.mapM_cons, List.mapM_cons, hx, ih hxs]

variable {f : Nat → Except ε α} {k : Nat}

/-- Where all is read, it stands in the order of the numbers. -/
theorem mapM_range'_eq_ok_iff {ys : List α} :
    (List.range' n k).mapM f = .ok ys ↔
      ys.length = k ∧ ∀ i y, ys[i]? = some y → f (n + i) = .ok y := by
  induction k generalizing n ys with
  | zero => cases ys <;> simp [pure, Except.pure]
  | succ k ih =>
    rw [List.range'_succ, List.mapM_cons, bind_eq_ok_iff]
    simp only [bind_eq_ok_iff, ih, pure, Except.pure, Except.ok.injEq]
    constructor
    · rintro ⟨y, hy, more, ⟨hlength, hmore⟩, rfl⟩
      refine ⟨by simp [hlength], fun i z hz => ?_⟩
      cases i with
      | zero =>
        cases hz
        exact hy
      | succ i =>
        rw [← hmore i z hz]
        congr 1
        omega
    · rintro ⟨hlength, hall⟩
      cases ys with
      | nil => cases hlength
      | cons y more =>
        refine ⟨y, hall 0 y rfl, more, ⟨by simpa using hlength, fun i z hz => ?_⟩, rfl⟩
        rw [← hall (i + 1) z hz]
        congr 1
        omega

/-- Else the error is that of the first number with one. -/
theorem mapM_range'_eq_error_iff {e : ε} :
    (List.range' n k).mapM f = .error e ↔
      ∃ i, n ≤ i ∧ i < n + k ∧ (∀ j, n ≤ j → j < i → ∃ y, f j = .ok y) ∧ f i = .error e := by
  induction k generalizing n with
  | zero =>
    constructor
    · intro h
      cases h
    · rintro ⟨i, hle, hlt, -⟩
      omega
  | succ k ih =>
    rw [List.range'_succ, List.mapM_cons, bind_eq_error_iff]
    simp only [bind_eq_error_iff, ih, pure, Except.pure, reduceCtorEq, and_false, exists_false,
      or_false]
    constructor
    · rintro (hfirst | ⟨y, hy, i, hle, hlt, hbefore, he⟩)
      · exact ⟨n, Nat.le_refl n, by omega, fun j hj hjn => by omega, hfirst⟩
      · refine ⟨i, by omega, by omega, fun j hj hji => ?_, he⟩
        rcases Nat.lt_or_eq_of_le hj with hnj | rfl
        · exact hbefore j hnj hji
        · exact ⟨y, hy⟩
    · rintro ⟨i, hle, hlt, hbefore, he⟩
      rcases Nat.lt_or_eq_of_le hle with hni | rfl
      · obtain ⟨y, hy⟩ := hbefore n (Nat.le_refl n) hni
        exact .inr ⟨y, hy, i, hni, by omega, fun j hj hji => hbefore j (by omega) hji, he⟩
      · exact .inl he

end

/-! ## One section -/

/-- The mapping that a numbered section holds. Its key and its template may come from the
defaults. -/
def HoldsLine (p : Profile) (n : Nat) (line : LineMapping) : Prop :=
  p.get? (lineSection n) "Key" = some line.key ∧ p.get? (lineSection n) "Value" = some line.value

/-- What a numbered section lacks. The key is asked for first. -/
def LacksValue (p : Profile) (n : Nat) (key : String) : Prop :=
  key = "Key" ∧ p.get? (lineSection n) "Key" = none ∨
    key = "Value" ∧ p.get? (lineSection n) "Key" ≠ none ∧ p.get? (lineSection n) "Value" = none

section

variable {name key value : String} {line : LineMapping} {e : SettingsError}

theorem required_eq_ok_iff : required p name key = .ok value ↔ p.get? name key = some value := by
  rw [required]
  cases p.get? name key <;> simp

theorem required_eq_error_iff :
    required p name key = .error e ↔ p.get? name key = none ∧ e = .missing name key := by
  rw [required]
  cases p.get? name key <;> simp [eq_comm]

theorem lineMapping_eq_ok_iff : lineMapping p n = .ok line ↔ HoldsLine p n line := by
  simp only [lineMapping, bind_eq_ok_iff, required_eq_ok_iff, pure, Except.pure, Except.ok.injEq]
  constructor
  · rintro ⟨key, hkey, value, hvalue, rfl⟩
    exact ⟨hkey, hvalue⟩
  · rintro ⟨hkey, hvalue⟩
    exact ⟨line.key, hkey, line.value, hvalue, rfl⟩

theorem lineMapping_eq_error_iff :
    lineMapping p n = .error e ↔ ∃ key, e = .missing (lineSection n) key ∧ LacksValue p n key := by
  simp only [lineMapping, bind_eq_error_iff, required_eq_ok_iff, required_eq_error_iff, pure,
    Except.pure, reduceCtorEq, and_false, exists_false, or_false]
  constructor
  · rintro (⟨hkey, he⟩ | ⟨key, hkey, hvalue, he⟩)
    · exact ⟨"Key", he, .inl ⟨rfl, hkey⟩⟩
    · exact ⟨"Value", he, .inr ⟨rfl, by simp [hkey], hvalue⟩⟩
  · rintro ⟨key, he, ⟨rfl, hkey⟩ | ⟨rfl, hkey, hvalue⟩⟩
    · exact .inl ⟨hkey, he⟩
    · obtain ⟨key, hsome⟩ := Option.ne_none_iff_exists'.mp hkey
      exact .inr ⟨key, hsome, hvalue, he⟩

theorem HoldsLine.unique {line' : LineMapping} (h : HoldsLine p n line) (h' : HoldsLine p n line') :
    line = line' := by
  obtain ⟨key, value⟩ := line
  obtain ⟨key', value'⟩ := line'
  simp only [HoldsLine] at h h'
  rw [h.1, Option.some.injEq, h.2, Option.some.injEq] at h'
  rw [h'.1, h'.2]

end

/-! ## The search -/

/-- A search for numbered sections from a number on, with the mappings done so far: the names that
it looks for, and what it ends with. It goes on as long as it finds a section with all that is
required. -/
inductive LineScan (p : Profile) :
    Nat → List LineMapping → List String → Except SettingsError (List LineMapping) → Prop where
  | gap {n : Nat} {done : List LineMapping} :
      p.hasSection (lineSection n) = false → LineScan p n done [lineSection n] (.ok done)
  | line {n : Nat} {done : List LineMapping} {line : LineMapping} {names : List String}
      {result : Except SettingsError (List LineMapping)} :
      p.hasSection (lineSection n) = true → lineMapping p n = .ok line →
        LineScan p (n + 1) (done ++ [line]) names result →
        LineScan p n done (lineSection n :: names) result
  | missing {n : Nat} {done : List LineMapping} {e : SettingsError} :
      p.hasSection (lineSection n) = true → lineMapping p n = .error e →
        LineScan p n done [lineSection n] (.error e)

theorem LineScan.deterministic {done : List LineMapping} {names names' : List String}
    {result result' : Except SettingsError (List LineMapping)}
    (h : LineScan p n done names result) (h' : LineScan p n done names' result') :
    names' = names ∧ result' = result := by
  induction h generalizing names' result' with
  | gap hgap =>
    cases h' with
    | gap => exact ⟨rfl, rfl⟩
    | line hfound => rw [hfound] at hgap; cases hgap
    | missing hfound => rw [hfound] at hgap; cases hgap
  | line hfound hline _ ih =>
    cases h' with
    | gap hgap => rw [hfound] at hgap; cases hgap
    | line _ hline' hmore =>
      rw [hline] at hline'
      cases hline'
      obtain ⟨rfl, rfl⟩ := ih hmore
      exact ⟨rfl, rfl⟩
    | missing _ he => rw [hline] at he; cases he
  | missing hfound he =>
    cases h' with
    | gap hgap => rw [hfound] at hgap; cases hgap
    | line _ hline => rw [hline] at he; cases he
    | missing _ he' =>
      rw [he] at he'
      cases he'
      exact ⟨rfl, rfl⟩

/-- With `k` sections up to the next gap, the search ends after `k + 1` names at most. -/
theorem exists_lineScan {k : Nat}
    (hrow : ∀ i, n ≤ i → i < n + k → p.hasSection (lineSection i) = true)
    (hgap : p.hasSection (lineSection (n + k)) = false) (done : List LineMapping) :
    ∃ names, names.length ≤ k + 1 ∧
      LineScan p n done names (((List.range' n k).mapM (lineMapping p)).map (done ++ ·)) := by
  induction k generalizing n done with
  | zero =>
    refine ⟨[lineSection n], by simp, ?_⟩
    simpa [pure, Except.pure, Except.map] using LineScan.gap hgap
  | succ k ih =>
    have hfound := hrow n (Nat.le_refl n) (by omega)
    rw [List.range'_succ, List.mapM_cons]
    cases hline : lineMapping p n with
    | error e => exact ⟨[lineSection n], by simp, .missing hfound hline⟩
    | ok line =>
      obtain ⟨names, hlength, hscan⟩ := ih (n := n + 1)
        (fun i hi hik => hrow i (by omega) (by omega))
        (by rwa [Nat.add_right_comm]) (done ++ [line])
      refine ⟨lineSection n :: names, by simp only [List.length_cons]; omega,
        .line hfound hline ?_⟩
      cases hmore : (List.range' (n + 1) k).mapM (lineMapping p) with
      | error e =>
        rw [hmore] at hscan
        exact hscan
      | ok lines =>
        rw [hmore] at hscan
        simpa [bind, Except.bind, pure, Except.pure, Except.map] using hscan

/-! ## What is read -/

section

variable (h : IsGreatest {n | Unbroken p n} last)

include h

theorem lineMappings_eq : lineMappings p = (List.range' 1 last).mapM (lineMapping p) := by
  rw [lineMappings, lineNumbers_eq h]

theorem lineMappings_eq_ok_iff {lines : List LineMapping} :
    lineMappings p = .ok lines ↔
      lines.length = last ∧ ∀ i line, lines[i]? = some line → HoldsLine p (i + 1) line := by
  rw [lineMappings_eq h, mapM_range'_eq_ok_iff]
  simp only [lineMapping_eq_ok_iff, Nat.add_comm 1]

theorem lineMappings_eq_error_iff {e : SettingsError} :
    lineMappings p = .error e ↔ ∃ i key, e = .missing (lineSection i) key ∧ 1 ≤ i ∧ i ≤ last ∧
      (∀ j, 1 ≤ j → j < i → ∃ line, HoldsLine p j line) ∧ LacksValue p i key := by
  rw [lineMappings_eq h, mapM_range'_eq_error_iff]
  simp only [lineMapping_eq_ok_iff, lineMapping_eq_error_iff]
  constructor
  · rintro ⟨i, hone, hlt, hbefore, key, he, hlacks⟩
    exact ⟨i, key, he, hone, by omega, hbefore, hlacks⟩
  · rintro ⟨i, key, he, hone, hle, hbefore, hlacks⟩
    exact ⟨i, hone, by omega, hbefore, key, he, hlacks⟩

theorem exists_lineMappings_iff :
    (∃ lines, lineMappings p = .ok lines) ↔
      ∀ i, 1 ≤ i → i ≤ last → ∃ line, HoldsLine p i line := by
  constructor
  · rintro ⟨lines, hlines⟩ i hone hle
    obtain ⟨hlength, hall⟩ := (lineMappings_eq_ok_iff h).mp hlines
    have hi : i - 1 < lines.length := by omega
    have hline := hall (i - 1) _ (List.getElem?_eq_getElem hi)
    rw [Nat.sub_add_cancel hone] at hline
    exact ⟨_, hline⟩
  · intro hall
    cases hread : lineMappings p with
    | ok lines => exact ⟨lines, rfl⟩
    | error e =>
      obtain ⟨i, key, -, hone, hle, -, hlacks⟩ := (lineMappings_eq_error_iff h).mp hread
      obtain ⟨line, hkey, hvalue⟩ := hall i hone hle
      rcases hlacks with ⟨-, hnone⟩ | ⟨-, -, hnone⟩
      · rw [hkey] at hnone
        cases hnone
      · rw [hvalue] at hnone
        cases hnone

end

theorem lineMappings_of_ofProfile {s : EncoderSettings}
    (h : EncoderSettings.ofProfile p = .ok (some s)) : lineMappings p = .ok s.lines := by
  rw [EncoderSettings.ofProfile] at h
  split at h
  · simp only [bind_eq_ok_iff, pure, Except.pure, Except.ok.injEq, Option.some.injEq] at h
    obtain ⟨url, -, lines, hlines, rfl⟩ := h
    exact hlines
  · cases h

theorem mem_unescapedLiteralLines_iff {s : EncoderSettings} {line : LineMapping} :
    (n, line) ∈ s.unescapedLiteralLines ↔
      1 ≤ n ∧ s.lines[n - 1]? = some line ∧ line.hasUnescapedLiteral = true := by
  simp only [EncoderSettings.unescapedLiteralLines, List.mem_map, List.mem_filter, Prod.exists,
    List.mk_mem_zipIdx_iff_le_and_getElem?_sub, Prod.mk.injEq]
  constructor
  · rintro ⟨l, i, ⟨⟨hone, hl⟩, hliteral⟩, rfl, rfl⟩
    exact ⟨hone, hl, hliteral⟩
  · rintro ⟨hone, hl, hliteral⟩
    exact ⟨line, n, ⟨⟨hone, hl⟩, hliteral⟩, rfl, rfl⟩

/-- A line that is reported bears the number of its section. -/
theorem mem_unescapedLiteralLines_of_ofProfile (h : IsGreatest {n | Unbroken p n} last)
    {s : EncoderSettings} (hs : EncoderSettings.ofProfile p = .ok (some s)) {line : LineMapping} :
    (n, line) ∈ s.unescapedLiteralLines ↔
      (1 ≤ n ∧ n ≤ last) ∧ HoldsLine p n line ∧ line.hasUnescapedLiteral = true := by
  obtain ⟨hlength, hall⟩ := (lineMappings_eq_ok_iff h).mp (lineMappings_of_ofProfile hs)
  rw [mem_unescapedLiteralLines_iff]
  constructor
  · rintro ⟨hone, hline, hliteral⟩
    obtain ⟨hlt, -⟩ := List.getElem?_eq_some_iff.mp hline
    have hholds := hall _ _ hline
    rw [Nat.sub_add_cancel hone] at hholds
    exact ⟨⟨hone, by omega⟩, hholds, hliteral⟩
  · rintro ⟨⟨hone, hle⟩, hholds, hliteral⟩
    have hline := List.getElem?_eq_getElem (l := s.lines) (i := n - 1) (by omega)
    have hheld := hall _ _ hline
    rw [Nat.sub_add_cancel hone] at hheld
    rw [hholds.unique hheld]
    exact ⟨hone, hline, hholds.unique hheld ▸ hliteral⟩

/-- The search from the first section on ends in one way, with what is read. -/
theorem lineScan_iff (h : IsGreatest {n | Unbroken p n} last) :
    ∃ names, names.length ≤ p.sections.length + 1 ∧
      ∀ tested result, LineScan p 1 [] tested result ↔
        tested = names ∧ result = lineMappings p := by
  obtain ⟨hlast, hgap⟩ := isGreatest_unbroken_iff.mp h
  obtain ⟨names, hlength, hscan⟩ := exists_lineScan (n := 1) (k := last)
    (fun i hone hlt => hlast i hone (by omega)) (by rwa [Nat.add_comm]) []
  have hread : ((List.range' 1 last).mapM (lineMapping p)).map ([] ++ ·) = lineMappings p := by
    rw [lineMappings_eq h]
    cases (List.range' 1 last).mapM (lineMapping p) <;> rfl
  rw [hread] at hscan
  have := hlast.le_length
  refine ⟨names, by omega, fun tested result => ⟨hscan.deterministic, ?_⟩⟩
  rintro ⟨rfl, rfl⟩
  exact hscan

theorem get?_of_section? {name : String} (hdefaults : q.defaults = p.defaults)
    (hsection : q.section? name = p.section? name) (key : String) :
    q.get? name key = p.get? name key := by
  rw [Profile.get?, Profile.get?, hdefaults, hsection]

/-- Besides the defaults, only the sections up to the first gap count. -/
theorem lineMappings_of_section? (h : IsGreatest {n | Unbroken p n} last)
    (hdefaults : q.defaults = p.defaults)
    (hsection : ∀ i, 1 ≤ i → i ≤ last + 1 →
      q.section? (lineSection i) = p.section? (lineSection i)) :
    lineMappings q = lineMappings p := by
  obtain ⟨hlast, hgap⟩ := isGreatest_unbroken_iff.mp h
  have hsame : ∀ i, 1 ≤ i → i ≤ last + 1 →
      q.hasSection (lineSection i) = p.hasSection (lineSection i) := by
    intro i hone hle
    rw [Profile.hasSection, Profile.hasSection, hsection i hone hle]
  have hq : IsGreatest {n | Unbroken q n} last := by
    refine isGreatest_unbroken_iff.mpr ⟨fun i hone hle => ?_, ?_⟩
    · rw [hsame i hone (by omega)]
      exact hlast i hone hle
    · rw [hsame (last + 1) (by omega) (by omega), hgap]
  rw [lineMappings_eq hq, lineMappings_eq h]
  refine mapM_congr fun i hi => ?_
  rw [List.mem_range'_1] at hi
  simp only [lineMapping, required,
    get?_of_section? hdefaults (hsection i (by omega) (by omega))]

/-- **The numbered sections are read up to the first gap.** There is a last section in a row. If all
up to it have what is required, their mappings are read in order, and a line that is reported bears
the number of its section; else the error names the first section that lacks something, and the key
before the template. The search ends of itself after one name more than there are sections at most.
Besides the defaults, it depends on nothing but what it finds up to the gap. -/
theorem lineMappings_up_to_gap (p : Profile) :
    ∃ last, IsGreatest {n | Unbroken p n} last ∧
      ((∃ lines, lineMappings p = .ok lines) ↔
        ∀ i, 1 ≤ i → i ≤ last → ∃ line, HoldsLine p i line) ∧
      (∀ lines, lineMappings p = .ok lines ↔
        lines.length = last ∧ ∀ i line, lines[i]? = some line → HoldsLine p (i + 1) line) ∧
      (∀ s, EncoderSettings.ofProfile p = .ok (some s) → ∀ n line,
        (n, line) ∈ s.unescapedLiteralLines ↔
          (1 ≤ n ∧ n ≤ last) ∧ HoldsLine p n line ∧ line.hasUnescapedLiteral = true) ∧
      (∀ e, lineMappings p = .error e ↔
        ∃ i key, e = .missing (lineSection i) key ∧ 1 ≤ i ∧ i ≤ last ∧
          (∀ j, 1 ≤ j → j < i → ∃ line, HoldsLine p j line) ∧ LacksValue p i key) ∧
      (∃ names, names.length ≤ p.sections.length + 1 ∧
        ∀ tested result, LineScan p 1 [] tested result ↔
          tested = names ∧ result = lineMappings p) ∧
      ∀ q : Profile, q.defaults = p.defaults →
        (∀ i, 1 ≤ i → i ≤ last + 1 →
          q.section? (lineSection i) = p.section? (lineSection i)) →
        lineMappings q = lineMappings p := by
  obtain ⟨last, h⟩ := exists_isGreatest_unbroken p
  exact ⟨last, h, exists_lineMappings_iff h, fun _ => lineMappings_eq_ok_iff h,
    fun _ hs _ _ => mem_unescapedLiteralLines_of_ofProfile h hs,
    fun _ => lineMappings_eq_error_iff h, lineScan_iff h, fun _ => lineMappings_of_section? h⟩

/-- Sections in any order. The third is missing, and one with a leading zero is none of them. -/
example :
    let text := "[Line4]\n[Line2]\nValue=2\n[DEFAULT]\nKey=k\n[Line03]\nValue=3\n" ++
      "[Line1]\nKey=a\nValue=1"
    (Ini.parse text).toOption.map lineMappings = some (.ok [⟨"a", "1"⟩, ⟨"k", "2"⟩]) := by
  decide +kernel

end PadRelay
