import PadRelay.Proofs.Json.Grammar
import PadRelay.Proofs.Json.Text

/-!
# PadRelay.Proofs.Json.Spelling

Text literals, in whatever way they are spelled.

* `Spells.uncons`: a character is spelled by itself, by a letter, or by one or two code units, and
  is read as its own bytes in each case.
* `readString_of_spells`: a literal that spells the code units of a text is read as that text.
* `skipText_of_spells`: a literal is passed over whatever it spells.
* `spells_escapeChar`: what is written for a character spells it.
-/

namespace PadRelay
namespace Json

/-! ## Bytes -/

theorem readText_of_escape {done s rest : Bytes} {c : Char} (h : readEscape s = .ok (c, rest)) :
    readText done (byte '\\' :: s) = readText ((String.utf8EncodeChar c).reverse ++ done) rest := by
  rw [readText, if_neg (by decide), if_pos rfl]
  split
  · next hs => rw [h] at hs; cases hs
  · next hs => rw [h] at hs; cases hs; rfl

/-- Bytes that need no escape stand for themselves. -/
theorem readText_of_plain {bs : Bytes}
    (h : ∀ b ∈ bs, 32 ≤ b.toNat ∧ b ≠ byte '"' ∧ b ≠ byte '\\') (done rest : Bytes) :
    readText done (bs ++ rest) = readText (bs.reverse ++ done) rest := by
  induction bs generalizing done with
  | nil => rfl
  | cons b bs ih =>
    obtain ⟨⟨hle, hquote, hslash⟩, hbs⟩ := List.forall_mem_cons.mp h
    have hctrl : ¬ b < 0x20 := by
      rw [UInt8.lt_iff_toNat_lt]
      exact Nat.not_lt.mpr hle
    rw [List.cons_append, readText, if_neg hquote, if_neg hslash, if_neg hctrl, ih hbs]
    simp

theorem skipText_of_escape {s rest : Bytes} (h : skipEscape s = .ok rest) :
    skipText (byte '\\' :: s) = skipText rest := by
  rw [skipText, if_neg (by decide), if_pos rfl]
  split
  · next hs => rw [h] at hs; cases hs
  · next hs => rw [h] at hs; cases hs; rfl

theorem skipText_of_plain {bs : Bytes}
    (h : ∀ b ∈ bs, 32 ≤ b.toNat ∧ b ≠ byte '"' ∧ b ≠ byte '\\') (rest : Bytes) :
    skipText (bs ++ rest) = skipText rest := by
  induction bs with
  | nil => rfl
  | cons b bs ih =>
    obtain ⟨⟨hle, hquote, hslash⟩, hbs⟩ := List.forall_mem_cons.mp h
    have hctrl : ¬ b < 0x20 := by
      rw [UInt8.lt_iff_toNat_lt]
      exact Nat.not_lt.mpr hle
    rw [List.cons_append, skipText, if_neg hquote, if_neg hslash, if_neg hctrl, ih hbs]

theorem skipText_control {c : Char} (h : c.toNat < 0x20) (s : List Char) :
    skipText (wire (c :: s)) = .error .controlCharacter := by
  have hbyte : (byte c).toNat = c.toNat := toNat_byte (by omega)
  have hquote : byte c ≠ byte '"' := by
    intro he
    rw [he] at hbyte
    exact absurd hbyte.symm (Nat.ne_of_lt (Nat.lt_trans h (by decide)))
  have hslash : byte c ≠ byte '\\' := by
    intro he
    rw [he] at hbyte
    exact absurd hbyte.symm (Nat.ne_of_lt (Nat.lt_trans h (by decide)))
  have hctrl : byte c < 0x20 := by
    rw [UInt8.lt_iff_toNat_lt, hbyte]
    exact h
  rw [wire_ascii (by omega), skipText, if_neg hquote, if_neg hslash, if_pos hctrl]

/-! ## Code units -/

theorem not_surrogate (c : Char) : c.toNat < 0xD800 ∨ 0xDFFF < c.toNat ∧ c.toNat < 0x110000 := by
  rcases c.valid with h | ⟨h, h'⟩
  · exact .inl h
  · exact .inr ⟨h, h'⟩

theorem charUnits_of_lt {c : Char} (h : c.toNat < 0x10000) : charUnits c = [c.toNat] :=
  if_pos h

theorem charUnits_of_ge {c : Char} (h : ¬ c.toNat < 0x10000) :
    charUnits c =
      [0xD800 + (c.toNat - 0x10000) / 0x400, 0xDC00 + (c.toNat - 0x10000) % 0x400] :=
  if_neg h

theorem charUnits_ne_nil (c : Char) : charUnits c ≠ [] := by
  unfold charUnits
  split <;> simp

/-- No character's code units start those of another one. -/
theorem charUnits_append_inj {c d : Char} {us vs : List Nat}
    (h : charUnits c ++ us = charUnits d ++ vs) : c = d ∧ us = vs := by
  have hc := not_surrogate c
  have hd := not_surrogate d
  by_cases hc' : c.toNat < 0x10000 <;> by_cases hd' : d.toNat < 0x10000
  · simp only [charUnits_of_lt hc', charUnits_of_lt hd', List.cons_append, List.nil_append,
      List.cons.injEq] at h
    exact ⟨Char.toNat_inj.mp h.1, h.2⟩
  · simp only [charUnits_of_lt hc', charUnits_of_ge hd', List.cons_append, List.nil_append,
      List.cons.injEq] at h
    omega
  · simp only [charUnits_of_ge hc', charUnits_of_lt hd', List.cons_append, List.nil_append,
      List.cons.injEq] at h
    omega
  · simp only [charUnits_of_ge hc', charUnits_of_ge hd', List.cons_append, List.nil_append,
      List.cons.injEq] at h
    obtain ⟨hlead, htrail, hrest⟩ := h
    exact ⟨Char.toNat_inj.mp (by omega), hrest⟩

/-! ## Single characters -/

theorem isPlain_iff {c : Char} : isPlain c = true ↔ 0x20 ≤ c.toNat ∧ c ≠ '"' ∧ c ≠ '\\' := by
  simp [isPlain, and_assoc]

theorem byte_of_isPlain {c : Char} (h : isPlain c = true) :
    ∀ b ∈ String.utf8EncodeChar c, 32 ≤ b.toNat ∧ b ≠ byte '"' ∧ b ≠ byte '\\' := by
  obtain ⟨hge, hquote, hslash⟩ := isPlain_iff.mp h
  intro b hb
  rcases Nat.lt_or_ge c.toNat 128 with hlt | hbig
  · have hbyte := toNat_byte hlt
    rw [utf8EncodeChar_of_ascii hlt, List.mem_singleton] at hb
    rw [hb, hbyte]
    refine ⟨hge, fun he => hquote ?_, fun he => hslash ?_⟩
    · rw [he] at hbyte
      exact Char.toNat_inj.mp hbyte.symm
    · rw [he] at hbyte
      exact Char.toNat_inj.mp hbyte.symm
  · have hle := le_of_mem_utf8EncodeChar hbig hb
    refine ⟨by omega, ?_, ?_⟩
    · rintro rfl
      exact absurd hle (by decide)
    · rintro rfl
      exact absurd hle (by decide)

theorem letterEscape?_of_letterUnit? {l : Char} {n : Nat} (h : letterUnit? l = some n) :
    l.toNat < 128 ∧ letterEscape? (byte l) = some (Char.ofNat n) ∧ n < 128 := by
  unfold letterUnit? at h
  split at h <;> cases h <;> decide

theorem hexValue?_byte {c : Char} {n : Nat} (h : Text.hexValue? c.toNat = some n) :
    c.toNat < 128 ∧ hexValue? (byte c) = some n := by
  have hlt : c.toNat < 128 := by
    unfold Text.hexValue? at h
    split at h
    · omega
    split at h
    · omega
    split at h
    · omega
    · cases h
  exact ⟨hlt, by rw [hexValue?, toNat_byte hlt, h]⟩

theorem readCodeUnit_of_hexUnit? {a b c d : Char} {n : Nat} (h : hexUnit? a b c d = some n)
    (s : List Char) (rest : Bytes) :
    readCodeUnit (wire (a :: b :: c :: d :: s) ++ rest) = .ok (n, wire s ++ rest) := by
  unfold hexUnit? at h
  split at h
  · next ha hb hc hd =>
    obtain ⟨hla, ha⟩ := hexValue?_byte ha
    obtain ⟨hlb, hb⟩ := hexValue?_byte hb
    obtain ⟨hlc, hc⟩ := hexValue?_byte hc
    obtain ⟨hld, hd⟩ := hexValue?_byte hd
    rw [wire_ascii hla, wire_ascii hlb, wire_ascii hlc, wire_ascii hld]
    simp only [List.cons_append, readCodeUnit, ha, hb, hc, hd]
    cases h
    rfl
  · cases h

theorem readEscape_letter {l : Char} {n : Nat} (h : letterUnit? l = some n) (s : List Char)
    (rest : Bytes) : readEscape (wire (l :: s) ++ rest) = .ok (Char.ofNat n, wire s ++ rest) := by
  obtain ⟨hlt, hl, -⟩ := letterEscape?_of_letterUnit? h
  rw [wire_ascii hlt, List.cons_append, readEscape]
  simp only [hl]

theorem readEscape_hex (s : List Char) (rest : Bytes) :
    readEscape (wire ('u' :: s) ++ rest) = readHexEscape (wire s ++ rest) := by
  rw [wire_ascii (by decide)]
  rfl

theorem readEscape_of_char {a b c d e : Char} (he : e.toNat < 0x10000)
    (h : hexUnit? a b c d = some e.toNat) (s : List Char) (rest : Bytes) :
    readEscape (wire ('u' :: a :: b :: c :: d :: s) ++ rest) = .ok (e, wire s ++ rest) := by
  have hvalid := not_surrogate e
  have htrailing : isTrailing e.toNat = false := by
    simp only [isTrailing, Bool.and_eq_false_iff, decide_eq_false_iff_not]
    omega
  have hleading : isLeading e.toNat = false := by
    simp only [isLeading, Bool.and_eq_false_iff, decide_eq_false_iff_not]
    omega
  rw [readEscape_hex]
  simp only [readHexEscape, readCodeUnit_of_hexUnit? h, htrailing, hleading, Char.ofNat_toNat,
    Bool.false_eq_true, if_false]

theorem readEscape_of_pair {a b c d a' b' c' d' e : Char} (he : ¬ e.toNat < 0x10000)
    (h : hexUnit? a b c d = some (0xD800 + (e.toNat - 0x10000) / 0x400))
    (h' : hexUnit? a' b' c' d' = some (0xDC00 + (e.toNat - 0x10000) % 0x400)) (s : List Char)
    (rest : Bytes) :
    readEscape
        (wire ('u' :: a :: b :: c :: d :: '\\' :: 'u' :: a' :: b' :: c' :: d' :: s) ++ rest) =
      .ok (e, wire s ++ rest) := by
  have hvalid := not_surrogate e
  have hnot : isTrailing (0xD800 + (e.toNat - 0x10000) / 0x400) = false := by
    simp only [isTrailing, Bool.and_eq_false_iff, decide_eq_false_iff_not]
    omega
  have hleading : isLeading (0xD800 + (e.toNat - 0x10000) / 0x400) = true := by
    simp only [isLeading, Bool.and_eq_true, decide_eq_true_eq]
    omega
  have htrailing : isTrailing (0xDC00 + (e.toNat - 0x10000) % 0x400) = true := by
    simp only [isTrailing, Bool.and_eq_true, decide_eq_true_eq]
    omega
  have hpair : pairChar (0xD800 + (e.toNat - 0x10000) / 0x400)
      (0xDC00 + (e.toNat - 0x10000) % 0x400) = e := by
    have hnat : 0x10000 + (0xD800 + (e.toNat - 0x10000) / 0x400 - 0xD800) * 0x400 +
        (0xDC00 + (e.toNat - 0x10000) % 0x400 - 0xDC00) = e.toNat := by omega
    rw [pairChar, hnat, Char.ofNat_toNat]
  rw [readEscape_hex]
  simp only [readHexEscape, readCodeUnit_of_hexUnit? h, hnot, hleading, Bool.false_eq_true,
    if_false, if_true]
  rw [wire_ascii (by decide), wire_ascii (by decide)]
  simp only [List.cons_append, readPartner, ne_eq, not_true_eq_false, if_false,
    readCodeUnit_of_hexUnit? h', htrailing, if_true, hpair]

theorem units_injective {s s' : String} (h : units s = units s') : s = s' := by
  have hcons : ∀ {cs ds : List Char}, cs.flatMap charUnits = ds.flatMap charUnits → cs = ds := by
    intro cs ds
    induction cs generalizing ds with
    | nil =>
      intro h
      cases ds with
      | nil => rfl
      | cons d ds => exact absurd (List.append_eq_nil_iff.mp h.symm).1 (charUnits_ne_nil d)
    | cons c cs ih =>
      intro h
      cases ds with
      | nil => exact absurd (List.append_eq_nil_iff.mp h).1 (charUnits_ne_nil c)
      | cons d ds =>
        obtain ⟨rfl, hrest⟩ := charUnits_append_inj h
        rw [ih hrest]
  exact String.toList_inj.mp (hcons h)

/-! ## Spelled texts -/

/-- What stands behind a spelled text is not part of it. -/
theorem Spells.append {us : List Nat} {s t : List Char} (h : Spells us s t) (r : List Char) :
    Spells us (s ++ r) (t ++ r) := by
  induction h with
  | done => exact .done
  | plain hplain _ ih => exact .plain hplain ih
  | letter hl _ ih => exact .letter hl ih
  | hex hx _ ih => exact .hex hx ih

theorem wire_backslash (s : List Char) : wire ('\\' :: s) = byte '\\' :: wire s :=
  wire_ascii (by decide) s

/-- A trailing surrogate stands for no character of its own, so only digits spell it. -/
theorem Spells.of_trailing {n : Nat} {us : List Nat} {s t : List Char} (hn : 0xDC00 ≤ n)
    (hn' : n ≤ 0xDFFF) (h : Spells (n :: us) s t) :
    ∃ a b c d s', s = '\\' :: 'u' :: a :: b :: c :: d :: s' ∧ hexUnit? a b c d = some n ∧
      Spells us s' t := by
  generalize hvs : n :: us = vs at h
  cases h with
  | done => cases hvs
  | @plain _ c _ _ _ hs =>
    have hc := not_surrogate c
    unfold charUnits at hvs
    split at hvs
    · simp only [List.cons_append, List.cons.injEq] at hvs
      omega
    · simp only [List.cons_append, List.cons.injEq] at hvs
      omega
  | letter hl _ =>
    obtain ⟨-, -, hlt⟩ := letterEscape?_of_letterUnit? hl
    cases hvs
    omega
  | hex hx hs =>
    cases hvs
    exact ⟨_, _, _, _, _, rfl, hx, hs⟩

/-- However a character is spelled, it is read as its own bytes. -/
theorem Spells.uncons {c : Char} {us : List Nat} {s t : List Char}
    (h : Spells (charUnits c ++ us) s t) :
    ∃ s', Spells us s' t ∧
      ∀ done rest, readText done (wire s ++ rest) =
        readText ((String.utf8EncodeChar c).reverse ++ done) (wire s' ++ rest) := by
  have hvalid := not_surrogate c
  generalize hvs : charUnits c ++ us = vs at h
  cases h with
  | done => exact absurd (List.append_eq_nil_iff.mp hvs).1 (charUnits_ne_nil c)
  | plain hplain hs =>
    obtain ⟨rfl, rfl⟩ := charUnits_append_inj hvs
    refine ⟨_, hs, fun done rest => ?_⟩
    rw [wire_cons, List.append_assoc, readText_of_plain (byte_of_isPlain hplain)]
  | letter hl hs =>
    obtain ⟨-, -, hlt⟩ := letterEscape?_of_letterUnit? hl
    have hc : c.toNat < 0x10000 := by
      apply Decidable.byContradiction
      intro hc
      simp only [charUnits_of_ge hc, List.cons_append, List.cons.injEq] at hvs
      omega
    simp only [charUnits_of_lt hc, List.cons_append, List.nil_append, List.cons.injEq] at hvs
    obtain ⟨rfl, rfl⟩ := hvs
    have hread := readEscape_letter hl
    rw [Char.ofNat_toNat] at hread
    refine ⟨_, hs, fun done rest => ?_⟩
    rw [wire_backslash, List.cons_append, readText_of_escape (hread _ rest)]
  | hex hx hs =>
    by_cases hc : c.toNat < 0x10000
    · simp only [charUnits_of_lt hc, List.cons_append, List.nil_append, List.cons.injEq] at hvs
      obtain ⟨rfl, rfl⟩ := hvs
      refine ⟨_, hs, fun done rest => ?_⟩
      rw [wire_backslash, List.cons_append, readText_of_escape (readEscape_of_char hc hx _ rest)]
    · simp only [charUnits_of_ge hc, List.cons_append, List.nil_append, List.cons.injEq] at hvs
      obtain ⟨rfl, rfl⟩ := hvs
      obtain ⟨_, _, _, _, s', rfl, hx', hs'⟩ := hs.of_trailing (by omega) (by omega)
      refine ⟨s', hs', fun done rest => ?_⟩
      rw [wire_backslash, List.cons_append,
        readText_of_escape (readEscape_of_pair hc hx hx' _ rest)]

theorem Spells.eq_of_nil {s t : List Char} (h : Spells [] s t) : s = t := by
  generalize hvs : ([] : List Nat) = vs at h
  cases h with
  | done => rfl
  | plain _ _ => exact absurd (List.append_eq_nil_iff.mp hvs.symm).1 (charUnits_ne_nil _)
  | letter _ _ => cases hvs
  | hex _ _ => cases hvs

theorem readText_of_spells {cs s t : List Char} (h : Spells (cs.flatMap charUnits) s t)
    (done rest : Bytes) :
    readText done (wire s ++ rest) = readText ((wire cs).reverse ++ done) (wire t ++ rest) := by
  induction cs generalizing s done with
  | nil => rw [h.eq_of_nil]; rfl
  | cons c cs ih =>
    rw [List.flatMap_cons] at h
    obtain ⟨s', hs', hread⟩ := h.uncons
    rw [hread, ih hs', wire_cons, List.reverse_append, List.append_assoc]

theorem readString_of_spells {text : String} {s t : List Char}
    (h : Spells (units text) s ('"' :: t)) (rest : Bytes) :
    readString (wire s ++ rest) = .ok (text, wire t ++ rest) := by
  have hbytes : Text.ofUtf8? (wire text.toList) = some text := by
    rw [← utf8_eq_wire, Text.ofUtf8?_utf8]
  have hread : readText [] (wire s ++ rest) = .ok (wire text.toList, wire t ++ rest) := by
    rw [readText_of_spells h, wire_ascii (by decide), List.cons_append, readText, if_pos rfl,
      List.append_nil, List.reverse_reverse]
  simp only [readString, hread, hbytes]

/-- Spelled code units are passed over up to what follows them. -/
theorem skipText_append_of_spells {us : List Nat} {s t : List Char} (h : Spells us s t) :
    skipText (wire s) = skipText (wire t) := by
  induction h with
  | done => rfl
  | plain hplain _ ih => rw [wire_cons, skipText_of_plain (byte_of_isPlain hplain), ih]
  | @letter _ _ l s _ hl _ ih =>
    obtain ⟨hlt, hesc, -⟩ := letterEscape?_of_letterUnit? hl
    have hskip : skipEscape (wire (l :: s)) = .ok (wire s) := by
      rw [wire_ascii hlt, skipEscape, hesc]
      rfl
    rw [wire_backslash, skipText_of_escape hskip, ih]
  | @hex _ _ a b c d s _ hx _ ih =>
    have hskip : skipEscape (wire ('u' :: a :: b :: c :: d :: s)) = .ok (wire s) := by
      have hread := readCodeUnit_of_hexUnit? hx s []
      rw [List.append_nil, List.append_nil] at hread
      rw [wire_ascii (by decide), skipEscape, if_neg (by decide), if_pos rfl, hread]
      rfl
    rw [wire_backslash, skipText_of_escape hskip, ih]

theorem skipText_of_spells {us : List Nat} {s t : List Char} (h : Spells us s ('"' :: t)) :
    skipText (wire s) = .ok (wire t) := by
  rw [skipText_append_of_spells h, wire_ascii (by decide), skipText, if_pos rfl]

/-! ## Writing -/

theorem spells_escapeChar (c : Char) {us : List Nat} {s t : List Char} (h : Spells us s t) :
    Spells (charUnits c ++ us) (escapeChar c ++ s) t := by
  unfold escapeChar
  split
  · next hc => subst hc; exact .letter rfl h
  split
  · next hc => subst hc; exact .letter rfl h
  split
  · next hc => subst hc; exact .letter rfl h
  split
  · next hc => subst hc; exact .letter rfl h
  split
  · next hc => subst hc; exact .letter rfl h
  split
  · next hc =>
    obtain rfl : c = '\x08' := by rw [← Char.ofNat_toNat c, hc]
    exact .letter rfl h
  split
  · next hc =>
    obtain rfl : c = '\x0c' := by rw [← Char.ofNat_toNat c, hc]
    exact .letter rfl h
  split
  · next hlt =>
    have hdigits : ∀ n < 0x20,
        hexUnit? '0' '0' (Text.hexDigit (n / 16)) (Text.hexDigit (n % 16)) = some n := by decide
    rw [charUnits_of_lt (by omega)]
    exact .hex (hdigits _ hlt) h
  · next hquote hslash _ _ _ _ _ hge =>
    exact .plain (isPlain_iff.mpr ⟨by omega, hquote, hslash⟩) h

theorem spells_escape (cs : List Char) {us : List Nat} {s t : List Char} (h : Spells us s t) :
    Spells (cs.flatMap charUnits ++ us) (cs.flatMap escapeChar ++ s) t := by
  induction cs with
  | nil => exact h
  | cons c cs ih =>
    rw [List.flatMap_cons, List.flatMap_cons, List.append_assoc, List.append_assoc]
    exact spells_escapeChar c ih

theorem spells_units (s : String) (t : List Char) :
    Spells (units s) (s.toList.flatMap escapeChar ++ t) t := by
  have hspells := spells_escape s.toList (Spells.done (t := t))
  rw [List.append_nil] at hspells
  exact hspells

/-- A member as it is written without blanks, its name escaped. -/
theorem Written.named (name : String) {v : Tree} {s t : List Char} (h : Written (.element v) s t) :
    Written (.member (units name) v)
      ('"' :: (name.toList.flatMap escapeChar ++ '"' :: ':' :: s)) t :=
  .member .none (spells_units name _) .none h

theorem Written.bare {v : Tree} {s t : List Char} (h : Written (.value v) s t) :
    Written (.element v) s t :=
  .element .none h .none

theorem intercalate_cons {α : Type} (sep x : List α) (xs : List (List α)) :
    List.intercalate sep (x :: xs) = x ++ xs.flatMap (sep ++ ·) := by
  induction xs generalizing x with
  | nil => simp
  | cons y ys ih =>
    rw [List.intercalate_cons_cons, ih, List.flatMap_cons, List.append_assoc, List.append_assoc]

theorem intercalate_comma {α : Type} (write : α → List Char) (a b : α) (as : List α)
    (t : List Char) :
    List.intercalate [','] ((a :: b :: as).map write) ++ t =
      write a ++ ',' :: (List.intercalate [','] ((b :: as).map write) ++ t) := by
  simp

/-- Members between commas, when what is written for each goes on with any blanks. -/
theorem written_intercalate {α : Type} {write : α → List Char} {name : α → List Nat}
    {value : α → Tree} {a : α} {as : List α}
    (h : ∀ b ∈ a :: as, ∀ {s t}, Blanks s t → Written (.member (name b) (value b)) (write b ++ s) t)
    {s t : List Char} (hb : Blanks s t) :
    Written (.members ((a :: as).map fun b => (name b, value b)))
      (List.intercalate [','] ((a :: as).map write) ++ s) t := by
  induction as generalizing a with
  | nil =>
    have htext : List.intercalate [','] ([a].map write) ++ s = write a ++ s := by simp
    rw [htext]
    exact .lastMember (h a List.mem_cons_self hb)
  | cons a' as ih =>
    obtain ⟨hmember, hmore⟩ := List.forall_mem_cons.mp h
    rw [intercalate_comma]
    exact .nextMember (hmember .none) (ih hmore)

end Json
end PadRelay
