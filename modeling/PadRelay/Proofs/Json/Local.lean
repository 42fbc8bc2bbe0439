import PadRelay.Proofs.Json.Number
import PadRelay.Proofs.Json.Spelling

/-!
# PadRelay.Proofs.Json.Local

What is read off the front of a document does not depend on what stands behind it.

* `readString_local`, `skipText_local`: texts, and the pieces of which they are read.
* `readNumber_local`: numbers, in front of something that ends them.
* `skipText_of_readString`: a text that is read is passed over as far.
* `readLiteral_atEnd`: a number is read the same whatever fault an early end would be.

Each lemma names the bytes that are taken and says that they are taken in front of anything else. It
is proved along the definition of the reader, from the lemmas of the readers that this one uses.
-/

namespace PadRelay
namespace Json

variable {s r : Bytes}

/-! ## Blanks and words -/

theorem isBlank_of_skipBlank {b : UInt8} (h : skipBlank s = b :: r) : isBlank b = false := by
  have hhead := List.head?_dropWhile_not isBlank s
  rw [show s.dropWhile isBlank = b :: r from h] at hhead
  simpa using hhead

theorem skipBlank_local {b : UInt8} (h : skipBlank s = b :: r) :
    ∃ v, s = v ++ r ∧ ∀ t, skipBlank (v ++ t) = b :: t := by
  have hb := isBlank_of_skipBlank h
  have hblanks : ∀ c ∈ s.takeWhile isBlank, isBlank c = true := by
    exact List.all_eq_true.mp List.all_takeWhile
  refine ⟨s.takeWhile isBlank ++ [b], ?_, fun t => ?_⟩
  · rw [List.append_assoc, List.singleton_append, ← h]
    exact List.takeWhile_append_dropWhile.symm
  · rw [List.append_assoc, skipBlank, List.dropWhile_append_of_pos hblanks]
    exact List.dropWhile_cons_of_neg (by simp [hb])

/-- What is taken off the front is not empty, and so starts with the first byte. -/
theorem eq_cons_of_append {b : UInt8} {s v : Bytes} (h : b :: s = v ++ r)
    (hlt : r.length < (b :: s).length) : ∃ w, v = b :: w ∧ s = w ++ r := by
  cases v with
  | nil =>
    rw [List.nil_append] at h
    rw [h] at hlt
    exact absurd hlt (Nat.lt_irrefl _)
  | cons c v =>
    obtain ⟨rfl, hs⟩ := List.cons.inj h
    exact ⟨v, rfl, hs⟩

theorem readWord_local {word : Bytes} (h : readWord word s = .ok r) :
    ∃ v, s = v ++ r ∧ ∀ t, readWord word (v ++ t) = .ok t := by
  induction word generalizing s with
  | nil =>
    cases h
    exact ⟨[], rfl, fun _ => rfl⟩
  | cons c word ih =>
    cases s with
    | nil => cases h
    | cons b s =>
      rw [readWord] at h
      split at h
      · next hb =>
        obtain ⟨v, rfl, hv⟩ := ih h
        refine ⟨b :: v, rfl, fun t => ?_⟩
        rw [List.cons_append, readWord, if_pos hb, hv]
      · cases h

theorem map_pair_eq_ok {α : Type} {a b : α} {x : Except DecodeError Bytes}
    (h : x.map (fun t => (a, t)) = .ok (b, r)) : x = .ok r ∧ a = b := by
  cases x with
  | error e => cases h
  | ok t => cases h; exact ⟨rfl, rfl⟩

/-- A word that stands for something. -/
theorem readWord_map_local {α : Type} {word : Bytes} {a b : α}
    (h : (readWord word s).map (a, ·) = .ok (b, r)) :
    ∃ v, s = v ++ r ∧ a = b ∧ ∀ t, (readWord word (v ++ t)).map (a, ·) = .ok (b, t) := by
  obtain ⟨hword, rfl⟩ := map_pair_eq_ok h
  obtain ⟨v, rfl, hv⟩ := readWord_local hword
  refine ⟨v, rfl, rfl, fun t => ?_⟩
  rw [hv]
  rfl

theorem readColon_iff : readColon s = .ok r ↔ skipBlank s = byte ':' :: r := by
  constructor
  · intro h
    unfold readColon at h
    split at h
    · cases h
    · next b rest hs =>
      split at h
      · next hb =>
        cases h
        rw [hs, hb]
      · cases h
  · intro h
    rw [readColon, h]
    rfl

theorem readColon_local (h : readColon s = .ok r) :
    ∃ v, s = v ++ r ∧ ∀ t, readColon (v ++ t) = .ok t := by
  obtain ⟨v, rfl, hv⟩ := skipBlank_local (readColon_iff.mp h)
  exact ⟨v, rfl, fun t => readColon_iff.mpr (hv t)⟩

/-! ## Texts -/

theorem readCodeUnit_local {n : Nat} (h : readCodeUnit s = .ok (n, r)) :
    ∃ v, s = v ++ r ∧ ∀ t, readCodeUnit (v ++ t) = .ok (n, t) := by
  unfold readCodeUnit at h
  split at h
  · next a b c d rest =>
    split at h
    · next ha hb hc hd =>
      cases h
      refine ⟨[a, b, c, d], rfl, fun t => ?_⟩
      simp only [List.cons_append, List.nil_append, readCodeUnit, ha, hb, hc, hd]
    · cases h
  · cases h

/-- A partner is an escape of its own. -/
theorem readPartner_ok {n : Nat} {c : Char} (h : readPartner n s = .ok (c, r)) :
    ∃ m rest, s = byte '\\' :: byte 'u' :: rest ∧ readCodeUnit rest = .ok (m, r) ∧
      isTrailing m = true ∧ pairChar n m = c := by
  unfold readPartner at h
  split at h
  · cases h
  · next b rest =>
    split at h
    · cases h
    · next hb =>
      split at h
      · cases h
      · next u rest =>
        split at h
        · cases h
        · next hu =>
          split at h
          · cases h
          · next m rest' hunit =>
            split at h
            · next hm =>
              rw [Except.ok.injEq, Prod.mk.injEq] at h
              obtain ⟨hc, rfl⟩ := h
              have hs : b :: u :: rest = byte '\\' :: byte 'u' :: rest := by
                rw [Decidable.not_not.mp hb, Decidable.not_not.mp hu]
              exact ⟨m, rest, hs, hunit, hm, hc⟩
            · cases h

theorem readPartner_local {n : Nat} {c : Char} (h : readPartner n s = .ok (c, r)) :
    ∃ v, s = v ++ r ∧ ∀ t, readPartner n (v ++ t) = .ok (c, t) := by
  obtain ⟨m, rest, rfl, hunit, hm, rfl⟩ := readPartner_ok h
  obtain ⟨v, rfl, hv⟩ := readCodeUnit_local hunit
  refine ⟨byte '\\' :: byte 'u' :: v, rfl, fun t => ?_⟩
  simp only [List.cons_append, readPartner, ne_eq, not_true_eq_false, if_false, hv, hm, if_true]

theorem readHexEscape_local {c : Char} (h : readHexEscape s = .ok (c, r)) :
    ∃ v, s = v ++ r ∧ ∀ t, readHexEscape (v ++ t) = .ok (c, t) := by
  unfold readHexEscape at h
  split at h
  · cases h
  · next n rest hunit =>
    obtain ⟨v, rfl, hv⟩ := readCodeUnit_local hunit
    split at h
    · cases h
    · next htrailing =>
      split at h
      · next hleading =>
        obtain ⟨w, rfl, hw⟩ := readPartner_local h
        refine ⟨v ++ w, (List.append_assoc v w r).symm, fun t => ?_⟩
        simp only [List.append_assoc, readHexEscape, hv, if_neg htrailing, if_pos hleading, hw]
      · next hleading =>
        cases h
        refine ⟨v, rfl, fun t => ?_⟩
        simp only [readHexEscape, hv, if_neg htrailing, if_neg hleading]

theorem readEscape_local {c : Char} (h : readEscape s = .ok (c, r)) :
    ∃ v, s = v ++ r ∧ ∀ t, readEscape (v ++ t) = .ok (c, t) := by
  unfold readEscape at h
  split at h
  · cases h
  · next b rest =>
    split at h
    · next l hl =>
      cases h
      refine ⟨[b], rfl, fun t => ?_⟩
      simp only [List.cons_append, List.nil_append, readEscape, hl]
    · next hl =>
      split at h
      · next hb =>
        obtain ⟨v, rfl, hv⟩ := readHexEscape_local h
        refine ⟨b :: v, rfl, fun t => ?_⟩
        simp only [List.cons_append, readEscape, hl, if_pos hb, hv]
      · cases h

theorem readText_local {done x : Bytes} (h : readText done s = .ok (x, r)) :
    ∃ v, s = v ++ r ∧ ∀ t, readText done (v ++ t) = .ok (x, t) := by
  fun_induction readText done s with
  | case1 => cases h
  | case2 done rest =>
    cases h
    refine ⟨[byte '"'], rfl, fun t => ?_⟩
    rw [List.singleton_append, readText, if_pos rfl]
  | case3 => cases h
  | case4 done rest c rest' hescape _ ih =>
    obtain ⟨v, rfl, hv⟩ := readEscape_local hescape
    obtain ⟨w, rfl, hw⟩ := ih h
    refine ⟨byte '\\' :: (v ++ w), by simp, fun t => ?_⟩
    rw [List.cons_append, List.append_assoc, readText_of_escape (hv _), hw]
  | case5 => cases h
  | case6 done b rest hquote hslash hcontrol ih =>
    obtain ⟨v, rfl, hv⟩ := ih h
    refine ⟨b :: v, rfl, fun t => ?_⟩
    rw [List.cons_append, readText, if_neg hquote, if_neg hslash, if_neg hcontrol, hv]

theorem readString_local {text : String} (h : readString s = .ok (text, r)) :
    ∃ v, s = v ++ r ∧ ∀ t, readString (v ++ t) = .ok (text, t) := by
  unfold readString at h
  split at h
  · cases h
  · next bytes rest hbytes =>
    split at h
    · next hutf8 =>
      cases h
      obtain ⟨v, rfl, hv⟩ := readText_local hbytes
      refine ⟨v, rfl, fun t => ?_⟩
      simp only [readString, hv, hutf8]
    · cases h

theorem skipEscape_local (h : skipEscape s = .ok r) :
    ∃ v, s = v ++ r ∧ ∀ t, skipEscape (v ++ t) = .ok t := by
  unfold skipEscape at h
  split at h
  · cases h
  · next b rest =>
    split at h
    · next hl =>
      cases h
      refine ⟨[b], rfl, fun t => ?_⟩
      rw [List.singleton_append, skipEscape, if_pos hl]
    · next hl =>
      split at h
      · next hb =>
        cases hunit : readCodeUnit rest with
        | error e => rw [hunit] at h; cases h
        | ok x =>
          rw [hunit] at h
          cases h
          obtain ⟨v, rfl, hv⟩ := readCodeUnit_local hunit
          refine ⟨b :: v, rfl, fun t => ?_⟩
          rw [List.cons_append, skipEscape, if_neg hl, if_pos hb, hv]
          rfl
      · cases h

theorem skipText_local (h : skipText s = .ok r) :
    ∃ v, s = v ++ r ∧ ∀ t, skipText (v ++ t) = .ok t := by
  fun_induction skipText s with
  | case1 => cases h
  | case2 rest =>
    cases h
    refine ⟨[byte '"'], rfl, fun t => ?_⟩
    rw [List.singleton_append, skipText, if_pos rfl]
  | case3 => cases h
  | case4 rest rest' hescape _ ih =>
    obtain ⟨v, rfl, hv⟩ := skipEscape_local hescape
    obtain ⟨w, rfl, hw⟩ := ih h
    refine ⟨byte '\\' :: (v ++ w), by simp, fun t => ?_⟩
    rw [List.cons_append, List.append_assoc, skipText_of_escape (hv _), hw]
  | case5 => cases h
  | case6 b rest hquote hslash hcontrol ih =>
    obtain ⟨v, rfl, hv⟩ := ih h
    refine ⟨b :: v, rfl, fun t => ?_⟩
    rw [List.cons_append, skipText, if_neg hquote, if_neg hslash, if_neg hcontrol, hv]

/-- What an escape that is read leads to is where passing over it leads to, as the partner of a
leading surrogate is an escape of its own. -/
theorem skipText_of_readEscape {c : Char} (h : readEscape s = .ok (c, r)) :
    skipText (byte '\\' :: s) = skipText r := by
  unfold readEscape at h
  split at h
  · cases h
  · next b rest =>
    split at h
    · next hl =>
      cases h
      refine skipText_of_escape ?_
      rw [skipEscape, if_pos (by rw [hl]; rfl)]
    · next hl =>
      split at h
      · next hb =>
        have hskip : ∀ {n u}, readCodeUnit rest = .ok (n, u) →
            skipText (byte '\\' :: b :: rest) = skipText u := by
          intro n u hunit
          refine skipText_of_escape ?_
          rw [skipEscape, if_neg (by simp [hl]), if_pos hb, hunit]
          rfl
        unfold readHexEscape at h
        split at h
        · cases h
        · next n u hunit =>
          rw [hskip hunit]
          split at h
          · cases h
          · split at h
            · obtain ⟨m, rest', rfl, hpartner, -, -⟩ := readPartner_ok h
              refine skipText_of_escape ?_
              rw [skipEscape, if_neg (by decide), if_pos rfl, hpartner]
              rfl
            · cases h
              rfl
      · cases h

theorem skipText_of_readText {done x : Bytes} (h : readText done s = .ok (x, r)) :
    skipText s = .ok r := by
  fun_induction readText done s with
  | case1 => cases h
  | case2 done rest =>
    cases h
    rw [skipText, if_pos rfl]
  | case3 => cases h
  | case4 done rest c rest' hescape _ ih => rw [skipText_of_readEscape hescape, ih h]
  | case5 => cases h
  | case6 done b rest hquote hslash hcontrol ih =>
    rw [skipText, if_neg hquote, if_neg hslash, if_neg hcontrol, ih h]

theorem skipText_of_readString {text : String} (h : readString s = .ok (text, r)) :
    skipText s = .ok r := by
  unfold readString at h
  split at h
  · cases h
  · next hbytes =>
    split at h
    · cases h
      exact skipText_of_readText hbytes
    · cases h

/-! ## Numbers -/

theorem readDigits_local {atEnd : DecodeError} {ds : List Nat}
    (h : readDigits atEnd s = .ok (ds, r)) :
    ∃ v, s = v ++ r ∧ v ≠ [] ∧ ∀ t, (∀ b ∈ t.head?, isDigit b = false) →
      readDigits atEnd (v ++ t) = .ok (ds, t) := by
  unfold readDigits at h
  split at h
  · cases h
  · next d bs hrun =>
    cases h
    have hdigits : ∀ b ∈ d :: bs, isDigit b = true := by
      rw [← hrun]
      exact List.all_eq_true.mp List.all_takeWhile
    refine ⟨d :: bs, ?_, List.cons_ne_nil _ _, fun t ht => ?_⟩
    · rw [← hrun]
      exact List.takeWhile_append_dropWhile.symm
    · have htake : t.takeWhile isDigit = [] ∧ t.dropWhile isDigit = t := by
        cases t with
        | nil => exact ⟨rfl, rfl⟩
        | cons b t =>
          have hb := ht b rfl
          rw [List.takeWhile_cons, List.dropWhile_cons, hb]
          exact ⟨rfl, rfl⟩
      rw [readDigits, List.takeWhile_append_of_pos hdigits, List.dropWhile_append_of_pos hdigits,
        htake.1, htake.2, List.append_nil]

theorem readWhole_local {atEnd : DecodeError} {ds : List Nat}
    (h : readWhole atEnd s = .ok (ds, r)) :
    ∃ v, s = v ++ r ∧ ∀ t, (∀ b ∈ t.head?, isDigit b = false) →
      readWhole atEnd (v ++ t) = .ok (ds, t) := by
  unfold readWhole at h
  split at h
  · cases h
  · next b rest =>
    split at h
    · next hb =>
      split at h
      · cases h
      · cases h
        refine ⟨[b], rfl, fun t ht => ?_⟩
        have hnext : ¬ (t.head?.map isDigit).getD false = true := by
          cases t with
          | nil => simp
          | cons c t => simp [ht c rfl]
        rw [List.singleton_append, readWhole, if_pos hb, if_neg hnext]
    · next hb =>
      obtain ⟨v, hv, hne, hdigits⟩ := readDigits_local h
      obtain ⟨c, v, rfl⟩ := List.exists_cons_of_ne_nil hne
      obtain ⟨rfl, -⟩ := List.cons.inj hv
      refine ⟨_, hv, fun t ht => ?_⟩
      have hread := hdigits t ht
      rw [List.cons_append] at hread ⊢
      rw [readWhole, if_neg hb, hread]

theorem readFraction_local {atEnd : DecodeError} {ds : List Nat}
    (h : readFraction atEnd s = .ok (ds, r)) :
    ∃ v, s = v ++ r ∧ ∀ t, (∀ b ∈ t.head?, isDigit b = false ∧ b ≠ byte '.') →
      readFraction atEnd (v ++ t) = .ok (ds, t) ∧ ∀ b ∈ (v ++ t).head?, isDigit b = false := by
  have hnone : ∀ t : Bytes, (∀ b ∈ t.head?, isDigit b = false ∧ b ≠ byte '.') →
      readFraction atEnd t = .ok ([], t) ∧ ∀ b ∈ t.head?, isDigit b = false :=
    fun t ht => ⟨readFraction_of_delimited (fun b hb => (ht b hb).2) _, fun b hb => (ht b hb).1⟩
  unfold readFraction at h
  split at h
  · cases h
    exact ⟨[], rfl, hnone⟩
  · next b rest =>
    split at h
    · next hb =>
      obtain ⟨v, rfl, -, hv⟩ := readDigits_local h
      refine ⟨b :: v, rfl, fun t ht => ⟨?_, ?_⟩⟩
      · rw [List.cons_append, readFraction, if_pos hb, hv t fun b hb => (ht b hb).1]
      · rintro _ ⟨⟩
        rw [hb]
        decide
    · cases h
      exact ⟨[], rfl, hnone⟩

theorem readSign_local (s : Bytes) :
    ∃ sign, s = sign ++ (readSign s).2 ∧ ∀ y : Bytes, y.head? = (readSign s).2.head? →
      readSign (sign ++ y) = ((readSign s).1, y) := by
  cases s with
  | nil =>
    refine ⟨[], rfl, fun y hy => ?_⟩
    rw [List.nil_append, List.head?_eq_none_iff.mp hy]
    rfl
  | cons b s =>
    by_cases hminus : b = byte '-'
    · refine ⟨[b], ?_, fun y _ => ?_⟩ <;> simp only [readSign, if_pos hminus, List.singleton_append]
    · by_cases hplus : b = byte '+'
      · refine ⟨[b], ?_, fun y _ => ?_⟩ <;>
          simp only [readSign, if_neg hminus, if_pos hplus, List.singleton_append]
      · simp only [readSign, if_neg hminus, if_neg hplus]
        refine ⟨[], rfl, fun y hy => ?_⟩
        obtain ⟨y', rfl⟩ := List.head?_eq_some_iff.mp hy
        simp only [List.nil_append, if_neg hminus, if_neg hplus]

theorem readExponent_local {atEnd : DecodeError} {x : Option (Bool × List Nat)}
    (h : readExponent atEnd s = .ok (x, r)) :
    ∃ v, s = v ++ r ∧ ∀ t, Delimited t →
      readExponent atEnd (v ++ t) = .ok (x, t) ∧
        ∀ b ∈ (v ++ t).head?, isDigit b = false ∧ b ≠ byte '.' := by
  have hnone : ∀ t : Bytes, Delimited t → readExponent atEnd t = .ok (none, t) ∧
      ∀ b ∈ t.head?, isDigit b = false ∧ b ≠ byte '.' :=
    fun t ht => ⟨readExponent_of_delimited ht _, fun b hb => ⟨(ht b hb).1, (ht b hb).2.1⟩⟩
  unfold readExponent at h
  split at h
  · cases h
    exact ⟨[], rfl, hnone⟩
  · next b rest =>
    split at h
    · next hb =>
      split at h
      · cases h
      · next ds rest' hdigits =>
        cases h
        obtain ⟨sign, hsign, hreads⟩ := readSign_local rest
        obtain ⟨v, hv, hne, hdigits⟩ := readDigits_local hdigits
        refine ⟨b :: (sign ++ v), ?_, fun t ht => ⟨?_, ?_⟩⟩
        · rw [List.cons_append, List.append_assoc, ← hv, ← hsign]
        · have hhead : (v ++ t).head? = (readSign rest).2.head? := by
            obtain ⟨c, v, rfl⟩ := List.exists_cons_of_ne_nil hne
            rw [hv]
            rfl
          rw [List.cons_append, List.append_assoc, readExponent, if_pos hb, hreads _ hhead]
          simp only [hdigits t fun b hb => (ht b hb).1]
        · rintro _ ⟨⟩
          rcases hb with rfl | rfl <;> decide
    · cases h
      exact ⟨[], rfl, hnone⟩

theorem readUnsigned_local {atEnd : DecodeError} {minus : Bool} {l : NumberLiteral}
    (h : readUnsigned atEnd minus s = .ok (l, r)) :
    ∃ v, s = v ++ r ∧ ∀ t, Delimited t → readUnsigned atEnd minus (v ++ t) = .ok (l, t) := by
  unfold readUnsigned at h
  split at h
  · cases h
  · next whole s₁ hwhole =>
    split at h
    · cases h
    · next fraction s₂ hfraction =>
      split at h
      · cases h
      · next exponent s₃ hexponent =>
        cases h
        obtain ⟨u, rfl, hu⟩ := readWhole_local hwhole
        obtain ⟨v, rfl, hv⟩ := readFraction_local hfraction
        obtain ⟨w, rfl, hw⟩ := readExponent_local hexponent
        refine ⟨u ++ (v ++ w), by simp, fun t ht => ?_⟩
        obtain ⟨hexponent, hfollows⟩ := hw t ht
        obtain ⟨hfraction, hfollows⟩ := hv _ hfollows
        simp only [List.append_assoc, readUnsigned, hu _ hfollows, hfraction, hexponent]

theorem readLiteral_local {atEnd : DecodeError} {l : NumberLiteral}
    (h : readLiteral atEnd s = .ok (l, r)) :
    ∃ v, s = v ++ r ∧ ∀ t, Delimited t → readLiteral atEnd (v ++ t) = .ok (l, t) := by
  unfold readLiteral at h
  split at h
  · cases h
  · next b rest =>
    split at h
    · next hb =>
      obtain ⟨v, rfl, hv⟩ := readUnsigned_local h
      refine ⟨b :: v, rfl, fun t ht => ?_⟩
      rw [List.cons_append, readLiteral, if_pos hb, hv t ht]
    · next hb =>
      obtain ⟨v, hv, hread⟩ := readUnsigned_local h
      obtain ⟨w, rfl, -⟩ := eq_cons_of_append hv (length_readUnsigned_lt h)
      refine ⟨b :: w, hv, fun t ht => ?_⟩
      have hread := hread t ht
      rw [List.cons_append] at hread ⊢
      rw [readLiteral, if_neg hb, hread]

theorem readNumber_local {n : Number} (h : readNumber s = .ok (n, r)) :
    ∃ v, s = v ++ r ∧ ∀ t, Delimited t → readNumber (v ++ t) = .ok (n, t) := by
  unfold readNumber at h
  split at h
  · cases h
  · next l rest hliteral =>
    split at h
    · cases h
    · next hvalue =>
      cases h
      obtain ⟨v, rfl, hv⟩ := readLiteral_local hliteral
      refine ⟨v, rfl, fun t ht => ?_⟩
      simp only [readNumber, hv t ht, hvalue]

/-! The fault of an early end is of no account to what is read. -/

theorem readDigits_atEnd {atEnd : DecodeError} {x : List Nat × Bytes}
    (h : readDigits atEnd s = .ok x) (atEnd' : DecodeError) : readDigits atEnd' s = .ok x := by
  unfold readDigits at h ⊢
  split at h
  · cases h
  · exact h

theorem readWhole_atEnd {atEnd : DecodeError} {x : List Nat × Bytes}
    (h : readWhole atEnd s = .ok x) (atEnd' : DecodeError) : readWhole atEnd' s = .ok x := by
  unfold readWhole at h ⊢
  split at h
  · cases h
  · split at h
    · next hb =>
      rw [if_pos hb]
      exact h
    · next hb =>
      rw [if_neg hb]
      exact readDigits_atEnd h atEnd'

theorem readFraction_atEnd {atEnd : DecodeError} {x : List Nat × Bytes}
    (h : readFraction atEnd s = .ok x) (atEnd' : DecodeError) : readFraction atEnd' s = .ok x := by
  unfold readFraction at h ⊢
  split at h
  · exact h
  · split at h
    · next hb =>
      rw [if_pos hb]
      exact readDigits_atEnd h atEnd'
    · next hb =>
      rw [if_neg hb]
      exact h

theorem readExponent_atEnd {atEnd : DecodeError} {x : Option (Bool × List Nat) × Bytes}
    (h : readExponent atEnd s = .ok x) (atEnd' : DecodeError) : readExponent atEnd' s = .ok x := by
  unfold readExponent at h ⊢
  split at h
  · exact h
  · split at h
    · next hb =>
      rw [if_pos hb]
      split at h
      · cases h
      · next hdigits =>
        rw [readDigits_atEnd hdigits atEnd']
        exact h
    · next hb =>
      rw [if_neg hb]
      exact h

theorem readLiteral_atEnd {atEnd : DecodeError} {x : NumberLiteral × Bytes}
    (h : readLiteral atEnd s = .ok x) (atEnd' : DecodeError) : readLiteral atEnd' s = .ok x := by
  have hunsigned : ∀ {minus : Bool} {u : Bytes}, readUnsigned atEnd minus u = .ok x →
      readUnsigned atEnd' minus u = .ok x := by
    intro minus u hu
    unfold readUnsigned at hu
    split at hu
    · cases hu
    · next hwhole =>
      split at hu
      · cases hu
      · next hfraction =>
        split at hu
        · cases hu
        · next hexponent =>
          simp only [readUnsigned, readWhole_atEnd hwhole atEnd',
            readFraction_atEnd hfraction atEnd', readExponent_atEnd hexponent atEnd']
          exact hu
  unfold readLiteral at h ⊢
  split at h
  · cases h
  · split at h
    · next hb =>
      rw [if_pos hb]
      exact hunsigned h
    · next hb =>
      rw [if_neg hb]
      exact hunsigned h

end Json
end PadRelay
