import PadRelay.Framer
import Mathlib.Data.List.Infix

/-!
# PadRelay.Proofs.Framing.Cut

The documents of a stream, said of the bytes alone: no buffer, no reads.

* `cut`: the stream cut at its terminators, the leftmost first. The first component holds the
  pieces before the terminators, the second what follows the last of them.
* `cut_append`: more bytes change only what follows the last terminator.
* `cut_overlap`: bytes in front of the last three of an unfinished piece are not needed to find
  where it ends.
* `remainder_le_of_prefix`: while a stream arrives, what waits for its terminator is never longer
  than a piece of the whole stream and three bytes.
-/

namespace PadRelay
namespace Framing

def terminator : Bytes := [13, 10, 13, 10]

/-! ## The first terminator -/

theorem dropInfix?_eq_some_iff_leftmost {s piece rest : Bytes} :
    s.dropInfix? terminator = some (piece, rest) ↔
      s = piece ++ terminator ++ rest ∧
        ∀ a b, s = a ++ terminator ++ b → piece.length ≤ a.length := by
  simp only [List.dropInfix?_eq_some_iff, beq_iff_eq, exists_eq_right]
  constructor
  · rintro ⟨hs, hmin⟩
    exact ⟨hs, fun a b hab => hmin a terminator b hab rfl⟩
  · rintro ⟨hs, hmin⟩
    refine ⟨hs, ?_⟩
    rintro a i b hab rfl
    exact hmin a b hab

theorem dropInfix?_eq_some_iff {s piece rest : Bytes} :
    s.dropInfix? terminator = some (piece, rest) ↔
      s = piece ++ terminator ++ rest ∧ ¬ terminator <:+: piece ++ [13, 10, 13] := by
  rw [dropInfix?_eq_some_iff_leftmost]
  constructor
  · rintro ⟨rfl, hmin⟩
    refine ⟨rfl, ?_⟩
    rintro ⟨a, b, hab⟩
    have hle := hmin a (b ++ 10 :: rest)
      (by rw [← List.append_assoc, hab]; simp [terminator])
    have hlen := congrArg List.length hab
    simp only [List.length_append, List.length_cons, List.length_nil, terminator] at hlen
    omega
  · rintro ⟨rfl, hfree⟩
    refine ⟨rfl, fun a b hab => ?_⟩
    rcases Nat.lt_or_ge a.length piece.length with hlt | hge
    · have hfirst : piece ++ [13, 10, 13] <+: piece ++ terminator ++ rest :=
        ⟨10 :: rest, by simp [terminator]⟩
      have hshort : a ++ terminator <+: piece ++ [13, 10, 13] := by
        refine List.prefix_of_prefix_length_le (hab ▸ List.prefix_append _ _) hfirst ?_
        simp only [List.length_append, List.length_cons, List.length_nil, terminator]
        omega
      exact absurd ((List.suffix_append a terminator).isInfix.trans hshort.isInfix) hfree
    · exact hge

theorem dropInfix?_eq_none_iff {s : Bytes} :
    s.dropInfix? terminator = none ↔ ¬ terminator <:+: s := by
  constructor
  · rintro hnone ⟨a, b, hab⟩
    induction hn : a.length using Nat.strongRecOn generalizing a b with
    | ind n ih =>
      by_cases hfree : terminator <:+: a ++ [13, 10, 13]
      · obtain ⟨c, d, hcd⟩ := hfree
        have hlen := congrArg List.length hcd
        simp only [List.length_append, List.length_cons, List.length_nil, terminator] at hlen
        refine ih c.length (by omega) c (d ++ 10 :: b) ?_ rfl
        rw [← List.append_assoc, hcd, ← hab]
        simp [terminator]
      · rw [dropInfix?_eq_some_iff.mpr ⟨hab.symm, hfree⟩] at hnone
        cases hnone
  · intro hfree
    cases h : s.dropInfix? terminator with
    | none => rfl
    | some x =>
      obtain ⟨rfl, _⟩ := dropInfix?_eq_some_iff.mp h
      exact absurd (List.infix_append x.1 terminator x.2) hfree

theorem length_lt_of_dropInfix? {s piece rest : Bytes}
    (h : s.dropInfix? terminator = some (piece, rest)) : rest.length < s.length := by
  obtain ⟨rfl, _⟩ := dropInfix?_eq_some_iff.mp h
  simp only [List.length_append, List.length_cons, List.length_nil, terminator]
  omega

/-- An occurrence of the terminator cannot reach from before three bytes to behind them. -/
theorem terminated_of_overlap {a s y : Bytes} (hs : 3 ≤ s.length)
    (h : terminator <:+: a ++ (s ++ y)) : terminator <:+: a ++ s ∨ terminator <:+: s ++ y := by
  obtain ⟨u, v, huv⟩ := h
  rcases Nat.lt_or_ge u.length a.length with hlt | hge
  · left
    have hfirst : a ++ s <+: a ++ (s ++ y) := ⟨y, by simp⟩
    have hshort : u ++ terminator <+: a ++ s := by
      refine List.prefix_of_prefix_length_le (huv ▸ List.prefix_append _ _) hfirst ?_
      simp only [List.length_append, List.length_cons, List.length_nil, terminator]
      omega
    exact (List.suffix_append u terminator).isInfix.trans hshort.isInfix
  · right
    have hu : u <+: a ++ (s ++ y) := by
      rw [← huv, List.append_assoc]
      exact List.prefix_append _ _
    obtain ⟨w, rfl⟩ := List.prefix_of_prefix_length_le (List.prefix_append _ _) hu hge
    simp only [List.append_assoc, List.append_cancel_left_eq] at huv
    exact ⟨w, v, by simpa using huv⟩

/-! ## The pieces of a stream -/

/-- The pieces before the terminators, and what follows the last terminator. -/
def cut (s : Bytes) : List Bytes × Bytes :=
  match _h : s.dropInfix? terminator with
  | none => ([], s)
  | some (piece, rest) => (piece :: (cut rest).1, (cut rest).2)
termination_by s.length
decreasing_by all_goals exact length_lt_of_dropInfix? _h

theorem cut_of_none {s : Bytes} (h : s.dropInfix? terminator = none) : cut s = ([], s) := by
  rw [cut]
  split
  · rfl
  · next hs => rw [h] at hs; cases hs

theorem cut_of_some {s piece rest : Bytes} (h : s.dropInfix? terminator = some (piece, rest)) :
    cut s = (piece :: (cut rest).1, (cut rest).2) := by
  rw [cut]
  split
  · next hs => rw [h] at hs; cases hs
  · next hs => rw [h] at hs; cases hs; rfl

theorem cut_fst_eq_nil_iff {s : Bytes} : (cut s).1 = [] ↔ ¬ terminator <:+: s := by
  rw [← dropInfix?_eq_none_iff]
  cases h : s.dropInfix? terminator with
  | none => simp [cut_of_none h]
  | some x =>
    obtain ⟨piece, rest⟩ := x
    simp [cut_of_some h]

theorem cut_of_free {s : Bytes} (h : ¬ terminator <:+: s) : cut s = ([], s) :=
  cut_of_none (dropInfix?_eq_none_iff.mpr h)

theorem cut_snd_of_fst_eq_nil {s : Bytes} (h : (cut s).1 = []) : (cut s).2 = s := by
  rw [cut_of_free (cut_fst_eq_nil_iff.mp h)]

theorem remainder_free (s : Bytes) : ¬ terminator <:+: (cut s).2 := by
  fun_induction cut s with
  | case1 s h => exact dropInfix?_eq_none_iff.mp h
  | case2 _ _ _ _ ih => exact ih

/-- No byte is lost: the pieces with their terminators and the remainder are the stream. -/
theorem join_cut (s : Bytes) : ((cut s).1.map (· ++ terminator)).flatten ++ (cut s).2 = s := by
  fun_induction cut s with
  | case1 s h => simp
  | case2 s piece rest h ih =>
    obtain ⟨rfl, _⟩ := dropInfix?_eq_some_iff.mp h
    simp only [List.map_cons, List.flatten_cons, List.append_assoc, ih]

theorem remainder_suffix (s : Bytes) : (cut s).2 <:+ s := ⟨_, join_cut s⟩

theorem cut_piece {piece rest : Bytes} (h : ¬ terminator <:+: piece ++ [13, 10, 13]) :
    cut (piece ++ terminator ++ rest) = (piece :: (cut rest).1, (cut rest).2) :=
  cut_of_some (dropInfix?_eq_some_iff.mpr ⟨rfl, h⟩)

theorem cut_append (s x : Bytes) :
    cut (s ++ x) = ((cut s).1 ++ (cut ((cut s).2 ++ x)).1, (cut ((cut s).2 ++ x)).2) := by
  fun_induction cut s with
  | case1 s h => simp
  | case2 s piece rest h ih =>
    obtain ⟨rfl, hfree⟩ := dropInfix?_eq_some_iff.mp h
    rw [List.append_assoc, cut_piece hfree, ih]
    simp

/-- Bytes in front of the last three of an unfinished piece count for the first piece only, and
for what is left when none is complete. -/
theorem cut_overlap {a s : Bytes} (hfree : ¬ terminator <:+: a ++ s) (hs : 3 ≤ s.length)
    (x : Bytes) :
    (cut (a ++ (s ++ x))).1.tail = (cut (s ++ x)).1.tail ∧
      (cut (a ++ (s ++ x))).1.length = (cut (s ++ x)).1.length ∧
      if (cut (s ++ x)).1 = [] then (cut (a ++ (s ++ x))).2 = a ++ (cut (s ++ x)).2
      else (cut (a ++ (s ++ x))).2 = (cut (s ++ x)).2 := by
  cases h : (s ++ x).dropInfix? terminator with
  | none =>
    have hall : ¬ terminator <:+: a ++ (s ++ x) := fun hin =>
      (terminated_of_overlap hs hin).elim hfree (dropInfix?_eq_none_iff.mp h)
    simp [cut_of_none h, cut_of_free hall]
  | some y =>
    obtain ⟨piece, rest⟩ := y
    obtain ⟨hsx, hpiece⟩ := dropInfix?_eq_some_iff.mp h
    have hall : ¬ terminator <:+: (a ++ piece) ++ [13, 10, 13] := by
      have hfirst : piece ++ [13, 10, 13] <+: s ++ x := ⟨10 :: rest, by simp [hsx, terminator]⟩
      have hends : piece ++ terminator <+: s ++ x := ⟨rest, hsx.symm⟩
      obtain ⟨y, hy⟩ : s <+: piece ++ [13, 10, 13] := by
        refine List.prefix_of_prefix_length_le (List.prefix_append _ _) hfirst ?_
        rcases Nat.lt_or_ge s.length (piece.length + 4) with hlt | hge
        · simp only [List.length_append, List.length_cons, List.length_nil]
          omega
        · have hin : piece ++ terminator <+: s :=
            List.prefix_of_prefix_length_le hends (List.prefix_append _ _)
              (by simpa [terminator] using hge)
          exact absurd (((List.suffix_append piece terminator).isInfix.trans hin.isInfix).trans
            (List.suffix_append a s).isInfix) hfree
      rw [List.append_assoc, ← hy]
      intro hin
      exact (terminated_of_overlap hs hin).elim hfree (by rw [hy]; exact hpiece)
    rw [cut_of_some h, hsx, ← List.append_assoc, ← List.append_assoc, cut_piece hall]
    simp

/-- While a stream arrives, what waits for its terminator is no longer than a piece of the whole
stream with three bytes of a terminator, or than the remainder. -/
theorem remainder_le_of_prefix {t s : Bytes} (h : t <+: s) :
    (∃ piece ∈ (cut s).1, (cut t).2.length ≤ piece.length + 3) ∨
      (cut t).2.length ≤ (cut s).2.length := by
  fun_induction cut s generalizing t with
  | case1 s hs =>
    have hfree : ¬ terminator <:+: t := fun hin =>
      dropInfix?_eq_none_iff.mp hs (hin.trans h.isInfix)
    right
    rw [cut_of_free hfree]
    exact h.length_le
  | case2 s piece rest hs ih =>
    obtain ⟨rfl, hpiece⟩ := dropInfix?_eq_some_iff.mp hs
    rcases Nat.lt_or_ge t.length (piece.length + 4) with hlt | hge
    · have hshort : t <+: piece ++ [13, 10, 13] :=
        List.prefix_of_prefix_length_le h ⟨10 :: rest, by simp [terminator]⟩ (by simp; omega)
      have hfree : ¬ terminator <:+: t := fun hin => hpiece (hin.trans hshort.isInfix)
      rw [cut_of_free hfree]
      exact .inl ⟨piece, by simp, Nat.le_of_lt_succ hlt⟩
    · obtain ⟨u, rfl⟩ : piece ++ terminator <+: t :=
        List.prefix_of_prefix_length_le (List.prefix_append _ _) h (by simpa [terminator] using hge)
      rw [cut_piece hpiece]
      rcases ih ((List.prefix_append_right_inj _).mp h) with ⟨q, hq, hle⟩ | hle
      · exact .inl ⟨q, by simp [hq], hle⟩
      · exact .inr hle

end Framing
end PadRelay
