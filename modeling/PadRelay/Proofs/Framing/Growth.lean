import Mathlib.Algebra.GroupWithZero.Nat
import PadRelay.Proofs.Framing.Cut

/-!
# PadRelay.Proofs.Framing.Growth

How the pieces of a stream grow while it arrives read by read, and what a limit on their size
makes of that. Only the bytes count here, no buffer.

* `growth`: behind each number of reads, which piece waits for its terminator and how long it is.
* `overgrown`: the pieces that were over the limit behind some read.
* `drops`: how much of a piece is dropped, and when, if every drop leaves its last three bytes.
* `reports`: the drops of all pieces of a stream, one piece after the other.
* `reports_concat`: one more read adds one drop or none.
* `length_drops_eq_one_iff`: one drop is made of a piece exactly if little of it comes later.
* `mem_overgrown_iff_of_length_le`: a piece within the limit is overgrown exactly if a read ends
  in its terminator and the bytes of that do not fit any more.
-/

namespace PadRelay
namespace Framing

/-! ## Pieces in front of a piece -/

/-- A piece holds no terminator, also with most of one behind it. -/
theorem free_of_mem_cut {s piece : Bytes} (h : piece ∈ (cut s).1) :
    ¬ terminator <:+: piece ++ [13, 10, 13] := by
  fun_induction cut s with
  | case1 s hs => cases h
  | case2 s first rest hs ih =>
    rcases List.mem_cons.mp h with rfl | hmem
    · exact (dropInfix?_eq_some_iff.mp hs).2
    · exact ih hmem

/-- Pieces as a stream holds them, each with its terminator. -/
def terminated (pieces : List Bytes) : Bytes := (pieces.map (· ++ terminator)).flatten

theorem cut_terminated_append {pieces : List Bytes}
    (h : ∀ piece ∈ pieces, ¬ terminator <:+: piece ++ [13, 10, 13]) (s : Bytes) :
    cut (terminated pieces ++ s) = (pieces ++ (cut s).1, (cut s).2) := by
  induction pieces with
  | nil => rfl
  | cons piece pieces ih =>
    obtain ⟨hpiece, hrest⟩ := List.forall_mem_cons.mp h
    have hassoc : terminated (piece :: pieces) ++ s =
        piece ++ terminator ++ (terminated pieces ++ s) := by
      simp [terminated]
    rw [hassoc, cut_piece hpiece, ih hrest, List.cons_append]

/-- What is cut off a stream so far is cut off it when more has come. -/
theorem prefix_cut {t s : Bytes} (h : t <+: s) : (cut t).1 <+: (cut s).1 := by
  obtain ⟨x, rfl⟩ := h
  rw [cut_append]
  exact List.prefix_append _ _

theorem prefix_flatten {taken reads : List Bytes} (h : taken <+: reads) :
    taken.flatten <+: reads.flatten := by
  obtain ⟨more, rfl⟩ := h
  rw [List.flatten_append]
  exact List.prefix_append _ _

/-! ## Growth -/

/-- Behind each number of reads, none included: the number of the piece that waits for its
terminator, and how many bytes of it are there. -/
def growth (reads : List Bytes) : List (Nat × Nat) :=
  reads.inits.map fun taken => ((cut taken.flatten).1.length, (cut taken.flatten).2.length)

/-- The sizes of a piece behind the reads that ended in it or in its terminator. -/
def sizes (reads : List Bytes) (n : Nat) : List Nat :=
  ((growth reads).filter fun x => x.1 = n).map (·.2)

/-- The numbers of the pieces that were over the limit behind some read. -/
def overgrown (maxDocument : Nat) (reads : List Bytes) : List Nat :=
  ((growth reads).filter fun x => maxDocument < x.2).map (·.1)

variable {maxDocument : Nat} {reads : List Bytes} {n : Nat}

theorem mem_growth_iff {x : Nat × Nat} :
    x ∈ growth reads ↔ ∃ taken, taken <+: reads ∧
      (cut taken.flatten).1.length = x.1 ∧ (cut taken.flatten).2.length = x.2 := by
  simp only [growth, List.mem_map, List.mem_inits, Prod.ext_iff]

theorem growth_concat (reads : List Bytes) (x : Bytes) :
    growth (reads ++ [x]) = growth reads ++
      [((cut (reads ++ [x]).flatten).1.length, (cut (reads ++ [x]).flatten).2.length)] := by
  simp [growth, List.inits_append]

theorem fst_le_of_mem_growth {x : Nat × Nat} (h : x ∈ growth reads) :
    x.1 ≤ (cut reads.flatten).1.length := by
  obtain ⟨taken, hpre, hnumber, -⟩ := mem_growth_iff.mp h
  rw [← hnumber]
  exact (prefix_cut (prefix_flatten hpre)).length_le

theorem mem_sizes_iff {size : Nat} : size ∈ sizes reads n ↔ (n, size) ∈ growth reads := by
  simp [sizes]

theorem mem_overgrown_iff :
    n ∈ overgrown maxDocument reads ↔ ∃ size ∈ sizes reads n, maxDocument < size := by
  simp [overgrown, mem_sizes_iff, and_comm]

theorem sizes_concat (reads : List Bytes) (x : Bytes) (n : Nat) :
    sizes (reads ++ [x]) n = sizes reads n ++
      if (cut (reads ++ [x]).flatten).1.length = n then [(cut (reads ++ [x]).flatten).2.length]
      else [] := by
  rw [sizes, growth_concat, List.filter_append, List.map_append]
  congr 1
  by_cases h : (cut (reads ++ [x]).flatten).1.length = n
  · simp only [h, List.filter_cons, decide_true, if_true, List.filter_nil, List.map_cons,
      List.map_nil]
  · simp only [h, List.filter_cons, decide_false, Bool.false_eq_true, if_false, List.filter_nil,
      List.map_nil]

/-- No read ended in a piece that has not begun. -/
theorem sizes_eq_nil (h : (cut reads.flatten).1.length < n) : sizes reads n = [] := by
  rw [List.eq_nil_iff_forall_not_mem]
  intro size hsize
  have hle := fst_le_of_mem_growth (mem_sizes_iff.mp hsize)
  omega

theorem overgrown_concat (reads : List Bytes) (x : Bytes) :
    overgrown maxDocument (reads ++ [x]) = overgrown maxDocument reads ++
      if (cut (reads ++ [x]).flatten).2.length ≤ maxDocument then []
      else [(cut (reads ++ [x]).flatten).1.length] := by
  rw [overgrown, growth_concat, List.filter_append, List.map_append]
  congr 1
  by_cases h : (cut (reads ++ [x]).flatten).2.length ≤ maxDocument
  · simp only [h, Nat.not_lt.mpr h, List.filter_cons, decide_false, Bool.false_eq_true, if_true,
      if_false, List.filter_nil, List.map_nil]
  · simp only [h, Nat.not_le.mp h, List.filter_cons, decide_true, if_true, if_false,
      List.filter_nil, List.map_cons, List.map_nil]

theorem le_of_mem_overgrown (h : n ∈ overgrown maxDocument reads) :
    n ≤ (cut reads.flatten).1.length := by
  obtain ⟨size, hsize, -⟩ := mem_overgrown_iff.mp h
  exact fst_le_of_mem_growth (mem_sizes_iff.mp hsize)

/-! ## Drops -/

/-- How much is dropped of so many bytes. Three are left. -/
def excess (maxDocument pending : Nat) : Option Nat :=
  if pending ≤ maxDocument then none else some (pending - 3)

/-- The drops made of a piece with these sizes, `gone` bytes being dropped already. -/
def drops (maxDocument : Nat) : Nat → List Nat → List Nat
  | _, [] => []
  | gone, size :: later =>
    if size - gone ≤ maxDocument then drops maxDocument gone later
    else (size - gone - 3) :: drops maxDocument (size - 3) later

theorem drops_of_le {gone : Nat} {before : List Nat}
    (h : ∀ size ∈ before, size - gone ≤ maxDocument) (later : List Nat) :
    drops maxDocument gone (before ++ later) = drops maxDocument gone later := by
  induction before with
  | nil => rfl
  | cons size before ih =>
    obtain ⟨hsize, hrest⟩ := List.forall_mem_cons.mp h
    rw [List.cons_append, drops, if_pos hsize, ih hrest]

theorem drops_eq_nil_iff {gone : Nat} {sizes : List Nat} :
    drops maxDocument gone sizes = [] ↔ ∀ size ∈ sizes, size - gone ≤ maxDocument := by
  induction sizes with
  | nil => simp [drops]
  | cons size later ih =>
    by_cases h : size - gone ≤ maxDocument
    · rw [drops, if_pos h, ih, List.forall_mem_cons]
      exact (and_iff_right h).symm
    · rw [drops, if_neg h]
      exact iff_of_false (List.cons_ne_nil _ _) fun hall => h (hall size List.mem_cons_self)

/-- What is dropped is counted by the drops, so the next one depends on their sum. -/
theorem drops_concat (hmax : 2 ≤ maxDocument) (gone : Nat) (sizes : List Nat) (size : Nat) :
    drops maxDocument gone (sizes ++ [size]) = drops maxDocument gone sizes ++
      (excess maxDocument (size - (gone + (drops maxDocument gone sizes).sum))).toList := by
  induction sizes generalizing gone with
  | nil => by_cases h : size - gone ≤ maxDocument <;> simp [drops, excess, h]
  | cons first later ih =>
    by_cases h : first - gone ≤ maxDocument
    · simp only [List.cons_append, drops, if_pos h]
      exact ih gone
    · have hsum : first - 3 + (drops maxDocument (first - 3) later).sum =
          gone + (first - gone - 3 + (drops maxDocument (first - 3) later).sum) := by
        omega
      simp only [List.cons_append, drops, if_neg h, List.sum_cons]
      rw [ih (first - 3), hsum]

theorem mem_overgrown_iff_drops :
    n ∈ overgrown maxDocument reads ↔ drops maxDocument 0 (sizes reads n) ≠ [] := by
  rw [mem_overgrown_iff, Ne, drops_eq_nil_iff]
  simp

/-- A piece is dropped from once exactly if, after the first size over the limit, no more bytes
of it are there behind a read than fit beside the three that were left. -/
theorem length_drops_eq_one_iff (hmax : 2 ≤ maxDocument) {sizes : List Nat} :
    (drops maxDocument 0 sizes).length = 1 ↔
      ∃ before size later, sizes = before ++ size :: later ∧ (∀ s ∈ before, s ≤ maxDocument) ∧
        maxDocument < size ∧ ∀ s ∈ later, s + 3 ≤ size + maxDocument := by
  have hfirst : ∀ {before later : List Nat} {size : Nat}, (∀ s ∈ before, s ≤ maxDocument) →
      maxDocument < size → ((drops maxDocument 0 (before ++ size :: later)).length = 1 ↔
        ∀ s ∈ later, s + 3 ≤ size + maxDocument) := by
    intro before later size hbefore hsize
    rw [drops_of_le hbefore, drops, if_neg (by omega), List.length_cons, Nat.add_eq_right,
      List.length_eq_zero_iff, drops_eq_nil_iff]
    refine forall₂_congr fun s _ => ?_
    omega
  constructor
  · intro hone
    have hsome : ∃ s ∈ sizes, ¬ s ≤ maxDocument := by
      by_contra hnone
      push Not at hnone
      rw [drops_eq_nil_iff.mpr hnone] at hone
      cases hone
    obtain ⟨s, hs⟩ := Option.isSome_iff_exists.mp
      (List.find?_isSome.mpr (by simpa using hsome) :
        (sizes.find? fun s => maxDocument < s).isSome = true)
    obtain ⟨hover, before, later, rfl, hbefore⟩ := List.find?_eq_some_iff_append.mp hs
    have hle : ∀ s ∈ before, s ≤ maxDocument := by simpa using hbefore
    have hlt : maxDocument < s := by simpa using hover
    exact ⟨before, s, later, rfl, hle, hlt, (hfirst hle hlt).mp hone⟩
  · rintro ⟨before, size, later, rfl, hbefore, hsize, hlater⟩
    exact (hfirst hbefore hsize).mpr hlater

/-! ## Reports -/

/-- The drops made of the pieces of a stream and of its remainder, one after the other. -/
def reports (maxDocument : Nat) (reads : List Bytes) : List Nat :=
  (List.range ((cut reads.flatten).1.length + 1)).flatMap fun n =>
    drops maxDocument 0 (sizes reads n)

def gone (maxDocument : Nat) (reads : List Bytes) (n : Nat) : Nat :=
  (drops maxDocument 0 (sizes reads n)).sum

theorem gone_eq_zero (h : n ∉ overgrown maxDocument reads) : gone maxDocument reads n = 0 := by
  rw [mem_overgrown_iff_drops, not_not] at h
  rw [gone, h, List.sum_nil]

/-- The drop that the last read makes necessary is one more of the piece that waits. -/
theorem drops_sizes_concat (hmax : 2 ≤ maxDocument) (reads : List Bytes) (x : Bytes) :
    drops maxDocument 0 (sizes (reads ++ [x]) (cut (reads ++ [x]).flatten).1.length) =
      drops maxDocument 0 (sizes reads (cut (reads ++ [x]).flatten).1.length) ++
        (excess maxDocument ((cut (reads ++ [x]).flatten).2.length -
          gone maxDocument reads (cut (reads ++ [x]).flatten).1.length)).toList := by
  rw [sizes_concat, if_pos rfl, drops_concat hmax, Nat.zero_add, gone]

/-- Pieces that have not begun are not dropped from, so it does not matter how many of them are
looked at. -/
theorem reports_eq_of_le {m : Nat} (h : (cut reads.flatten).1.length ≤ m) :
    reports maxDocument reads =
      (List.range (m + 1)).flatMap fun n => drops maxDocument 0 (sizes reads n) := by
  induction m, h using Nat.le_induction with
  | base => rfl
  | succ m hle ih =>
    rw [List.range_succ, List.flatMap_append, ← ih, List.flatMap_singleton,
      sizes_eq_nil (Nat.lt_succ_of_le hle), drops, List.append_nil]

theorem reports_concat (hmax : 2 ≤ maxDocument) (reads : List Bytes) (x : Bytes) :
    reports maxDocument (reads ++ [x]) = reports maxDocument reads ++
      (excess maxDocument ((cut (reads ++ [x]).flatten).2.length -
        gone maxDocument reads (cut (reads ++ [x]).flatten).1.length)).toList := by
  have hle : (cut reads.flatten).1.length ≤ (cut (reads ++ [x]).flatten).1.length :=
    (prefix_cut (prefix_flatten (List.prefix_append reads [x]))).length_le
  have hbefore : ∀ n ∈ List.range (cut (reads ++ [x]).flatten).1.length,
      drops maxDocument 0 (sizes (reads ++ [x]) n) = drops maxDocument 0 (sizes reads n) := by
    intro n hn
    have hlt := List.mem_range.mp hn
    rw [sizes_concat, if_neg (by omega), List.append_nil]
  rw [reports_eq_of_le hle, reports, List.range_succ, List.flatMap_append, List.flatMap_append,
    List.flatMap_singleton, List.flatMap_singleton, drops_sizes_concat hmax,
    List.flatMap_congr hbefore, List.append_assoc]

/-! ## Pieces within the limit -/

/-- Where more bytes complete a piece no longer than what waits for it, what waits is the piece and
a part of its terminator. -/
theorem remainder_eq_of_length_le {s more piece : Bytes} {pieces : List Bytes}
    (hnext : (cut ((cut s).2 ++ more)).1 = piece :: pieces)
    (hle : piece.length ≤ (cut s).2.length) :
    ∃ k ≤ 3, (cut s).2 = piece ++ terminator.take k := by
  have hjoin := join_cut ((cut s).2 ++ more)
  rw [hnext, List.map_cons, List.flatten_cons, List.append_assoc] at hjoin
  have hwhole : piece ++ terminator <+: (cut s).2 ++ more := ⟨_, hjoin⟩
  have hstart : (cut s).2 <+: piece ++ terminator := by
    rcases Nat.le_total (cut s).2.length (piece ++ terminator).length with h | h
    · exact List.prefix_of_prefix_length_le (List.prefix_append _ _) hwhole h
    · have hin := List.prefix_of_prefix_length_le hwhole (List.prefix_append _ _) h
      exact absurd ((List.suffix_append piece terminator).isInfix.trans hin.isInfix)
        (remainder_free s)
  obtain ⟨front, hfront⟩ : piece <+: (cut s).2 :=
    List.prefix_of_prefix_length_le (List.prefix_append _ _) hstart hle
  rw [← hfront, List.prefix_append_right_inj] at hstart
  have hne : front ≠ terminator := by
    rintro rfl
    refine remainder_free s ?_
    rw [← hfront]
    exact (List.suffix_append _ _).isInfix
  have hshort : front.length < terminator.length :=
    Nat.lt_of_le_of_ne hstart.length_le fun h => hne (hstart.eq_of_length h)
  exact ⟨front.length, Nat.le_of_lt_succ hshort,
    by rw [← hfront, ← List.prefix_iff_eq_take.mp hstart]⟩

theorem cut_terminated_part {before : List Bytes} {piece : Bytes}
    (hbefore : ∀ p ∈ before, ¬ terminator <:+: p ++ [13, 10, 13])
    (hpiece : ¬ terminator <:+: piece ++ [13, 10, 13]) {k : Nat} (hk : k ≤ 3) :
    cut (terminated before ++ piece ++ terminator.take k) =
      (before, piece ++ terminator.take k) := by
  have hpart : terminator.take k <+: [13, 10, 13] := by
    have hall : ∀ j ≤ 3, terminator.take j <+: [13, 10, 13] := by decide
    exact hall k hk
  have hfree : ¬ terminator <:+: piece ++ terminator.take k := fun hin =>
    hpiece (hin.trans ((List.prefix_append_right_inj piece).mpr hpart).isInfix)
  rw [List.append_assoc, cut_terminated_append hbefore, cut_of_free hfree, List.append_nil]

/-- Of a piece within the limit, too many bytes are there only with some of its terminator. -/
theorem mem_overgrown_iff_of_length_le {piece : Bytes}
    (hpiece : (cut reads.flatten).1[n]? = some piece) (hle : piece.length ≤ maxDocument) :
    n ∈ overgrown maxDocument reads ↔ ∃ taken k, taken <+: reads ∧ k ≤ 3 ∧
      maxDocument < piece.length + k ∧
      taken.flatten = terminated ((cut reads.flatten).1.take n) ++ piece ++ terminator.take k := by
  obtain ⟨hlt, hget⟩ := List.getElem?_eq_some_iff.mp hpiece
  rw [mem_overgrown_iff]
  simp only [mem_sizes_iff, mem_growth_iff]
  constructor
  · rintro ⟨size, ⟨taken, hpre, hnumber, rfl⟩, hover⟩
    change (cut taken.flatten).1.length = n at hnumber
    obtain ⟨more, hmore⟩ := prefix_flatten hpre
    have happ := cut_append taken.flatten more
    rw [hmore] at happ
    have hbefore : (cut taken.flatten).1 = (cut reads.flatten).1.take n := by
      rw [happ, ← hnumber, List.take_left]
    have hnext : (cut ((cut taken.flatten).2 ++ more)).1 =
        piece :: (cut reads.flatten).1.drop (n + 1) := by
      rw [← hget, ← List.drop_eq_getElem_cons hlt, happ, ← hnumber, List.drop_left]
    obtain ⟨k, hk, hwaits⟩ := remainder_eq_of_length_le hnext (by omega)
    refine ⟨taken, k, hpre, hk, ?_, ?_⟩
    · rw [hwaits, List.length_append, List.length_take] at hover
      omega
    · have htaken := join_cut taken.flatten
      rw [hbefore, hwaits] at htaken
      rw [List.append_assoc]
      exact htaken.symm
  · rintro ⟨taken, k, hpre, hk, hover, htaken⟩
    have hcut : cut taken.flatten =
        ((cut reads.flatten).1.take n, piece ++ terminator.take k) := by
      rw [htaken]
      exact cut_terminated_part (fun p hp => free_of_mem_cut (List.mem_of_mem_take hp))
        (free_of_mem_cut (List.mem_of_getElem? hpiece)) hk
    have hpart : (terminator.take k).length = k :=
      List.length_take_of_le (Nat.le_succ_of_le hk)
    refine ⟨(cut taken.flatten).2.length, ⟨taken, hpre, ?_, rfl⟩, ?_⟩
    · rw [hcut]
      exact List.length_take_of_le (Nat.le_of_lt hlt)
    · rw [hcut, List.length_append, hpart]
      exact hover

end Framing
end PadRelay
