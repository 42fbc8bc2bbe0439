import PadRelay.Escape
import PadRelay.Field

/-!
# PadRelay.Template

Templates: text with wildcards that stand for fields of an update's events.

* `scan`: a template as segments, found in one pass from left to right. A percent sign and a
  code in lowercase stand for a field of the event playing now, in uppercase for the next event;
  two percent signs for one; any other percent sign for itself.
* `render`: the text of the segments. Only the values of fields are escaped, and what they hold
  is never scanned again.
* `resolve`: both together.
-/

namespace PadRelay

open Pad (Event)

/-- Which of an update's two events is meant. -/
inductive Slot where
  | now
  | next
  deriving DecidableEq, Repr

namespace Template

/-- A piece of a template. -/
inductive Segment where
  | literal (c : Char)
  | wildcard (field : Field) (slot : Slot)
  deriving DecidableEq, Repr

def isCapital (c : Char) : Bool := 'A' ≤ c && c ≤ 'Z'

def small (c : Char) : Char := Char.ofNat (c.toNat + 32)

/-- The wildcard that a code of one letter stands for. -/
def letter? (a : Char) : Option Segment :=
  if isCapital a then (Field.ofLetter? (small a)).map (.wildcard · .next)
  else (Field.ofLetter? a).map (.wildcard · .now)

/-- The wildcard that a code of two letters of one case stands for. -/
def pair? (a b : Char) : Option Segment :=
  if isCapital a && isCapital b then (Field.ofPair? (small a) (small b)).map (.wildcard · .next)
  else (Field.ofPair? a b).map (.wildcard · .now)

/-- The wildcard at the front of the text behind a percent sign, and the rest of the text. A code
of two letters goes before one of one letter. -/
def wildcard? : List Char → Option (Segment × List Char)
  | [] => none
  | [a] => (letter? a).map (·, [])
  | a :: b :: rest =>
    match pair? a b with
    | some w => some (w, rest)
    | none => (letter? a).map (·, b :: rest)

theorem length_wildcard?_lt {cs rest : List Char} {w : Segment}
    (h : wildcard? cs = some (w, rest)) : rest.length < cs.length := by
  unfold wildcard? at h
  split at h
  · cases h
  · simp only [Option.map_eq_some_iff, Prod.mk.injEq] at h
    obtain ⟨_, _, _, rfl⟩ := h
    simp
  · split at h
    · cases h; simp only [List.length_cons]; omega
    · simp only [Option.map_eq_some_iff, Prod.mk.injEq] at h
      obtain ⟨_, _, _, rfl⟩ := h
      simp

/-- The segments of a template behind those already `done`, the latest first. -/
def scanFrom (done : List Segment) (cs : List Char) : List Segment :=
  match cs with
  | [] => done.reverse
  | c :: rest =>
    if c = '%' then
      if rest.head? = some '%' then scanFrom (.literal '%' :: done) rest.tail
      else
        match _h : wildcard? rest with
        | some (w, rest') => scanFrom (w :: done) rest'
        | none => scanFrom (.literal '%' :: done) rest
    else scanFrom (.literal c :: done) rest
termination_by cs.length
decreasing_by
  · simp only [List.length_tail, List.length_cons]; omega
  · have := length_wildcard?_lt _h; simp only [List.length_cons]; omega
  · simp
  · simp

def scan (template : List Char) : List Segment := scanFrom [] template

def eventAt (now next : Option Event) : Slot → Option Event
  | .now => now
  | .next => next

def renderSegment (now next : Option Event) (escape : Escape) : Segment → List Char
  | .literal c => [c]
  | .wildcard field slot =>
    match eventAt now next slot with
    | some e => (escape.apply (field.value e)).toList
    | none => []

def render (now next : Option Event) (escape : Escape) (segments : List Segment) : List Char :=
  segments.flatMap (renderSegment now next escape)

/-- The template with its wildcards replaced. -/
def resolve (template : String) (now next : Option Event) (escape : Escape) : String :=
  String.ofList (render now next escape (scan template.toList))

end Template
end PadRelay
