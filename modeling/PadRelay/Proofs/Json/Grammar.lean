import PadRelay.Text.Hex

/-!
# PadRelay.Proofs.Json.Grammar

What a JSON text is, apart from how it is read.

* `Tree`: what a text says. A number stays as it is written; a string is its UTF-16 code units, of
  which any sequence can be written, also one that is no text.
* `Spells`: the ways to write code units between quotes.
* `Numeral`: the ways to write a number.
* `Written`: the productions of the grammar; `Document` is a whole text.

A relation `R s t` says that `s` starts with something and that `t` is what is left behind it.
-/

namespace PadRelay
namespace Json

/-! ## Strings -/

def charUnits (c : Char) : List Nat :=
  if c.toNat < 0x10000 then [c.toNat]
  else [0xD800 + (c.toNat - 0x10000) / 0x400, 0xDC00 + (c.toNat - 0x10000) % 0x400]

/-- The UTF-16 code units of a text. -/
def units (s : String) : List Nat := s.toList.flatMap charUnits

/-- The code unit of an escape by a letter. -/
def letterUnit? : Char → Option Nat
  | '"' => some 0x22
  | '\\' => some 0x5C
  | '/' => some 0x2F
  | 'b' => some 0x08
  | 'f' => some 0x0C
  | 'n' => some 0x0A
  | 'r' => some 0x0D
  | 't' => some 0x09
  | _ => none

/-- The code unit of four hexadecimal digits. -/
def hexUnit? (a b c d : Char) : Option Nat :=
  match Text.hexValue? a.toNat, Text.hexValue? b.toNat, Text.hexValue? c.toNat,
    Text.hexValue? d.toNat with
  | some a, some b, some c, some d => some (((a * 16 + b) * 16 + c) * 16 + d)
  | _, _, _, _ => none

/-- Whether a character may stand for itself between quotes. -/
def isPlain (c : Char) : Bool := 0x20 ≤ c.toNat && c != '"' && c != '\\'

/-- Code units as they may be written between quotes. -/
inductive Spells : List Nat → List Char → List Char → Prop where
  | done {t : List Char} : Spells [] t t
  | plain {us : List Nat} {c : Char} {s t : List Char} :
      isPlain c = true → Spells us s t → Spells (charUnits c ++ us) (c :: s) t
  | letter {n : Nat} {us : List Nat} {l : Char} {s t : List Char} :
      letterUnit? l = some n → Spells us s t → Spells (n :: us) ('\\' :: l :: s) t
  | hex {n : Nat} {us : List Nat} {a b c d : Char} {s t : List Char} :
      hexUnit? a b c d = some n → Spells us s t →
        Spells (n :: us) ('\\' :: 'u' :: a :: b :: c :: d :: s) t

/-! ## Numbers -/

def DigitRun (cs : List Char) : Prop := cs ≠ [] ∧ ∀ c ∈ cs, c.isDigit = true

/-- What stands before the point: zero, or digits that start with another one. -/
def Whole (cs : List Char) : Prop := cs = ['0'] ∨ DigitRun cs ∧ cs.head? ≠ some '0'

def Fraction (cs : List Char) : Prop := cs = [] ∨ ∃ ds, DigitRun ds ∧ cs = '.' :: ds

def Exponent (cs : List Char) : Prop :=
  cs = [] ∨ ∃ e sign ds, (e = 'e' ∨ e = 'E') ∧ (sign = [] ∨ sign = ['+'] ∨ sign = ['-']) ∧
    DigitRun ds ∧ cs = e :: (sign ++ ds)

/-- A number as it may be written. -/
def Numeral (cs : List Char) : Prop :=
  ∃ minus whole fraction exponent, (minus = [] ∨ minus = ['-']) ∧ Whole whole ∧
    Fraction fraction ∧ Exponent exponent ∧ cs = minus ++ (whole ++ (fraction ++ exponent))

/-! ## Texts -/

/-- The blanks of the grammar. -/
def blanks : List Char := [' ', '\n', '\t', '\r']

inductive Blanks : List Char → List Char → Prop where
  | none {t : List Char} : Blanks t t
  | more {c : Char} {s t : List Char} : c ∈ blanks → Blanks s t → Blanks (c :: s) t

inductive Tree where
  | null
  | boolean (b : Bool)
  | number (numeral : List Char)
  | text (content : List Nat)
  | list (items : List Tree)
  | object (members : List (List Nat × Tree))

/-- The parts of a text that have a production of their own. An element is a value with the
blanks around it. -/
inductive Phrase where
  | value (v : Tree)
  | element (v : Tree)
  | elements (vs : List Tree)
  | member (name : List Nat) (v : Tree)
  | members (ms : List (List Nat × Tree))

inductive Written : Phrase → List Char → List Char → Prop where
  | null {t : List Char} : Written (.value .null) ('n' :: 'u' :: 'l' :: 'l' :: t) t
  | yes {t : List Char} : Written (.value (.boolean true)) ('t' :: 'r' :: 'u' :: 'e' :: t) t
  | no {t : List Char} :
      Written (.value (.boolean false)) ('f' :: 'a' :: 'l' :: 's' :: 'e' :: t) t
  | number {n t : List Char} : Numeral n → Written (.value (.number n)) (n ++ t) t
  | text {us : List Nat} {s t : List Char} :
      Spells us s ('"' :: t) → Written (.value (.text us)) ('"' :: s) t
  | emptyList {s t : List Char} : Blanks s (']' :: t) → Written (.value (.list [])) ('[' :: s) t
  | list {vs : List Tree} {s t : List Char} :
      Written (.elements vs) s (']' :: t) → Written (.value (.list vs)) ('[' :: s) t
  | emptyObject {s t : List Char} :
      Blanks s ('\x7d' :: t) → Written (.value (.object [])) ('\x7b' :: s) t
  | object {ms : List (List Nat × Tree)} {s t : List Char} :
      Written (.members ms) s ('\x7d' :: t) → Written (.value (.object ms)) ('\x7b' :: s) t
  | element {v : Tree} {s s' t' t : List Char} :
      Blanks s s' → Written (.value v) s' t' → Blanks t' t → Written (.element v) s t
  | lastElement {v : Tree} {s t : List Char} :
      Written (.element v) s t → Written (.elements [v]) s t
  | nextElement {v : Tree} {vs : List Tree} {s u t : List Char} :
      Written (.element v) s (',' :: u) → Written (.elements vs) u t →
        Written (.elements (v :: vs)) s t
  | member {name : List Nat} {v : Tree} {s s' t' u t : List Char} :
      Blanks s ('"' :: s') → Spells name s' ('"' :: t') → Blanks t' (':' :: u) →
        Written (.element v) u t → Written (.member name v) s t
  | lastMember {name : List Nat} {v : Tree} {s t : List Char} :
      Written (.member name v) s t → Written (.members [(name, v)]) s t
  | nextMember {name : List Nat} {v : Tree} {ms : List (List Nat × Tree)}
      {s u t : List Char} :
      Written (.member name v) s (',' :: u) → Written (.members ms) u t →
        Written (.members ((name, v) :: ms)) s t

/-- A whole text that says this. -/
def Document (v : Tree) (doc : List Char) : Prop := Written (.element v) doc []

/-- A whole text that says something. -/
def WellFormed (doc : List Char) : Prop := ∃ v, Document v doc

end Json
end PadRelay
