import PadRelay.Pad.Event

/-!
# PadRelay.Field

The fields of an event that a template can name.

* `Field.ofLetter?`, `Field.ofPair?`: the field of a code of one letter or of two.
* `Field.value`: the text of a field; an absent one is empty, and so is the number zero.
-/

namespace PadRelay

open Pad (Event)

/-- A field of an event. -/
inductive Field where
  | artist
  | label
  | client
  | agency
  | groupName
  | length
  | description
  | cutNumber
  | album
  | composer
  | cartNumber
  | outcue
  | publisher
  | conductor
  | songId
  | title
  | userDefined
  | externalEventId
  | year
  | isrc
  | isci
  | recordingMbId
  | releaseMbId
  deriving DecidableEq, Repr

namespace Field

/-- The field of a code of one letter. -/
def ofLetter? : Char → Option Field
  | 'a' => some .artist
  | 'b' => some .label
  | 'c' => some .client
  | 'e' => some .agency
  | 'g' => some .groupName
  | 'h' => some .length
  | 'i' => some .description
  | 'j' => some .cutNumber
  | 'l' => some .album
  | 'm' => some .composer
  | 'n' => some .cartNumber
  | 'o' => some .outcue
  | 'p' => some .publisher
  | 'r' => some .conductor
  | 's' => some .songId
  | 't' => some .title
  | 'u' => some .userDefined
  | 'x' => some .externalEventId
  | 'y' => some .year
  | _ => none

/-- The field of a code of two letters. -/
def ofPair? : Char → Char → Option Field
  | 'w', 'i' => some .isrc
  | 'w', 'c' => some .isci
  | 'w', 'm' => some .recordingMbId
  | 'w', 'r' => some .releaseMbId
  | _, _ => none

def ofCode? (code : String) : Option Field :=
  match code.toList with
  | [a] => ofLetter? a
  | [a, b] => ofPair? a b
  | _ => none

def textOf (v : Option String) : String := v.getD ""

/-- A number that may be absent. -/
def numberText : Option Nat → String
  | some 0 => ""
  | some n => String.ofList (Nat.toDigits 10 n)
  | none => ""

def value (f : Field) (e : Event) : String :=
  match f with
  | .artist => textOf e.artist
  | .label => textOf e.label
  | .client => textOf e.client
  | .agency => textOf e.agency
  | .groupName => textOf e.groupName
  | .length => numberText (e.length.map (·.toNat))
  | .description => textOf e.description
  | .cutNumber => numberText (e.cutNumber.map (·.toNat))
  | .album => textOf e.album
  | .composer => textOf e.composer
  | .cartNumber => numberText (e.cartNumber.map (·.toNat))
  | .outcue => textOf e.outcue
  | .publisher => textOf e.publisher
  | .conductor => textOf e.conductor
  | .songId => textOf e.songId
  | .title => textOf e.title
  | .userDefined => textOf e.userDefined
  | .externalEventId => textOf e.externalEventId
  | .year => numberText (e.year.map (·.toNat))
  | .isrc => textOf e.isrc
  | .isci => textOf e.isci
  | .recordingMbId => textOf e.recordingMbId
  | .releaseMbId => textOf e.releaseMbId

end Field
end PadRelay
