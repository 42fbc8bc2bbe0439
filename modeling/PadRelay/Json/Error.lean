import PadRelay.Decimal.Shortest
import PadRelay.Text.Quoted

/-!
# PadRelay.Json.Error

Why bytes are not the document that was asked for.

* `Found`: what stood where another kind of value was due.
* `DecodeError`: the causes, in words by `message` and in three kinds by `category`.
-/

namespace PadRelay
namespace Json

/-- What can hold other values. -/
inductive Container where
  | list
  | object
  deriving DecidableEq, Repr

/-- What the input broke off in. -/
inductive Place where
  | value
  | text
  | list
  | object
  deriving DecidableEq, Repr

def Container.place : Container → Place
  | .list => .list
  | .object => .object

/-- A value of the wrong kind or size. -/
inductive Found where
  | null
  | boolean (b : Bool)
  | natural (n : Nat)
  | negative (n : Nat)
  | fraction (minus : Bool) (x : Decimal.Binary64)
  | text (s : String)
  | list
  | object
  deriving DecidableEq, Repr

def Found.describe : Found → String
  | .null => "null"
  | .boolean b => "boolean `" ++ toString b ++ "`"
  | .natural n => "integer `" ++ toString n ++ "`"
  | .negative n => "integer `-" ++ toString n ++ "`"
  | .fraction minus x => "floating point `" ++ Decimal.text minus x ++ "`"
  | .text s => "string " ++ Text.quoted s
  | .list => "sequence"
  | .object => "map"

/-- Why a document cannot be read. The first fault in reading order counts. -/
inductive DecodeError where
  | unexpectedEnd (place : Place)
  | expectedValue
  | expectedWord
  | expectedColon
  | expectedCommaOrEnd (container : Container)
  | trailingComma
  | trailingCharacters
  | nameNotText
  | invalidNumber
  | numberOutOfRange
  | invalidEscape
  | unpairedEscape
  | loneSurrogate
  | invalidCodePoint
  | controlCharacter
  | missingMember (name : String)
  | repeatedMember (name : String)
  | wrongKind (found : Found) (expected : String)
  | outOfRange (found : Found) (expected : String)
  | tooShort (length : Nat) (expected : String) (needed : Nat)
  deriving DecidableEq, Repr

/-- The three kinds of fault: of syntax, of content, or an early end. -/
inductive Category where
  | syntactic
  | content
  | ending
  deriving DecidableEq, Repr

namespace DecodeError

def category : DecodeError → Category
  | .unexpectedEnd _ => .ending
  | .missingMember _ | .repeatedMember _ | .wrongKind _ _ | .outOfRange _ _ | .tooShort _ _ _ =>
    .content
  | _ => .syntactic

/-- The fault in words. Its place, with which the text ends where it is printed (at line L column C),
is left out. -/
def message : DecodeError → String
  | .unexpectedEnd .value => "EOF while parsing a value"
  | .unexpectedEnd .text => "EOF while parsing a string"
  | .unexpectedEnd .list => "EOF while parsing a list"
  | .unexpectedEnd .object => "EOF while parsing an object"
  | .expectedValue => "expected value"
  | .expectedWord => "expected ident"
  | .expectedColon => "expected `:`"
  | .expectedCommaOrEnd .list => "expected `,` or `]`"
  | .expectedCommaOrEnd .object => "expected `,` or `\x7d`"
  | .trailingComma => "trailing comma"
  | .trailingCharacters => "trailing characters"
  | .nameNotText => "key must be a string"
  | .invalidNumber => "invalid number"
  | .numberOutOfRange => "number out of range"
  | .invalidEscape => "invalid escape"
  | .unpairedEscape => "unexpected end of hex escape"
  | .loneSurrogate => "lone leading surrogate in hex escape"
  | .invalidCodePoint => "invalid unicode code point"
  | .controlCharacter =>
    "control character (\\u0000-\\u001F) found while parsing a string"
  | .missingMember name => "missing field `" ++ name ++ "`"
  | .repeatedMember name => "duplicate field `" ++ name ++ "`"
  | .wrongKind found expected => "invalid type: " ++ found.describe ++ ", expected " ++ expected
  | .outOfRange found expected => "invalid value: " ++ found.describe ++ ", expected " ++ expected
  | .tooShort length expected needed =>
    "invalid length " ++ toString length ++ ", expected " ++ expected ++ " with " ++
      toString needed ++ (if needed = 1 then " element" else " elements")

end DecodeError
end Json
end PadRelay
