import PadRelay.Json.Text
import PadRelay.Settings
import PadRelay.Template
import PadRelay.Pad.Update

/-!
# PadRelay.Payload

The metadata of an update, as it is posted.

* `Payload.ofUpdate`: every line of the settings with its template resolved.
* `Payload.toJson`: the posted text. Keys are escaped here; values come escaped.
-/

namespace PadRelay

open Pad (Update)

/-- An update's template resolved with its own events. -/
def resolveFields (u : Update) (template : String) (escape : Escape) : String :=
  Template.resolve template u.now u.next escape

/-- Metadata fields in line order: a key, and the content of a text literal. -/
structure Payload where
  entries : List (String × String)
  deriving DecidableEq, Repr

namespace Payload

def empty : Payload := ⟨[]⟩

def push (p : Payload) (key value : String) : Payload := ⟨p.entries ++ [(key, value)]⟩

def ofUpdate (s : EncoderSettings) (u : Update) : Payload :=
  ⟨s.lines.map fun line => (line.key, resolveFields u line.value .json)⟩

def newline : List Char := ['\r', '\n']

/-- A field: the key's literal and the value between quotes as it is. -/
def writeEntry (entry : String × String) : List Char :=
  "        ".toList ++ Json.writeText entry.1 ++ [':', ' ', '"'] ++ entry.2.toList ++ ['"']

/-- The posted text: one object in another, a field on a line. -/
def write (p : Payload) : List Char :=
  ['\x7b'] ++ newline ++ "    \"Metadata\": ".toList ++ ['\x7b'] ++
    (if p.entries.isEmpty then []
      else newline ++ List.intercalate (',' :: newline) (p.entries.map writeEntry) ++ newline ++
        "    ".toList) ++
    ['\x7d'] ++ newline ++ ['\x7d'] ++ newline

def toJson (p : Payload) : String := String.ofList p.write

end Payload
end PadRelay
