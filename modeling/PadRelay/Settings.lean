import PadRelay.Ini.Basic

/-!
# PadRelay.Settings

What the relay reads from its configuration: where the encoder is, and which metadata field is
filled from which template.

* `lineNumbers`: the numbered sections `Line1`, `Line2`, … up to the first gap.
* `lineMappings`: the key and the template of each, or the first value that is missing.
* `EncoderSettings.ofProfile`: the whole of it; nothing without the encoder's section.
-/

namespace PadRelay

open Ini (Profile)

def encoderSection : String := "Glasscoder"

/-- The name of the n-th mapping section. -/
def lineSection (n : Nat) : String := "Line" ++ toString n

/-- A configuration that lacks a required value. -/
inductive SettingsError where
  | missing (name key : String)
  deriving DecidableEq, Repr

def SettingsError.message : SettingsError → String
  | .missing name key => "section [" ++ name ++ "] is missing " ++ key

/-- A metadata field and the template that fills it. -/
structure LineMapping where
  key : String
  value : String
  deriving DecidableEq, Repr

/-- Whether the template itself holds a quote or a backslash, which would break the posted text. -/
def LineMapping.hasUnescapedLiteral (line : LineMapping) : Bool :=
  line.value.toList.any fun c => c = '"' || c = '\\'

/-- Where updates go and what they carry. -/
structure EncoderSettings where
  updateUrl : String
  lines : List LineMapping
  deriving DecidableEq, Repr

def required (p : Profile) (name key : String) : Except SettingsError String :=
  match p.get? name key with
  | some value => .ok value
  | none => .error (.missing name key)

/-- The numbers of the mapping sections before the first gap. -/
def lineNumbers (p : Profile) : List Nat :=
  ((List.range p.sections.length).map (· + 1)).takeWhile fun n => p.hasSection (lineSection n)

def lineMapping (p : Profile) (n : Nat) : Except SettingsError LineMapping := do
  let key ← required p (lineSection n) "Key"
  let value ← required p (lineSection n) "Value"
  return ⟨key, value⟩

/-- The mappings in the order of their numbers. -/
def lineMappings (p : Profile) : Except SettingsError (List LineMapping) :=
  (lineNumbers p).mapM (lineMapping p)

namespace EncoderSettings

/-- The settings that a configuration holds; none without the encoder's section. -/
def ofProfile (p : Profile) : Except SettingsError (Option EncoderSettings) :=
  if p.hasSection encoderSection then do
    let updateUrl ← required p encoderSection "UpdateUrl"
    let lines ← lineMappings p
    return some ⟨updateUrl, lines⟩
  else .ok none

/-- The lines whose templates break the posted text, with their numbers from one. -/
def unescapedLiteralLines (s : EncoderSettings) : List (Nat × LineMapping) :=
  ((s.lines.zipIdx 1).filter fun x => x.1.hasUnescapedLiteral).map fun x => (x.2, x.1)

end EncoderSettings
end PadRelay
