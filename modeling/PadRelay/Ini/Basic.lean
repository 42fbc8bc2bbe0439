import PadRelay.Text.Case
import PadRelay.Text.Blank
import PadRelay.Text.Integer

/-!
# PadRelay.Ini.Basic

A configuration: named sections of options, and the defaults that every section falls back on.

* `Section.get?`: the value of an option in one section; the case of its key does not matter.
* `Profile.get?`: the value in a section, else among the defaults; nothing without the section.
* `Profile.int?`: such a value read as a whole number.
-/

namespace PadRelay
namespace Ini

/-- A key as sections hold it: in lowercase. -/
def foldKey (key : String) : String := String.ofList (Text.lowercase key.toList)

/-- A group of options under a name. The keys are in lowercase. -/
structure Section where
  name : String
  entries : List (String × String)
  deriving DecidableEq, Repr

namespace Section

/-- The value of the option with this key, whatever the case it is asked in. -/
def get? (s : Section) (key : String) : Option String := s.entries.lookup (foldKey key)

end Section

/-- The name under which the defaults are written. -/
def defaultsName : String := "DEFAULT"

/-- A configuration. Its sections stand in file order; the defaults are not one of them. -/
structure Profile where
  defaults : Section
  sections : List Section
  deriving DecidableEq, Repr

namespace Profile

def empty : Profile := ⟨⟨defaultsName, []⟩, []⟩

/-- The section of this very name. -/
def section? (p : Profile) (name : String) : Option Section :=
  p.sections.find? (·.name == name)

/-- Whether there is a section of this very name. -/
def hasSection (p : Profile) (name : String) : Bool := (p.section? name).isSome

/-- The value of an option in a section, else among the defaults. -/
def get? (p : Profile) (name key : String) : Option String :=
  match p.section? name with
  | some s => (s.get? key).or (p.defaults.get? key)
  | none => none

/-- The value of an option as a whole number of 64 bits; other text counts as absent. -/
def int? (p : Profile) (name key : String) : Option Int :=
  match p.get? name key with
  | some value => Text.int64? (Text.trim value.toList)
  | none => none

end Profile
end Ini
end PadRelay
