import PadRelay.Ini.Basic
import PadRelay.Text.Lines

/-!
# PadRelay.Ini.Parser

Reading a configuration from text, line by line.

* A line is blank, a comment (`#` or `;`), or has content (`Line`).
* Content is a header in brackets, an option with `=` or `:`, or unreadable (`Statement`).
* An indented line behind an option continues its value on a new line; comments in between do
  not end the value, blank lines and headers do.
* `parse`: the configuration, or the first line that does not fit and why (`ParseError`).
-/

namespace PadRelay
namespace Ini

/-- A line by itself. -/
inductive Line where
  | blank
  | comment
  | content (indented : Bool) (text : List Char)
  deriving DecidableEq, Repr

def startsBlank : List Char → Bool
  | c :: _ => Text.isBlank c
  | [] => false

/-- What a line is, its white space trimmed. -/
def Line.ofText (raw : List Char) : Line :=
  match Text.trim raw with
  | [] => .blank
  | c :: rest =>
    if c = '#' ∨ c = ';' then .comment else .content (startsBlank raw) (c :: rest)

/-- What trimmed content says. -/
inductive Statement where
  | header (name : String)
  | option (key value : String)
  | unreadable
  deriving DecidableEq, Repr

/-- The name between the brackets of a header. -/
def headerName? : List Char → Option String
  | '[' :: rest =>
    if rest.getLast? = some ']' then some (String.ofList rest.dropLast) else none
  | _ => none

def isSeparator (c : Char) : Bool := c = '=' || c = ':'

/-- An option's folded key and its value, split at the first separator. -/
def splitOption? (text : List Char) : Option (String × String) :=
  match text.dropWhile (!isSeparator ·) with
  | [] => none
  | _ :: value =>
    let key := Text.trim (text.takeWhile (!isSeparator ·))
    if key.isEmpty then none
    else some (String.ofList (Text.lowercase key), String.ofList (Text.trim value))

/-- What trimmed content says. A header comes first. -/
def Statement.ofText (text : List Char) : Statement :=
  match headerName? text with
  | some name => .header name
  | none =>
    match splitOption? text with
    | some (key, value) => .option key value
    | none => .unreadable

/-- Why a line does not fit. -/
inductive Cause where
  | outsideSection
  | repeatedSection (name : String)
  | repeatedOption (name key : String)
  | unreadable (text : String)
  deriving DecidableEq, Repr

/-- A text that is no configuration: the line, counted from one, and what is wrong with it. -/
structure ParseError where
  line : Nat
  cause : Cause
  deriving DecidableEq, Repr

def Cause.message : Cause → String
  | .outsideSection => "option outside of any section"
  | .repeatedSection name => "duplicate section [" ++ name ++ "]"
  | .repeatedOption name key => "duplicate option '" ++ key ++ "' in section [" ++ name ++ "]"
  | .unreadable text => "cannot parse '" ++ text ++ "'"

def ParseError.message (e : ParseError) : String :=
  "line " ++ toString e.line ++ ": " ++ e.cause.message

/-- A section while it is read: its options, the newest first. -/
structure Draft where
  name : String
  entries : List (String × String)
  deriving DecidableEq, Repr

namespace Draft

def toSection (d : Draft) : Section := ⟨d.name, d.entries.reverse⟩

def hasKey (d : Draft) (key : String) : Bool := d.entries.any (·.1 == key)

def add (d : Draft) (key value : String) : Draft := ⟨d.name, (key, value) :: d.entries⟩

/-- One more line to the value of the newest option. -/
def extend (d : Draft) (text : List Char) : Draft :=
  match d.entries with
  | (key, value) :: rest => ⟨d.name, (key, value ++ "\n" ++ String.ofList text) :: rest⟩
  | [] => d

end Draft

/-- Where the next option goes. -/
inductive Place where
  | nowhere
  | defaults
  | newest
  deriving DecidableEq, Repr

/-- A configuration while it is read. -/
structure Reading where
  defaults : Draft
  /-- The sections, the newest first. -/
  sections : List Draft
  place : Place
  /-- Whether an indented line would continue the newest option's value. -/
  valueOpen : Bool
  deriving DecidableEq, Repr

namespace Reading

def start : Reading := ⟨⟨defaultsName, []⟩, [], .nowhere, false⟩

def profile (r : Reading) : Profile :=
  ⟨r.defaults.toSection, (r.sections.map Draft.toSection).reverse⟩

/-- The section that the next option goes to. -/
def current? (r : Reading) : Option Draft :=
  match r.place with
  | .nowhere => none
  | .defaults => some r.defaults
  | .newest => r.sections.head?

/-- The same with another section in the place of the current one. -/
def setCurrent (r : Reading) (d : Draft) : Reading :=
  match r.place with
  | .nowhere => r
  | .defaults => { r with defaults := d }
  | .newest => { r with sections := d :: r.sections.tail }

/-- After a header. The defaults may be opened again, any other section only once. -/
def openSection (r : Reading) (name : String) : Except Cause Reading :=
  if name = defaultsName then .ok { r with place := .defaults, valueOpen := false }
  else if r.sections.any (·.name == name) then .error (.repeatedSection name)
  else .ok { r with sections := ⟨name, []⟩ :: r.sections, place := .newest, valueOpen := false }

/-- After an option. -/
def addOption (r : Reading) (key value : String) : Except Cause Reading :=
  match r.current? with
  | none => .error .outsideSection
  | some d =>
    if d.hasKey key then .error (.repeatedOption d.name key)
    else .ok { r.setCurrent (d.add key value) with valueOpen := true }

/-- After a line that continues the newest option's value. -/
def continueValue (r : Reading) (text : List Char) : Reading :=
  match r.current? with
  | none => r
  | some d => r.setCurrent (d.extend text)

def readLine (r : Reading) (raw : List Char) : Except Cause Reading :=
  match Line.ofText raw with
  | .blank => .ok { r with valueOpen := false }
  | .comment => .ok r
  | .content indented text =>
    if indented && r.valueOpen then .ok (r.continueValue text)
    else
      match Statement.ofText text with
      | .header name => r.openSection name
      | .option key value => r.addOption key value
      | .unreadable => .error (.unreadable (String.ofList text))

/-- After more lines, the first of which has this number. -/
def readLines (r : Reading) (number : Nat) : List (List Char) → Except ParseError Reading
  | [] => .ok r
  | raw :: rest =>
    match r.readLine raw with
    | .ok r' => readLines r' (number + 1) rest
    | .error cause => .error ⟨number, cause⟩

end Reading

/-- The text without a byte order mark at its start. -/
def dropMark : List Char → List Char
  | '\ufeff' :: rest => rest
  | cs => cs

/-- The configuration that a text describes. -/
def parse (text : String) : Except ParseError Profile :=
  (Reading.start.readLines 1 (Text.lines (dropMark text.toList))).map Reading.profile

end Ini
end PadRelay
