import PadRelay.Url.Host

/-!
# PadRelay.Url.Parser

Reading an absolute URL.

* `clean`: controls and spaces around the text, and tabs and line ends anywhere, do not count.
* `scheme?`: the scheme and what stands behind its colon.
* `readPath`: a path; dots that stand for a place in it are followed.
* `parse?`: the URL, in normal form; none for a text that is no absolute URL.
-/

namespace PadRelay
namespace Url

/-- Whether a character around the text does not count. -/
def isOuter (c : Char) : Bool := c.toNat ≤ 0x20

/-- Whether a character in the text does not count. -/
def isLayout (c : Char) : Bool := c = '\t' || c = '\n' || c = '\r'

/-- The characters of the text that count. -/
def clean (text : List Char) : List Char :=
  ((text.dropWhile isOuter).reverse.dropWhile isOuter).reverse.filter (!isLayout ·)

def isLetter (c : Char) : Bool := ('a' ≤ c && c ≤ 'z') || ('A' ≤ c && c ≤ 'Z')

/-- Whether a character may stand in a scheme behind its first letter. -/
def isSchemeChar (c : Char) : Bool :=
  isLetter c || Text.isDigit c || c = '+' || c = '-' || c = '.'

def smallLetter (c : Char) : Char := if 'A' ≤ c ∧ c ≤ 'Z' then Char.ofNat (c.toNat + 32) else c

/-- The scheme in small letters and what stands behind its colon. -/
def scheme? (url : List Char) : Option (List Char × List Char) :=
  match url.takeWhile isSchemeChar, url.dropWhile isSchemeChar with
  | c :: scheme, ':' :: rest =>
    if isLetter c then some ((c :: scheme).map smallLetter, rest) else none
  | _, _ => none

/-- Whether a byte is visible ASCII and none of the given characters. -/
def isKept (escaped : String) (b : UInt8) : Bool :=
  0x20 < b.toNat && b.toNat < 0x7F && !escaped.toList.contains (Char.ofNat b.toNat)

/-- Text with the given characters escaped, and all that is not visible ASCII. -/
def escaped (chars : String) (text : List Char) : List Char :=
  text.flatMap (Text.percentChar (isKept chars))

def pathChars : String := "\"#<>?\x60\x7b\x7d"

def userChars : String := pathChars ++ "/:;=@[\\]^|"

/-- What is escaped in a query; in one of a scheme of the web, apostrophes too. -/
def queryChars (kind : SchemeKind) : String := if kind.isSpecial then "\"#<>'" else "\"#<>"

def fragmentChars : String := "\"<>\x60"

/-- Whether a character ends a host or a segment of a path. -/
def isSlash (kind : SchemeKind) (c : Char) : Bool := c = '/' || (kind.isSpecial && c = '\\')

/-- Whether a character ends what stands between the slashes and the path. -/
def endsAuthority (kind : SchemeKind) (c : Char) : Bool := isSlash kind c || c = '?' || c = '#'

/-- Whether a segment of a path stands for the place where it stands. -/
def isDot (name : List Char) : Bool := [".", "%2e"].contains (String.ofList (name.map smallLetter))

/-- Whether a segment of a path stands for the place above. -/
def isDoubleDot (name : List Char) : Bool :=
  ["..", ".%2e", "%2e.", "%2e%2e"].contains (String.ofList (name.map smallLetter))

/-- Whether a segment names a drive. -/
def isDrive : List Char → Bool
  | [c, d] => isLetter c && (d = ':' || d = '|')
  | _ => false

/-- A path, reversed, without its last segment. A drive that stands alone stays. -/
def shorten (kind : SchemeKind) (path : List (List Char)) : List (List Char) :=
  match path with
  | [name] => if kind = .file ∧ isDrive name then path else []
  | _ :: rest => rest
  | [] => []

/-- A path, reversed, with one more segment. -/
def addSegment (kind : SchemeKind) (path : List (List Char)) (name : List Char) :
    List (List Char) :=
  match kind, path, name with
  | .file, [], [c, d] => if isDrive [c, d] then [[c, ':']] else [escaped pathChars name]
  | _, _, _ => escaped pathChars name :: path

/-- A path, reversed, behind more segments. Behind dots that come last, there is an empty one. -/
def addSegments (kind : SchemeKind) (path : List (List Char)) :
    List (List Char) → List (List Char)
  | [] => path
  | name :: rest =>
    if isDoubleDot name then
      let path := shorten kind path
      addSegments kind (if rest.isEmpty then [] :: path else path) rest
    else if isDot name then addSegments kind (if rest.isEmpty then [] :: path else path) rest
    else addSegments kind (addSegment kind path name) rest

/-- The segments of a path, behind its first slash. -/
def segments (kind : SchemeKind) (text : List Char) : List (List Char) :=
  Text.splitAt '/' (text.map fun c => if isSlash kind c then '/' else c)

/-- The segments of a path in order, with dots followed. A file's path does not begin with an empty
one, unless it is the only one. -/
def followed (kind : SchemeKind) (names : List (List Char)) : List (List Char) :=
  let path := (addSegments kind [] names).reverse
  if kind = .file then
    match path.dropWhile (·.isEmpty) with
    | [] => [[]]
    | rest => rest
  else path

/-- A path behind a host. One of a scheme of the web is never empty. -/
def readPath (kind : SchemeKind) (text : List Char) : Path :=
  match text with
  | [] => .segments (if kind.isSpecial then [[]] else [])
  | c :: rest =>
    .segments (followed kind (segments kind (if isSlash kind c then rest else text)))

/-- A path, with the query and the fragment behind it. -/
def splitTail (text : List Char) : List Char × Option (List Char) × Option (List Char) :=
  let (front, fragment) := Text.cutAt '#' text
  let (path, query) := Text.cutAt '?' front
  (path, query, fragment)

/-- A URL with the query and the fragment read. -/
def finish (scheme username password : List Char) (host : Host) (port : Option Nat) (path : Path)
    (query fragment : Option (List Char)) : Url :=
  { scheme, username, password, host, port, path
    query := query.map (escaped (queryChars (SchemeKind.ofText scheme)))
    fragment := fragment.map (escaped fragmentChars) }

/-- A port: absent, or nothing, or a number of 16 bits; and what stands behind it. -/
def readPort (text : List Char) : Option (Option Nat × List Char) :=
  match text with
  | ':' :: rest =>
    let digits := rest.takeWhile Text.isDigit
    let behind := rest.dropWhile Text.isDigit
    if behind.head?.getD '\\' ≠ '\\' then none
    else if digits.isEmpty then some (none, behind)
    else if Text.digitsValue digits < 65536 then some (some (Text.digitsValue digits), behind)
    else none
  | _ => some (none, text)

/-- The length of a host: a colon ends it outside of brackets. -/
def hostLength (bracketed : Bool) : List Char → Nat
  | [] => 0
  | c :: rest =>
    if c = ':' ∧ !bracketed then 0
    else hostLength (if c = '[' then true else if c = ']' then false else bracketed) rest + 1

/-- What stands before the last at sign, and what stands behind it. -/
def splitUser (authority : List Char) : Option (List Char) × List Char :=
  match authority.reverse.dropWhile (· != '@') with
  | [] => (none, authority)
  | _ :: user => (some user.reverse, (authority.reverse.takeWhile (· != '@')).reverse)

/-- A host with a port; the host may be missing only where there is nothing else. -/
def readHost (kind : SchemeKind) (text : List Char) : Option Host :=
  match kind with
  | .other => Host.foreign? text
  | _ => Host.ofText? text

/-- A URL behind its slashes: the user, the host, the port and the path. -/
def readAuthority (scheme : List Char) (kind : SchemeKind) (text : List Char) : Option Url := do
  let authority := text.takeWhile (!endsAuthority kind ·)
  let (user, server) := splitUser authority
  let (name, password) := Text.cutAt ':' (user.getD [])
  let username := escaped userChars name
  let password := escaped userChars (password.getD [])
  let length := hostLength false server
  let host ← readHost kind (server.take length)
  let (port, behind) ← readPort (server.drop length)
  if host = .empty ∧ (length < server.length ∨ user = some [] ∨ username ≠ [] ∨ password ≠ []) then
    none
  else
    let (path, query, fragment) := splitTail (behind ++ text.drop authority.length)
    let port := if kind = .web (port.getD 0) then none else port
    return finish scheme username password host port (readPath kind path) query fragment

/-- A file's URL: two slashes begin a host, unless it is a drive, or none; a host that is this
machine is left out, as is any before a drive. -/
def readFile (scheme : List Char) (text : List Char) : Option Url := do
  let (path, query, fragment) := splitTail text
  match path with
  | a :: b :: rest =>
    if isSlash .file a && isSlash .file b then
      let name := rest.takeWhile (!isSlash .file ·)
      let behind := rest.drop name.length
      if name.isEmpty || isDrive name then
        return finish scheme [] [] .empty none (readPath .file rest) query fragment
      else
        let host ← Host.ofText? name
        let path := readPath .file behind
        let here := host = .name "localhost".toList || match path with
          | .segments (first :: _) => isDrive first
          | _ => false
        return finish scheme [] [] (if here then .empty else host) none path query fragment
    else return finish scheme [] [] .empty none (readPath .file path) query fragment
  | _ => return finish scheme [] [] .empty none (readPath .file path) query fragment

def readHostless (scheme : List Char) (text : List Char) : Url :=
  let (path, query, fragment) := splitTail text
  let path := match path with
    | '/' :: rest => .segments (followed .other (segments .other rest))
    | _ => .verbatim (path.flatMap (Text.percentChar isPrintable))
  finish scheme [] [] .absent none path query fragment

def parse? (text : String) : Option Url := do
  let (scheme, rest) ← scheme? (clean text.toList)
  match SchemeKind.ofText scheme with
  | .file => readFile scheme rest
  | .web port => readAuthority scheme (.web port) (rest.dropWhile (isSlash (.web port)))
  | .other =>
    match rest with
    | '/' :: '/' :: rest => readAuthority scheme .other rest
    | _ => return readHostless scheme rest

end Url
end PadRelay
