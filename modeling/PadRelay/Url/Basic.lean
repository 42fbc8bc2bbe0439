import PadRelay.SocketAddress
import PadRelay.Text.Percent

/-!
# PadRelay.Url.Basic

Absolute URLs, taken apart, and their text.

* `SchemeKind`: the schemes of the web, whose URLs have a host and slashes, and all others.
* `Host`, `Path`, `Url`: the parts.
* `Url.text`: the URL in normal form. `Url.withoutUser` leaves the user's name and password out.
-/

namespace PadRelay
namespace Url

inductive SchemeKind where
  /-- A scheme of the web, and the port that it stands for. -/
  | web (port : Nat)
  | file
  | other
  deriving DecidableEq, Repr

/-- The kind of a scheme, given in small letters. -/
def SchemeKind.ofText (scheme : List Char) : SchemeKind :=
  if scheme = "http".toList ∨ scheme = "ws".toList then .web 80
  else if scheme = "https".toList ∨ scheme = "wss".toList then .web 443
  else if scheme = "ftp".toList then .web 21
  else if scheme = "file".toList then .file
  else .other

/-- Whether a backslash counts as a slash. -/
def SchemeKind.isSpecial : SchemeKind → Bool
  | .other => false
  | _ => true

inductive Host where
  /-- No host, and no slashes before where it would stand. -/
  | absent
  | empty
  | name (text : List Char)
  | v4 (octets : List Nat)
  | v6 (groups : List Nat)
  /-- The host of a scheme of which nothing is known. -/
  | foreign (text : List Char)
  deriving DecidableEq, Repr

def Host.text : Host → List Char
  | .absent | .empty => []
  | .name text | .foreign text => text
  | .v4 octets => SocketAddress.dotted octets
  | .v6 groups => '[' :: SocketAddress.compressed groups ++ [']']

/-- What stands behind the host. -/
inductive Path where
  /-- Text that is no path, as no slash begins it. -/
  | verbatim (text : List Char)
  | segments (names : List (List Char))
  deriving DecidableEq, Repr

def Path.text : Path → List Char
  | .verbatim text => text
  | .segments names => names.flatMap ('/' :: ·)

end Url

/-- An absolute URL in normal form, by its parts. -/
structure Url where
  scheme : List Char
  username : List Char
  password : List Char
  host : Url.Host
  /-- The port, unless it is the one that the scheme stands for. -/
  port : Option Nat
  path : Url.Path
  query : Option (List Char)
  fragment : Option (List Char)
  deriving DecidableEq, Repr

namespace Url

/-- The user's name and password before the host. -/
def userText (u : Url) : List Char :=
  if u.username.isEmpty && u.password.isEmpty then []
  else u.username ++ (if u.password.isEmpty then [] else ':' :: u.password) ++ ['@']

/-- The host with what stands around it. A path that begins with two slashes is kept from being
taken for a host. -/
def authorityText (u : Url) : List Char :=
  match u.host with
  | .absent =>
    match u.path with
    | .segments ([] :: _ :: _) => ['/', '.']
    | _ => []
  | host =>
    ['/', '/'] ++ u.userText ++ host.text ++
      (match u.port with
        | some n => ':' :: Nat.toDigits 10 n
        | none => [])

/-- A part that may be absent, behind the character that begins it. -/
def optionalText (start : Char) : Option (List Char) → List Char
  | some text => start :: text
  | none => []

def text (u : Url) : String :=
  String.ofList (u.scheme ++ ':' :: u.authorityText ++ u.path.text ++ optionalText '?' u.query ++
    optionalText '#' u.fragment)

/-- The text that a part with percent signs stands for. -/
def decoded? (part : List Char) : Option String :=
  Text.ofUtf8? (Text.percentDecode (Text.utf8 (String.ofList part)))

/-- The URL without the user's name and password, which are not sent as part of it. A URL whose
user has a name that is no text is left alone. -/
def withoutUser (u : Url) : Url :=
  match decoded? u.username with
  | none => u
  | some name =>
    if name ≠ "" ∨ (!u.password.isEmpty ∧ (decoded? u.password).isSome) then
      { u with username := [], password := [] }
    else u

end Url
end PadRelay
