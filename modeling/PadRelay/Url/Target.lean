import PadRelay.Url.Parser

/-!
# PadRelay.Url.Target

What a client makes of the text of a URL before it sends anything.

* `target`: whether a request can go to a URL, and how the URL is spelled in reports.
-/

namespace PadRelay
namespace Url

/-- What a client makes of a URL. -/
inductive Target where
  | unparsable
  /-- A URL to which no request can go. -/
  | refused (url : String)
  | usable (url : String)
  deriving DecidableEq, Repr

/-- The longest URL to which a request can go, in bytes. -/
def maxLength : Nat := 65534

/-- Whether a name has no character that may stand in a name but not in a request. -/
def isSendable (name : List Char) : Bool := name.all (!"\"\x60\x7b\x7d".toList.contains ·)

/-- Whether a request can go to a URL: it must be of the web's own scheme. -/
def isReachable (u : Url) : Bool :=
  (u.scheme == "http".toList || u.scheme == "https".toList) && isSendable u.host.text &&
    u.text.utf8ByteSize ≤ maxLength

def target (text : String) : Target :=
  match parse? text with
  | none => .unparsable
  | some u =>
    let u := u.withoutUser
    if isReachable u then .usable u.text else .refused u.text

end Url
end PadRelay
