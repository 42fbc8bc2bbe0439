import PadRelay.Domain.Name
import PadRelay.Url.Basic

/-!
# PadRelay.Url.Host

Reading the host of a URL.

* `v4?`: an IPv4 address, written as one to four numbers, decimal, octal or hexadecimal.
* `v6?`: an IPv6 address; its last two groups may be written as an IPv4 address.
* `Host.ofText?`: a host of a scheme of the web, where a name that ends in a number has to be an
  IPv4 address; `Host.foreign?` one of any other scheme.
-/

namespace PadRelay
namespace Url

/-- What stands between dots. -/
def parts (text : List Char) : List (List Char) := Text.splitAt '.' text

/-- A number of an IPv4 address: hexadecimal behind `0x`, octal behind any other leading zero. A
lone `0x` is zero. -/
def number? : List Char → Option Nat
  | [] => none
  | '0' :: 'x' :: digits => value? 16 digits
  | '0' :: d :: digits => value? 8 (d :: digits)
  | digits => value? 10 digits
where
  /-- The value of digits in a base; none where there is another character. -/
  value? (base : Nat) (digits : List Char) : Option Nat :=
    (digits.mapM (SocketAddress.digit? base)).map (SocketAddress.valueOf base)

/-- The parts of a name, a last one that is empty left out. -/
def properParts (name : List Char) : List (List Char) :=
  let ps := parts name
  if ps.getLast? = some [] then ps.dropLast else ps

/-- Whether the last part of a name is a number, so that the name has to be an address. -/
def endsInNumber (name : List Char) : Bool :=
  match (properParts name).getLast? with
  | none => false
  | some last => (!last.isEmpty && last.all Text.isDigit) || (number? last).isSome

/-- The numbers of an IPv4 address: all but the last stand for one octet, the last one for all
octets that are left. -/
def octets? (numbers : List Nat) : Option (List Nat) :=
  match numbers.getLast? with
  | none => none
  | some last =>
    let room := 5 - numbers.length
    if numbers.length ≤ 4 ∧ last < Nat.pow 256 room ∧ numbers.dropLast.all (· < 256) then
      some (numbers.dropLast ++
        (List.range room).reverse.map fun i => last / Nat.pow 256 i % 256)
    else none

def v4? (name : List Char) : Option (List Nat) := ((properParts name).mapM number?).bind octets?

/-- The two groups of an IPv4 address that ends an IPv6 address. -/
def embedded? (text : List Char) : Option (List Nat) :=
  match SocketAddress.octets? text with
  | some ([a, b, c, d], []) => some [256 * a + b, 256 * c + d]
  | _ => none

/-- The groups of an IPv6 address, behind `groups`; there is room for some more. `gap` is how many
groups stand before the place where zeros are left out, one of them counted as the first zero. -/
def groupsFrom (groups : List Nat) (gap : Option Nat) (text : List Char) :
    Nat → Option (List Nat × Option Nat)
  | 0 => if text.isEmpty then some (groups, gap) else none
  | room + 1 =>
    match text with
    | [] => some (groups, gap)
    | ':' :: rest =>
      if gap.isSome then none
      else groupsFrom (groups ++ [0]) (some (groups.length + 1)) rest room
    | _ =>
      let digits := (text.take 4).takeWhile fun c => (SocketAddress.digit? 16 c).isSome
      let group := SocketAddress.valueOf 16 (digits.filterMap (SocketAddress.digit? 16))
      match text.drop digits.length with
      | [] => some (groups ++ [group], gap)
      | c :: rest =>
        if c = ':' then
          if rest.isEmpty then none else groupsFrom (groups ++ [group]) gap rest room
        else if c = '.' ∧ !digits.isEmpty ∧ 0 < room then
          (embedded? text).map fun last => (groups ++ last, gap)
        else none

def v6? (text : List Char) : Option (List Nat) :=
  let read := match text with
    | ':' :: ':' :: rest => groupsFrom [0] (some 1) rest 7
    | ':' :: _ => none
    | _ => groupsFrom [] none text 8
  match read with
  | some (groups, some gap) =>
    some (groups.take gap ++ List.replicate (8 - groups.length) 0 ++ groups.drop gap)
  | some (groups, none) => if groups.length = 8 then some groups else none
  | none => none

/-- An IPv6 address in brackets, behind the opening one. -/
def bracketed? (rest : List Char) : Option Host :=
  if rest.getLast? = some ']' then (v6? rest.dropLast).map .v6 else none

/-- A host of a scheme of the web. -/
def Host.ofText? (text : List Char) : Option Host :=
  match text with
  | '[' :: rest => bracketed? rest
  | _ => do
    let plain ← decoded? text
    let name ← Domain.Name.toAscii? plain.toList
    if name.isEmpty then none
    else if endsInNumber name then (v4? name).map .v4
    else some (.name name)

/-- Characters that no host of any scheme has. -/
def isForbiddenAnywhere (c : Char) : Bool :=
  c.toNat = 0 || "\t\n\r #/:<>?@[\\]^|".toList.contains c

/-- Whether a byte is visible ASCII or a space. -/
def isPrintable (b : UInt8) : Bool := 0x20 ≤ b.toNat && b.toNat < 0x7F

/-- A host of a scheme of which nothing is known. -/
def Host.foreign? (text : List Char) : Option Host :=
  match text with
  | [] => some .empty
  | '[' :: rest => bracketed? rest
  | _ =>
    if text.any isForbiddenAnywhere then none
    else some (.foreign (text.flatMap (Text.percentChar isPrintable)))

end Url
end PadRelay
