import PadRelay.Text.Hex
import PadRelay.Text.Integer

/-!
# PadRelay.SocketAddress

Addresses of the internet with a port: IPv4 as `1.2.3.4:80`, IPv6 as `[::1]:80`, where a scope
may stand behind a percent sign.

* `parse`: the address that a whole text denotes. The last two groups of an IPv6 address may be
  written as an IPv4 address.
* `SocketAddress.text`: the shortest form: small hexadecimal digits, and `::` for the first of the
  longest runs of two or more zero groups; an address mapped from IPv4 shows that address.
-/

namespace PadRelay

inductive SocketAddress where
  | v4 (octets : List Nat) (port : Nat)
  | v6 (groups : List Nat) (scope port : Nat)
  deriving DecidableEq, Repr

namespace SocketAddress

/-- The value of a digit in the given base. -/
def digit? (base : Nat) (c : Char) : Option Nat :=
  let n := c.toNat
  let v :=
    if 48 ≤ n ∧ n ≤ 57 then n - 48
    else if 97 ≤ n ∧ n ≤ 122 then n - 87
    else if 65 ≤ n ∧ n ≤ 90 then n - 55
    else base
  if v < base then some v else none

/-- The digits at the front, and what stands behind them. -/
def spanDigits (base : Nat) (cs : List Char) : List Nat × List Char :=
  (cs.takeWhile (digit? base · |>.isSome) |>.filterMap (digit? base),
    cs.dropWhile (digit? base · |>.isSome))

/-- The value of digits, most significant first. -/
def valueOf (base : Nat) (ds : List Nat) : Nat := ds.foldl (fun n d => base * n + d) 0

/-- A number below `limit` at the front, of at most `width` digits where a width is given. A zero
may stand before other digits only if `padded`. -/
def number? (base limit : Nat) (width : Option Nat) (padded : Bool) (cs : List Char) :
    Option (Nat × List Char) :=
  let (ds, rest) := spanDigits base cs
  let fits := match width with
    | some w => ds.length ≤ w
    | none => true
  let n := valueOf base ds
  if ds.isEmpty ∨ !fits ∨ (!padded ∧ ds.head? = some 0 ∧ ds.length ≠ 1) ∨ limit ≤ n then none
  else some (n, rest)

/-- What stands behind this character at the front. -/
def after? (c : Char) : List Char → Option (List Char)
  | d :: rest => if c = d then some rest else none
  | [] => none

/-- The four numbers of an IPv4 address at the front. -/
def octets? (cs : List Char) : Option (List Nat × List Char) := do
  let octet := number? 10 256 (some 3) false
  let (a, cs) ← octet cs
  let (b, cs) ← octet (← after? '.' cs)
  let (c, cs) ← octet (← after? '.' cs)
  let (d, cs) ← octet (← after? '.' cs)
  return ([a, b, c, d], cs)

/-- The groups at the front, at most `room` of them, each but the first behind a colon; and
whether an IPv4 address came last. -/
def groupsFrom (first : Bool) (cs : List Char) : Nat → List Nat × Bool × List Char
  | 0 => ([], false, cs)
  | room + 1 =>
    let start := if first then some cs else after? ':' cs
    match start.bind octets? with
    | some ([a, b, c, d], rest) =>
      if 0 < room then ([256 * a + b, 256 * c + d], true, rest)
      else
        match start.bind (number? 16 65536 (some 4) true) with
        | some (g, rest) => ([g], false, rest)
        | none => ([], false, cs)
    | _ =>
      match start.bind (number? 16 65536 (some 4) true) with
      | some (g, rest) =>
        let (more, embedded, rest) := groupsFrom false rest room
        (g :: more, embedded, rest)
      | none => ([], false, cs)

/-- The eight groups of an IPv6 address at the front. -/
def groups? (cs : List Char) : Option (List Nat × List Char) :=
  let (head, embedded, rest) := groupsFrom true cs 8
  if head.length = 8 then some (head, rest)
  else if embedded then none
  else do
    let rest ← after? ':' rest
    let rest ← after? ':' rest
    let (tail, _, rest) := groupsFrom true rest (7 - head.length)
    return (head ++ List.replicate (8 - head.length - tail.length) 0 ++ tail, rest)

/-- The port behind a colon. -/
def port? (cs : List Char) : Option (Nat × List Char) := do
  number? 10 65536 none true (← after? ':' cs)

/-- The scope behind a percent sign, zero without one. -/
def scope (cs : List Char) : Nat × List Char :=
  match (after? '%' cs).bind (number? 10 UInt32.size none true) with
  | some r => r
  | none => (0, cs)

/-- An IPv4 address with its port, and nothing behind it. -/
def parseV4 (cs : List Char) : Option SocketAddress := do
  let (octets, cs) ← octets? cs
  let (port, cs) ← port? cs
  if cs.isEmpty then return .v4 octets port else none

def parseV6 (cs : List Char) : Option SocketAddress := do
  let (groups, cs) ← groups? (← after? '[' cs)
  let (scope, cs) := scope cs
  let (port, cs) ← port? (← after? ']' cs)
  if cs.isEmpty then return .v6 groups scope port else none

def parse (text : String) : Option SocketAddress :=
  (parseV4 text.toList).or (parseV6 text.toList)

def dotted (octets : List Nat) : List Char :=
  List.intercalate ['.'] (octets.map (Nat.toDigits 10))

def coloned (groups : List Nat) : List Char :=
  List.intercalate [':'] (groups.map Text.hexDigits)

/-- The first of the longest runs of zeros, as its start and its length. `best` is the longest
before `i`, and `run` zeros stand right before `i`. -/
def longestZeros (best : Nat × Nat) (run i : Nat) : List Nat → Nat × Nat
  | [] => best
  | g :: gs =>
    if g = 0 then
      longestZeros (if best.2 < run + 1 then (i - run, run + 1) else best) (run + 1) (i + 1) gs
    else longestZeros best 0 (i + 1) gs

/-- Groups with colons between, the longest run of two or more zeros left out. -/
def compressed (groups : List Nat) : List Char :=
  let (start, length) := longestZeros (0, 0) 0 0 groups
  if 1 < length then
    coloned (groups.take start) ++ [':', ':'] ++ coloned (groups.drop (start + length))
  else coloned groups

/-- An IPv6 address without port. -/
def groupsText (groups : List Nat) : List Char :=
  match groups with
  | [0, 0, 0, 0, 0, 0xFFFF, a, b] =>
    "::ffff:".toList ++ dotted [a / 256, a % 256, b / 256, b % 256]
  | _ => compressed groups

def text : SocketAddress → String
  | .v4 octets port => String.ofList (dotted octets ++ ':' :: Nat.toDigits 10 port)
  | .v6 groups scope port =>
    let zone := if scope = 0 then [] else '%' :: Nat.toDigits 10 scope
    String.ofList ('[' :: groupsText groups ++ zone ++ [']', ':'] ++ Nat.toDigits 10 port)

end SocketAddress
end PadRelay
