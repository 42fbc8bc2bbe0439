import PadRelay.Ini.Basic
import PadRelay.Pad.Update

/-!
# PadRelay.Selection

Which updates a section of the configuration wants.

* `presenceRule`: the events that an update must carry, by the section's `ProcessNullUpdates`.
* `machineRule`: whether the log machine is wanted, by the key of that machine.
* `shouldProcess`: both, in a section that exists.
-/

namespace PadRelay
namespace Selection

open Ini (Profile)
open Pad (Update)

/-- The key that says which updates without events are wanted. -/
def nullUpdatesKey : String := "ProcessNullUpdates"

/-- The key of a log machine. Some machines have none. -/
def machineKey (machine : UInt32) : Option String :=
  if machine = 1 then some "MasterLog"
  else if machine = 2 then some "Aux1Log"
  else if machine = 3 then some "Aux2Log"
  else if 101 ≤ machine.toNat then
    some (String.ofList ("VirtualLog".toList ++ Nat.toDigits 10 machine.toNat))
  else none

/-- Whether an update carries the events that the rule asks for: 1 asks for the one playing now,
2 for the next one, 3 for both, any other number for none. -/
def presenceRule (rule : Int) (now next : Bool) : Bool :=
  if rule = 1 then now
  else if rule = 2 then next
  else if rule = 3 then now && next
  else true

def asciiLower (c : Char) : Char := if 'A' ≤ c ∧ c ≤ 'Z' then Char.ofNat (c.toNat + 32) else c

/-- Whether a value, its white space trimmed, is the given word in any ASCII case. -/
def saysWord (value word : String) : Bool :=
  (Text.trim value.toList).map asciiLower == word.toList

/-- Whether a machine is wanted that has this value: `no` refuses, `onair` asks for the machine
to be on the air. -/
def machineRule (value : Option String) (onair : Bool) : Bool :=
  match value with
  | some v => if saysWord v "no" then false else if saysWord v "onair" then onair else true
  | none => true

def shouldProcess (p : Profile) (name : String) (u : Update) : Bool :=
  if p.hasSection name then
    if presenceRule ((p.int? name nullUpdatesKey).getD 0) u.now.isSome u.next.isSome then
      match machineKey u.machine with
      | some key => machineRule (p.get? name key) u.onairFlag
      | none => true
    else false
  else false

end Selection
end PadRelay
