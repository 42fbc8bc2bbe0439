/-!
# PadRelay.Shutdown

The channel that carries the shutdown signal from its handles to its listeners. It keeps one
signal: a listener that missed some is told how many before it gets the newest.

* `Channel`: the handles and the listeners, numbered in the order of their making, and for each
  listener how many signals it has not read.
* `subscribe`, `clone`, `trigger`, `receive`, `dropListener`, `dropHandle`: what can be done.
-/

namespace PadRelay
namespace Shutdown

/-- A listener. One that was dropped stays in its place. -/
structure Listener where
  live : Bool
  unread : Nat
  deriving DecidableEq, Repr

/-- The channel with all that was ever attached to it. -/
structure Channel where
  /-- Which handles are live. -/
  handles : List Bool
  listeners : List Listener
  deriving DecidableEq, Repr

/-- What a listener gets without waiting. -/
inductive Reception where
  | signal
  | empty
  /-- No handle is left and nothing is unread. -/
  | closed
  /-- This many signals were missed. -/
  | lagged (missed : Nat)
  deriving DecidableEq, Repr

namespace Channel

/-- A channel with one handle and no listener. -/
def start : Channel := ⟨[true], []⟩

/-- Whether a handle is left. -/
def isOpen (c : Channel) : Bool := c.handles.any id

/-- A new listener, which sees later signals only, and its number. -/
def subscribe (c : Channel) : Nat × Channel :=
  (c.listeners.length, { c with listeners := c.listeners ++ [⟨true, 0⟩] })

/-- One more handle, and its number. -/
def clone (c : Channel) : Nat × Channel :=
  (c.handles.length, { c with handles := c.handles ++ [true] })

/-- A signal to every live listener. -/
def trigger (c : Channel) : Channel :=
  { c with
    listeners := c.listeners.map fun l => if l.live then { l with unread := l.unread + 1 } else l }

def listenerCount (c : Channel) : Nat := c.listeners.countP (·.live)

/-- What a listener with so many unread signals gets, and how many are unread then. -/
def read (isOpen : Bool) : Nat → Reception × Nat
  | 0 => (if isOpen then .empty else .closed, 0)
  | 1 => (.signal, 0)
  | n + 2 => (.lagged (n + 1), 1)

/-- A listener asks for a signal. Nothing is known of one that never was. -/
def receive (c : Channel) (r : Nat) : Option (Reception × Channel) :=
  match c.listeners[r]? with
  | none => none
  | some l =>
    let (reception, unread) := read c.isOpen l.unread
    some (reception, { c with listeners := c.listeners.set r { l with unread := unread } })

def dropListener (c : Channel) (r : Nat) : Channel :=
  { c with listeners := c.listeners.modify r fun l => { l with live := false } }

def dropHandle (c : Channel) (s : Nat) : Channel :=
  { c with handles := c.handles.set s false }

end Channel

inductive Action where
  | subscribe
  | clone
  | trigger
  | count
  | receive (listener : Nat)
  | dropListener (listener : Nat)
  | dropHandle (handle : Nat)
  deriving DecidableEq, Repr

inductive Answer where
  | nothing
  | number (n : Nat)
  | received (reception : Reception)
  deriving DecidableEq, Repr

namespace Channel

def act (c : Channel) : Action → Answer × Channel
  | .subscribe => let (n, c) := c.subscribe; (.number n, c)
  | .clone => let (n, c) := c.clone; (.number n, c)
  | .trigger => (.nothing, c.trigger)
  | .count => (.number c.listenerCount, c)
  | .receive r =>
    match c.receive r with
    | some (reception, c) => (.received reception, c)
    | none => (.nothing, c)
  | .dropListener r => (.nothing, c.dropListener r)
  | .dropHandle s => (.nothing, c.dropHandle s)

/-- The answers to actions in order. -/
def run (c : Channel) : List Action → List Answer
  | [] => []
  | a :: actions =>
    let (answer, c) := c.act a
    answer :: run c actions

end Channel
end Shutdown
end PadRelay
