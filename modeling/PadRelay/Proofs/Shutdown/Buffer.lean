import PadRelay.Proofs.Shutdown.Uses

/-!
# PadRelay.Proofs.Shutdown.Buffer

The shutdown channel as a buffer of one slot.

* `Buffer`: the newest signal in the slot, and for each listener the next signal that it reads. A
  signal overwrites the one before it; a listener behind the slot learns how many it missed.
* `Mirrors`: a channel and the buffer behind it.
* `Mirrors.act`: a use does the same to both, one case for each kind of use.
* `run_buffer_eq`: uses in any order get the same answers from both.
-/

namespace PadRelay
namespace Shutdown

structure Cursor where
  live : Bool
  /-- The number of the next signal that it reads. -/
  next : Nat

/-- A buffer of one slot. Signals are numbered from zero. -/
structure Buffer where
  handles : List Bool
  /-- The number of the signal in the slot. -/
  slot : Option Nat
  cursors : List Cursor

namespace Buffer

def start : Buffer := ⟨[true], none, []⟩

def tail (b : Buffer) : Nat := b.slot.elim 0 (· + 1)

def isOpen (b : Buffer) : Bool := b.handles.any id

/-- A new listener starts behind the newest signal. -/
def subscribe (b : Buffer) : Nat × Buffer :=
  (b.cursors.length, { b with cursors := b.cursors ++ [⟨true, b.tail⟩] })

def clone (b : Buffer) : Nat × Buffer :=
  (b.handles.length, { b with handles := b.handles ++ [true] })

/-- A signal takes the slot, unless nobody listens. -/
def trigger (b : Buffer) : Buffer :=
  if b.cursors.any (·.live) then { b with slot := some b.tail } else b

/-- What a listener gets from the slot, and what it reads next. -/
def read (isOpen : Bool) (slot : Option Nat) (next : Nat) : Reception × Nat :=
  match slot with
  | some n =>
    if n = next then (.signal, next + 1)
    else if next < n then (.lagged (n - next), n)
    else (if isOpen then .empty else .closed, next)
  | none => (if isOpen then .empty else .closed, next)

def receive (b : Buffer) (r : Nat) : Option (Reception × Buffer) :=
  match b.cursors[r]? with
  | none => none
  | some cursor =>
    let (reception, next) := read b.isOpen b.slot cursor.next
    some (reception, { b with cursors := b.cursors.set r { cursor with next := next } })

def act (b : Buffer) : Action → Answer × Buffer
  | .subscribe => let (n, b) := b.subscribe; (.number n, b)
  | .clone => let (n, b) := b.clone; (.number n, b)
  | .trigger => (.nothing, b.trigger)
  | .count => (.number (b.cursors.countP (·.live)), b)
  | .receive r =>
    match b.receive r with
    | some (reception, b) => (.received reception, b)
    | none => (.nothing, b)
  | .dropListener r =>
    (.nothing, { b with cursors := b.cursors.modify r fun cursor => { cursor with live := false } })
  | .dropHandle s => (.nothing, { b with handles := b.handles.set s false })

theorem act_receive {b : Buffer} {r : Nat} {cursor : Cursor}
    (hcursor : b.cursors[r]? = some cursor) :
    b.act (.receive r) = (.received (read b.isOpen b.slot cursor.next).1,
      { b with
        cursors := b.cursors.set r ⟨cursor.live, (read b.isOpen b.slot cursor.next).2⟩ }) := by
  rw [act, receive, hcursor]

def run (b : Buffer) : List Action → List Answer
  | [] => []
  | a :: actions =>
    let (answer, b) := b.act a
    answer :: run b actions

end Buffer

/-- A channel and the buffer behind it: what a listener has not read is what the buffer has taken
since its cursor. -/
structure Mirrors (c : Channel) (b : Buffer) : Prop where
  handles : b.handles = c.handles
  live : b.cursors.map (·.live) = c.live
  unread : ∀ (r : Nat) (l : Listener) (cursor : Cursor), c.listeners[r]? = some l →
    b.cursors[r]? = some cursor → l.live = true → l.unread + cursor.next = b.tail

theorem mirrors_start : Mirrors .start .start :=
  ⟨rfl, rfl, fun _ _ _ hl => by simp [Channel.start] at hl⟩

namespace Mirrors

variable {c : Channel} {b : Buffer}

theorem length (h : Mirrors c b) : b.cursors.length = c.listeners.length := by
  simpa [Channel.live] using congrArg List.length h.live

theorem countP_live (h : Mirrors c b) : b.cursors.countP (·.live) = c.listenerCount := by
  have hcount := congrArg (List.countP id) h.live
  rwa [Channel.live, List.countP_map, List.countP_map] at hcount

theorem exists_cursor (h : Mirrors c b) {r : Nat} {l : Listener} (hl : c.listeners[r]? = some l) :
    ∃ cursor, b.cursors[r]? = some cursor ∧ cursor.live = l.live := by
  have hlive : (b.cursors.map (·.live))[r]? = some l.live := by
    rw [h.live, Channel.getElem?_live hl]
  rw [List.getElem?_map, Option.map_eq_some_iff] at hlive
  exact hlive

/-- What a listener gets is the same, and so is how much it has not read then. -/
theorem read_eq (isOpen : Bool) {slot : Option Nat} {unread next : Nat}
    (h : unread + next = slot.elim 0 (· + 1)) :
    (Buffer.read isOpen slot next).1 = (Channel.read isOpen unread).1 ∧
      (Channel.read isOpen unread).2 + (Buffer.read isOpen slot next).2 =
        slot.elim 0 (· + 1) := by
  cases slot with
  | none =>
    obtain ⟨rfl, rfl⟩ : unread = 0 ∧ next = 0 := by simpa using h
    exact ⟨rfl, rfl⟩
  | some n =>
    rw [Option.elim_some] at h ⊢
    match unread, h with
    | 0, h =>
      have hne : n ≠ next := by omega
      have hlt : ¬ next < n := by omega
      rw [Buffer.read, if_neg hne, if_neg hlt, Channel.read]
      exact ⟨rfl, h⟩
    | 1, h =>
      have heq : n = next := by omega
      rw [Buffer.read, if_pos heq, Channel.read, heq]
      exact ⟨rfl, Nat.zero_add _⟩
    | k + 2, h =>
      have hne : n ≠ next := by omega
      have hlt : next < n := by omega
      have hmissed : n - next = k + 1 := by omega
      rw [Buffer.read, if_neg hne, if_pos hlt, Channel.read, hmissed]
      exact ⟨rfl, Nat.add_comm 1 n⟩

theorem subscribe (h : Mirrors c b) :
    b.subscribe.1 = c.subscribe.1 ∧ Mirrors c.subscribe.2 b.subscribe.2 := by
  refine ⟨h.length, h.handles, ?_, ?_⟩
  · rw [Buffer.subscribe, List.map_append, h.live, Channel.live_subscribe]
    rfl
  · intro r l cursor hl hcursor hlive
    simp only [Channel.subscribe, Buffer.subscribe, List.getElem?_append, h.length] at hl hcursor
    split at hl
    · next hold =>
      rw [if_pos hold] at hcursor
      exact h.unread r l cursor hl hcursor hlive
    · next hnew =>
      rw [if_neg hnew] at hcursor
      simp only [List.getElem?_singleton, Option.ite_none_right_eq_some, Option.some.injEq]
        at hl hcursor
      obtain ⟨⟨-, rfl⟩, -, rfl⟩ := And.intro hl hcursor
      exact Nat.zero_add _

theorem clone (h : Mirrors c b) :
    b.clone.1 = c.clone.1 ∧ Mirrors c.clone.2 b.clone.2 := by
  rw [Buffer.clone, Channel.clone, h.handles]
  exact ⟨rfl, rfl, h.live, h.unread⟩

theorem trigger (h : Mirrors c b) : Mirrors c.trigger b.trigger := by
  refine ⟨?_, ?_, fun r l cursor hl hcursor hlive => ?_⟩
  · rw [Buffer.trigger]
    split <;> exact h.handles
  · rw [Buffer.trigger, Channel.live_trigger]
    split <;> exact h.live
  · rw [Channel.trigger, List.getElem?_map, Option.map_eq_some_iff] at hl
    obtain ⟨l, hl, rfl⟩ := hl
    split at hlive
    case isFalse hdead => exact absurd hlive hdead
    obtain ⟨cursor', hcursor', hlive'⟩ := h.exists_cursor hl
    have hany : b.cursors.any (·.live) = true :=
      List.any_eq_true.mpr ⟨cursor', List.mem_of_getElem? hcursor', hlive'.trans hlive⟩
    rw [Buffer.trigger, if_pos hany] at hcursor ⊢
    rw [if_pos hlive, Nat.add_right_comm, h.unread r l cursor hl hcursor hlive]
    rfl

/-- One listener and its cursor change together. -/
theorem set (h : Mirrors c b) (r : Nat) {live : Bool} {unread next : Nat}
    (hunread : live = true → unread + next = b.tail) :
    Mirrors { c with listeners := c.listeners.set r ⟨live, unread⟩ }
      { b with cursors := b.cursors.set r ⟨live, next⟩ } := by
  refine ⟨h.handles, ?_, fun r' l cursor hl hcursor hlive => ?_⟩
  · rw [List.map_set, h.live, Channel.live, Channel.live, List.map_set]
  · rw [List.getElem?_set] at hl hcursor
    by_cases hr : r = r'
    · rw [if_pos hr, Option.ite_none_right_eq_some, Option.some.injEq] at hl hcursor
      obtain ⟨-, rfl⟩ := hl
      obtain ⟨-, rfl⟩ := hcursor
      exact hunread hlive
    · rw [if_neg hr] at hl hcursor
      exact h.unread r' l cursor hl hcursor hlive

theorem receive (h : Mirrors c b) {r : Nat} {l : Listener} (hl : c.listeners[r]? = some l)
    (hlive : l.live = true) : (b.act (.receive r)).1 = (c.act (.receive r)).1 ∧
      Mirrors (c.act (.receive r)).2 (b.act (.receive r)).2 := by
  obtain ⟨cursor, hcursor, hlive'⟩ := h.exists_cursor hl
  have hopen : b.isOpen = c.isOpen := congrArg (List.any · id) h.handles
  obtain ⟨hreception, hunread⟩ := read_eq c.isOpen (h.unread r l cursor hl hcursor hlive)
  rw [Channel.act_receive hl, Buffer.act_receive hcursor, hopen, hreception, hlive']
  exact ⟨rfl, h.set r fun _ => hunread⟩

theorem dropListener (h : Mirrors c b) {r : Nat} {l : Listener}
    (hl : c.listeners[r]? = some l) :
    Mirrors (c.dropListener r) (b.act (.dropListener r)).2 := by
  obtain ⟨cursor, hcursor, -⟩ := h.exists_cursor hl
  rw [Channel.dropListener_eq hl, Buffer.act, List.modify_eq_set_getElem?, hcursor]
  exact h.set r nofun

theorem act (h : Mirrors c b) {u : Use} (hu : c.Allows u) :
    (b.act u.action).1 = (c.act u.action).1 ∧ Mirrors (c.act u.action).2 (b.act u.action).2 := by
  cases u with
  | subscribe s =>
    obtain ⟨hnumber, hmirrors⟩ := h.subscribe
    exact ⟨congrArg Answer.number hnumber, hmirrors⟩
  | clone s =>
    obtain ⟨hnumber, hmirrors⟩ := h.clone
    exact ⟨congrArg Answer.number hnumber, hmirrors⟩
  | trigger s => exact ⟨rfl, h.trigger⟩
  | count s => exact ⟨congrArg Answer.number h.countP_live, h⟩
  | receive r =>
    obtain ⟨l, hl, hlive⟩ := hu
    exact h.receive hl hlive
  | dropListener r =>
    obtain ⟨l, hl, -⟩ := hu
    exact ⟨rfl, h.dropListener hl⟩
  | dropHandle s => exact ⟨rfl, congrArg (·.set s false) h.handles, h.live, h.unread⟩

end Mirrors

/-- What was given back is what the buffer answers, and it still mirrors the channel. -/
theorem Reached.exists_buffer {events : List Event} {c : Channel} (h : Reached events c) :
    ∃ b, Mirrors c b ∧ ∀ more, Buffer.start.run (events.map (·.1.action) ++ more) =
      events.map Prod.snd ++ b.run more := by
  induction h with
  | start => exact ⟨.start, mirrors_start, fun _ => rfl⟩
  | @step events c u _ hu ih =>
    obtain ⟨b, hmirrors, hrun⟩ := ih
    obtain ⟨hanswer, hmirrors⟩ := hmirrors.act hu
    refine ⟨_, hmirrors, fun more => ?_⟩
    rw [List.map_append, List.map_append, List.append_assoc, hrun, List.append_assoc, ← hanswer]
    rfl

theorem Reached.run_buffer_eq {events : List Event} {c : Channel} (h : Reached events c) :
    Buffer.start.run (events.map (·.1.action)) = events.map Prod.snd := by
  obtain ⟨b, -, hrun⟩ := h.exists_buffer
  simpa [Buffer.run] using hrun []

end Shutdown
end PadRelay
