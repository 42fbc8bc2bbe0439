import Mathlib.Data.List.Basic
import PadRelay.Shutdown

/-!
# PadRelay.Proofs.Shutdown.Uses

The shutdown channel used through its handles and by its listeners.

* `Use`: what is done, and through which handle or by which listener.
* `Channel.Allows`: only what was made and not dropped can be used.
* `Reached`: uses in any order, each with what it gave back, and the channel after them.
* `Reached.run_eq`: what they gave back is what a run of them answers.
-/

namespace PadRelay
namespace Shutdown

/-- A use of the channel, through a handle or by a listener. -/
inductive Use where
  | subscribe (handle : Nat)
  | clone (handle : Nat)
  | trigger (handle : Nat)
  | count (handle : Nat)
  | receive (listener : Nat)
  | dropListener (listener : Nat)
  | dropHandle (handle : Nat)
  deriving DecidableEq, Repr

/-- What is done; through which handle does not matter. -/
def Use.action : Use → Action
  | .subscribe _ => .subscribe
  | .clone _ => .clone
  | .trigger _ => .trigger
  | .count _ => .count
  | .receive r => .receive r
  | .dropListener r => .dropListener r
  | .dropHandle s => .dropHandle s

/-- What is used is there. -/
def Channel.Allows (c : Channel) : Use → Prop
  | .subscribe s | .clone s | .trigger s | .count s | .dropHandle s => c.handles[s]? = some true
  | .receive r | .dropListener r => ∃ l, c.listeners[r]? = some l ∧ l.live = true

namespace Channel

variable {c : Channel} {r : Nat} {l : Listener}

theorem act_receive (hl : c.listeners[r]? = some l) :
    c.act (.receive r) = (.received (read c.isOpen l.unread).1,
      { c with listeners := c.listeners.set r ⟨l.live, (read c.isOpen l.unread).2⟩ }) := by
  rw [act, receive, hl]

theorem dropListener_eq (hl : c.listeners[r]? = some l) :
    c.dropListener r = { c with listeners := c.listeners.set r ⟨false, l.unread⟩ } := by
  rw [dropListener, List.modify_eq_set_getElem?, hl]
  rfl

def live (c : Channel) : List Bool := c.listeners.map (·.live)

theorem getElem?_live (hl : c.listeners[r]? = some l) : c.live[r]? = some l.live := by
  rw [live, List.getElem?_map, hl]
  rfl

theorem live_subscribe (c : Channel) : c.subscribe.2.live = c.live ++ [true] :=
  List.map_append

theorem live_trigger (c : Channel) : c.trigger.live = c.live := by
  rw [live, trigger, List.map_map, live]
  refine List.map_congr_left fun l _ => ?_
  rw [Function.comp_apply]
  split <;> rfl

theorem live_receive (hl : c.listeners[r]? = some l) : (c.act (.receive r)).2.live = c.live := by
  obtain ⟨hlt, hlive⟩ := List.getElem?_eq_some_iff.mp (getElem?_live hl)
  rw [act_receive hl, live, List.map_set, ← hlive]
  exact List.set_getElem_self hlt

theorem live_dropListener (hl : c.listeners[r]? = some l) :
    (c.dropListener r).live = c.live.set r false := by
  rw [dropListener_eq hl, live, List.map_set, live]

end Channel

abbrev Event := Use × Answer

/-- The channel to which uses lead. -/
inductive Reached : List Event → Channel → Prop where
  | start : Reached [] .start
  | step {events : List Event} {c : Channel} {u : Use} :
      Reached events c → c.Allows u →
        Reached (events ++ [(u, (c.act u.action).1)]) (c.act u.action).2

/-- What was given back is what a run answers, and the run goes on from the channel reached. -/
theorem Reached.run_eq {events : List Event} {c : Channel} (h : Reached events c)
    (more : List Action) :
    Channel.start.run (events.map (·.1.action) ++ more) = events.map Prod.snd ++ c.run more := by
  induction h generalizing more with
  | start => rfl
  | @step events c u _ _ ih =>
    rw [List.map_append, List.map_append, List.append_assoc, ih, List.append_assoc]
    rfl

end Shutdown
end PadRelay
