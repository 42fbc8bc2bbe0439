import PadRelay.Proofs.Shutdown.Buffer

/-!
# PadRelay.Proofs.Shutdown.Conservation

Shutdown signals are neither lost nor invented.

* `triggers`, `signals`, `missed`: what was sent, and what a listener got or was told it missed.
* `Listening`, `Held`: the listeners and the handles that were made and not dropped.
* `Register`: flags in the order of making, for listeners and for handles.
* `Listener.after`, `gained`: what a use makes of one listener, and what that adds to both sides.
* `Reached.balance`: both sides agree after any uses.
* `conserved_of_reached`: what a listener gets, and will get, was sent since it was made.
-/

namespace PadRelay
namespace Shutdown

/-! ## What the uses say -/

def triggers (events : List Event) : Nat := events.countP (·.1.action = .trigger)

def signals (r : Nat) (events : List Event) : Nat := events.count (.receive r, .received .signal)

def Event.missed (r : Nat) : Event → Nat
  | (.receive r', .received (.lagged n)) => if r' = r then n else 0
  | _ => 0

def missed (r : Nat) : List Event → Nat
  | [] => 0
  | e :: events => Event.missed r e + missed r events

section

variable {r : Nat} {u : Use} {a : Answer} {first later : List Event}

theorem triggers_append : triggers (first ++ later) = triggers first + triggers later :=
  List.countP_append

theorem signals_append : signals r (first ++ later) = signals r first + signals r later :=
  List.count_append

theorem missed_append : missed r (first ++ later) = missed r first + missed r later := by
  induction first with
  | nil => exact (Nat.zero_add _).symm
  | cons e first ih => rw [List.cons_append, missed, missed, ih, Nat.add_assoc]

@[simp] theorem triggers_singleton :
    triggers [(u, a)] = if u.action = .trigger then 1 else 0 := by
  simp [triggers, List.countP_singleton]

@[simp] theorem signals_singleton :
    signals r [(u, a)] = if u = .receive r ∧ a = .received .signal then 1 else 0 := by
  simp [signals, List.count_singleton]

@[simp] theorem missed_singleton : missed r [(u, a)] = Event.missed r (u, a) :=
  Nat.add_zero _

theorem signals_eq_zero (h : ∀ a, (.receive r, a) ∉ first) : signals r first = 0 :=
  List.count_eq_zero.mpr (h _)

theorem Event.missed_of_ne (h : u ≠ .receive r) : Event.missed r (u, a) = 0 := by
  unfold Event.missed
  split
  · next heq =>
    cases heq
    exact if_neg fun hr => h (congrArg Use.receive hr)
  · rfl

theorem missed_eq_zero (h : ∀ a, (.receive r, a) ∉ first) : missed r first = 0 := by
  induction first with
  | nil => rfl
  | cons e first ih =>
    have hhead : e.1 ≠ .receive r := fun hu => h e.2 (hu ▸ List.mem_cons_self)
    rw [missed, Event.missed_of_ne hhead, ih fun a ha => h a (List.mem_cons_of_mem _ ha)]

end

/-- A listener that was made and not dropped. -/
def Listening (events : List Event) (r : Nat) : Prop :=
  (∃ s, (.subscribe s, .number r) ∈ events) ∧ (.dropListener r, .nothing) ∉ events

/-- A handle that was made and not dropped. The first is there from the start. -/
def Held (events : List Event) (s : Nat) : Prop :=
  (s = 0 ∨ ∃ s', (.clone s', .number s) ∈ events) ∧ (.dropHandle s, .nothing) ∉ events

/-! ## What is live -/

/-- What is numbered in the order of its making, with a flag that stands until it is dropped. -/
structure Register (made dropped : Nat → Prop) (flags : List Bool) : Prop where
  made_iff : ∀ n, made n ↔ n < flags.length
  live_iff : ∀ n, flags[n]? = some true ↔ made n ∧ ¬ dropped n
  lt_of_dropped : ∀ n, dropped n → n < flags.length

namespace Register

variable {made dropped made' dropped' : Nat → Prop} {flags : List Bool}

theorem congr (h : Register made dropped flags) (hmade : ∀ n, made' n ↔ made n)
    (hdropped : ∀ n, dropped' n ↔ dropped n) : Register made' dropped' flags := by
  obtain rfl : made' = made := funext fun n => propext (hmade n)
  obtain rfl : dropped' = dropped := funext fun n => propext (hdropped n)
  exact h

theorem append (h : Register made dropped flags) (hmade : ∀ n, made' n ↔ made n ∨ n = flags.length)
    (hdropped : ∀ n, dropped' n ↔ dropped n) : Register made' dropped' (flags ++ [true]) := by
  refine ⟨fun n => ?_, fun n => ?_, fun n hn => ?_⟩
  · rw [hmade, h.made_iff, List.length_append, List.length_singleton]
    omega
  · rw [hmade, hdropped, List.getElem?_append]
    split
    · next hlt => rw [h.live_iff, or_iff_left (Nat.ne_of_lt hlt)]
    · next hge =>
      have hmade : ¬ made n := fun hn => hge ((h.made_iff n).mp hn)
      have hdropped : ¬ dropped n := fun hn => hge (h.lt_of_dropped n hn)
      rw [List.getElem?_singleton, or_iff_right hmade, and_iff_left hdropped,
        Option.ite_none_right_eq_some, and_iff_left rfl]
      omega
  · have hlt := h.lt_of_dropped n ((hdropped n).mp hn)
    rw [List.length_append]
    omega

theorem set (h : Register made dropped flags) {d : Nat} (hd : d < flags.length)
    (hmade : ∀ n, made' n ↔ made n) (hdropped : ∀ n, dropped' n ↔ dropped n ∨ n = d) :
    Register made' dropped' (flags.set d false) := by
  refine ⟨fun n => ?_, fun n => ?_, fun n hn => ?_⟩
  · rw [hmade, h.made_iff, List.length_set]
  · rw [hmade, hdropped, List.getElem?_set]
    by_cases hn : n = d
    · simp [hn]
    · rw [if_neg (Ne.symm hn), h.live_iff, or_iff_left hn]
  · rw [List.length_set]
    obtain hn | rfl := (hdropped n).mp hn
    · exact h.lt_of_dropped n hn
    · exact hd

end Register

theorem lt_length_of_getElem? {α : Type} {l : List α} {n : Nat} {a : α} (h : l[n]? = some a) :
    n < l.length := (List.getElem?_eq_some_iff.mp h).1

theorem Reached.handles {events : List Event} {c : Channel} (h : Reached events c) :
    Register (fun s => s = 0 ∨ ∃ s', (.clone s', .number s) ∈ events)
      (fun s => (.dropHandle s, .nothing) ∈ events) c.handles := by
  induction h with
  | start =>
    exact ⟨by simp [Channel.start], by simp [Channel.start, List.getElem?_singleton], by simp⟩
  | @step events c u _ hu ih =>
    cases u with
    | clone s =>
      exact ih.append (by simp [Channel.act, Channel.clone, Use.action, or_assoc, exists_or])
        (by simp)
    | dropHandle s =>
      exact ih.set (lt_length_of_getElem? hu) (by simp) (by simp [Channel.act, Use.action])
    | receive r =>
      obtain ⟨l, hl, -⟩ := hu
      simp only [Use.action, Channel.act_receive hl]
      exact ih.congr (by simp) (by simp)
    | subscribe _ | trigger _ | count _ | dropListener _ => exact ih.congr (by simp) (by simp)

theorem Reached.listeners {events : List Event} {c : Channel} (h : Reached events c) :
    Register (fun r => ∃ s, (.subscribe s, .number r) ∈ events)
      (fun r => (.dropListener r, .nothing) ∈ events) c.live := by
  induction h with
  | start =>
    exact ⟨by simp [Channel.start, Channel.live], by simp [Channel.start, Channel.live], by simp⟩
  | @step events c u _ hu ih =>
    cases u with
    | subscribe s =>
      simp only [Use.action, Channel.act, Channel.live_subscribe]
      exact ih.append (by simp [Channel.subscribe, Channel.live, exists_or]) (by simp)
    | dropListener r =>
      obtain ⟨l, hl, -⟩ := hu
      simp only [Use.action, Channel.act, Channel.live_dropListener hl]
      exact ih.set (lt_length_of_getElem? (Channel.getElem?_live hl)) (by simp) (by simp)
    | receive r =>
      obtain ⟨l, hl, -⟩ := hu
      rw [Use.action, Channel.live_receive hl]
      exact ih.congr (by simp) (by simp)
    | trigger s =>
      simp only [Use.action, Channel.act, Channel.live_trigger]
      exact ih.congr (by simp) (by simp)
    | clone _ | count _ | dropHandle _ => exact ih.congr (by simp) (by simp)

theorem Reached.held_iff {events : List Event} {c : Channel} (h : Reached events c) (s : Nat) :
    Held events s ↔ c.handles[s]? = some true :=
  (h.handles.live_iff s).symm

theorem Reached.isOpen_iff {events : List Event} {c : Channel} (h : Reached events c) :
    c.isOpen = true ↔ ∃ s, Held events s := by
  simp only [h.held_iff, ← List.mem_iff_getElem?]
  rw [Channel.isOpen, List.any_eq_true]
  exact ⟨fun ⟨_, hmem, hlive⟩ => hlive ▸ hmem, fun hmem => ⟨true, hmem, rfl⟩⟩

/-- How many listeners are live is told. -/
theorem Reached.count_eq {events : List Event} {c : Channel} (h : Reached events c) :
    ∃ rs : List Nat, rs.Nodup ∧ (∀ r, r ∈ rs ↔ Listening events r) ∧
      (c.act .count).1 = .number rs.length := by
  refine ⟨c.live.findIdxs id, List.nodup_findIdxs, fun r => ?_, ?_⟩
  · rw [List.mem_findIdxs_iff_exists_getElem_pos, Listening, ← h.listeners.live_iff,
      List.getElem?_eq_some_iff]
    rfl
  · rw [List.length_findIdxs, Channel.live, List.countP_map]
    rfl

/-! ## What a use makes of a listener -/

/-- A listener after a use. -/
def Listener.after (r : Nat) (l : Listener) : Use → Listener
  | .trigger _ => if l.live then { l with unread := l.unread + 1 } else l
  | .receive r' => if r' = r then { l with unread := min (l.unread - 1) 1 } else l
  | .dropListener r' => if r' = r then { l with live := false } else l
  | .subscribe _ | .clone _ | .count _ | .dropHandle _ => l

theorem live_of_after {r : Nat} {l : Listener} {u : Use} (h : (l.after r u).live = true) :
    l.live = true := by
  cases u with
  | trigger s | receive r' =>
    rw [Listener.after] at h
    split at h <;> exact h
  | dropListener r' =>
    rw [Listener.after] at h
    split at h
    · cases h
    · exact h
  | subscribe s | clone s | count s | dropHandle s => exact h

theorem Channel.read_snd (isOpen : Bool) (unread : Nat) :
    (Channel.read isOpen unread).2 = min (unread - 1) 1 := by
  match unread with
  | 0 | 1 => rfl
  | n + 2 =>
    rw [Channel.read]
    omega

theorem Channel.getElem?_act {c : Channel} {u : Use} {r : Nat} {l : Listener} (hu : c.Allows u)
    (hl : c.listeners[r]? = some l) :
    (c.act u.action).2.listeners[r]? = some (l.after r u) := by
  cases u with
  | subscribe s =>
    exact (List.getElem?_append_left (lt_length_of_getElem? hl)).trans hl
  | trigger s =>
    rw [Use.action, Channel.act, Channel.trigger, List.getElem?_map, hl]
    rfl
  | receive r' =>
    obtain ⟨l', hl', -⟩ := hu
    rw [Use.action, Channel.act_receive hl', Listener.after, Channel.read_snd, List.getElem?_set]
    split
    · next heq =>
      subst heq
      rw [hl] at hl'
      cases hl'
      rw [if_pos (lt_length_of_getElem? hl)]
    · exact hl
  | dropListener r' =>
    rw [Use.action, Channel.act, Channel.dropListener, List.getElem?_modify, hl]
    rfl
  | clone s | count s | dropHandle s => exact hl

/-- What is sent to a listener is got by it, or it is told that it missed it, or it is unread. -/
theorem gained {c : Channel} {u : Use} {r : Nat} {l : Listener} (hl : c.listeners[r]? = some l)
    (hlive : (l.after r u).live = true) :
    l.unread + triggers [(u, (c.act u.action).1)] =
      signals r [(u, (c.act u.action).1)] + missed r [(u, (c.act u.action).1)] +
        (l.after r u).unread := by
  cases u with
  | receive r' =>
    by_cases hr : r' = r
    · subst hr
      rw [Use.action, Channel.act_receive hl, Listener.after, if_pos rfl]
      match l.unread with
      | 0 => cases c.isOpen <;> simp [Event.missed, Channel.read, Use.action]
      | 1 => simp [Event.missed, Channel.read, Use.action]
      | n + 2 => simp [Event.missed, Channel.read, Use.action]
    · have hu : Use.receive r' ≠ .receive r := fun heq => hr (Use.receive.inj heq)
      simp [Event.missed_of_ne hu, hr, Listener.after, Use.action]
  | trigger s =>
    rw [Listener.after] at hlive ⊢
    split at hlive
    · simp [Event.missed, Use.action, *]
    · contradiction
  | dropListener r' =>
    have hr : r' ≠ r := by
      rintro rfl
      simp [Listener.after] at hlive
    simp [Event.missed, Listener.after, hr, Use.action]
  | subscribe s | clone s | count s | dropHandle s =>
    simp [Event.missed, Listener.after, Use.action]

/-! ## Any uses -/

theorem Reached.lt_of_receive {events : List Event} {c : Channel} (h : Reached events c) {r : Nat}
    {a : Answer} (ha : (.receive r, a) ∈ events) : r < c.listeners.length := by
  induction h with
  | start => cases ha
  | @step events c u _ hu ih =>
    have hkept : ∀ {l}, c.listeners[r]? = some l → r < (c.act u.action).2.listeners.length :=
      fun hl => lt_length_of_getElem? (Channel.getElem?_act hu hl)
    obtain ha | ha := List.mem_append.mp ha
    · exact hkept (List.getElem?_eq_getElem (ih ha))
    · cases List.mem_singleton.mp ha
      obtain ⟨l, hl, -⟩ := hu
      exact hkept hl

/-- All that a listener got was sent since it was made, and so is all that is unread. -/
theorem Reached.balance {before after : List Event} {r s : Nat} {c : Channel}
    (h : Reached (before ++ (.subscribe s, .number r) :: after) c) :
    ∃ l, c.listeners[r]? = some l ∧ (l.live = true → triggers after =
      signals r (before ++ (.subscribe s, .number r) :: after) +
        missed r (before ++ (.subscribe s, .number r) :: after) + l.unread) := by
  generalize hevents : before ++ (.subscribe s, .number r) :: after = events at h
  induction h generalizing after with
  | start => simp at hevents
  | @step events c u hreached hu ih =>
    obtain rfl | ⟨after, e, rfl⟩ := List.eq_nil_or_concat' after
    · obtain ⟨rfl, he⟩ := List.append_inj' hevents rfl
      cases u with
      | subscribe s' =>
        obtain ⟨rfl, rfl⟩ : s = s' ∧ r = c.listeners.length := by
          simpa [Use.action, Channel.act, Channel.subscribe] using he
        have hunused : ∀ a, (.receive c.listeners.length, a) ∉ before := fun a ha =>
          Nat.lt_irrefl _ (hreached.lt_of_receive ha)
        refine ⟨⟨true, 0⟩, ?_, fun _ => ?_⟩
        · simp [Use.action, Channel.act, Channel.subscribe]
        · simp [signals_append, missed_append, signals_eq_zero hunused, missed_eq_zero hunused,
            triggers, Event.missed]
      | _ => cases he
    · rw [← List.cons_append, ← List.append_assoc] at hevents
      obtain ⟨hbefore, he⟩ := List.append_inj' hevents rfl
      obtain ⟨l, hl, hbalance⟩ := ih hbefore
      refine ⟨l.after r u, Channel.getElem?_act hu hl, fun hlive => ?_⟩
      have hbalance := hbalance (live_of_after hlive)
      have hgained := gained hl hlive
      cases List.singleton_inj.mp he
      rw [triggers_append, signals_append, missed_append]
      omega

/-- What a listener with so many unread signals gets. -/
structure Told (events : List Event) (unread : Nat) (reception : Reception) : Prop where
  /-- It is told of signals if and only if some are unread. -/
  some_iff : (reception = .signal ∨ ∃ n, reception = .lagged n) ↔ 0 < unread
  signal_iff : reception = .signal ↔ unread = 1
  lagged_iff : ∀ n, reception = .lagged n ↔ 0 < n ∧ unread = n + 1
  empty_iff : reception = .empty ↔ unread = 0 ∧ ∃ s, Held events s
  closed_iff : reception = .closed ↔ unread = 0 ∧ ∀ s, ¬ Held events s

theorem Reached.told {events : List Event} {c : Channel} (h : Reached events c) (unread : Nat) :
    Told events unread (Channel.read c.isOpen unread).1 := by
  have hheld : (∃ s, Held events s) ↔ c.isOpen = true := h.isOpen_iff.symm
  have hnone : (∀ s, ¬ Held events s) ↔ c.isOpen = false := by
    rw [← not_exists, hheld, Bool.not_eq_true]
  match unread with
  | 0 =>
    cases hopen : c.isOpen <;> constructor <;> simp [Channel.read, hheld, hnone, hopen]
  | 1 => constructor <;> simp [Channel.read, Nat.pos_iff_ne_zero]
  | n + 2 => constructor <;> simp [Channel.read]

/-- **Signals are neither lost nor invented.** After any uses, through any handles and in any order,
what was sent since a live listener was made is what it got, what it was told that it missed, and
what is unread. So it is told of signals next if and only if some are unread; it hears that the
channel is closed only without unread signals and without handles. The number of listeners that is
told is that of those made and not dropped. A buffer of one slot gives the same answers. -/
theorem conserved_of_reached {events : List Event} {c : Channel} (h : Reached events c) :
    (∀ before s r after, events = before ++ (.subscribe s, .number r) :: after →
      Listening events r →
      ∃ unread, triggers after = signals r events + missed r events + unread ∧
        ∃ reception, (c.act (.receive r)).1 = .received reception ∧
          Told events unread reception) ∧
    (∃ rs : List Nat, rs.Nodup ∧ (∀ r, r ∈ rs ↔ Listening events r) ∧
      (c.act .count).1 = .number rs.length) ∧
    Channel.start.run (events.map (·.1.action)) = events.map Prod.snd ∧
    Buffer.start.run (events.map (·.1.action)) = events.map Prod.snd := by
  refine ⟨?_, h.count_eq, ?_, h.run_buffer_eq⟩
  · rintro before s r after rfl hlistening
    obtain ⟨l, hl, hbalance⟩ := h.balance
    have hlive := (h.listeners.live_iff r).mpr hlistening
    rw [Channel.getElem?_live hl, Option.some.injEq] at hlive
    exact ⟨l.unread, hbalance hlive, _, congrArg Prod.fst (Channel.act_receive hl), h.told l.unread⟩
  · simpa [Channel.run] using h.run_eq []

/-- Two signals before the second listener is made and one after it, through a handle that outlives
the first. The first listener is told of two that it missed and gets the newest. -/
def overwritten : List Event :=
  [(.subscribe 0, .number 0), (.trigger 0, .nothing), (.trigger 0, .nothing),
    (.clone 0, .number 1), (.subscribe 0, .number 1), (.dropHandle 0, .nothing),
    (.trigger 1, .nothing), (.receive 0, .received (.lagged 2)), (.receive 0, .received .signal)]

theorem reached_overwritten : Reached overwritten ⟨[false, true], [⟨true, 0⟩, ⟨true, 1⟩]⟩ :=
  ((((((((Reached.start.step (u := .subscribe 0) rfl).step (u := .trigger 0) rfl).step
    (u := .trigger 0) rfl).step (u := .clone 0) rfl).step (u := .subscribe 0) rfl).step
    (u := .dropHandle 0) rfl).step (u := .trigger 1) rfl).step
    (u := .receive 0) ⟨_, rfl, rfl⟩).step (u := .receive 0) ⟨_, rfl, rfl⟩

theorem conserved_of_reached_overwritten :
    let c : Channel := ⟨[false, true], [⟨true, 0⟩, ⟨true, 1⟩]⟩
    Reached overwritten c ∧
      (Listening overwritten 0 ∧ signals 0 overwritten = 1 ∧ missed 0 overwritten = 2 ∧
        (c.act (.receive 0)).1 = .received .empty) ∧
      Listening overwritten 1 ∧ signals 1 overwritten = 0 ∧ missed 1 overwritten = 0 ∧
        (c.act (.receive 1)).1 = .received .signal := by
  intro c
  have hfirst : Listening overwritten 0 := ⟨⟨0, by decide⟩, by decide⟩
  have hsecond : Listening overwritten 1 := ⟨⟨0, by decide⟩, by decide⟩
  have hheld : ∃ s, Held overwritten s := ⟨1, .inr ⟨0, by decide⟩, by decide⟩
  obtain ⟨hconserved, -⟩ := conserved_of_reached reached_overwritten
  refine ⟨reached_overwritten, ⟨hfirst, by decide, by decide, ?_⟩,
    hsecond, by decide, by decide, ?_⟩
  · obtain ⟨unread, hbalance, reception, hreceived, htold⟩ :=
      hconserved [] 0 0 (overwritten.drop 1) rfl hfirst
    have hunread : 3 = 1 + 2 + unread := hbalance
    exact hreceived.trans (congrArg _ (htold.empty_iff.mpr ⟨by omega, hheld⟩))
  · obtain ⟨unread, hbalance, reception, hreceived, htold⟩ :=
      hconserved (overwritten.take 4) 0 1 (overwritten.drop 5) rfl hsecond
    have hunread : 1 = 0 + 0 + unread := hbalance
    exact hreceived.trans (congrArg _ (htold.signal_iff.mpr (by omega)))

end Shutdown
end PadRelay
