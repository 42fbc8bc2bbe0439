import PadRelay.Proofs.Receiving.Reports
import PadRelay.Shutdown

/-!
# PadRelay.Proofs.Receiving.Interleaving

The receive loop between its stream and its shutdown signal.

* `Loop.Step`: one move. When nothing is due, the loop takes whichever of its two branches is
  ready: a read, or word from the shutdown channel while it listens. What a read brought is
  dispatched one by one before that, and at any time the channel may change outside the loop.
* `Loop.Reached`: any number of moves.
* `Loop.Sound`: the invariant, for what was taken so far.
* `dispatched_of_reached`: what is dispatched and how the loop ends, under every interleaving.
-/

namespace PadRelay

open Framing
open Pad (Update)
open Shutdown (Channel Action Reception)

/-- What the loop makes of a read: no bytes mean the end of the stream. -/
def Input.ofRead : Except String Bytes → Input
  | .ok [] => .closed
  | .ok bytes => .received bytes
  | .error reason => .failed reason

/-- What the loop makes of word from the shutdown channel, if there is any. -/
def Input.ofReception : Reception → Option Input
  | .signal | .lagged _ => some .signalled
  | .closed => some .released
  | .empty => none

/-- The loop and the channel that it listens to. -/
structure Loop where
  channel : Channel
  /-- What the last branch brought and is not dispatched yet. -/
  due : List Occurrence
  /-- How the loop goes on when nothing is due. -/
  next : Except Ending Receiver

inductive Move where
  | read (result : Except String Bytes)
  | hear (reception : Reception)
  | dispatch (o : Occurrence)
  /-- Something is done to the channel outside the loop. -/
  | outside (a : Action)

namespace Loop

def start (maxDocument : Nat) (channel : Channel) : Loop :=
  ⟨channel, [], .ok (Receiver.start maxDocument)⟩

def after (channel : Channel) (r : Receiver) (input : Input) : Loop :=
  ⟨channel, (r.step input).1, (r.step input).2⟩

inductive Step (listener : Nat) : Loop → Move → Loop → Prop where
  | read {s : Loop} {r : Receiver} (result : Except String Bytes) :
      s.due = [] → s.next = .ok r →
      Step listener s (.read result) (after s.channel r (.ofRead result))
  | hear {s : Loop} {r : Receiver} {reception : Reception} {channel : Channel} {input : Input} :
      s.due = [] → s.next = .ok r → r.listening = true →
      s.channel.receive listener = some (reception, channel) →
      Input.ofReception reception = some input →
      Step listener s (.hear reception) (after channel r input)
  | dispatch {s : Loop} {o : Occurrence} {due : List Occurrence} :
      s.due = o :: due → Step listener s (.dispatch o) { s with due }
  | outside {s : Loop} {a : Action} :
      a ≠ .receive listener → a ≠ .dropListener listener →
      Step listener s (.outside a) { s with channel := (s.channel.act a).2 }

/-- What the loop can come to by some moves. -/
inductive Reached (listener : Nat) (s : Loop) : List Move → Loop → Prop where
  | start : Reached listener s [] s
  | step {moves : List Move} {m : Move} {t u : Loop} :
      Reached listener s moves t → Step listener t m u → Reached listener s (moves ++ [m]) u

def ending? (s : Loop) : Option Ending :=
  match s.due, s.next with
  | [], .error ending => some ending
  | _, _ => none

end Loop

/-! ## A closed channel -/

theorem Shutdown.Channel.unread_of_closed {isOpen : Bool} {unread : Nat}
    (h : (read isOpen unread).1 = .closed) : (read isOpen unread).2 = unread := by
  match unread, h with
  | 0, _ => rfl
  | 1, h => cases h
  | _ + 2, h => cases h

theorem Shutdown.Channel.eq_of_receive_closed {c d : Channel} {listener : Nat}
    (h : c.receive listener = some (.closed, d)) : d = c := by
  unfold receive at h
  split at h
  · cases h
  · next l hl =>
    obtain ⟨hlt, rfl⟩ := List.getElem?_eq_some_iff.mp hl
    rw [Option.some.injEq, Prod.mk.injEq] at h
    obtain ⟨hclosed, rfl⟩ := h
    rw [unread_of_closed hclosed, List.set_getElem_self]

/-! ## What moves take and give -/

namespace Move

def bytes? : Move → Option Bytes
  | .read (.ok (b :: bytes)) => some (b :: bytes)
  | _ => none

def dispatched? : Move → Option Occurrence
  | .dispatch o => some o
  | _ => none

/-- What a move makes the loop end with. -/
def stop? : Move → Option Stop
  | .read (.ok []) => some .endOfStream
  | .read (.error reason) => some (.readError reason)
  | .hear .signal | .hear (.lagged _) => some .shutdown
  | _ => none

end Move

def taken (moves : List Move) : List Bytes := moves.filterMap Move.bytes?

theorem taken_concat (moves : List Move) (m : Move) :
    taken (moves ++ [m]) = taken moves ++ m.bytes?.toList := by
  rw [taken, List.filterMap_append]
  cases h : m.bytes? <;> simp [taken, h]

namespace Loop

variable {maxDocument listener : Nat} {moves : List Move} {s t : Loop}

/-- What holds after some moves. -/
structure Sound (maxDocument : Nat) (moves : List Move) (s : Loop) : Prop where
  dispatched : (moves.filterMap Move.dispatched? ++ s.due).filter (·.dropped?.isNone) =
    (kept (overgrown maxDocument (taken moves)) (cut (taken moves).flatten).1).filterMap dispatch
  going : ∀ r, s.next = .ok r → moves.filterMap Move.stop? = [] ∧
    r.framer.Waits maxDocument (taken moves) (taken moves).flatten ∧
    (r.listening = true ↔ .hear .closed ∉ moves)
  ended : ∀ ending, s.next = .error ending → s.due = [] ∧
    ∃ stop pending, moves.filterMap Move.stop? = [stop] ∧ ending = stop.ending pending

theorem sound_start (maxDocument : Nat) (channel : Channel) :
    (start maxDocument channel).Sound maxDocument [] where
  dispatched := by
    have hcut : cut ([] : Bytes) = ([], []) := cut_of_free (by simp [terminator])
    simp [start, taken, hcut, kept]
  going := by
    intro r hr
    cases hr
    exact ⟨rfl, Framer.waits_start maxDocument, by simp [Receiver.start]⟩
  ended := by
    intro ending hending
    cases hending

/-- An input that stops the loop leaves nothing due. -/
theorem Sound.stop (h : s.Sound maxDocument moves) (pending : Nat) {r : Receiver}
    (hdue : s.due = []) (hnext : s.next = .ok r) {m : Move} {stop : Stop}
    (hstop : m.stop? = some stop) (hbytes : m.bytes? = none) (hdispatched : m.dispatched? = none)
    (htdue : t.due = []) (htnext : t.next = .error (stop.ending pending)) :
    t.Sound maxDocument (moves ++ [m]) where
  dispatched := by
    have hbefore := h.dispatched
    rw [taken_concat, hbytes, Option.toList_none, List.append_nil, List.filterMap_append,
      List.filterMap_cons_none hdispatched, List.filterMap_nil, List.append_nil, htdue, ← hdue]
    exact hbefore
  going := by
    intro r' hr'
    rw [htnext] at hr'
    cases hr'
  ended := by
    intro ending hending
    rw [htnext] at hending
    cases hending
    refine ⟨htdue, stop, pending, ?_, rfl⟩
    rw [List.filterMap_append, (h.going r hnext).1, List.filterMap_cons_some hstop]
    rfl

/-- A read brings the documents that it completes. -/
theorem Sound.read (hmax : 2 ≤ maxDocument) (h : s.Sound maxDocument moves) {r : Receiver}
    (hdue : s.due = []) (hnext : s.next = .ok r) (b : UInt8) (bytes : Bytes) :
    (after s.channel r (.received (b :: bytes))).Sound maxDocument
      (moves ++ [.read (.ok (b :: bytes))]) := by
  obtain ⟨hstops, hwaits, hlistening⟩ := h.going r hnext
  obtain ⟨documents, dropped, g, k, hdrain, hdiscard, hk, hkept, -⟩ :=
    hwaits.read hmax (b :: bytes)
  have hread : (r.framer.push (b :: bytes)).drain.2.discard = .ok (dropped, k) := by
    rw [hdrain, hdiscard]
  have haccept := Receiver.accept_of_served hread
  rw [hdrain] at haccept
  have htaken : taken (moves ++ [.read (.ok (b :: bytes))]) = taken moves ++ [b :: bytes] :=
    taken_concat _ _
  rw [after, Receiver.step, haccept]
  refine ⟨?_, ?_, ?_⟩
  · have hbefore := h.dispatched
    rw [hdue, List.append_nil] at hbefore
    have hnew : (Framer.Served.occurrences r.framer.maxDocument ⟨documents, dropped⟩).filter
        (·.dropped?.isNone) = documents.filterMap dispatch := Framer.Served.filter_dropped? _
    rw [htaken, hkept, List.filterMap_append, List.filterMap_append,
      List.filterMap_cons_none rfl, List.filterMap_nil, List.append_nil, List.filter_append,
      hbefore, hnew]
  · intro r' hr'
    cases hr'
    rw [htaken]
    refine ⟨?_, hk, ?_⟩
    · rw [List.filterMap_append, hstops]
      rfl
    · simpa using hlistening
  · intro ending hending
    cases hending

/-- A move besides the two branches takes nothing. -/
theorem Sound.frame (h : s.Sound maxDocument moves) {m : Move} (hbytes : m.bytes? = none)
    (hstop : m.stop? = none) (hclosed : m ≠ .hear .closed) (hnext : t.next = s.next)
    (hdue : m.dispatched?.toList ++ t.due = s.due) : t.Sound maxDocument (moves ++ [m]) := by
  have htaken : taken (moves ++ [m]) = taken moves := by
    rw [taken_concat, hbytes, Option.toList_none, List.append_nil]
  have hstops : (moves ++ [m]).filterMap Move.stop? = moves.filterMap Move.stop? := by
    rw [List.filterMap_append, List.filterMap_cons_none hstop, List.filterMap_nil, List.append_nil]
  have hmoved : (moves ++ [m]).filterMap Move.dispatched? =
      moves.filterMap Move.dispatched? ++ m.dispatched?.toList := by
    rw [List.filterMap_append]
    cases hd : m.dispatched? <;> simp [hd]
  refine ⟨?_, ?_, ?_⟩
  · rw [htaken, hmoved, List.append_assoc, hdue]
    exact h.dispatched
  · intro r hr
    rw [hnext] at hr
    rw [htaken, hstops, List.mem_append, List.mem_singleton, or_iff_left hclosed.symm]
    exact h.going r hr
  · intro ending hending
    rw [hnext] at hending
    rw [hstops]
    obtain ⟨hnil, hstop⟩ := h.ended ending hending
    rw [hnil, List.append_eq_nil_iff] at hdue
    exact ⟨hdue.2, hstop⟩

/-- Word that no signal can come any more changes nothing but that the loop stops listening. -/
theorem after_released {r : Receiver} {channel : Channel} (hdue : s.due = [])
    (hreceive : s.channel.receive listener = some (.closed, channel)) :
    after channel r .released = { s with next := .ok { r with listening := false } } := by
  rw [after, Receiver.step, Channel.eq_of_receive_closed hreceive, hdue]

theorem Sound.released (h : s.Sound maxDocument moves) {r : Receiver} (hdue : s.due = [])
    (hnext : s.next = .ok r) (channel : Channel) :
    (after channel r .released).Sound maxDocument (moves ++ [.hear .closed]) where
  dispatched := by
    have hbefore := h.dispatched
    rw [hdue] at hbefore
    have hmoved : (moves ++ [Move.hear .closed]).filterMap Move.dispatched? =
        moves.filterMap Move.dispatched? := by
      rw [List.filterMap_append]
      exact List.append_nil _
    rw [taken_concat, hmoved]
    simpa [after, Receiver.step, Move.bytes?] using hbefore
  going := by
    intro r' hr'
    cases hr'
    obtain ⟨hstops, hwaits, -⟩ := h.going r hnext
    rw [taken_concat, List.filterMap_append, hstops]
    refine ⟨rfl, ?_, ?_⟩
    · simpa [Move.bytes?] using hwaits
    · simp
  ended := by
    intro ending hending
    cases hending

theorem Sound.step (hmax : 2 ≤ maxDocument) (h : s.Sound maxDocument moves) {m : Move}
    (hstep : Step listener s m t) : t.Sound maxDocument (moves ++ [m]) := by
  cases hstep with
  | @read r result hdue hnext =>
    match result with
    | .ok [] => exact h.stop r.framer.pending hdue hnext rfl rfl rfl rfl rfl
    | .ok (b :: bytes) => exact h.read hmax hdue hnext b bytes
    | .error reason => exact h.stop 0 hdue hnext rfl rfl rfl rfl rfl
  | @hear r reception channel input hdue hnext hlistening hreceive hinput =>
    have hstopped : (r.step .signalled).2 = .error .stopped := by
      rw [Receiver.step, if_pos hlistening]
    cases reception with
    | signal =>
      cases hinput
      exact h.stop 0 hdue hnext rfl rfl rfl rfl hstopped
    | lagged missed =>
      cases hinput
      exact h.stop 0 hdue hnext rfl rfl rfl rfl hstopped
    | closed =>
      cases hinput
      exact h.released hdue hnext channel
    | empty => cases hinput
  | dispatch hdue => exact h.frame rfl rfl (by simp) rfl hdue.symm
  | outside hreceive hdrop => exact h.frame rfl rfl (by simp) rfl rfl

theorem sound_of_reached (hmax : 2 ≤ maxDocument) {channel : Channel}
    (h : Reached listener (start maxDocument channel) moves s) : s.Sound maxDocument moves := by
  induction h with
  | start => exact sound_start maxDocument channel
  | step _ hstep ih => exact ih.step hmax hstep

theorem Sound.next_iff (h : s.Sound maxDocument moves) (stop : Stop) :
    (∃ pending, s.next = .error (stop.ending pending)) ↔ stop ∈ moves.filterMap Move.stop? := by
  cases hnext : s.next with
  | ok r =>
    rw [(h.going r hnext).1]
    simp
  | error ending =>
    obtain ⟨-, stop', pending, hstops, rfl⟩ := h.ended ending hnext
    rw [hstops, List.mem_singleton]
    constructor
    · rintro ⟨pending', heq⟩
      cases stop <;> cases stop' <;> cases heq <;> rfl
    · rintro rfl
      exact ⟨pending, rfl⟩

theorem Sound.ending?_iff (h : s.Sound maxDocument moves) (ending : Ending) :
    s.ending? = some ending ↔ s.next = .error ending := by
  cases hnext : s.next with
  | ok r => cases hdue : s.due <;> simp [ending?, hnext, hdue]
  | error e => simp [ending?, hnext, (h.ended e hnext).1]

end Loop

/-! ## What is heard and read -/

theorem Move.stop?_eq_some_iff {m : Move} {stop : Stop} :
    m.stop? = some stop ↔
      match stop with
      | .endOfStream => m = .read (.ok [])
      | .readError reason => m = .read (.error reason)
      | .shutdown => m = .hear .signal ∨ ∃ missed, m = .hear (.lagged missed) := by
  constructor
  · intro h
    unfold stop? at h
    split at h <;> cases h
    · rfl
    · rfl
    · exact .inl rfl
    · next missed => exact .inr ⟨missed, rfl⟩
  · intro h
    cases stop with
    | endOfStream =>
      subst h
      rfl
    | readError reason =>
      subst h
      rfl
    | shutdown => rcases h with rfl | ⟨missed, rfl⟩ <;> rfl

theorem mem_stops_endOfStream {moves : List Move} :
    Stop.endOfStream ∈ moves.filterMap Move.stop? ↔ .read (.ok []) ∈ moves := by
  simp [List.mem_filterMap, Move.stop?_eq_some_iff]

theorem mem_stops_readError {moves : List Move} {reason : String} :
    Stop.readError reason ∈ moves.filterMap Move.stop? ↔ .read (.error reason) ∈ moves := by
  simp [List.mem_filterMap, Move.stop?_eq_some_iff]

theorem mem_stops_shutdown {moves : List Move} : Stop.shutdown ∈ moves.filterMap Move.stop? ↔
    .hear .signal ∈ moves ∨ ∃ missed, .hear (.lagged missed) ∈ moves := by
  simp only [List.mem_filterMap, Move.stop?_eq_some_iff]
  constructor
  · rintro ⟨m, hm, rfl | ⟨missed, rfl⟩⟩
    · exact .inl hm
    · exact .inr ⟨missed, hm⟩
  · rintro (hm | ⟨missed, hm⟩)
    · exact ⟨_, hm, .inl rfl⟩
    · exact ⟨_, hm, .inr ⟨missed, rfl⟩⟩

/-- The update that a move hands to the handler. -/
def Move.update? (m : Move) : Option Update := m.dispatched?.bind Occurrence.update?

/-- The updates of documents that are not blank and decode. -/
def decoded (documents : List Bytes) : List Update :=
  (documents.filter fun d => !d.all isAsciiBlank).filterMap fun d =>
    (Pad.document.decode d).toOption

theorem filterMap_update?_dispatch (documents : List Bytes) :
    (documents.filterMap dispatch).filterMap Occurrence.update? = decoded documents := by
  rw [decoded, List.filterMap_filterMap, List.filterMap_filter]
  congr 1
  funext d
  unfold dispatch
  by_cases hblank : d.all isAsciiBlank = true
  · simp [hblank]
  · rw [if_neg hblank]
    cases Pad.document.decode d <;> simp [hblank, Occurrence.update?, Except.toOption]

/-- Drops are no updates. -/
theorem filterMap_update?_filter (occurrences : List Occurrence) :
    (occurrences.filter (·.dropped?.isNone)).filterMap Occurrence.update? =
      occurrences.filterMap Occurrence.update? := by
  rw [List.filterMap_filter]
  congr 1
  funext o
  cases o <;> rfl

/-- **Shutdown is clean under every interleaving.** However reads, words from the channel and what
is done to it from outside follow one another, the handler gets the updates of the documents that
the taken reads complete, those over the limit left out, and has them all when the loop ends. The
loop ends as stopped exactly if it heard a signal, or that it missed some, and otherwise only with
a read that gives no bytes or fails. Word that the channel is closed makes it stop listening and
changes nothing else. -/
theorem dispatched_of_reached {maxDocument : Nat} (hmax : 2 ≤ maxDocument) {channel : Channel}
    {listener : Nat} {moves : List Move} {s : Loop}
    (h : Loop.Reached listener (Loop.start maxDocument channel) moves s) :
    let updates :=
      decoded (kept (overgrown maxDocument (taken moves)) (cut (taken moves).flatten).1)
    moves.filterMap Move.update? ++ s.due.filterMap Occurrence.update? = updates ∧
      (s.ending? ≠ none → moves.filterMap Move.update? = updates) ∧
      (s.ending? = some .stopped ↔
        .hear .signal ∈ moves ∨ ∃ missed, .hear (.lagged missed) ∈ moves) ∧
      ((∃ pending, s.ending? = some (.disconnected pending)) ↔ .read (.ok []) ∈ moves) ∧
      (∀ reason, s.ending? = some (.failed reason) ↔ .read (.error reason) ∈ moves) ∧
      (∀ fault, s.ending? ≠ some (.broken fault)) ∧
      (∀ t, Loop.Step listener s (.hear .closed) t →
        ∃ r, s.next = .ok r ∧ t = { s with next := .ok { r with listening := false } }) ∧
      (.hear .closed ∈ moves → ∀ reception t, ¬ Loop.Step listener s (.hear reception) t) := by
  intro updates
  have hsound := Loop.sound_of_reached hmax h
  have hall : moves.filterMap Move.update? ++ s.due.filterMap Occurrence.update? = updates := by
    have hdispatched := congrArg (List.filterMap Occurrence.update?) hsound.dispatched
    rw [filterMap_update?_filter, filterMap_update?_dispatch, List.filterMap_append,
      List.filterMap_filterMap] at hdispatched
    exact hdispatched
  refine ⟨hall, ?_, ?_, ?_, ?_, ?_, ?_, ?_⟩
  · intro hended
    obtain ⟨ending, hending⟩ := Option.ne_none_iff_exists'.mp hended
    obtain ⟨hdue, -⟩ := hsound.ended ending ((hsound.ending?_iff ending).mp hending)
    rwa [hdue, List.filterMap_nil, List.append_nil] at hall
  · rw [hsound.ending?_iff, ← mem_stops_shutdown, ← hsound.next_iff .shutdown]
    simp [Stop.ending]
  · simp only [hsound.ending?_iff]
    rw [← mem_stops_endOfStream, ← hsound.next_iff .endOfStream]
    rfl
  · intro reason
    rw [hsound.ending?_iff, ← mem_stops_readError, ← hsound.next_iff (.readError reason)]
    simp [Stop.ending]
  · intro fault
    rw [Ne, hsound.ending?_iff]
    intro hnext
    obtain ⟨-, stop, pending, -, heq⟩ := hsound.ended _ hnext
    cases stop <;> cases heq
  · intro t hstep
    cases hstep with
    | hear hdue hnext hlistening hreceive hinput =>
      cases hinput
      exact ⟨_, hnext, Loop.after_released hdue hreceive⟩
  · intro hclosed reception t hstep
    cases hstep with
    | hear hdue hnext hlistening hreceive hinput =>
      exact (hsound.going _ hnext).2.2.mp hlistening hclosed

/-- One read brings two documents. Two signals are sent, the first before the second document is
dispatched, and the last handle goes: both documents are dispatched, then the loop stops. -/
theorem dispatched_of_reached_of_lagged :
    let first : Update := { Update.blank with machine := 1 }
    let second : Update := { Update.blank with machine := 2 }
    let bytes := Text.utf8 ("\x7b\"padUpdate\":\x7b\"machine\":1\x7d\x7d\r\n\r\n" ++
      "\x7b\"padUpdate\":\x7b\"machine\":2\x7d\x7d\r\n\r\n")
    let moves : List Move := [.read (.ok bytes), .dispatch (.update first), .outside .trigger,
      .outside .trigger, .outside (.dropHandle 0), .dispatch (.update second), .hear (.lagged 1)]
    ∃ s, 2 ≤ 64 ∧ Loop.Reached 0 (Loop.start 64 Channel.start.subscribe.2) moves s ∧
      s.ending? = some .stopped ∧ moves.filterMap Move.update? = [first, second] := by
  intro first second bytes moves
  have hread : (Receiver.start 64).step (.received bytes) =
      ([.update first, .update second], .ok (Receiver.start 64)) := by decide +kernel
  have hbytes : Input.ofRead (.ok bytes) = .received bytes := by decide +kernel
  let channel := Channel.start.subscribe.2
  let behind := (((channel.act .trigger).2.act .trigger).2.act (.dropHandle 0)).2
  have htook : Loop.Reached 0 (Loop.start 64 channel) [.read (.ok bytes)]
      ⟨channel, [.update first, .update second], .ok (Receiver.start 64)⟩ := by
    have hstep : Loop.Step 0 (Loop.start 64 channel) (.read (.ok bytes)) _ :=
      .read (.ok bytes) rfl rfl
    have h := Loop.Reached.start.step hstep
    rw [hbytes, Loop.after, hread] at h
    exact h
  have hdone : Loop.Reached 0 (Loop.start 64 channel) (moves.take 6)
      ⟨behind, [], .ok (Receiver.start 64)⟩ :=
    ((((htook.step (.dispatch rfl)).step (.outside (by decide) (by decide))).step
      (.outside (by decide) (by decide))).step (.outside (by decide) (by decide))).step
      (.dispatch rfl)
  have hs : Loop.Reached 0 (Loop.start 64 channel) moves _ :=
    hdone.step (.hear rfl rfl rfl rfl rfl)
  obtain ⟨-, hall, hstopped, -⟩ := dispatched_of_reached (by decide : 2 ≤ 64) hs
  have hend := hstopped.mpr (.inr ⟨1, by simp [moves]⟩)
  refine ⟨_, by decide, hs, hend, (hall (by rw [hend]; simp)).trans ?_⟩
  decide +kernel

end PadRelay
