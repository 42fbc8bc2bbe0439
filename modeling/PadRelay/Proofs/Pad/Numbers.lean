import PadRelay.Payload
import PadRelay.Proofs.Json.Integer
import PadRelay.Proofs.Pad.Absent
import PadRelay.Proofs.Template.Escaping
import PadRelay.Proofs.Template.Grammar

/-!
# PadRelay.Proofs.Pad.Numbers

The whole numbers of an update, from its document to what its templates resolve to.

* `Event.Count`: the members of an event that are whole numbers, and the codes for them.
* `Quantity`: the whole numbers of an update; `Quantity.At`: the text of a document up to one.
* `Quantity.At.carries`: a document carries such a number.
* `resolveFields_of_code`: what a code for a number resolves to.
* `decode_number`: which literals are accepted, what they are read as, and how they come out again.
-/

namespace PadRelay
namespace Pad

open Json
open Json.Codec

/-! ## Numbers of an event -/

namespace Event

inductive Count where
  | lineNumber
  | lineId
  | cartNumber
  | cutNumber
  | length
  | year
  deriving DecidableEq, Repr

namespace Count

def member : Count → Member
  | .lineNumber => .lineNumber
  | .lineId => .lineId
  | .cartNumber => .cartNumber
  | .cutNumber => .cutNumber
  | .length => .length
  | .year => .year

/-- The number that an event has there. -/
def of (e : Event) : Count → Option Int
  | .lineNumber => e.lineNumber.map (·.toInt)
  | .lineId => e.lineId.map (·.toInt)
  | .cartNumber => e.cartNumber.map (·.toNat)
  | .cutNumber => e.cutNumber.map (·.toNat)
  | .length => e.length.map (·.toNat)
  | .year => e.year.map (·.toNat)

def least : Count → Int
  | .lineNumber | .lineId => -9223372036854775808
  | .cartNumber | .cutNumber | .length | .year => 0

def greatest : Count → Int
  | .lineNumber | .lineId => 9223372036854775807
  | .cartNumber | .cutNumber | .year => 4294967295
  | .length => 18446744073709551615

/-- The code of a template that stands for the number. -/
def code? : Count → Option String
  | .lineNumber | .lineId => none
  | .cartNumber => some "n"
  | .cutNumber => some "j"
  | .length => some "h"
  | .year => some "y"

/-- What is read for such a member is the number that the event then has. -/
theorem exists_integral (k : Count) : ∃ value : k.member.Value → Option Int,
    k.member.codec.Integral value k.least k.greatest ∧
      ∀ slots v, slots k.member = some v → of (build slots) k = value v := by
  have hslot : ∀ {m : Member} {f : m.Content → Int} {slots : Slots Member.Value} {v : m.Value},
      slots m = some v → (slots m).join.map f = v.bind fun n => some (f n) := by
    intro m f slots v hv
    rw [hv, Option.join_some, Option.map_eq_bind]
    rfl
  cases k with
  | lineNumber | lineId => exact ⟨_, signed64_integral.optional, fun _ _ => hslot⟩
  | cartNumber | cutNumber | year => exact ⟨_, word32_integral.optional, fun _ _ => hslot⟩
  | length => exact ⟨_, word64_integral.optional, fun _ _ => hslot⟩

theorem exists_field {k : Count} {code : String} (h : k.code? = some code) :
    ∃ field, (code, field) ∈ Template.letterCodes ∧
      ∀ e, field.value e = Field.numberText ((of e k).map Int.toNat) := by
  have hvalue : ∀ {α : Type} (v : Option α) (f : α → Nat), Field.numberText (v.map f) =
      Field.numberText ((v.map fun a => (f a : Int)).map Int.toNat) := by
    intro α v f
    rw [Option.map_map]
    rfl
  cases k with
  | lineNumber | lineId => cases h
  | cartNumber =>
    cases h
    exact ⟨.cartNumber, by decide, fun e => hvalue e.cartNumber UInt32.toNat⟩
  | cutNumber =>
    cases h
    exact ⟨.cutNumber, by decide, fun e => hvalue e.cutNumber UInt32.toNat⟩
  | length =>
    cases h
    exact ⟨.length, by decide, fun e => hvalue e.length UInt64.toNat⟩
  | year =>
    cases h
    exact ⟨.year, by decide, fun e => hvalue e.year UInt32.toNat⟩

/-- Only numbers without sign have a code. -/
theorem least_of_code {k : Count} {code : String} (h : k.code? = some code) : k.least = 0 := by
  cases k with
  | lineNumber | lineId => cases h
  | cartNumber | cutNumber | length | year => rfl

end Count
end Event

/-! ## Numbers of an update -/

/-- The whole numbers of an update: the machine, and those of its two events. -/
inductive Quantity where
  | machine
  | event (slot : Slot) (k : Event.Count)
  deriving DecidableEq, Repr

/-- The place of an event in a document. -/
def Place.ofSlot : Slot → Place
  | .now => .now
  | .next => .next

namespace Quantity

/-- The number that an update has there. -/
def of (u : Update) : Quantity → Option Int
  | .machine => some u.machine.toNat
  | .event slot k => (Template.eventAt u.now u.next slot).bind fun e => Event.Count.of e k

def least : Quantity → Int
  | .machine => 0
  | .event _ k => k.least

def greatest : Quantity → Int
  | .machine => 4294967295
  | .event _ k => k.greatest

/-- The text of a document up to a number. -/
inductive At : Quantity → Bytes → Prop where
  | machine {front front' : Bytes} : Opens .update front →
      Update.schema.Before .machine front' → At .machine (front ++ front')
  | event {slot : Slot} {k : Event.Count} {front front' : Bytes} : Opens (.ofSlot slot) front →
      Event.schema.Before k.member front' → At (.event slot k) (front ++ front')

end Quantity

theorem Opens.event_carries {slot : Slot} {front : Bytes} (h : Opens (.ofSlot slot) front)
    {s r : Bytes} {u : Update} (hread : document.read (front ++ s) = .ok (u, r)) :
    ∃ behind, Carries Opened document.read Event.schema.read front
      (fun u e => Template.eventAt u.now u.next slot = some e) behind := by
  cases slot with
  | now =>
    cases h with
    | now h h' =>
      obtain ⟨behind, hcarries⟩ := h.inner_carries h' (optional_carries Event.codec) hread
      refine ⟨behind, hcarries.imp ?_⟩
      rintro _ e ⟨slots, rfl, hslot⟩
      exact Option.join_eq_some_iff.mpr hslot
  | next =>
    cases h with
    | next h h' =>
      obtain ⟨behind, hcarries⟩ := h.inner_carries h' (optional_carries Event.codec) hread
      refine ⟨behind, hcarries.imp ?_⟩
      rintro _ e ⟨slots, rfl, hslot⟩
      exact Option.join_eq_some_iff.mpr hslot

/-- A document that is decoded carries each of its numbers as an integer of the number's range. -/
theorem Quantity.At.carries {q : Quantity} {front : Bytes} (h : q.At front) {s r : Bytes}
    {u : Update} (hread : document.read (front ++ s) = .ok (u, r)) :
    ∃ (α : Type) (c : Codec α) (value : α → Option Int) (behind : α → Bytes → Result Update),
      c.Integral value q.least q.greatest ∧ c.Definite ∧
        Carries Begins document.read c.read front (fun u a => q.of u = value a) behind := by
  cases h with
  | machine h h' =>
    obtain ⟨behind, hcarries⟩ := h.member_carries h' hread
    refine ⟨_, word32, _, behind, word32_integral, readAccepted_definite, hcarries.imp ?_⟩
    rintro _ a ⟨slots, rfl, hslot⟩
    show some (Int.ofNat (Option.getD (slots .machine) _).toNat) = _
    rw [hslot]
    rfl
  | @event slot k front front' h h' =>
    obtain ⟨value, hintegral, hvalue⟩ := k.exists_integral
    rw [List.append_assoc] at hread
    obtain ⟨_, hcarries⟩ := h.event_carries hread
    obtain ⟨_, _, hevent, -⟩ := hcarries.ok (h'.opened _) hread
    obtain ⟨_, hcarries'⟩ := h'.carries Event.Member.definite Event.schema_named.nodup
      (fun _ _ => ⟨_, rfl⟩) hevent
    refine ⟨_, _, value, _, hintegral, Event.Member.definite _,
      (hcarries.trans hcarries' fun _ => h'.opened _).imp ?_⟩
    rintro u v ⟨e, he, slots, hbuild, hslot⟩
    obtain rfl := Except.ok.inj hbuild
    show (Template.eventAt u.now u.next slot).bind _ = value v
    rw [he]
    exact hvalue slots v hslot

/-! ## Another value in its place -/

/-- Another value may stand in a place that a document carries if it is read there. -/
theorem decode_replace {α : Type} {c : Codec α} {front back v w : Bytes} {u : Update}
    {holds : Update → α → Prop} {behind : α → Bytes → Result Update}
    (hcarries : Carries Begins document.read c.read front holds behind) (hc : c.Definite)
    (hw : skipValue w = .ok []) (hback : Delimited back)
    (h : document.decode (front ++ (w ++ back)) = .ok u) (hv : skipValue v = .ok []) :
    ((∃ u', document.decode (front ++ (v ++ back)) = .ok u') ↔
        ∃ a, c.read (v ++ back) = .ok (a, back)) ∧
      ∀ {u'}, document.decode (front ++ (v ++ back)) = .ok u' →
        ∃ a, c.read (v ++ back) = .ok (a, back) ∧ holds u' a := by
  obtain ⟨rest, hread, hend⟩ := decode_eq_ok_iff.mp h
  obtain ⟨hiff, hholds⟩ :=
    hcarries.replace hc hw hback (fun hv => begins_of_skipValue hv _) hread hv
  have hdecode : ∀ {u'}, document.decode (front ++ (v ++ back)) = .ok u' →
      ∃ a, c.read (v ++ back) = .ok (a, back) ∧ holds u' a := by
    intro u' hu'
    obtain ⟨r, hread', -⟩ := decode_eq_ok_iff.mp hu'
    exact (hholds hread').2
  refine ⟨⟨?_, ?_⟩, hdecode⟩
  · rintro ⟨u', hu'⟩
    obtain ⟨a, ha, -⟩ := hdecode hu'
    exact ⟨a, ha⟩
  · intro ha
    obtain ⟨⟨u', r⟩, hread'⟩ := hiff.mpr ha
    obtain ⟨rfl, -⟩ := hholds hread'
    exact ⟨u', decode_eq_ok_iff.mpr ⟨r, hread', hend⟩⟩

/-! ## Numbers in a template -/

theorem numberText_of_whole {ds : List Char} (h : Whole ds) :
    Field.numberText (some (Nat.ofDigitChars 10 ds 0)) =
      if ds = ['0'] then "" else String.ofList ds := by
  have hwritten := writeNatural_ofDigitChars h
  by_cases hzero : ds = ['0']
  · subst hzero
    rfl
  · rw [if_neg hzero]
    cases hn : Nat.ofDigitChars 10 ds 0 with
    | zero =>
      rw [hn] at hwritten
      exact absurd hwritten.symm hzero
    | succ n =>
      rw [hn] at hwritten
      exact congrArg String.ofList hwritten

/-- A number with its code in a template is its digits, whatever the escape. -/
theorem resolveFields_of_code {u : Update} {slot : Slot} {k : Event.Count} {code : String}
    (hcode : k.code? = some code) {ds : List Char} (hds : Whole ds)
    (hof : (Quantity.event slot k).of u = some (Nat.ofDigitChars 10 ds 0 : Nat)) (escape : Escape) :
    resolveFields u (String.ofList ('%' :: Template.spell slot code)) escape =
      if ds = ['0'] then "" else String.ofList ds := by
  obtain ⟨field, hfield, hvalue⟩ := Event.Count.exists_field hcode
  obtain ⟨e, hevent, he⟩ := Option.bind_eq_some_iff.mp hof
  have hscan : Template.scan ('%' :: Template.spell slot code) = [.wildcard field slot] :=
    Template.scan_of_letter ⟨code, hfield, rfl⟩
  have htext : field.value e = if ds = ['0'] then "" else String.ofList ds := by
    rw [hvalue, he]
    exact numberText_of_whole hds
  have hdigits : ∀ c ∈ (field.value e).toList, c.isDigit = true := by
    rw [htext]
    split
    · nofun
    · rw [String.toList_ofList]
      exact hds.digitRun.2
  rw [resolveFields, Template.resolve, String.toList_ofList, hscan, Template.render,
    List.flatMap_singleton, Template.renderSegment, hevent, String.ofList_toList, ← htext,
    ← String.ofList_toList (s := field.value e), escape.apply_of_digits hdigits]

/-! ## From a document to a template -/

/-- **Numbers come out as they went in.** Where a document that is decoded has a value for a whole
number, any literal of a number may stand that is an integer without fraction and exponent, other
than minus zero, in the range of the number, and no other literal. The update then has exactly this
integer, and the code for it resolves to the literal itself, whatever the escape, or to nothing if
it is zero. -/
theorem decode_number {q : Quantity} {front back w : Bytes} {u : Update} (hfront : q.At front)
    (hw : skipValue w = .ok []) (hback : Delimited back)
    (h : document.decode (front ++ (w ++ back)) = .ok u) {lit : List Char} (hlit : Numeral lit) :
    ((∃ u', document.decode (front ++ (wire lit ++ back)) = .ok u') ↔
        ∃ z, Fits q.least q.greatest lit z) ∧
      ∀ u', document.decode (front ++ (wire lit ++ back)) = .ok u' →
        (∃ z, Plain lit z ∧ q.of u' = some z) ∧
        ∀ slot k code, q = .event slot k → k.code? = some code → ∀ escape,
          resolveFields u' (String.ofList ('%' :: Template.spell slot code)) escape =
            if lit = ['0'] then "" else String.ofList lit := by
  obtain ⟨rest, hread, -⟩ := decode_eq_ok_iff.mp h
  obtain ⟨α, c, value, behind, hintegral, hc, hcarries⟩ := hfront.carries hread
  have hv : skipValue (wire lit) = .ok [] := by
    have hwritten := Written.number (t := []) hlit
    rw [List.append_nil] at hwritten
    exact skipValue_of_written .none hwritten delimited_nil
  obtain ⟨hiff, hholds⟩ := decode_replace hcarries hc hw hback h hv
  have hfits : ∀ {a}, c.read (wire lit ++ back) = .ok (a, back) ↔
      ∃ z, value a = some z ∧ Fits q.least q.greatest lit z := by
    intro a
    rw [hintegral.read_iff hlit hback, eq_self_iff_true, true_and]
  refine ⟨hiff.trans ⟨?_, ?_⟩, ?_⟩
  · rintro ⟨a, ha⟩
    obtain ⟨z, -, hz⟩ := hfits.mp ha
    exact ⟨z, hz⟩
  · rintro ⟨z, hz⟩
    obtain ⟨a, ha⟩ := hintegral.range z hz.2.2.1 hz.2.2.2
    exact ⟨a, hfits.mpr ⟨z, ha, hz⟩⟩
  · intro u' hu'
    obtain ⟨a, ha, hof⟩ := hholds hu'
    obtain ⟨z, hvalue, hz⟩ := hfits.mp ha
    rw [hvalue] at hof
    refine ⟨⟨z, hz.1, hof⟩, ?_⟩
    rintro slot k code rfl hcode escape
    rw [Quantity.least, k.least_of_code hcode] at hz
    obtain ⟨hwhole, rfl⟩ := hz.whole
    exact resolveFields_of_code hcode hwhole hof escape

/-- The greatest length is kept to its last digit. One more is refused. -/
theorem decode_number_of_greatest_length :
    let front := ascii "\x7b\"padUpdate\":\x7b\"next\":\x7b\"length\":"
    let back := ascii "\x7d\x7d\x7d"
    let q := Quantity.event .next .length
    let lit := "18446744073709551615".toList
    let above := "18446744073709551616".toList
    q.At front ∧ skipValue (ascii "null") = .ok [] ∧ Delimited back ∧
      document.decode (front ++ (ascii "null" ++ back)) =
        .ok { Update.blank with next := some Event.blank } ∧
      Numeral lit ∧ Numeral above ∧
      (∃ u, document.decode (front ++ (wire lit ++ back)) = .ok u ∧
        q.of u = some 18446744073709551615 ∧
        ∀ escape, resolveFields u "%H" escape = "18446744073709551615") ∧
      ∀ u, document.decode (front ++ (wire above ++ back)) ≠ .ok u := by
  intro front back q lit above
  have hfront : q.At front := by
    let update : NameText :=
      ⟨[], "padUpdate", ascii "padUpdate\"", [], by simp, by decide +kernel, by simp⟩
    let next : NameText := ⟨[], "next", ascii "next\"", [], by simp, by decide +kernel, by simp⟩
    let length : NameText :=
      ⟨[], "length", ascii "length\"", [], by simp, by decide +kernel, by simp⟩
    have hupdate : Opens .update ([] ++ byte '\x7b' :: update.bytes) :=
      .update (by simp) (Schema.before_name rfl)
    have hnext := Opens.next hupdate (Schema.before_name (n := next) rfl)
    have hsame : front = [] ++ byte '\x7b' :: update.bytes ++ byte '\x7b' :: next.bytes ++
        byte '\x7b' :: length.bytes := by decide +kernel
    rw [hsame]
    exact .event hnext (Schema.before_name rfl)
  have hnull : skipValue (ascii "null") = .ok [] := by decide +kernel
  have hback : Delimited back := by
    intro b hb
    cases hb
    decide
  have hdoc : document.decode (front ++ (ascii "null" ++ back)) =
      .ok { Update.blank with next := some Event.blank } := by decide +kernel
  have hlit : Plain lit 18446744073709551615 :=
    .natural (.inr ⟨⟨by decide, List.all_eq_true.mp rfl⟩, by decide⟩)
  have habove : Plain above 18446744073709551616 :=
    .natural (.inr ⟨⟨by decide, List.all_eq_true.mp rfl⟩, by decide⟩)
  obtain ⟨hiff, hholds⟩ := decode_number hfront hnull hback hdoc hlit.numeral
  obtain ⟨u, hu⟩ := hiff.mpr ⟨_, hlit, by decide, by decide, by decide⟩
  obtain ⟨⟨z, hz, hof⟩, hresolved⟩ := hholds u hu
  obtain rfl := hz.unique hlit
  refine ⟨hfront, hnull, hback, hdoc, hlit.numeral, habove.numeral,
    ⟨u, hu, hof, hresolved .next .length "h" rfl rfl⟩, ?_⟩
  intro v hv
  obtain ⟨z, hz, -, -, hle⟩ := (decode_number hfront hnull hback hdoc habove.numeral).1.mp ⟨v, hv⟩
  obtain rfl := hz.unique habove
  exact absurd hle (by decide)

end Pad
end PadRelay
