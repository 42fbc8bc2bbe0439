import Mathlib.Control.Monad.Basic
import PadRelay.Proofs.Json.Located
import PadRelay.Proofs.Pad.Forms

/-!
# PadRelay.Proofs.Pad.Absent

Members of an update, of its service, log and events: left out, and `null`.

* `Update.definite`: updates are read the same whatever stands behind them.
* `Place`, `Opens`: the records in a document, and the text up to one of them.
* `stands_of_decode`: the records of an update that is decoded stand in its document.
* `decode_without`: a document is decoded without any one member of a record in it. With `null` in
  place of the member's value it is decoded the same, but for the machine and the flag.
-/

namespace PadRelay
namespace Pad

open Json
open Json.Codec

/-! ## Reading stops at the end of a value -/

theorem optional_text_definite : (optional text).Definite := optional_definite text_definite

theorem Service.definite : Service.schema.toCodec.Definite :=
  Schema.definite fun _ => optional_text_definite

theorem Log.definite : Log.schema.toCodec.Definite :=
  Schema.definite fun _ => optional_text_definite

theorem Event.Member.definite (m : Event.Member) : m.codec.Definite := by
  cases m with
  | lineNumber | lineId => exact optional_definite readAccepted_definite
  | cartNumber | cutNumber | year => exact optional_definite readAccepted_definite
  | length => exact optional_definite readAccepted_definite
  | startDateTime | cartType | groupName | title | artist | publisher | composer | album | label
  | client | agency | conductor | userDefined | songId | outcue | description | isrc | isci
  | recordingMbId | releaseMbId | externalEventId | externalData | externalAnncType =>
    exact optional_text_definite

theorem Event.definite : Event.codec.Definite := Schema.definite Event.Member.definite

theorem Update.Member.definite (m : Update.Member) : m.codec.Definite := by
  cases m with
  | dateTime | hostName | shortHostName | mode => exact optional_text_definite
  | machine => exact readAccepted_definite
  | onairFlag => exact flag_definite
  | service => exact optional_definite Service.definite
  | log => exact optional_definite Log.definite
  | now | next => exact optional_definite Event.definite

theorem Update.definite : Update.schema.toCodec.Definite := Schema.definite Update.Member.definite

/-! ## What comes of `null` -/

theorem optional_null {α : Type} (c : Codec α) (t : Bytes) :
    (optional c).read (ascii "null" ++ t) = .ok (none, t) := rfl

theorem join_update {ι : Type} [DecidableEq ι] {Content : ι → Type}
    (slots : Slots fun i => Option (Content i)) (i j : ι) :
    (Function.update slots i (some none) j).join = (Function.update slots i none j).join := by
  by_cases h : j = i
  · subst h
    rw [Function.update_self, Function.update_self]
    rfl
  · rw [Function.update_of_ne h, Function.update_of_ne h]

theorem Service.readsNull (m : Service.Member) : Service.schema.ReadsNull m none := by
  refine ⟨none, optional_null text, fun slots => ?_⟩
  simp only [Service.schema, join_update]

theorem Log.readsNull (m : Log.Member) : Log.schema.ReadsNull m none := by
  refine ⟨none, optional_null text, fun slots => ?_⟩
  simp only [Log.schema, join_update]

theorem Event.readsNull (m : Event.Member) : Event.schema.ReadsNull m none := by
  have hread : ∀ t, m.codec.read (ascii "null" ++ t) = .ok (none, t) := by
    cases m <;> exact optional_null _
  refine ⟨none, hread, fun slots => ?_⟩
  show Except.ok (Event.build _) = .ok (Event.build _)
  simp only [Event.build, join_update]

/-- The fault of `null` for a member of an update that holds a value of its own kind. -/
def Update.Member.nullFault : Update.Member → Option DecodeError
  | .machine => some (.wrongKind .null "u32")
  | .onairFlag => some (.wrongKind .null "a boolean")
  | _ => none

theorem Update.readsNull (m : Update.Member) : Update.schema.ReadsNull m m.nullFault := by
  cases m with
  | machine => exact fun t => rfl
  | onairFlag => exact fun t => rfl
  | dateTime | hostName | shortHostName | mode | service | log | now | next =>
    exact ⟨none, optional_null _, fun slots => rfl⟩

/-! ## Records in a document -/

/-- The records of a document whose members may be left out. -/
inductive Place where
  | update
  | service
  | log
  | now
  | next
  deriving DecidableEq, Repr

/-- The text of a document up to the record at a place. -/
inductive Opens : Place → Bytes → Prop where
  | update {blanks front : Bytes} : (∀ b ∈ blanks, isBlank b = true) →
      documentSchema.Before .padUpdate front → Opens .update (blanks ++ front)
  | service {front front' : Bytes} : Opens .update front →
      Update.schema.Before .service front' → Opens .service (front ++ front')
  | log {front front' : Bytes} : Opens .update front →
      Update.schema.Before .log front' → Opens .log (front ++ front')
  | now {front front' : Bytes} : Opens .update front →
      Update.schema.Before .now front' → Opens .now (front ++ front')
  | next {front front' : Bytes} : Opens .update front →
      Update.schema.Before .next front' → Opens .next (front ++ front')

theorem decode_eq_ok_iff {α : Type} {c : Codec α} {doc : Bytes} {a : α} :
    c.decode doc = .ok a ↔ ∃ rest, c.read doc = .ok (a, rest) ∧ (skipBlank rest).isEmpty := by
  constructor
  · intro h
    rw [decode] at h
    split at h
    · cases h
    · next b rest hread =>
      split at h
      · next hend =>
        cases h
        exact ⟨rest, hread, hend⟩
      · cases h
  · rintro ⟨rest, hread, hend⟩
    simp only [decode, hread, hend, if_true]

/-- The record at this place of the document is this one. -/
def Stands {ι τ : Type} [DecidableEq ι] {Value : ι → Type} (p : Place) (sch : Schema ι Value τ)
    (doc : Bytes) (a : τ) : Prop :=
  ∃ front s r, Opens p front ∧ doc = front ++ s ∧ Opened s ∧ sch.read s = .ok (a, r)

theorem stands_update {doc r : Bytes} {u : Update} (h : document.read doc = .ok (u, r)) :
    Stands .update Update.schema doc u := by
  obtain ⟨slots, hbuild, hslots⟩ := Schema.exists_readAt (fun _ => Update.definite)
    documentSchema_named.nodup h
  have hslot : slots .padUpdate = some u := by
    simp only [documentSchema] at hbuild
    split at hbuild
    · next hs => cases hbuild; exact hs
    · cases hbuild
  obtain ⟨front, s, t, hfront, hdoc, hs, hread⟩ := hslots .padUpdate u hslot
  obtain ⟨blanks, hblank, hblanks⟩ := exists_blanks doc
  refine ⟨blanks ++ front, s, t, .update hblanks hfront, ?_, Schema.opened_of_read hs hread, hread⟩
  rw [List.append_assoc, ← hdoc]
  exact hblank

theorem stands_inner {p : Place} {m : Update.Member} {ι τ : Type} [DecidableEq ι]
    {Value : ι → Type} {sch : Schema ι Value τ} {wrap : τ → m.Value}
    (hopens : ∀ {front front'}, Opens .update front → Update.schema.Before m front' →
      Opens p (front ++ front'))
    (hwrap : ∀ {s x r}, skipBlank s = s → m.codec.read s = .ok (wrap x, r) →
      sch.read s = .ok (x, r))
    {doc : Bytes} {u : Update} {x : τ} (hdoc : Stands .update Update.schema doc u)
    (hslot : ∀ slots, Update.build slots = u → slots m = some (wrap x)) : Stands p sch doc x := by
  obtain ⟨front, s, r, hfront, rfl, hs, hread⟩ := hdoc
  obtain ⟨slots, hbuild, hslots⟩ := Schema.exists_readAt Update.Member.definite
    Update.schema_named.nodup hread
  obtain ⟨front', s', t, hfront', htext, hs', hvalue⟩ :=
    hslots m (wrap x) (hslot slots (Except.ok.inj hbuild))
  rw [hs.skipBlank] at htext
  have hrecord := hwrap hs' hvalue
  refine ⟨front ++ front', s', t, hopens hfront hfront', ?_, Schema.opened_of_read hs' hrecord,
    hrecord⟩
  rw [List.append_assoc, htext]

/-- Every record of an update that is decoded stands in its document. -/
theorem stands_of_decode {doc : Bytes} {u : Update} (h : document.decode doc = .ok u) :
    Stands .update Update.schema doc u ∧
      (∀ x, u.service = some x → Stands .service Service.schema doc x) ∧
      (∀ x, u.log = some x → Stands .log Log.schema doc x) ∧
      (∀ x, u.now = some x → Stands .now Event.schema doc x) ∧
      ∀ x, u.next = some x → Stands .next Event.schema doc x := by
  obtain ⟨rest, hread, -⟩ := decode_eq_ok_iff.mp h
  have hdoc := stands_update hread
  refine ⟨hdoc, ?_, ?_, ?_, ?_⟩
  · intro x hx
    refine stands_inner .service read_of_optional hdoc ?_
    rintro slots rfl
    exact Option.join_eq_some_iff.mp hx
  · intro x hx
    refine stands_inner .log read_of_optional hdoc ?_
    rintro slots rfl
    exact Option.join_eq_some_iff.mp hx
  · intro x hx
    refine stands_inner .now read_of_optional hdoc ?_
    rintro slots rfl
    exact Option.join_eq_some_iff.mp hx
  · intro x hx
    refine stands_inner .next read_of_optional hdoc ?_
    rintro slots rfl
    exact Option.join_eq_some_iff.mp hx

def Place.nullFault : Place → String → Option DecodeError
  | .update, name =>
    if name = "machine" then some (.wrongKind .null "u32")
    else if name = "onairFlag" then some (.wrongKind .null "a boolean")
    else none
  | _, _ => none

theorem nullFault_update (name : String) :
    (Update.schema.member? name).bind Update.Member.nullFault = Place.update.nullFault name := by
  rw [Place.nullFault]
  split
  · next h => subst h; rfl
  split
  · next h => subst h; rfl
  · next hmachine hflag =>
    cases hmember : Update.schema.member? name with
    | none => rfl
    | some m =>
      have hname : Update.schema.name m = name := by simpa using List.find?_some hmember
      rw [Option.bind_some]
      cases m with
      | machine => exact absurd hname.symm hmachine
      | onairFlag => exact absurd hname.symm hflag
      | dateTime | hostName | shortHostName | mode | service | log | now | next => rfl

/-! ## Leaving out a member -/

/-- What is read behind this front can do without any one member of the record there. -/
def Spares (p : Place) (front : Bytes) : Prop :=
  ∀ (before after : List MemberText) (m : MemberText) (rest r : Bytes) (u : Update),
    document.read (front ++ (objectText (before ++ m :: after) ++ rest)) = .ok (u, r) →
      ∃ u', document.read (front ++ (objectText (before ++ after) ++ rest)) = .ok (u', r) ∧
        document.read (front ++ (objectText (before ++ m.null :: after) ++ rest)) =
          match p.nullFault m.name with
          | none => .ok (u', r)
          | some e => .error e

theorem Opens.document_carries {front : Bytes} (h : Opens .update front) {s r : Bytes} {u : Update}
    (hread : document.read (front ++ s) = .ok (u, r)) :
    ∃ behind, Carries Begins document.read Update.schema.read front (fun x a => x = a) behind := by
  cases h with
  | @update blanks front hblanks h =>
    have hblank : ∀ s, document.read (blanks ++ front ++ s) = document.read (front ++ s) := by
      intro s
      rw [List.append_assoc]
      exact Schema.read_of_blank hblanks _
    rw [hblank] at hread
    obtain ⟨behind, hcarries⟩ := h.carries (fun _ => Update.definite) documentSchema_named.nodup
      (fun slots hslot => by
        obtain ⟨u, hu⟩ := Option.isSome_iff_exists.mp hslot
        exact ⟨u, by simp only [documentSchema, hu]⟩) hread
    refine ⟨behind, fun hs => (hblank _).trans (hcarries.read hs), fun hx => ?_, hcarries.change⟩
    obtain ⟨slots, hbuild, hslot⟩ := hcarries.holds hx
    simp only [documentSchema, hslot, Except.ok.injEq] at hbuild
    exact hbuild.symm

/-- The value of a member of an update in a document. -/
theorem Opens.member_carries {front front' : Bytes} {m : Update.Member} (h : Opens .update front)
    (h' : Update.schema.Before m front') {s r : Bytes} {u : Update}
    (hread : document.read (front ++ front' ++ s) = .ok (u, r)) :
    ∃ behind, Carries Begins document.read m.codec.read (front ++ front')
      (fun x v => ∃ slots, Update.build slots = x ∧ slots m = some v) behind := by
  rw [List.append_assoc] at hread
  obtain ⟨_, hcarries⟩ := h.document_carries hread
  obtain ⟨_, _, hupdate, -⟩ := hcarries.ok (h'.opened _).begins hread
  obtain ⟨_, hcarries'⟩ := h'.carries Update.Member.definite Update.schema_named.nodup
    (fun _ _ => ⟨_, rfl⟩) hupdate
  refine ⟨_, (hcarries.trans hcarries' fun _ => (h'.opened _).begins).imp ?_⟩
  rintro x v ⟨_, rfl, slots, hbuild, hslot⟩
  exact ⟨slots, Except.ok.inj hbuild, hslot⟩

/-- What is read in place of a member that may be `null`, where a container stands. -/
theorem Opens.inner_carries {front front' : Bytes} {m : Update.Member} {τ : Type} {c : Codec τ}
    {wrap : τ → m.Value} (h : Opens .update front) (h' : Update.schema.Before m front')
    {behind : τ → Bytes → Result m.Value}
    (hinner : Carries Opened m.codec.read c.read [] (fun x a => x = wrap a) behind) {s r : Bytes}
    {u : Update} (hread : document.read (front ++ front' ++ s) = .ok (u, r)) :
    ∃ behind, Carries Opened document.read c.read (front ++ front')
      (fun x a => ∃ slots, Update.build slots = x ∧ slots m = some (wrap a)) behind := by
  obtain ⟨_, hcarries⟩ := h.member_carries h' hread
  have hholds : ∀ {x : Update} {a : τ},
      (∃ v, (∃ slots, Update.build slots = x ∧ slots m = some v) ∧ v = wrap a) →
        ∃ slots, Update.build slots = x ∧ slots m = some (wrap a) := by
    rintro x a ⟨_, hslots, rfl⟩
    exact hslots
  have hcarried := (hcarries.trans hinner fun hs => hs.begins).imp hholds
  rw [List.append_nil] at hcarried
  exact ⟨_, hcarried⟩

theorem update_spares {front : Bytes} (h : Opens .update front) : Spares .update front := by
  intro before after m rest r u hread
  obtain ⟨behind, hcarries⟩ := h.document_carries hread
  obtain ⟨u', hwithout, hwith⟩ := hcarries.without Opened.begins Update.Member.definite
    (fun _ => ⟨_, rfl⟩) Update.readsNull hread
  rw [nullFault_update] at hwith
  exact ⟨u', hwithout, hwith⟩

theorem inner_spares (p : Place) (hp : ∀ name, p.nullFault name = none) (m : Update.Member)
    {ι τ : Type} [DecidableEq ι] {Value : ι → Type} (sch : Schema ι Value τ) {wrap : τ → m.Value}
    {behind : τ → Bytes → Result m.Value}
    (hinner : Carries Opened m.codec.read sch.read [] (fun x a => x = wrap a) behind)
    (hcodec : ∀ i, (sch.codec i).Definite) (hbuild : ∀ slots, ∃ a, sch.build slots = .ok a)
    (hnull : ∀ i, sch.ReadsNull i none) {front front' : Bytes}
    (h : Opens .update front) (h' : Update.schema.Before m front') :
    Spares p (front ++ front') := by
  intro before after k rest r u hread
  obtain ⟨_, hcarries⟩ := h.inner_carries (c := sch.toCodec) h' hinner hread
  obtain ⟨u', hwithout, hwith⟩ := hcarries.without id hcodec hbuild hnull hread
  rw [Option.bind_fun_none] at hwith
  rw [hp]
  exact ⟨u', hwithout, hwith⟩

theorem Opens.spares {p : Place} {front : Bytes} (h : Opens p front) : Spares p front := by
  cases h with
  | update hblanks h => exact update_spares (.update hblanks h)
  | service h h' =>
    exact inner_spares .service (fun _ => rfl) .service Service.schema (optional_carries _)
      (fun _ => optional_text_definite) (fun _ => ⟨_, rfl⟩) Service.readsNull h h'
  | log h h' =>
    exact inner_spares .log (fun _ => rfl) .log Log.schema (optional_carries _)
      (fun _ => optional_text_definite) (fun _ => ⟨_, rfl⟩) Log.readsNull h h'
  | now h h' =>
    exact inner_spares .now (fun _ => rfl) .now Event.schema (optional_carries _)
      Event.Member.definite (fun _ => ⟨_, rfl⟩) Event.readsNull h h'
  | next h h' =>
    exact inner_spares .next (fun _ => rfl) .next Event.schema (optional_carries _)
      Event.Member.definite (fun _ => ⟨_, rfl⟩) Event.readsNull h h'

/-- **`null` and absence.** A document that is decoded is decoded without any one member of its
update, or of the service, the log or an event in there. With `null` in place of the member's value
it is decoded as the same update, unless the member is the machine or the flag of the update, for
which `null` is a value of the wrong kind. -/
theorem decode_without {p : Place} {front : Bytes} (hfront : Opens p front)
    (before after : List MemberText) (m : MemberText) {back : Bytes} {u : Update}
    (h : document.decode (front ++ (objectText (before ++ m :: after) ++ back)) = .ok u) :
    ∃ u', document.decode (front ++ (objectText (before ++ after) ++ back)) = .ok u' ∧
      document.decode (front ++ (objectText (before ++ m.null :: after) ++ back)) =
        match p.nullFault m.name with
        | none => .ok u'
        | some e => .error e := by
  obtain ⟨rest, hread, hend⟩ := decode_eq_ok_iff.mp h
  obtain ⟨u', hwithout, hwith⟩ := hfront.spares before after m back rest u hread
  refine ⟨u', decode_eq_ok_iff.mpr ⟨rest, hwithout, hend⟩, ?_⟩
  cases hfault : p.nullFault m.name with
  | none =>
    rw [hfault] at hwith
    exact decode_eq_ok_iff.mpr ⟨rest, hwith, hend⟩
  | some e =>
    rw [hfault] at hwith
    rw [decode, hwith]

/-- A title that is `null` reads as no title, a machine that is `null` as nothing. -/
theorem decode_without_of_title_and_machine :
    let update : NameText :=
      ⟨[], "padUpdate", ascii "padUpdate\"", [], nofun, by decide +kernel, nofun⟩
    let machine : MemberText :=
      ⟨⟨[], "machine", ascii "machine\"", [], nofun, by decide +kernel, nofun⟩,
        ⟨ascii "2", ascii " ", by decide +kernel, List.all_eq_true.mp rfl⟩⟩
    let now : NameText := ⟨[], "now", ascii "now\"", [], nofun, by decide +kernel, nofun⟩
    let title : MemberText :=
      ⟨⟨ascii " ", "title", ascii "ti\\u0074le\"", [],
          List.all_eq_true.mp rfl, by decide +kernel, nofun⟩,
        ⟨ascii "\"T\"", [], by decide +kernel, nofun⟩⟩
    let event : MemberText := ⟨now, ⟨objectText [title], [], by decide +kernel, nofun⟩⟩
    let front := ascii " " ++ byte '\x7b' :: (update.bytes ++ ascii " ")
    let front' := byte '\x7b' :: (machine.bytes ++ byte ',' :: now.bytes)
    let doc := front ++ (objectText [machine, event] ++ ascii "\x7d")
    doc = ascii
        " \x7b\"padUpdate\": \x7b\"machine\":2 ,\"now\":\x7b \"ti\\u0074le\":\"T\"\x7d\x7d\x7d" ∧
      document.decode doc = .ok { Update.blank with
        machine := 2, now := some { Event.blank with title := some "T" } } ∧
      Opens .update front ∧ Opens .now (front ++ front') ∧
      document.decode (front ++ front' ++ (objectText [title.null] ++ ascii "\x7d\x7d")) =
        .ok { Update.blank with machine := 2, now := some Event.blank } ∧
      document.decode (front ++ (objectText [machine.null, event] ++ ascii "\x7d")) =
        .error (.wrongKind .null "u32") := by
  intro update machine now title event front front' doc
  have hdoc : document.decode doc = .ok { Update.blank with
      machine := 2, now := some { Event.blank with title := some "T" } } := by decide +kernel
  have hfront : Opens .update front := by
    have hbefore : documentSchema.Before .padUpdate (byte '\x7b' ::
        ([].flatMap (fun m : MemberText => m.bytes ++ [byte ',']) ++
          (update.bytes ++ ascii " "))) := .object rfl (List.all_eq_true.mp rfl)
    exact .update (List.all_eq_true.mp rfl) hbefore
  have hfront' : Opens .now (front ++ front') := by
    refine .now hfront ?_
    have hbefore : front' = byte '\x7b' :: ([machine].flatMap (fun m => m.bytes ++ [byte ',']) ++
        (now.bytes ++ [])) := rfl
    rw [hbefore]
    exact .object rfl nofun
  have hsame : doc = front ++ front' ++ (objectText [title] ++ ascii "\x7d\x7d") := by
    decide +kernel
  rw [hsame] at hdoc
  obtain ⟨u, hwithout, hwith⟩ := decode_without hfront' [] [] title hdoc
  rw [← hsame] at hdoc
  obtain ⟨_, _, hrefused⟩ := decode_without hfront [] [event] machine hdoc
  have hu : document.decode (front ++ front' ++ (objectText [] ++ ascii "\x7d\x7d")) =
      .ok { Update.blank with machine := 2, now := some Event.blank } := by decide +kernel
  rw [List.append_nil, hu] at hwithout
  cases hwithout
  exact ⟨by decide +kernel, hdoc, hfront, hfront', hwith, hrefused⟩

end Pad
end PadRelay
