import PadRelay.Pad.Update
import PadRelay.Proofs.Json.Record

/-!
# PadRelay.Proofs.Pad.Forms

The objects that say an update.

* `Service.form`, `Log.form`, `Event.form`, `Update.form`: members stand in any order among others,
  an absent one is left out or `null`; machine zero and a flag that is not set may be left out.
* `documentForm`: the objects that carry an update.
* `document_faithful`: every text of such an object is read as the update it carries, and what is
  written for an update is such a text, without control characters.
-/

namespace PadRelay
namespace Pad

open Json
open Json.Codec

/-! ## Forms -/

def Service.form : Form Service :=
  Service.schema.form (fun _ => Form.optional Form.text) fun _ v => v = none

def Log.form : Form Log :=
  Log.schema.form (fun _ => Form.optional Form.text) fun _ v => v = none

def Event.Member.form : (m : Event.Member) → Form m.Value
  | .lineNumber | .lineId => Form.optional Form.signed64
  | .cartNumber | .cutNumber | .year => Form.optional Form.word32
  | .length => Form.optional Form.word64
  | .startDateTime | .cartType | .groupName | .title | .artist | .publisher | .composer | .album
  | .label | .client | .agency | .conductor | .userDefined | .songId | .outcue | .description
  | .isrc | .isci | .recordingMbId | .releaseMbId | .externalEventId | .externalData
  | .externalAnncType =>
    Form.optional Form.text

def Event.form : Form Event := Event.schema.form Event.Member.form fun _ v => v = none

def Update.Member.form : (m : Update.Member) → Form m.Value
  | .dateTime | .hostName | .shortHostName | .mode => Form.optional Form.text
  | .machine => Form.word32
  | .onairFlag => Form.flag
  | .service => Form.optional Service.form
  | .log => Form.optional Log.form
  | .now | .next => Form.optional Event.form

/-- The value of a member that may be left out. -/
def Update.Member.Absent : (m : Update.Member) → m.Value → Prop
  | .dateTime, v | .hostName, v | .shortHostName, v | .mode, v => v = (none : Option String)
  | .machine, n => n = (0 : UInt32)
  | .onairFlag, b => b = false
  | .service, v => v = (none : Option Service)
  | .log, v => v = (none : Option Log)
  | .now, v | .next, v => v = (none : Option Event)

def Update.form : Form Update := Update.schema.form Update.Member.form Update.Member.Absent

/-- The objects that carry an update, which cannot be left out. -/
def documentForm : Form Update := documentSchema.form (fun _ => Update.form) fun _ _ => False

/-! ## Names -/

theorem Service.schema_named : Service.schema.Named where
  nodup := by decide
  member? := by
    intro m
    cases m <;> rfl

theorem Log.schema_named : Log.schema.Named where
  nodup := by decide
  member? := fun _ => rfl

theorem Event.schema_named : Event.schema.Named where
  nodup := by decide
  member? := by
    intro m
    cases m <;> rfl

theorem Update.schema_named : Update.schema.Named where
  nodup := by decide
  member? := by
    intro m
    cases m <;> rfl

theorem documentSchema_named : documentSchema.Named where
  nodup := by decide
  member? := fun _ => rfl

/-! ## Records from some of their members -/

theorem join_eq {α : Type} {slot : Option (Option α)} {v : Option α}
    (h : slot = some v ∨ slot = none ∧ v = none) : slot.join = v := by
  rcases h with rfl | ⟨rfl, rfl⟩
  · rfl
  · rfl

theorem Service.schema_completes : Service.schema.Completes fun _ v => v = none := by
  intro s slots h
  show Except.ok (⟨(slots .name).join, (slots .description).join, (slots .programCode).join⟩ :
    Service) = .ok s
  rw [join_eq (h .name), join_eq (h .description), join_eq (h .programCode)]
  rfl

theorem Log.schema_completes : Log.schema.Completes fun _ v => v = none := by
  intro l slots h
  show Except.ok (⟨(slots .name).join⟩ : Log) = .ok l
  rw [join_eq (h .name)]
  rfl

theorem Event.schema_completes : Event.schema.Completes fun _ v => v = none := by
  intro e slots h
  have hjoin : ∀ m, (slots m).join = e.view m := fun m => join_eq (h m)
  show Except.ok (Event.build slots) = .ok e
  simp only [Event.build, hjoin]
  rfl

theorem Update.schema_completes : Update.schema.Completes Update.Member.Absent := by
  intro u slots h
  have hmachine : (slots .machine).getD (0 : UInt32) = u.machine := by
    rcases h .machine with hs | ⟨hs, hzero⟩
    · rw [hs]; rfl
    · rw [hs]; exact hzero.symm
  have hflag : (slots .onairFlag).getD false = u.onairFlag := by
    rcases h .onairFlag with hs | ⟨hs, hfalse⟩
    · rw [hs]; rfl
    · rw [hs]; exact hfalse.symm
  show Except.ok (Update.build slots) = .ok u
  rw [Update.build, hmachine, hflag, join_eq (h .dateTime), join_eq (h .hostName),
    join_eq (h .shortHostName), join_eq (h .mode), join_eq (h .service), join_eq (h .log),
    join_eq (h .now), join_eq (h .next)]
  rfl

theorem documentSchema_completes : documentSchema.Completes fun _ _ => False := by
  intro u slots h
  rcases h .padUpdate with hs | ⟨-, hfalse⟩
  · show documentSchema.build slots = _
    simp only [documentSchema, hs]
  · exact hfalse.elim

/-! ## Codecs -/

theorem optional_text_faithful : (optional text).Faithful (Form.optional Form.text) :=
  optional_faithful text_faithful (by rintro a ⟨⟩)

theorem Service.faithful : Service.schema.toCodec.Faithful Service.form :=
  Schema.toCodec_faithful Service.schema_named (fun _ => optional_text_faithful)
    Service.schema_completes

theorem Log.faithful : Log.schema.toCodec.Faithful Log.form :=
  Schema.toCodec_faithful Log.schema_named (fun _ => optional_text_faithful) Log.schema_completes

theorem Event.Member.faithful (m : Event.Member) : m.codec.Faithful m.form := by
  cases m with
  | lineNumber | lineId => exact optional_faithful signed64_faithful (by rintro a ⟨⟩)
  | cartNumber | cutNumber | year => exact optional_faithful word32_faithful (by rintro a ⟨⟩)
  | length => exact optional_faithful word64_faithful (by rintro a ⟨⟩)
  | startDateTime | cartType | groupName | title | artist | publisher | composer | album | label
  | client | agency | conductor | userDefined | songId | outcue | description | isrc | isci
  | recordingMbId | releaseMbId | externalEventId | externalData | externalAnncType =>
    exact optional_text_faithful

theorem Event.faithful : Event.codec.Faithful Event.form :=
  Schema.toCodec_faithful Event.schema_named Event.Member.faithful Event.schema_completes

theorem Update.Member.faithful (m : Update.Member) : m.codec.Faithful m.form := by
  cases m with
  | dateTime | hostName | shortHostName | mode => exact optional_text_faithful
  | machine => exact word32_faithful
  | onairFlag => exact flag_faithful
  | service => exact optional_faithful Service.faithful Schema.not_form_null
  | log => exact optional_faithful Log.faithful Schema.not_form_null
  | now | next => exact optional_faithful Event.faithful Schema.not_form_null

theorem Update.faithful : Update.schema.toCodec.Faithful Update.form :=
  Schema.toCodec_faithful Update.schema_named Update.Member.faithful Update.schema_completes

theorem document_faithful : document.Faithful documentForm :=
  Schema.toCodec_faithful documentSchema_named (fun _ => Update.faithful) documentSchema_completes

end Pad
end PadRelay
