import PadRelay.Json.Record

/-!
# PadRelay.Pad.Event

An event: one cart on the log, playing now or coming next. Every member may be absent.

* `Event.codec`: an event as an object (or a list) of its members.
-/

namespace PadRelay
namespace Pad

open Json (Codec Schema Slots)

/-- One cart on the log. -/
structure Event where
  startDateTime : Option String
  lineNumber : Option Int64
  lineId : Option Int64
  cartNumber : Option UInt32
  cartType : Option String
  cutNumber : Option UInt32
  /-- In milliseconds. -/
  length : Option UInt64
  year : Option UInt32
  groupName : Option String
  title : Option String
  artist : Option String
  publisher : Option String
  composer : Option String
  album : Option String
  label : Option String
  client : Option String
  agency : Option String
  conductor : Option String
  userDefined : Option String
  songId : Option String
  outcue : Option String
  description : Option String
  isrc : Option String
  isci : Option String
  recordingMbId : Option String
  releaseMbId : Option String
  externalEventId : Option String
  externalData : Option String
  externalAnncType : Option String
  deriving DecidableEq, Repr

namespace Event

def blank : Event :=
  ⟨none, none, none, none, none, none, none, none, none, none, none, none, none, none, none,
  none, none, none, none, none, none, none, none, none, none, none, none, none, none⟩

inductive Member where
  | startDateTime
  | lineNumber
  | lineId
  | cartNumber
  | cartType
  | cutNumber
  | length
  | year
  | groupName
  | title
  | artist
  | publisher
  | composer
  | album
  | label
  | client
  | agency
  | conductor
  | userDefined
  | songId
  | outcue
  | description
  | isrc
  | isci
  | recordingMbId
  | releaseMbId
  | externalEventId
  | externalData
  | externalAnncType
  deriving DecidableEq, Repr

namespace Member

/-- The members in declaration order. -/
def all : List Member :=
  [.startDateTime, .lineNumber, .lineId, .cartNumber, .cartType, .cutNumber, .length, .year,
  .groupName, .title, .artist, .publisher, .composer, .album, .label, .client, .agency,
  .conductor, .userDefined, .songId, .outcue, .description, .isrc, .isci, .recordingMbId,
  .releaseMbId, .externalEventId, .externalData, .externalAnncType]

def name : Member → String
  | .startDateTime => "startDateTime"
  | .lineNumber => "lineNumber"
  | .lineId => "lineId"
  | .cartNumber => "cartNumber"
  | .cartType => "cartType"
  | .cutNumber => "cutNumber"
  | .length => "length"
  | .year => "year"
  | .groupName => "groupName"
  | .title => "title"
  | .artist => "artist"
  | .publisher => "publisher"
  | .composer => "composer"
  | .album => "album"
  | .label => "label"
  | .client => "client"
  | .agency => "agency"
  | .conductor => "conductor"
  | .userDefined => "userDefined"
  | .songId => "songId"
  | .outcue => "outcue"
  | .description => "description"
  | .isrc => "isrc"
  | .isci => "isci"
  | .recordingMbId => "recordingMbId"
  | .releaseMbId => "releaseMbId"
  | .externalEventId => "externalEventId"
  | .externalData => "externalData"
  | .externalAnncType => "externalAnncType"

/-- What a member holds when it is present. -/
def Content : Member → Type
  | .lineNumber | .lineId => Int64
  | .cartNumber | .cutNumber | .year => UInt32
  | .length => UInt64
  | .startDateTime | .cartType | .groupName | .title | .artist | .publisher | .composer | .album
  | .label | .client | .agency | .conductor | .userDefined | .songId | .outcue | .description
  | .isrc | .isci | .recordingMbId | .releaseMbId | .externalEventId | .externalData
  | .externalAnncType =>
    String

/-- A member's content; there may be none. -/
abbrev Value (m : Member) : Type := Option m.Content

def codec : (m : Member) → Codec m.Value
  | .lineNumber | .lineId => Codec.optional Codec.signed64
  | .cartNumber | .cutNumber | .year => Codec.optional Codec.word32
  | .length => Codec.optional Codec.word64
  | .startDateTime | .cartType | .groupName | .title | .artist | .publisher | .composer | .album
  | .label | .client | .agency | .conductor | .userDefined | .songId | .outcue | .description
  | .isrc | .isci | .recordingMbId | .releaseMbId | .externalEventId | .externalData
  | .externalAnncType =>
    Codec.optional Codec.text

end Member

def view (e : Event) : (m : Member) → m.Value
  | .startDateTime => e.startDateTime
  | .lineNumber => e.lineNumber
  | .lineId => e.lineId
  | .cartNumber => e.cartNumber
  | .cartType => e.cartType
  | .cutNumber => e.cutNumber
  | .length => e.length
  | .year => e.year
  | .groupName => e.groupName
  | .title => e.title
  | .artist => e.artist
  | .publisher => e.publisher
  | .composer => e.composer
  | .album => e.album
  | .label => e.label
  | .client => e.client
  | .agency => e.agency
  | .conductor => e.conductor
  | .userDefined => e.userDefined
  | .songId => e.songId
  | .outcue => e.outcue
  | .description => e.description
  | .isrc => e.isrc
  | .isci => e.isci
  | .recordingMbId => e.recordingMbId
  | .releaseMbId => e.releaseMbId
  | .externalEventId => e.externalEventId
  | .externalData => e.externalData
  | .externalAnncType => e.externalAnncType

/-- The event with these members; the others are absent. -/
def build (slots : Slots Member.Value) : Event where
  startDateTime := (slots .startDateTime).join
  lineNumber := (slots .lineNumber).join
  lineId := (slots .lineId).join
  cartNumber := (slots .cartNumber).join
  cartType := (slots .cartType).join
  cutNumber := (slots .cutNumber).join
  length := (slots .length).join
  year := (slots .year).join
  groupName := (slots .groupName).join
  title := (slots .title).join
  artist := (slots .artist).join
  publisher := (slots .publisher).join
  composer := (slots .composer).join
  album := (slots .album).join
  label := (slots .label).join
  client := (slots .client).join
  agency := (slots .agency).join
  conductor := (slots .conductor).join
  userDefined := (slots .userDefined).join
  songId := (slots .songId).join
  outcue := (slots .outcue).join
  description := (slots .description).join
  isrc := (slots .isrc).join
  isci := (slots .isci).join
  recordingMbId := (slots .recordingMbId).join
  releaseMbId := (slots .releaseMbId).join
  externalEventId := (slots .externalEventId).join
  externalData := (slots .externalData).join
  externalAnncType := (slots .externalAnncType).join

def schema : Schema Member Member.Value Event where
  kind := "struct PadEvent"
  members := Member.all
  name := Member.name
  codec := Member.codec
  view := view
  build slots := .ok (build slots)

def codec : Codec Event := schema.toCodec

end Event
end Pad
end PadRelay
