import PadRelay.Pad.Event

/-!
# PadRelay.Pad.Update

An update: what a log machine says about the events it plays, and the document that carries it.

* `Service`, `Log`: the service and the log that the machine runs.
* `Update`: the update itself.
* `document`: an update under the one member of a document.
-/

namespace PadRelay
namespace Pad

open Json (Codec Schema Slots)

structure Service where
  name : Option String
  description : Option String
  programCode : Option String
  deriving DecidableEq, Repr

namespace Service

inductive Member where
  | name
  | description
  | programCode
  deriving DecidableEq, Repr

def Member.label : Member → String
  | .name => "name"
  | .description => "description"
  | .programCode => "programCode"

def view (s : Service) : Member → Option String
  | .name => s.name
  | .description => s.description
  | .programCode => s.programCode

def schema : Schema Member (fun _ => Option String) Service where
  kind := "struct ServiceInfo"
  members := [.name, .description, .programCode]
  name := Member.label
  codec _ := Codec.optional Codec.text
  view := view
  build slots := .ok ⟨(slots .name).join, (slots .description).join, (slots .programCode).join⟩

end Service

/-- The log that a machine plays. -/
structure Log where
  name : Option String
  deriving DecidableEq, Repr

namespace Log

inductive Member where
  | name
  deriving DecidableEq, Repr

def schema : Schema Member (fun _ => Option String) Log where
  kind := "struct LogInfo"
  members := [.name]
  name _ := "name"
  codec _ := Codec.optional Codec.text
  view l _ := l.name
  build slots := .ok ⟨(slots .name).join⟩

end Log

/-- What a log machine reports. -/
structure Update where
  dateTime : Option String
  hostName : Option String
  shortHostName : Option String
  /-- The log machine: 1 is the main one, 2 and 3 the auxiliary ones, from 101 on virtual ones. -/
  machine : UInt32
  onairFlag : Bool
  mode : Option String
  service : Option Service
  log : Option Log
  /-- The event playing now. -/
  now : Option Event
  /-- The event up next. -/
  next : Option Event
  deriving DecidableEq, Repr

namespace Update

def blank : Update := ⟨none, none, none, 0, false, none, none, none, none, none⟩

inductive Member where
  | dateTime
  | hostName
  | shortHostName
  | machine
  | onairFlag
  | mode
  | service
  | log
  | now
  | next
  deriving DecidableEq, Repr

namespace Member

/-- The members in declaration order. -/
def all : List Member :=
  [.dateTime, .hostName, .shortHostName, .machine, .onairFlag, .mode, .service, .log, .now, .next]

def name : Member → String
  | .dateTime => "dateTime"
  | .hostName => "hostName"
  | .shortHostName => "shortHostName"
  | .machine => "machine"
  | .onairFlag => "onairFlag"
  | .mode => "mode"
  | .service => "service"
  | .log => "log"
  | .now => "now"
  | .next => "next"

def Value : Member → Type
  | .dateTime | .hostName | .shortHostName | .mode => Option String
  | .machine => UInt32
  | .onairFlag => Bool
  | .service => Option Service
  | .log => Option Log
  | .now | .next => Option Event

def codec : (m : Member) → Codec m.Value
  | .dateTime | .hostName | .shortHostName | .mode => Codec.optional Codec.text
  | .machine => Codec.word32
  | .onairFlag => Codec.flag
  | .service => Codec.optional Service.schema.toCodec
  | .log => Codec.optional Log.schema.toCodec
  | .now | .next => Codec.optional Event.codec

end Member

def view (u : Update) : (m : Member) → m.Value
  | .dateTime => u.dateTime
  | .hostName => u.hostName
  | .shortHostName => u.shortHostName
  | .machine => u.machine
  | .onairFlag => u.onairFlag
  | .mode => u.mode
  | .service => u.service
  | .log => u.log
  | .now => u.now
  | .next => u.next

/-- The update with these members. The others are absent, machine zero and not on the air. -/
def build (slots : Slots Member.Value) : Update where
  dateTime := (slots .dateTime).join
  hostName := (slots .hostName).join
  shortHostName := (slots .shortHostName).join
  machine := (slots .machine).getD (0 : UInt32)
  onairFlag := (slots .onairFlag).getD false
  mode := (slots .mode).join
  service := (slots .service).join
  log := (slots .log).join
  now := (slots .now).join
  next := (slots .next).join

def schema : Schema Member Member.Value Update where
  kind := "struct PadData"
  members := Member.all
  name := Member.name
  codec := Member.codec
  view := view
  build slots := .ok (build slots)

/-- The update in one line. -/
def summary (u : Update) : String :=
  "Update \x7b machine: " ++ toString u.machine.toNat ++ ", onair: " ++ toString u.onairFlag ++
    ", now: " ++ toString u.now.isSome ++ ", next: " ++ toString u.next.isSome ++ " \x7d"

end Update

inductive DocumentMember where
  | padUpdate
  deriving DecidableEq, Repr

/-- Documents as records: an update under a name, which must be there. -/
def documentSchema : Schema DocumentMember (fun _ => Update) Update where
  kind := "struct PadMessage"
  members := [.padUpdate]
  name _ := "padUpdate"
  codec _ := Update.schema.toCodec
  view u _ := u
  build slots :=
    match slots .padUpdate with
    | some u => .ok u
    | none => .error .padUpdate

def document : Codec Update := documentSchema.toCodec

end Pad
end PadRelay
