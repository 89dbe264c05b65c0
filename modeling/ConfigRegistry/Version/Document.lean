import ConfigRegistry.Version.Json

/-!
Versions as JSON:API documents. A resource shows when the version was queued, started and finished,
and refers to its commit under an identifier that shares its suffix. Only the document that answers
a creation carries an upload address.
-/
namespace ConfigRegistry.Version

open Json

def mediaType : String := "application/vnd.api+json"
def resourceKind : String := "configuration-versions"
def ingressKind : String := "ingress-attributes"
def ingressIdKind : String := "ia"

/-- When each status was last reached. -/
structure StatusTimes where
  queuedAt : Option Time.Instant
  startedAt : Option Time.Instant
  finishedAt : Option Time.Instant
deriving DecidableEq, Repr

namespace StatusTimes

def empty : StatusTimes := ⟨none, none, none⟩

def note (times : StatusTimes) (t : Timestamp) : StatusTimes :=
  match t.status with
  | .pending => { times with queuedAt := some t.moment }
  | .uploaded => { times with startedAt := some t.moment }
  | .errored => { times with finishedAt := some t.moment }

def ofTimestamps (timestamps : List Timestamp) : StatusTimes := timestamps.foldl note empty

def toJson (times : StatusTimes) : Value :=
  .object (Value.member? "queued-at" (times.queuedAt.map Time.Instant.toJson) ++
    Value.member? "started-at" (times.startedAt.map Time.Instant.toJson) ++
    Value.member? "finished-at" (times.finishedAt.map Time.Instant.toJson))

def read : Read StatusTimes := do
  let (queuedAt, startedAt, finishedAt, ()) ← Fields.record "StatusTimestamps" <|
    .cons (.optional "queued-at" Time.Instant.read) <|
    .cons (.optional "started-at" Time.Instant.read) <|
    .cons (.optional "finished-at" Time.Instant.read) .nil
  return ⟨queuedAt, startedAt, finishedAt⟩

end StatusTimes

structure Attributes where
  autoQueueRuns : Bool
  error : Option String
  errorMessage : Option String
  source : Source
  speculative : Bool
  status : Status
  times : StatusTimes
  uploadUrl : Option String
deriving DecidableEq, Repr

namespace Attributes

def toJson (a : Attributes) : Value :=
  .object ([("auto-queue-runs", .bool a.autoQueueRuns),
    ("error", Value.optional .string a.error),
    ("error-message", Value.optional .string a.errorMessage), ("source", a.source.toJson),
    ("speculative", .bool a.speculative), ("status", a.status.toJson),
    ("status-timestamps", a.times.toJson)] ++
    Value.member? "upload-url" (a.uploadUrl.map .string))

def read : Read Attributes := do
  let (autoQueueRuns, error, errorMessage, source, speculative, status, times, uploadUrl, ()) ←
    Fields.record "ConfigurationVersionAttributes" <|
      .cons (.required "auto-queue-runs" Read.boolean) <|
      .cons (.optional "error" Read.text) <|
      .cons (.optional "error-message" Read.text) <|
      .cons (.required "source" Source.read) <|
      .cons (.required "speculative" Read.boolean) <|
      .cons (.required "status" Status.read) <|
      .cons (.required "status-timestamps" StatusTimes.read) <|
      .cons (.optional "upload-url" Read.text) .nil
  return ⟨autoQueueRuns, error, errorMessage, source, speculative, status, times, uploadUrl⟩

end Attributes

/-- The name of a resource: its identifier and its kind. -/
structure Reference where
  id : String
  kind : String
deriving DecidableEq, Repr

namespace Reference

def toJson (r : Reference) : Value := .object [("id", .string r.id), ("type", .string r.kind)]

def read : Read Reference := do
  let (id, kind, ()) ← Fields.record "ResourceIdentifier" <|
    .cons (.required "id" Read.text) <|
    .cons (.required "type" Read.text) .nil
  return ⟨id, kind⟩

def toRelationship (r : Reference) : Value := .object [("data", r.toJson)]

def readRelationship : Read Reference := do
  let (r, ()) ← Fields.record "Relationship" <| .cons (.required "data" read) .nil
  return r

end Reference

structure Resource where
  id : String
  kind : String
  attributes : Attributes
  ingress : Option Reference
deriving DecidableEq, Repr

namespace Resource

def ofVersion (v : Version) (uploadUrl : Option String) : Resource :=
  { id := v.id
    kind := resourceKind
    attributes :=
      { autoQueueRuns := v.autoQueueRuns
        error := none
        errorMessage := none
        source := v.source
        speculative := v.speculative
        status := v.status
        times := .ofTimestamps v.timestamps
        uploadUrl }
    ingress := v.ingress.map fun _ => ⟨ResourceId.convert v.id ingressIdKind, ingressKind⟩ }

def toJson (r : Resource) : Value :=
  .object [("id", .string r.id), ("type", .string r.kind), ("attributes", r.attributes.toJson),
    ("relationships",
      .object (Value.member? "ingress-attributes" (r.ingress.map Reference.toRelationship)))]

def readRelationships : Read (Option Reference) := do
  let (ingress, ()) ← Fields.record "ConfigurationVersionRelationships" <|
    .cons (.optional "ingress-attributes" Reference.readRelationship) .nil
  return ingress

def read : Read Resource := do
  let (id, kind, attributes, ingress, ()) ← Fields.record "ConfigurationVersionResource" <|
    .cons (.required "id" Read.text) <|
    .cons (.required "type" Read.text) <|
    .cons (.required "attributes" Attributes.read) <|
    .cons (.required "relationships" readRelationships) .nil
  return ⟨id, kind, attributes, ingress⟩

end Resource

structure Document where
  data : Resource
deriving DecidableEq, Repr

namespace Document

def ofVersion (v : Version) (uploadUrl : Option String) : Document := ⟨.ofVersion v uploadUrl⟩

def toJson (d : Document) : Value := .object [("data", d.data.toJson)]

def read : Read Document := do
  let (data, ()) ← Fields.record "ConfigurationVersionDocument" <|
    .cons (.required "data" Resource.read) .nil
  return ⟨data⟩

end Document

structure ListDocument where
  data : List Resource
  position : Page.Position
deriving DecidableEq, Repr

namespace ListDocument

def ofPage (p : Page Version) : ListDocument :=
  ⟨p.items.map fun v => .ofVersion v none, p.position⟩

def toJson (d : ListDocument) : Value :=
  .object [("data", .array (d.data.map Resource.toJson)),
    ("meta", .object [("pagination", d.position.toJson)])]

def readMeta : Read Page.Position := do
  let (position, ()) ← Fields.record "ListMeta" <|
    .cons (.required "pagination" Page.Position.read) .nil
  return position

def read : Read ListDocument := do
  let (data, position, ()) ← Fields.record "ConfigurationVersionListDocument" <|
    .cons (.required "data" (Read.list Resource.read)) <|
    .cons (.required "meta" readMeta) .nil
  return ⟨data, position⟩

end ListDocument

/-- What the body of a creation asks for; every part of it may be missing. -/
structure Request where
  autoQueueRuns : Option Bool
  speculative : Option Bool
deriving DecidableEq, Repr

namespace Request

def empty : Request := ⟨none, none⟩

def readAttributes : Read Request := do
  let (autoQueueRuns, speculative, ()) ← Fields.record "CreateConfigurationVersionAttributes" <|
    .cons (.optional "auto-queue-runs" Read.boolean) <|
    .cons (.optional "speculative" Read.boolean) .nil
  return ⟨autoQueueRuns, speculative⟩

/-- The kind that was named, which does not matter, and what was asked for. -/
def readData : Read (Option String × Request) := do
  let (kind, attributes, ()) ← Fields.record "CreateConfigurationVersionData" <|
    .cons (.defaulted "type" Read.text.optional none) <|
    .cons (.defaulted "attributes" readAttributes empty) .nil
  return (kind, attributes)

def readDocument : Read (Option (Option String × Request)) := do
  let (data, ()) ← Fields.record "CreateConfigurationVersionDocument" <|
    .cons (.defaulted "data" readData.optional none) .nil
  return data

def parse (body : List UInt8) : Except Problem Request :=
  if body.all Text.isBlankByte then .ok empty
  else (readDocument.all body).map fun data => (data.map Prod.snd).getD empty

/-- Runs are queued unless the request says otherwise. -/
def options (r : Request) (source : Source) : Options :=
  ⟨r.autoQueueRuns.getD true, r.speculative.getD false, source, none⟩

end Request

end ConfigRegistry.Version
