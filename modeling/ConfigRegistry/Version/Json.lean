import ConfigRegistry.Json.Record
import ConfigRegistry.Page
import ConfigRegistry.Time.Rfc3339
import ConfigRegistry.Version.Basic

/-!
The JSON form of a version and its parts, and of the place of a page. Fields are written in the
order in which they are listed and read in any order.
-/
namespace ConfigRegistry

open Json

namespace Time.Instant

def toJson (t : Instant) : Value := .string (Rfc3339.render t)

def read : Read Instant :=
  Read.textBy "an RFC 3339 formatted date and time string" fun s =>
    (Rfc3339.parse s).mapError Rfc3339.Fault.message

end Time.Instant

namespace Version

def Status.toJson (s : Status) : Value := .string s.name

def Status.read : Read Status := Read.variant Status.names

def Source.toJson (s : Source) : Value := .string s.name

def Source.read : Read Source := Read.variant Source.names

namespace Timestamp

def toJson (t : Timestamp) : Value :=
  .object [("status", t.status.toJson), ("timestamp", t.moment.toJson)]

def read : Read Timestamp := do
  let (status, moment, ()) ← Fields.record "StatusTimestamp" <|
    .cons (.required "status" Status.read) <|
    .cons (.required "timestamp" Time.Instant.read) .nil
  return ⟨status, moment⟩

end Timestamp

namespace Ingress

def toJson (i : Ingress) : Value :=
  .object [("commit-sha", .string i.commitSha), ("commit-url", .string i.commitUrl)]

def read : Read Ingress := do
  let (commitSha, commitUrl, ()) ← Fields.record "IngressAttributes" <|
    .cons (.required "commit-sha" Read.text) <|
    .cons (.required "commit-url" Read.text) .nil
  return ⟨commitSha, commitUrl⟩

end Ingress

def toJson (v : Version) : Value :=
  .object [("id", .string v.id), ("workspace_id", .string v.workspace),
    ("status", v.status.toJson),
    ("status_timestamps", .array (v.timestamps.map Timestamp.toJson)),
    ("auto_queue_runs", .bool v.autoQueueRuns), ("speculative", .bool v.speculative),
    ("source", v.source.toJson), ("ingress_attributes", Value.optional Ingress.toJson v.ingress),
    ("created_at", v.createdAt.toJson)]

def read : Read Version := do
  let (id, workspace, status, timestamps, autoQueueRuns, speculative, source, ingress, createdAt,
    ()) ← Fields.record "ConfigurationVersion" <|
      .cons (.required "id" Read.text) <|
      .cons (.required "workspace_id" Read.text) <|
      .cons (.required "status" Status.read) <|
      .cons (.required "status_timestamps" (Read.list Timestamp.read)) <|
      .cons (.required "auto_queue_runs" Read.boolean) <|
      .cons (.required "speculative" Read.boolean) <|
      .cons (.required "source" Source.read) <|
      .cons (.optional "ingress_attributes" Ingress.read) <|
      .cons (.required "created_at" Time.Instant.read) .nil
  return ⟨id, workspace, status, timestamps, autoQueueRuns, speculative, source, ingress, createdAt⟩

end Version

namespace Page.Position

def word (n : UInt32) : Value := .natural n.toNat

def readWord : Read UInt32 := UInt32.ofNat <$> Read.natural "u32" (UInt32.size - 1)

def toJson (p : Position) : Value :=
  .object [("current-page", word p.current), ("prev-page", Value.optional word p.previous),
    ("next-page", Value.optional word p.next), ("total-pages", word p.pages),
    ("total-count", .natural p.items.toNat)]

def read : Read Position := do
  let (current, previous, next, pages, items, ()) ← Fields.record "Pagination" <|
    .cons (.required "current-page" readWord) <|
    .cons (.optional "prev-page" readWord) <|
    .cons (.optional "next-page" readWord) <|
    .cons (.required "total-pages" readWord) <|
    .cons (.required "total-count" (Read.natural "u64" (UInt64.size - 1))) .nil
  return ⟨current, previous, next, pages, UInt64.ofNat items⟩

end Page.Position

end ConfigRegistry
