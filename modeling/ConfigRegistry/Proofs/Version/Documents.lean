import ConfigRegistry.Proofs.Json.Members
import ConfigRegistry.Version.Document

/-!
Which documents carry an address for an upload: the one that was made with an address, and no other.
-/
namespace ConfigRegistry.Version

open Json

def uploadUrlName : String := "upload-url"

def Document.uploadUrl? (document : Value) : Option Value :=
  ((document.get? "data").bind (·.get? "attributes")).bind (·.get? uploadUrlName)

def Document.status? (document : Value) : Option Value :=
  ((document.get? "data").bind (·.get? "attributes")).bind (·.get? "status")

theorem status?_ofVersion (v : Version) (url : Option String) :
    Document.status? (Document.ofVersion v url).toJson = some (.string v.status.name) := rfl

/-- A document that is made with an address carries it. -/
theorem uploadUrl?_ofVersion (v : Version) (url : String) :
    Document.uploadUrl? (Document.ofVersion v (some url)).toJson = some (.string url) := rfl

@[simp] theorem not_mentions_instant (t : Time.Instant) : ¬ t.toJson.Mentions uploadUrlName :=
  Value.not_mentions_string _

@[simp] theorem not_mentions_source (s : Source) : ¬ s.toJson.Mentions uploadUrlName :=
  Value.not_mentions_string _

@[simp] theorem not_mentions_status (s : Status) : ¬ s.toJson.Mentions uploadUrlName :=
  Value.not_mentions_string _

@[simp] theorem not_mentions_times (times : StatusTimes) :
    ¬ times.toJson.Mentions uploadUrlName := by
  have hnames : "queued-at" ≠ uploadUrlName ∧ "started-at" ≠ uploadUrlName ∧
      "finished-at" ≠ uploadUrlName := by decide
  simp [StatusTimes.toJson, hnames]

theorem not_mentions_attributes {attributes : Attributes} (h : attributes.uploadUrl = none) :
    ¬ attributes.toJson.Mentions uploadUrlName := by
  have hnames : "auto-queue-runs" ≠ uploadUrlName ∧ "error" ≠ uploadUrlName ∧
      "error-message" ≠ uploadUrlName ∧ "source" ≠ uploadUrlName ∧
      "speculative" ≠ uploadUrlName ∧ "status" ≠ uploadUrlName ∧
      "status-timestamps" ≠ uploadUrlName := by decide
  simp [Attributes.toJson, h, hnames]

@[simp] theorem not_mentions_relationship (r : Reference) :
    ¬ r.toRelationship.Mentions uploadUrlName := by
  have hnames : "data" ≠ uploadUrlName ∧ "id" ≠ uploadUrlName ∧ "type" ≠ uploadUrlName := by decide
  simp [Reference.toRelationship, Reference.toJson, hnames]

/-- A resource without an address has no member of that name at any depth. -/
theorem not_mentions_resource (v : Version) :
    ¬ (Resource.ofVersion v none).toJson.Mentions uploadUrlName := by
  have hattributes : ¬ (Resource.ofVersion v none).attributes.toJson.Mentions uploadUrlName :=
    not_mentions_attributes rfl
  have hnames : "id" ≠ uploadUrlName ∧ "type" ≠ uploadUrlName ∧ "attributes" ≠ uploadUrlName ∧
      "relationships" ≠ uploadUrlName ∧ "ingress-attributes" ≠ uploadUrlName := by decide
  simp [Resource.toJson, hattributes, hnames]

theorem not_mentions_ofVersion (v : Version) :
    ¬ (Document.ofVersion v none).toJson.Mentions uploadUrlName := by
  have hname : "data" ≠ uploadUrlName := by decide
  simp [Document.toJson, Document.ofVersion, hname, not_mentions_resource]

theorem not_mentions_position (p : Page.Position) : ¬ p.toJson.Mentions uploadUrlName := by
  have hnames : "current-page" ≠ uploadUrlName ∧ "prev-page" ≠ uploadUrlName ∧
      "next-page" ≠ uploadUrlName ∧ "total-pages" ≠ uploadUrlName ∧
      "total-count" ≠ uploadUrlName := by decide
  simp [Page.Position.toJson, Page.Position.word, Value.natural, hnames]

theorem not_mentions_ofPage (p : Page Version) :
    ¬ (ListDocument.ofPage p).toJson.Mentions uploadUrlName := by
  have hnames : "data" ≠ uploadUrlName ∧ "meta" ≠ uploadUrlName ∧
      "pagination" ≠ uploadUrlName := by decide
  simp [ListDocument.toJson, ListDocument.ofPage, hnames, not_mentions_position,
    not_mentions_resource]

end ConfigRegistry.Version
