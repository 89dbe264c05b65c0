import ConfigRegistry.Server.Basic
import ConfigRegistry.Version.Document

/-!
Requests about versions. Archives arrive only under addresses that the server has signed, and are
handed out only to users.
-/
namespace ConfigRegistry.Server.Versions

open Http

def document (status : Nat) (v : Json.Value) : Response :=
  .typed status Version.mediaType v.render.toUTF8

def call (a : App) (s : State) (o : Occasion) (opening : Service.Opening)
    (present : Service.Answer → Response) : Exchange :=
  let r := Service.run ⟨o.outages, o.now, o.mark⟩ s.world opening
  let s := { s with world := r.world }
  match r.answer with
  | .ok answer => ⟨present answer, s, r.events⟩
  | .error f => (Exchange.failed a s f).after r.events

def uploadPath (id : String) : String := "/configuration-versions/" ++ id ++ "/upload"

def uploadUrl (a : App) (h : Headers) (id : String) (now : Time.Instant) : String :=
  let expiry := Signing.expiryAfter now.seconds a.settings.uploadUrlSeconds
  absoluteUrl h (apiPrefix ++ a.signer.sign (uploadPath id) expiry)

def presentVersion (status : Nat) (url : String → Option String) : Service.Answer → Response
  | .version v => document status (Version.Document.ofVersion v (url v.id)).toJson
  | .page p => document status (Version.ListDocument.ofPage p).toJson
  | .archive data => .typed status archiveType data
  | .deleted => .empty 204

def present : Service.Answer → Response := presentVersion 200 fun _ => none

/-- A request of the command line tool says so. -/
def sourceOf (h : Headers) : Version.Source :=
  if h.text? "x-terraform-integration" = some "cloud" then .cli else .api

def create (a : App) (s : State) (o : Occasion) (by_ : Subject) (workspace : String)
    (h : Headers) (body : ByteArray) : Exchange :=
  match Version.Request.parse body.toList with
  | .error problem =>
    .failed a s (.invalidInput ("Invalid request body: " ++ problem.message))
  | .ok request =>
    call a s o (Service.create by_ o.suffix workspace (request.options (sourceOf h)) o.now)
      (presentVersion 201 fun id => some (uploadUrl a h id o.now))

/-- The numbers that a query asks a page by, each given at most once. -/
structure PageQuery where
  number : Option Nat
  size : Option Nat

def numberKey : String := "page[number]"
def sizeKey : String := "page[size]"

def readNumber (key : String) (present : Option Nat) (value : String) : Except String Nat :=
  if present.isSome then .error ("duplicate field `" ++ key ++ "`")
  else (Text.Decimal.natural Text.Decimal.maxU32 value).mapError fun f => key ++ ": " ++ f.message

def PageQuery.note (q : PageQuery) (pair : String × String) : Except String PageQuery :=
  if pair.1 = numberKey then
    (readNumber numberKey q.number pair.2).map fun n => { q with number := some n }
  else if pair.1 = sizeKey then
    (readNumber sizeKey q.size pair.2).map fun n => { q with size := some n }
  else .ok q

def pageOptions (query : Option String) : Except String Page.Options := do
  let pairs := Coding.Form.decode (Coding.Utf8.encode (query.getD ""))
  let q ← pairs.foldlM PageQuery.note ⟨none, none⟩
  return .clamp (q.number.map UInt32.ofNat) (q.size.map UInt32.ofNat)

def list (a : App) (s : State) (o : Occasion) (by_ : Subject) (workspace : String)
    (query : Option String) : Exchange :=
  match pageOptions query with
  | .error problem => .pure s (.text 400 ("Failed to deserialize query string: " ++ problem)) []
  | .ok options => call a s o (Service.list by_ workspace options) present

/-- Reads an archive of at most the given size; nothing if it is larger. -/
def readArchive (limit : Nat) (b : Body) : Except Failure (Option ByteArray) :=
  match b.read limit with
  | .ok data => .ok (some data)
  | .error .tooLarge => .ok none
  | .error (.broken reason) => .error (.invalidInput ("Failed to read request body: " ++ reason))

def upload (a : App) (s : State) (o : Occasion) (id : String) (h : Headers) (b : Body) : Exchange :=
  let limit := a.settings.maxArchiveSize
  if (h.number? "content-length").any (limit < ·) then .failed a s (Service.tooLarge limit)
  else
    match readArchive limit b with
    | .error f => .failed a s f
    | .ok none => .failed a s (Service.tooLarge limit)
    | .ok (some data) => call a s o (Service.upload limit id data) fun _ => .empty 200

end ConfigRegistry.Server.Versions
