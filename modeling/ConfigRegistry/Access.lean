import ConfigRegistry.Failure

/-!
Who may do what with versions. Site administrators may do everything, members everything but
delete, viewers only look at records.
-/
namespace ConfigRegistry

inductive Role where
  | admin
  | member
  | viewer
deriving DecidableEq, Repr

namespace Role

def name : Role → String
  | .admin => "admin"
  | .member => "member"
  | .viewer => "viewer"

def names : List (String × Role) := [Role.admin, .member, .viewer].map fun r => (r.name, r)

end Role

inductive Action where
  | create
  | list
  | get
  | download
  | delete
deriving DecidableEq, Repr

namespace Action

def name : Action → String
  | .create => "create_configuration_version"
  | .list => "list_configuration_versions"
  | .get => "get_configuration_version"
  | .download => "download_configuration_version"
  | .delete => "delete_configuration_version"

end Action

def Role.allows : Role → Action → Bool
  | .admin, _ => true
  | .member, action => action != .delete
  | .viewer, action => action == .list || action == .get

/-- An authenticated caller. -/
structure Subject where
  username : String
  role : Role
deriving DecidableEq, Repr

namespace Subject

def ofUsername (username : String) (siteAdmins : List String) : Subject :=
  ⟨username, if username ∈ siteAdmins then .admin else .member⟩

def denied : Failure := .forbidden "access denied"

def denialEvent : Log.Event := ⟨.warn, "Access denied"⟩

def authorize (s : Subject) (action : Action) : Except Failure Unit :=
  if s.role.allows action then .ok () else .error denied

def missing : Failure := .unauthorized "Missing authenticated subject"

end Subject

end ConfigRegistry
