import ConfigRegistry.Http.Route
import ConfigRegistry.Login.Parameters
import ConfigRegistry.Text.Html

/-!
The page on which a user consents to a login. It posts back the request it was shown for; nothing
in the request or in the name of the user becomes markup.
-/
namespace ConfigRegistry.Login.Consent

open Text.Html

def head : String :=
  "<!DOCTYPE html>
<html lang=\"en\">
<head>
  <meta charset=\"utf-8\">
  <title>Authorize Terraform</title>
  <style>
    body \x7b font-family: sans-serif; max-width: 32rem; margin: 4rem auto; \x7d
    .actions \x7b display: flex; gap: 1rem; margin-top: 2rem; \x7d
    button \x7b padding: 0.5rem 1.5rem; \x7d
  </style>
</head>
<body>
  <h1>Authorize Terraform CLI</h1>
  "

def explanation : String :=
  "
  <p>
    Terraform is requesting an API token. The token will be stored on this
    machine and can act on your behalf.
  </p>
  <form method=\"post\" action=\""

def foot : String :=
  "    <div class=\"actions\">
      <button type=\"submit\" name=\"consented\" value=\"true\">Approve</button>
      <button type=\"submit\" name=\"consented\" value=\"false\">Deny</button>
    </div>
  </form>
</body>
</html>"

def signedIn : Option String → List Piece
  | some username =>
    [.markup "\n  <p>Signed in as <strong>", .text username, .markup "</strong>.</p>\n  "]
  | none => []

def hiddenFields (fields : Parameters) : List Piece :=
  fields.flatMap fun (name, value) => hiddenField name value

def pieces (username : Option String) (r : AuthorizationRequest) : List Piece :=
  .markup head :: signedIn username ++
    [.markup explanation, .text Http.authorizationPath, .markup "\">\n"] ++
    hiddenFields r.fields ++ [.markup foot]

def page (username : Option String) (r : AuthorizationRequest) : String :=
  render (pieces username r)

end ConfigRegistry.Login.Consent
