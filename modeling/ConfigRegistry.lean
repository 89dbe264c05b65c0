import ConfigRegistry.Main
import ConfigRegistry.Server.Respond
import ConfigRegistry.Proofs.Blob.Tree
import ConfigRegistry.Proofs.Blob.Entries
import ConfigRegistry.Proofs.Blob.Names
import ConfigRegistry.Proofs.Blob.Alterations
import ConfigRegistry.Proofs.Blob.Archives
import ConfigRegistry.Proofs.Blob.Tidiness
import ConfigRegistry.Proofs.Blob.Backends
import ConfigRegistry.Proofs.Service.Moves
import ConfigRegistry.Service.Contention
import ConfigRegistry.Proofs.Service.Locks
import ConfigRegistry.Proofs.Service.Contention
import ConfigRegistry.Proofs.Service.Leftovers
import ConfigRegistry.Proofs.Service.System
import ConfigRegistry.Proofs.Service.Exclusion
import ConfigRegistry.Proofs.Service.Interleaving
import ConfigRegistry.Proofs.Service.Provenance
import ConfigRegistry.Proofs.Service.Effects
import ConfigRegistry.Proofs.Service.Births
import ConfigRegistry.Proofs.Service.Storing
import ConfigRegistry.Proofs.Service.Occupancy
import ConfigRegistry.Proofs.Service.Completion
import ConfigRegistry.Proofs.Service.Rivalry
import ConfigRegistry.Proofs.Service.Orphans
import ConfigRegistry.Proofs.Service.Running
import ConfigRegistry.Proofs.Server.Gates
import ConfigRegistry.Proofs.Server.Authority
import ConfigRegistry.Proofs.Http.Routes
import ConfigRegistry.Proofs.Server.Opacity
import ConfigRegistry.Proofs.Server.Production
import ConfigRegistry.Proofs.Server.Secrecy
import ConfigRegistry.Proofs.Coding.Form
import ConfigRegistry.Proofs.Http.Answers
import ConfigRegistry.Proofs.Login.Redirects
import ConfigRegistry.Proofs.Server.Consent
import ConfigRegistry.Proofs.Service.Keeping
import ConfigRegistry.Proofs.Service.Alone
import ConfigRegistry.Proofs.Coding.Base64
import ConfigRegistry.Proofs.Text.Decimal
import ConfigRegistry.Proofs.Digest.PasswordHash
import ConfigRegistry.Proofs.Json.Members
import ConfigRegistry.Proofs.Version.Documents
import ConfigRegistry.Proofs.Token.Ledger
import ConfigRegistry.Proofs.Token.Grants
import ConfigRegistry.Proofs.Signing
import ConfigRegistry.Proofs.Signing.Acceptance
import ConfigRegistry.Proofs.Http.Bodies
import ConfigRegistry.Proofs.Server.Answers
import ConfigRegistry.Proofs.Server.Sites
import ConfigRegistry.Proofs.Server.Uploads
import ConfigRegistry.Proofs.Server.Discretion
import ConfigRegistry.Proofs.Server.RoundTrip
import ConfigRegistry.Proofs.Server.Changes
import ConfigRegistry.Proofs.Cipher.Gcm
import ConfigRegistry.Proofs.Json.Reading
import ConfigRegistry.Proofs.Json.Strings
import ConfigRegistry.Proofs.Json.Numbers
import ConfigRegistry.Proofs.Json.Records
import ConfigRegistry.Proofs.Json.Objects
import ConfigRegistry.Proofs.Login.Codes
import ConfigRegistry.Proofs.Url.Domains
import ConfigRegistry.Proofs.Url.Fronts
import ConfigRegistry.Proofs.Url.Queries
import ConfigRegistry.Proofs.Login.Exchanges
import ConfigRegistry.Proofs.Server.Bearers
import ConfigRegistry.Proofs.Server.Logins
import ConfigRegistry.Proofs.Server.Redemptions
import ConfigRegistry.Proofs.Store.Lives
import ConfigRegistry.Proofs.Pages
import ConfigRegistry.Proofs.Store.Listings
import ConfigRegistry.Proofs.Server.Doors
import ConfigRegistry.Proofs.Service.Moments
import ConfigRegistry.Proofs.Service.Sources
import ConfigRegistry.Proofs.Service.Downloads
import ConfigRegistry.Proofs.Login.Outcomes
import ConfigRegistry.Proofs.Server.Intake
import ConfigRegistry.Proofs.Url.Visible
import ConfigRegistry.Proofs.Login.Deliveries
import ConfigRegistry.Proofs.Blob.Paths
import ConfigRegistry.Proofs.Blob.Calls
import ConfigRegistry.Proofs.Blob.Confinement
import ConfigRegistry.Proofs.Blob.Atomicity
import ConfigRegistry.Proofs.Version.Timelines
import ConfigRegistry.Proofs.Login.Precedence
import ConfigRegistry.Proofs.Text.Markup
import ConfigRegistry.Proofs.Login.Forms
import ConfigRegistry.Proofs.Service.Answers
import ConfigRegistry.Proofs.Service.Removals
import ConfigRegistry.Proofs.Service.Deletions
import ConfigRegistry.Proofs.Positions
import ConfigRegistry.Proofs.Http.Fields
import ConfigRegistry.Proofs.Uuid
import ConfigRegistry.Proofs.Server.Marks
import ConfigRegistry.Proofs.Server.Versioning
import ConfigRegistry.Proofs.Time.Calendar
import ConfigRegistry.Proofs.Time.Rfc3339
import ConfigRegistry.Proofs.Json.Kinds
import ConfigRegistry.Proofs.Version.RoundTrip
