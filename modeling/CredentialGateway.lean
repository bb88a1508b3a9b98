import CredentialGateway.Bearer
import CredentialGateway.Caller
import CredentialGateway.CommandLine
import CredentialGateway.ContentKey
import CredentialGateway.Digest.Hmac
import CredentialGateway.Digest.Sha2
import CredentialGateway.Dotenv
import CredentialGateway.Ed25519
import CredentialGateway.Ed25519.Curve
import CredentialGateway.Failure
import CredentialGateway.Form
import CredentialGateway.Gateway
import CredentialGateway.Http.Client
import CredentialGateway.Http.Headers
import CredentialGateway.Http.Reply
import CredentialGateway.Http.Request
import CredentialGateway.Http.Uri
import CredentialGateway.Injection
import CredentialGateway.Json.Printer
import CredentialGateway.Json.Record
import CredentialGateway.Json.Value
import CredentialGateway.Json.Written
import CredentialGateway.Main
import CredentialGateway.Number.Binary64
import CredentialGateway.Number.Shortest
import CredentialGateway.Proofs.Http.Headers
import CredentialGateway.Proofs.Injection.Special
import CredentialGateway.Proofs.Json.Leaves
import CredentialGateway.Proofs.Json.Numbers
import CredentialGateway.Proofs.Json.Record
import CredentialGateway.Proofs.Json.RoundTrip
import CredentialGateway.Proofs.Json.Strings
import CredentialGateway.Proofs.Reference.Segments
import CredentialGateway.Proofs.Server.Exchange
import CredentialGateway.Proofs.Server.Gate
import CredentialGateway.Proofs.Server.Headers
import CredentialGateway.Proofs.Server.Revocation
import CredentialGateway.Proofs.Server.Run
import CredentialGateway.Proofs.Substitution.Idempotence
import CredentialGateway.Proofs.Target.Entry
import CredentialGateway.Proofs.Target.Key
import CredentialGateway.Proofs.Text.Base64
import CredentialGateway.Proofs.Text.Cut
import CredentialGateway.Proofs.Text.Utf8
import CredentialGateway.Proofs.Token.Contents
import CredentialGateway.Proofs.Token.Presented
import CredentialGateway.Proofs.Token.Printed
import CredentialGateway.Proofs.Token.Run
import CredentialGateway.Proofs.Token.Verify
import CredentialGateway.Reference
import CredentialGateway.Server.Access
import CredentialGateway.Server.Endpoint
import CredentialGateway.Server.Forward
import CredentialGateway.Server.Handle
import CredentialGateway.Server.Message
import CredentialGateway.Service
import CredentialGateway.Settings
import CredentialGateway.Store
import CredentialGateway.Substitution
import CredentialGateway.Target
import CredentialGateway.Text.Alphanumeric
import CredentialGateway.Text.Alphanumeric.Table
import CredentialGateway.Text.Base64
import CredentialGateway.Text.Blank
import CredentialGateway.Text.Case
import CredentialGateway.Text.Case.Table
import CredentialGateway.Text.Cut
import CredentialGateway.Text.Decimal
import CredentialGateway.Text.Hex
import CredentialGateway.Text.Mark
import CredentialGateway.Text.Normal
import CredentialGateway.Text.Normal.Table
import CredentialGateway.Text.Percent
import CredentialGateway.Text.Printable.Table
import CredentialGateway.Text.Quoted
import CredentialGateway.Text.Runs
import CredentialGateway.Text.Span
import CredentialGateway.Text.Utf8
import CredentialGateway.Token.Authority
import CredentialGateway.Token.Claims
import CredentialGateway.Token.Header
import CredentialGateway.Token.Rejection
import CredentialGateway.Url
import CredentialGateway.Url.Encode
import CredentialGateway.Url.Host
import CredentialGateway.Url.Host.Domain
import CredentialGateway.Url.Host.Domain.Bidi
import CredentialGateway.Url.Host.Domain.Bidi.Table
import CredentialGateway.Url.Host.Domain.Joiner
import CredentialGateway.Url.Host.Domain.Joiner.Table
import CredentialGateway.Url.Host.Domain.Mapping
import CredentialGateway.Url.Host.Domain.Mapping.Table
import CredentialGateway.Url.Host.Domain.Punycode
import CredentialGateway.Url.Host.Ipv4
import CredentialGateway.Url.Host.Ipv6
import CredentialGateway.Url.Path
import CredentialGateway.Proofs.Server.Identity
import CredentialGateway.Proofs.Store.Secrecy
import CredentialGateway.Proofs.Number.Binary64
import CredentialGateway.Proofs.Number.Shortest
import CredentialGateway.Proofs.Json.Doubles
import CredentialGateway.Proofs.Json.Normal
import CredentialGateway.Proofs.Json.Words
import CredentialGateway.Proofs.Json.Paths
import CredentialGateway.Proofs.Server.Body
import CredentialGateway.Proofs.Token.Calls
import CredentialGateway.Proofs.Token.Permanence
import CredentialGateway.Proofs.Token.Atomic
import CredentialGateway.Proofs.Token.Concurrent
import CredentialGateway.Proofs.Server.Counters
import CredentialGateway.Proofs.Text.Normal
import CredentialGateway.Proofs.Url.Domain
import CredentialGateway.Proofs.Url.Origin
import CredentialGateway.Proofs.Target.Origin
import CredentialGateway.Proofs.Server.Reports
import CredentialGateway.Proofs.Target.Precedence
import CredentialGateway.Proofs.Target.NoRoute
import CredentialGateway.Proofs.Target.Path
import CredentialGateway.Proofs.Target.Services
import CredentialGateway.Proofs.Url.Walk
import CredentialGateway.Proofs.Url.Behind
import CredentialGateway.Proofs.Target.Confinement
import CredentialGateway.Proofs.Form.RoundTrip
import CredentialGateway.Proofs.Substitution.Disclosure
import CredentialGateway.Proofs.Store.ContentKey
import CredentialGateway.Proofs.Reference.Context
import CredentialGateway.Proofs.Store.Lookup
import CredentialGateway.Proofs.Substitution.Scan
import CredentialGateway.Proofs.Substitution.Tree
import CredentialGateway.Proofs.Server.Reserved
import CredentialGateway.Proofs.Substitution.Query
import CredentialGateway.Proofs.Substitution.Header
import CredentialGateway.Proofs.Injection.Slots
import CredentialGateway.Proofs.Injection.Choice
import CredentialGateway.Proofs.Token.Signature
import CredentialGateway.Proofs.Token.Presentation
import CredentialGateway.Proofs.Server.KeyExchange
import CredentialGateway.Proofs.Server.Metadata
import CredentialGateway.Proofs.Text.Decimal
import CredentialGateway.Proofs.Settings.Numbers
import CredentialGateway.Proofs.Dotenv.Load
import CredentialGateway.Proofs.Url.Host
import CredentialGateway.Proofs.Server.Hosts
import CredentialGateway.Proofs.Ed25519.Prime
import CredentialGateway.Proofs.Ed25519.Curve
import CredentialGateway.Proofs.Settings.ContentKey
import CredentialGateway.Proofs.Server.Log
import CredentialGateway.Proofs.Target.Params
