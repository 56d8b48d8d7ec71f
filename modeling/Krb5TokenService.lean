import Krb5TokenService.EventLoop.Task
import Krb5TokenService.Python.Base64
import Krb5TokenService.Python.Regex
import Krb5TokenService.RateLimit.Limiter
import Krb5TokenService.RateLimit.History
import Krb5TokenService.RateLimit.Budget
import Krb5TokenService.RateLimit.Serial
import Krb5TokenService.Minting.Classify
import Krb5TokenService.Minting.Ccache
import Krb5TokenService.Minting.Mint
import Krb5TokenService.EventLoop.Keeps
import Krb5TokenService.Minting.Frame
import Krb5TokenService.EventLoop.Outcome
import Krb5TokenService.Minting.Verdict
import Krb5TokenService.Identity.Token
import Krb5TokenService.Python.Datetime
import Krb5TokenService.Service.App
import Krb5TokenService.Service.Plan
import Krb5TokenService.Service.Stretch
import Krb5TokenService.Service.Follows
import Krb5TokenService.Service.Served
import Krb5TokenService.Service.Run
import Krb5TokenService.Service.Audited
import Krb5TokenService.Service.Limited
import Krb5TokenService.Service.BadOutput
import Krb5TokenService.Minting.Zeroed
import Krb5TokenService.Service.Disclosed
import Krb5TokenService.EventLoop.Loop
import Krb5TokenService.Service.Replica
import Krb5TokenService.Service.Interleaved
import Krb5TokenService.Service.Spelling
import Krb5TokenService.EventLoop.SingleFlight
import Krb5TokenService.Identity.Jwks
import Krb5TokenService.Identity.JwksCache
import Krb5TokenService.Identity.JwksSharing
import Krb5TokenService.Identity.JwksLocking
import Krb5TokenService.Identity.JwksRefresh
import Krb5TokenService.Identity.KeySelection
import Krb5TokenService.Service.CredentialModes
import Krb5TokenService.EventLoop.Recorded
import Krb5TokenService.Minting.Logged
import Krb5TokenService.Service.Started
import Krb5TokenService.Service.Unrevealing
import Krb5TokenService.CommandLine.Getopt
import Krb5TokenService.Kerberos.Name
import Krb5TokenService.Minting.Arguments
import Krb5TokenService.Service.Realms
import Krb5TokenService.Service.Chained
import Krb5TokenService.CommandLine.Shell
import Krb5TokenService.Minting.CernGetKeytab
import Krb5TokenService.Minting.Conduct
import Krb5TokenService.Python.Utf8
import Krb5TokenService.Service.Steering
import Krb5TokenService.Python.TextStream
import Krb5TokenService.Service.PasswordRead
import Krb5TokenService.Minting.Lifetime
import Krb5TokenService.Minting.DurationValue
import Krb5TokenService.Service.Durations
import Krb5TokenService.RateLimit.RetryAfter
import Krb5TokenService.Logging.Redact
import Krb5TokenService.Logging.Emission
import Krb5TokenService.EventLoop.Inline
import Krb5TokenService.EventLoop.Split
import Krb5TokenService.Service.Process
import Krb5TokenService.Service.Composed
import Krb5TokenService.Service.ProcessRuns
import Krb5TokenService.EventLoop.Owned
import Krb5TokenService.Minting.Private
import Krb5TokenService.Service.Private
import Krb5TokenService.Service.Desk
import Krb5TokenService.RateLimit.Forgotten
import Krb5TokenService.Service.Alone
import Krb5TokenService.Minting.Harmless
import Krb5TokenService.Service.Attributed
import Krb5TokenService.Service.Candid
import Krb5TokenService.Service.AuditTrail
import Krb5TokenService.EventLoop.Descent
import Krb5TokenService.EventLoop.Numbered
import Krb5TokenService.Service.Progress
import Krb5TokenService.Identity.JwksSpacing
import Krb5TokenService.Service.FetchRate
