import AwsCredentials.Arn
import AwsCredentials.Cache
import AwsCredentials.CommandLine.Arguments
import AwsCredentials.CommandLine.Completion
import AwsCredentials.CommandLine.Completion.Bash
import AwsCredentials.CommandLine.Completion.Elvish
import AwsCredentials.CommandLine.Completion.Fish
import AwsCredentials.CommandLine.Completion.Place
import AwsCredentials.CommandLine.Completion.PowerShell
import AwsCredentials.CommandLine.Completion.Zsh
import AwsCredentials.CommandLine.Grammar
import AwsCredentials.CommandLine.Help
import AwsCredentials.CommandLine.Job
import AwsCredentials.CommandLine.Program
import AwsCredentials.Config
import AwsCredentials.CredentialChain
import AwsCredentials.Credentials
import AwsCredentials.Environment
import AwsCredentials.Error
import AwsCredentials.Expansion
import AwsCredentials.Files
import AwsCredentials.Http.Address
import AwsCredentials.Http.Endpoint
import AwsCredentials.Http.Exchange
import AwsCredentials.Http.Form
import AwsCredentials.Http.Message
import AwsCredentials.Http.Traffic
import AwsCredentials.Identity
import AwsCredentials.Ini.Cursor
import AwsCredentials.Ini.Document
import AwsCredentials.Ini.Reader
import AwsCredentials.Json.Reader
import AwsCredentials.Json.Value
import AwsCredentials.Log
import AwsCredentials.Log.Filter
import AwsCredentials.Main
import AwsCredentials.Profile
import AwsCredentials.ProfilePlan
import AwsCredentials.Redaction.Header
import AwsCredentials.Redaction.Identifier
import AwsCredentials.Redaction.Secret
import AwsCredentials.Report.Exports
import AwsCredentials.Report.Whoami
import AwsCredentials.Retry
import AwsCredentials.Roles
import AwsCredentials.Service
import AwsCredentials.Session
import AwsCredentials.Settings
import AwsCredentials.SharedFiles
import AwsCredentials.Task
import AwsCredentials.Text.Alphabetic
import AwsCredentials.Text.Alphanumeric
import AwsCredentials.Text.Ascii
import AwsCredentials.Text.Blank
import AwsCredentials.Text.Numeral
import AwsCredentials.Text.Pattern
import AwsCredentials.Text.Printable
import AwsCredentials.Text.Quoted
import AwsCredentials.Text.Ranges
import AwsCredentials.Text.Shown
import AwsCredentials.Text.Word
import AwsCredentials.Time.Duration
import AwsCredentials.Time.Instant
import AwsCredentials.WebToken
import AwsCredentials.Wire.Call
import AwsCredentials.Wire.Client
import AwsCredentials.Wire.Container
import AwsCredentials.Wire.Schema
import AwsCredentials.Xml.Element
import AwsCredentials.Xml.Token
import AwsCredentials.Proofs.Cache.Run
import AwsCredentials.Proofs.Cache.SingleFlight
import AwsCredentials.Proofs.Task.Run
import AwsCredentials.Proofs.Task.Way
import AwsCredentials.Proofs.Chain.Reach
import AwsCredentials.Proofs.Retry.Budget
import AwsCredentials.Proofs.Retry.Backoff
import AwsCredentials.Proofs.Chain.Precedence
import AwsCredentials.Proofs.Redaction.Element
import AwsCredentials.Proofs.Redaction.Field
import AwsCredentials.Proofs.Redaction.Authorization
import AwsCredentials.Proofs.Redaction.Shown
import AwsCredentials.Proofs.Redaction.JsonText
import AwsCredentials.Proofs.Redaction.Member
import AwsCredentials.Proofs.Redaction.Identifier
import AwsCredentials.Proofs.Redaction.Form
import AwsCredentials.Proofs.Redaction.Match
import AwsCredentials.Proofs.Redaction.Headers
import AwsCredentials.Proofs.Cache.Coherence
import AwsCredentials.Proofs.Retry.Calls
import AwsCredentials.Proofs.Error.Early
import AwsCredentials.Proofs.Roles.Turns
import AwsCredentials.Proofs.Roles.SessionLength
import AwsCredentials.Proofs.Chain.Walk
import AwsCredentials.Proofs.Chain.Base
import AwsCredentials.Proofs.Session.Identity
import AwsCredentials.Proofs.Session.Stages
import AwsCredentials.Proofs.Session.Threading
import AwsCredentials.Proofs.Session.Origin
import AwsCredentials.Proofs.Session.Refusal
import AwsCredentials.Proofs.Account.Number
import AwsCredentials.Proofs.Account.Partition
import AwsCredentials.Proofs.Account.Search
import AwsCredentials.Proofs.Settings.Layers
import AwsCredentials.Proofs.Settings.Blanks
import AwsCredentials.Proofs.Secrecy.Environment
import AwsCredentials.Proofs.Secrecy.Profiles
import AwsCredentials.Proofs.Secrecy.Settings
import AwsCredentials.Proofs.Secrecy.Stages
import AwsCredentials.Proofs.Secrecy.Session
import AwsCredentials.Proofs.Secrecy.Flow
import AwsCredentials.Proofs.Text.Quoted
import AwsCredentials.Proofs.Text.Shown
import AwsCredentials.Proofs.Secrecy.Shown
import AwsCredentials.Proofs.SharedFiles.Merge
import AwsCredentials.Proofs.SharedFiles.Load
import AwsCredentials.Proofs.Chain.LongLived
import AwsCredentials.Proofs.Chain.Issued
import AwsCredentials.Proofs.Session.Unfit
import AwsCredentials.Proofs.Chain.Plan
import AwsCredentials.Proofs.Report.Shell
import AwsCredentials.Proofs.Report.Exports
