import SecretStore.Bytes
import SecretStore.CommandLine.Form
import SecretStore.CommandLine.Invocation
import SecretStore.CommandLine.Run
import SecretStore.Crypto.Aes
import SecretStore.Crypto.Hmac
import SecretStore.Crypto.Sha256
import SecretStore.Crypto.Token
import SecretStore.Files.Path
import SecretStore.Files.Tree
import SecretStore.Files.Version
import SecretStore.Item
import SecretStore.Json
import SecretStore.Json.Encoding
import SecretStore.Json.Reader
import SecretStore.Json.Writer
import SecretStore.Keyring.Basic
import SecretStore.Keyring.Error
import SecretStore.Keyring.Open
import SecretStore.Keyring.Script
import SecretStore.Keyring.Sealed
import SecretStore.Number.Binary64
import SecretStore.Number.Bounds
import SecretStore.Number.Decimal
import SecretStore.Number.Shortest
import SecretStore.Policy.Access
import SecretStore.Policy.Constraint
import SecretStore.Policy.Flags
import SecretStore.Policy.Strategy
import SecretStore.Record
import SecretStore.Record.Codec
import SecretStore.Settings.Basic
import SecretStore.Settings.Load
import SecretStore.Settings.Merge
import SecretStore.Settings.Overrides
import SecretStore.Stack
import SecretStore.Store.Document
import SecretStore.Store.Sealed
import SecretStore.Store.World
import SecretStore.Table
import SecretStore.Text
import SecretStore.Text.Base64
import SecretStore.Text.Blank
import SecretStore.Text.CodeRange
import SecretStore.Text.Digit
import SecretStore.Text.Lines
import SecretStore.Text.LowerCase
import SecretStore.Text.Printable
import SecretStore.Text.Quoted
import SecretStore.Text.Undecodable
import SecretStore.Text.Unencodable
import SecretStore.Text.Utf16
import SecretStore.Text.Utf8
import SecretStore.Time.Date
import SecretStore.Time.Moment
import SecretStore.Time.MomentReader
import SecretStore.Time.Span
import SecretStore.Time.SpanReader
import SecretStore.Time.Stamp
import SecretStore.Validation.Coerce
import SecretStore.Validation.Fields
import SecretStore.Validation.Problem
import SecretStore.Value
import SecretStore.Yaml.Block
import SecretStore.Yaml.Cursor
import SecretStore.Yaml.Document
import SecretStore.Yaml.Fault
import SecretStore.Yaml.Node
import SecretStore.Yaml.Plain
import SecretStore.Yaml.Quoted
import SecretStore.Yaml.Scalar
import SecretStore.Yaml.Tag
import SecretStore.Yaml.Timestamp
import SecretStore.Yaml.Token
import SecretStore.Main
import SecretStore.Proofs.Keyring.Operation
import SecretStore.Proofs.Vault
import SecretStore.Proofs.Keyring.Serial
import SecretStore.Proofs.Keyring.Interleaved
import SecretStore.Proofs.Crypto.Field
import SecretStore.Proofs.Crypto.Aes
import SecretStore.Proofs.Crypto.Token
import SecretStore.Proofs.Text.Unencodable
import SecretStore.Proofs.Files.Unfit
import SecretStore.Proofs.Text.Hex
import SecretStore.Proofs.Json.String
import SecretStore.Proofs.Store.Crash
import SecretStore.Proofs.Text.Digit
import SecretStore.Proofs.Json.Value
import SecretStore.Proofs.Json.Bytes
import SecretStore.Proofs.Time.Stamp
import SecretStore.Proofs.Json.Sorted
import SecretStore.Proofs.Record.Codec
import SecretStore.Proofs.Files.Tree
import SecretStore.Proofs.Store.Document
import SecretStore.Proofs.Store.Sealed
import SecretStore.Proofs.Keyring.Course
import SecretStore.Proofs.Keyring.Verdict
import SecretStore.Proofs.Keyring.Changes
import SecretStore.Proofs.Keyring.Blank
import SecretStore.Proofs.Files.Above
import SecretStore.Proofs.Json.Short
import SecretStore.Proofs.Record.Short
import SecretStore.Proofs.Store.Keeper
import SecretStore.Proofs.Store.Secrecy
import SecretStore.Proofs.Store.Failure
import SecretStore.Proofs.Store.Independence
import SecretStore.Proofs.Store.Accepted
import SecretStore.Proofs.CommandLine.Ending
import SecretStore.Proofs.Settings.Mapping
import SecretStore.Proofs.Settings.Overlay
import SecretStore.Proofs.Settings.Overrides
import SecretStore.Proofs.Settings.Merge
import SecretStore.Proofs.Settings.Layers
import SecretStore.Proofs.Settings.Faults
import SecretStore.Proofs.CommandLine.Documented
import SecretStore.Proofs.Text.Utf8
import SecretStore.Proofs.CommandLine.Phrase
import SecretStore.Proofs.Files.Beside
import SecretStore.Proofs.CommandLine.History
import SecretStore.Proofs.Keyring.Authentication
import SecretStore.Proofs.Keyring.Marker
import SecretStore.Proofs.Policy.Strategy
import SecretStore.Proofs.Policy.Flags
import SecretStore.Proofs.Keyring.Opening
import SecretStore.Proofs.Store.Journal
import SecretStore.Proofs.Record.Patch
import SecretStore.Proofs.Settings.Reordered
import SecretStore.Proofs.Settings.Environment
import SecretStore.Proofs.Text.Quoted
import SecretStore.Proofs.Keyring.Message
import SecretStore.Proofs.Text.Listed
import SecretStore.Proofs.Settings.Names
import SecretStore.Proofs.Keyring.RoundTrip
