import TopicGate.Access
import TopicGate.Account.Session
import TopicGate.Audience
import TopicGate.Claims.Token
import TopicGate.Command.Outcome
import TopicGate.Config.Load
import TopicGate.Digest.Argon2
import TopicGate.EnvFile.Binding
import TopicGate.Gateway
import TopicGate.Identity.Codec
import TopicGate.Json.Record
import TopicGate.Json.Tree
import TopicGate.Main
import TopicGate.Store
import TopicGate.Toml.Table
import TopicGate.Topic.Ownership
import TopicGate.Proofs.Identity.Division
import TopicGate.Proofs.Identity.Numeral
import TopicGate.Proofs.Identity.Padding
import TopicGate.Proofs.Identity.Canonical
import TopicGate.Proofs.TextMap
import TopicGate.Proofs.Topic.Cut
import TopicGate.Proofs.Topic.Language
import TopicGate.Proofs.Topic.Rendering
import TopicGate.Proofs.Topic.Registry
import TopicGate.Proofs.Topic.Ownership
import TopicGate.Proofs.Request.Allowed
import TopicGate.Proofs.Identity.Symbols
import TopicGate.Proofs.Topic.Recognition
import TopicGate.Proofs.Request.Isolation
import TopicGate.Proofs.Topic.Levels
import TopicGate.Proofs.Topic.Owner
import TopicGate.Proofs.Identity.SharedSalt
import TopicGate.Proofs.Steps
import TopicGate.Proofs.Config.Consistency
import TopicGate.Proofs.Gateway
import TopicGate.Proofs.Json.Edits
import TopicGate.Proofs.Config.Written
import TopicGate.Proofs.Store
import TopicGate.Proofs.Account.Timestamp
import TopicGate.Proofs.Account.Calls
import TopicGate.Proofs.Account.Members
import TopicGate.Proofs.Account.Interleaving
import TopicGate.Proofs.Topic.Grammar
import TopicGate.Proofs.Topic.Segments
import TopicGate.Proofs.Request.Verdict
import TopicGate.Proofs.Topic.Shadowing
import TopicGate.Proofs.Request.Extension
import TopicGate.Proofs.Text.ByteOrder
import TopicGate.Proofs.Topic.Expression
import TopicGate.Proofs.Topic.Engine
import TopicGate.Proofs.Audience
import TopicGate.Proofs.Topic.Construction
import TopicGate.Proofs.Config.Finishing
import TopicGate.Proofs.Identity.Layout
import TopicGate.Proofs.Config.Merging
import TopicGate.Proofs.Request.Bearer
import TopicGate.Proofs.Store.History
import TopicGate.Proofs.Identity.Reordering
import TopicGate.Proofs.Identity.Positional
