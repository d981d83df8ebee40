import PipelinesOperator.Application.Basic
import PipelinesOperator.Application.Component
import PipelinesOperator.Application.Conversion
import PipelinesOperator.Application.Definition
import PipelinesOperator.Application.Manifest
import PipelinesOperator.Application.Metadata
import PipelinesOperator.Application.Names
import PipelinesOperator.Application.Status
import PipelinesOperator.Bytes.Base64
import PipelinesOperator.Bytes.Blake3
import PipelinesOperator.Cluster.Fault
import PipelinesOperator.Cluster.Reply
import PipelinesOperator.Cluster.Request
import PipelinesOperator.Cluster.Secret
import PipelinesOperator.Cluster.Server
import PipelinesOperator.CommandLine.Basic
import PipelinesOperator.CommandLine.Help
import PipelinesOperator.Config.Basic
import PipelinesOperator.Config.Draft
import PipelinesOperator.Config.Environment
import PipelinesOperator.Config.File
import PipelinesOperator.Config.Inline
import PipelinesOperator.Config.Location
import PipelinesOperator.Config.Registry
import PipelinesOperator.Config.Tree
import PipelinesOperator.Credential.Basic
import PipelinesOperator.Credential.Pass
import PipelinesOperator.Credential.Store
import PipelinesOperator.Dialogue
import PipelinesOperator.Document.Basic
import PipelinesOperator.Document.Fault
import PipelinesOperator.Document.Label
import PipelinesOperator.Double
import PipelinesOperator.Double.Notation
import PipelinesOperator.Event
import PipelinesOperator.Image.Basic
import PipelinesOperator.Json.Basic
import PipelinesOperator.Json.Canonical
import PipelinesOperator.Json.Compact
import PipelinesOperator.Json.MergePatch
import PipelinesOperator.JsonText.Break
import PipelinesOperator.JsonText.Cursor
import PipelinesOperator.JsonText.Number
import PipelinesOperator.JsonText.Pass
import PipelinesOperator.JsonText.Read
import PipelinesOperator.JsonText.Tree
import PipelinesOperator.Log.Filter
import PipelinesOperator.Log.Pattern
import PipelinesOperator.Log.Record
import PipelinesOperator.Main
import PipelinesOperator.Misconfiguration
import PipelinesOperator.Reconcile.Basic
import PipelinesOperator.Reconcile.Verdict
import PipelinesOperator.Resolution.Basic
import PipelinesOperator.Resolution.Parameters
import PipelinesOperator.Resolution.Plan
import PipelinesOperator.Shape.Basic
import PipelinesOperator.Shape.Read
import PipelinesOperator.Shape.Schema
import PipelinesOperator.Shape.Write
import PipelinesOperator.Startup
import PipelinesOperator.Table
import PipelinesOperator.Terminal
import PipelinesOperator.Text.Character
import PipelinesOperator.Text.Letter
import PipelinesOperator.Text.Quoted
import PipelinesOperator.Text.Unprinted
import PipelinesOperator.Timestamp.Basic
import PipelinesOperator.Timestamp.Epoch
import PipelinesOperator.Timestamp.Rfc3339
import PipelinesOperator.Yaml.Break
import PipelinesOperator.Yaml.Cursor
import PipelinesOperator.Yaml.Fault
import PipelinesOperator.Yaml.Parts
import PipelinesOperator.Yaml.Print
import PipelinesOperator.Yaml.Scalar
import PipelinesOperator.Yaml.Token
import PipelinesOperator.Yaml.Tokens
import PipelinesOperator.Yaml.Value
import PipelinesOperator.Proofs.Dialogue
import PipelinesOperator.Proofs.Table
import PipelinesOperator.Proofs.Credential.Store
import PipelinesOperator.Proofs.Except
import PipelinesOperator.Proofs.Credential.Fields
import PipelinesOperator.Proofs.Credential.Course
import PipelinesOperator.Proofs.Resolution.Plan
import PipelinesOperator.Proofs.Resolution.Course
import PipelinesOperator.Proofs.Race.Run
import PipelinesOperator.Proofs.Race.Play
import PipelinesOperator.Proofs.Race.Agreement
import PipelinesOperator.Proofs.Race.Writes
import PipelinesOperator.Proofs.Text.Digits
import PipelinesOperator.Proofs.Text.Split
import PipelinesOperator.Proofs.Text.ByteOrder
import PipelinesOperator.Proofs.Timestamp.RoundTrip
import PipelinesOperator.Proofs.Bytes.Base64
import PipelinesOperator.Proofs.Json.Basic
import PipelinesOperator.Proofs.JsonText.Escape
import PipelinesOperator.Proofs.Json.Frame
import PipelinesOperator.Proofs.Json.MergePatch
import PipelinesOperator.Proofs.Resolution.Fingerprint
import PipelinesOperator.Proofs.Race.Hash
import PipelinesOperator.Proofs.Credential.Vault
import PipelinesOperator.Proofs.Resolution.Settle
import PipelinesOperator.Proofs.Shape.Record
import PipelinesOperator.Proofs.Application.Conversion
import PipelinesOperator.Proofs.Application.Status
import PipelinesOperator.Proofs.Application.Manifest
import PipelinesOperator.Proofs.Cluster.Faithful
import PipelinesOperator.Proofs.Reconcile.Quiet
import PipelinesOperator.Proofs.Reconcile.History
import PipelinesOperator.Proofs.JsonText.RoundTrip
import PipelinesOperator.Proofs.Shape.RoundTrip
import PipelinesOperator.Proofs.Application.RoundTrip
import PipelinesOperator.Proofs.Shape.ReadBack
import PipelinesOperator.Proofs.Config.Flatten
import PipelinesOperator.Proofs.Config.Registry
import PipelinesOperator.Proofs.Resolution.Images
import PipelinesOperator.Proofs.Shape.Canonical
import PipelinesOperator.Proofs.Cluster.Target
import PipelinesOperator.Proofs.Cluster.Server
import PipelinesOperator.Proofs.Resolution.Replay
import PipelinesOperator.Proofs.Race.Apart
import PipelinesOperator.Proofs.Reconcile.Requests
import PipelinesOperator.Resolution.Debug
import PipelinesOperator.Proofs.InStep
import PipelinesOperator.Proofs.Credential.Outline
import PipelinesOperator.Proofs.Resolution.Secrecy
import PipelinesOperator.Proofs.Cluster.Secrecy
import PipelinesOperator.Proofs.Reconcile.Secrecy
import PipelinesOperator.Proofs.Credential.Failure
import PipelinesOperator.Proofs.Resolution.Legible
import PipelinesOperator.Proofs.Reconcile.Outcome
import PipelinesOperator.Proofs.Config.Tree
import PipelinesOperator.Proofs.Config.Sections
import PipelinesOperator.Proofs.Config.Layers
import PipelinesOperator.Proofs.Cluster.Askable
import PipelinesOperator.Proofs.Config.Intervals
import PipelinesOperator.Proofs.Credential.Faltering
import PipelinesOperator.Proofs.Reconcile.Answered
import PipelinesOperator.Proofs.Reconcile.Blame
import PipelinesOperator.Proofs.Resolution.Flaws
import PipelinesOperator.Proofs.Resolution.Leftover
import PipelinesOperator.Proofs.Shape.Blank
import PipelinesOperator.Proofs.Resolution.Choice
import PipelinesOperator.Proofs.Resolution.Setting
import PipelinesOperator.Proofs.Resolution.Commute
import PipelinesOperator.Proofs.Resolution.Blank
import PipelinesOperator.Proofs.Resolution.Texts
import PipelinesOperator.Proofs.Resolution.Filled
import PipelinesOperator.Proofs.Resolution.Backing
import PipelinesOperator.Proofs.Json.Alike
import PipelinesOperator.Proofs.Json.Delimited
import PipelinesOperator.Proofs.Reconcile.Recorded
import PipelinesOperator.Proofs.Cluster.Trip
import PipelinesOperator.Proofs.Race.Origins
import PipelinesOperator.Proofs.Config.Inline
import PipelinesOperator.Proofs.Config.Environment
import PipelinesOperator.Proofs.Config.Entries
import PipelinesOperator.Proofs.Config.Single
import PipelinesOperator.Proofs.Config.Nested
import PipelinesOperator.Proofs.Config.References
import PipelinesOperator.Proofs.Resolution.Names
