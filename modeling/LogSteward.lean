import LogSteward.Access.Registry
import LogSteward.Main
import LogSteward.Proofs.Access.Content
import LogSteward.Proofs.Access.Course
import LogSteward.Proofs.Access.Format
import LogSteward.Proofs.Access.Provision
import LogSteward.Proofs.Access.Retraction
import LogSteward.Proofs.Access.Targets
import LogSteward.Proofs.Documents.Meaning
import LogSteward.Proofs.Documents.RoundTrip
import LogSteward.Proofs.Json.Content
import LogSteward.Proofs.Json.Extent
import LogSteward.Proofs.Json.Grammar
import LogSteward.Proofs.Json.Lists
import LogSteward.Proofs.Json.Numerals
import LogSteward.Proofs.Json.RecordExtent
import LogSteward.Proofs.Json.Records
import LogSteward.Proofs.Json.Repetition
import LogSteward.Proofs.Json.Skipping
import LogSteward.Proofs.Json.Strings
import LogSteward.Proofs.Json.Writing
import LogSteward.Proofs.Lifecycle.Content
import LogSteward.Proofs.Lifecycle.Format
import LogSteward.Proofs.Remote.Passage
import LogSteward.Proofs.Rest.Addresses
import LogSteward.Proofs.Rest.Calls
import LogSteward.Proofs.Rest.Evidence
import LogSteward.Proofs.Rest.Refinement
import LogSteward.Proofs.Retention.Content
import LogSteward.Proofs.Retention.Format
import LogSteward.Proofs.Retention.Keeping
import LogSteward.Proofs.Retention.Overlap
import LogSteward.Proofs.Retention.Rewriting
import LogSteward.Proofs.Retention.Visits
import LogSteward.Proofs.Url.Names
import LogSteward.Proofs.Url.Segments
import LogSteward.Rest.Script
import LogSteward.Retention.Shelf
import LogSteward.Telemetry.Logging
import LogSteward.Proofs.Connection.Defects
import LogSteward.Proofs.Connection.Growth
import LogSteward.Proofs.Remote.Stops
import LogSteward.Proofs.Command.Calls
import LogSteward.Proofs.Command.Faults
import LogSteward.Proofs.Rest.Secrecy
import LogSteward.Proofs.Command.Secrecy
import LogSteward.Proofs.Access.Order
import LogSteward.Proofs.Access.Deletion
import LogSteward.Proofs.Json.Spelling
import LogSteward.Proofs.Retention.Drift
import LogSteward.Proofs.Command.Printed
import LogSteward.Proofs.Command.Preview
import LogSteward.Proofs.Retention.Ages
import LogSteward.Proofs.Text.Order
import LogSteward.Proofs.Rest.Requests
import LogSteward.Proofs.Rest.Failures
import LogSteward.Proofs.Rest.Listing
import LogSteward.Proofs.Json.Truncation
import LogSteward.Proofs.Documents.Truncation
import LogSteward.Proofs.Command.Truncation
import LogSteward.Proofs.Connection.Attempts
import LogSteward.Proofs.Connection.Building
import LogSteward.Proofs.Command.Confirmations
import LogSteward.Proofs.Connection.Joining
import LogSteward.Proofs.Rest.Authorization
import LogSteward.Proofs.Command.Tables
import LogSteward.Proofs.Connection.Mounts
import LogSteward.Proofs.Command.Passes
import LogSteward.Proofs.Remote.Noting
import LogSteward.Remote.Noting
import LogSteward.Telemetry.Event
import LogSteward.Telemetry.Output
import LogSteward.Tls.Acceptance
