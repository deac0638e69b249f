import DeviceRegistry.Calendar.Instant
import DeviceRegistry.Entity.Basic
import DeviceRegistry.Failure
import DeviceRegistry.Filter.Bound
import DeviceRegistry.Filter.Conditions
import DeviceRegistry.Filter.Containment
import DeviceRegistry.Filter.Name
import DeviceRegistry.Filter.Nesting
import DeviceRegistry.Filter.Query
import DeviceRegistry.Filter.Statement
import DeviceRegistry.Identifier
import DeviceRegistry.Metadata.Column
import DeviceRegistry.Metadata.Document
import DeviceRegistry.Metadata.Reading
import DeviceRegistry.Metadata.Writing
import DeviceRegistry.Number.Extended
import DeviceRegistry.Number.Layout
import DeviceRegistry.Number.Reading
import DeviceRegistry.Number.Stored
import DeviceRegistry.Proofs.Filter.Containment
import DeviceRegistry.Proofs.Filter.InstantBound
import DeviceRegistry.Proofs.Filter.Name
import DeviceRegistry.Proofs.Identifier.Form
import DeviceRegistry.Proofs.Metadata.NormalForm
import DeviceRegistry.Proofs.Metadata.RoundTrip
import DeviceRegistry.Proofs.Store.Atomicity
import DeviceRegistry.Proofs.Store.Authorization
import DeviceRegistry.Proofs.Store.BlankKeys
import DeviceRegistry.Proofs.Store.ConnectOutcome
import DeviceRegistry.Proofs.Store.ConnectionHistory
import DeviceRegistry.Proofs.Store.ContainedListing
import DeviceRegistry.Proofs.Store.Directions
import DeviceRegistry.Proofs.Store.Disconnect
import DeviceRegistry.Proofs.Store.EngineErrors
import DeviceRegistry.Proofs.Store.Isolation
import DeviceRegistry.Proofs.Store.LastWrite
import DeviceRegistry.Proofs.Store.Lengths
import DeviceRegistry.Proofs.Store.Linked
import DeviceRegistry.Proofs.Store.MessageHistory
import DeviceRegistry.Proofs.Store.MessageQuery
import DeviceRegistry.Proofs.Store.QueryFailures
import DeviceRegistry.Proofs.Store.SerializedFilter
import DeviceRegistry.Proofs.Store.Unmodified
import DeviceRegistry.Proofs.Store.UnreadableMetadata
import DeviceRegistry.Settings
import DeviceRegistry.Store.Maintenance
import DeviceRegistry.Store.Operation
import DeviceRegistry.Value.Display
import DeviceRegistry.Value.Equality
import DeviceRegistry.Violation
