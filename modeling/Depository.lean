import Depository.Text.Blank
import Depository.Text.Ascii
import Depository.Text.Split
import Depository.Text.Case
import Depository.Text.Numeral
import Depository.Time.Calendar
import Depository.Time.Instant
import Depository.Toml.Reader
import Depository.Identifier.Uuid
import Depository.Digest.Sha256
import Depository.Digest.Base64
import Depository.Json.Value
import Depository.Json.Writer
import Depository.Json.Reader
import Depository.Json.Record
import Depository.Web.Address
import Depository.Identifier.EntityId
import Depository.Failure
import Depository.Schema.Basic
import Depository.Lock.Basic
import Depository.Notification.Basic
import Depository.Account.Basic
import Depository.Dataset.File
import Depository.Dataset.Basic
import Depository.Document.Entity
import Depository.Store.Basic
import Depository.Dataset.Fingerprint
import Depository.Registration.Outcome
import Depository.Registration.Anvl
import Depository.Notification.Mute
import Depository.Notification.Email
import Depository.Export.Summary
import Depository.Export.Document
import Depository.Document.Search
import Depository.Document.Row
import Depository.Schema.Draft
import Depository.Repository.Call
import Depository.Repository.Notifying
import Depository.Repository.FileIdentifiers
import Depository.Repository.Updating
import Depository.Repository.Thumbnail
import Depository.Repository.Run
import Depository.Configuration.Load
import Depository.Database.Connection
import Depository.Service.Registry
import Depository.Service.Solr
import Depository.Service.MailRelay
import Depository.Log.Level
import Depository.CommandLine.Run
import Depository.Document.Installation
import Depository.Document.Report
import Depository.Document.Snapshot
import Depository.Main
import Depository.Proofs.Dataset.Files
import Depository.Proofs.Dataset.Revision
import Depository.Proofs.Dataset.Editing
import Depository.Proofs.Schema.Settling
import Depository.Proofs.Schema.Mending
import Depository.Proofs.Schema.Repairing
import Depository.Proofs.Schema.Repetition
import Depository.Proofs.Store.Commit
import Depository.Proofs.Store.FileIdentifiers
import Depository.Proofs.Store.Freezing
import Depository.Proofs.Store.Retention
import Depository.Proofs.Repository.Effect
import Depository.Proofs.Repository.Calls
import Depository.Proofs.Repository.Composition
import Depository.Proofs.Store.Soundness
import Depository.Proofs.Store.Tables
import Depository.Proofs.Repository.Registration
import Depository.Proofs.Repository.Retry
import Depository.Proofs.Repository.Saving
import Depository.Proofs.Repository.Staging
import Depository.Proofs.Repository.Admission
import Depository.Proofs.Repository.Update
import Depository.Proofs.Repository.Publication
import Depository.Proofs.Store.LockIndex
import Depository.Proofs.Store.Lookups
import Depository.Proofs.Dataset.Holdings
import Depository.Proofs.Dataset.WellFormed
import Depository.Proofs.Dataset.DerivedDrafts
import Depository.Proofs.Dataset.VersionNumbers
import Depository.Proofs.Repository.Deletion
import Depository.Proofs.Repository.LockBlindness
import Depository.Proofs.Repository.Interleaving
import Depository.Proofs.Repository.Reregistration
import Depository.Proofs.Repository.ScopedLocks
import Depository.Proofs.Repository.FileAssignment
import Depository.Proofs.Repository.Refusal
import Depository.Proofs.Store.ExportStamps
import Depository.Proofs.Repository.Exporting
import Depository.Proofs.Repository.Fingerprints
import Depository.Proofs.Text.Numerals
import Depository.Proofs.Repository.FileNumbering
import Depository.Proofs.Repository.Draws
import Depository.Proofs.Repository.Resubmission
import Depository.Proofs.Repository.FileAccounting
import Depository.Proofs.Repository.IndependentIdentifiers
import Depository.Proofs.Dataset.CanonicalFingerprints
import Depository.Proofs.Store.LockTenure
import Depository.Proofs.Repository.Framing
import Depository.Proofs.Identifier.Uuids
import Depository.Proofs.Service.SearchIndex
import Depository.Proofs.Repository.Indexing
import Depository.Proofs.Text.Parts
import Depository.Proofs.Identifier.GlobalIds
import Depository.Proofs.Registration.NameValueLines
import Depository.Proofs.Time.DateReading
import Depository.Proofs.Schema.DateForms
import Depository.Proofs.Store.Notifications
import Depository.Proofs.Repository.Notifying
import Depository.Proofs.Repository.GeneratedIdentifiers
import Depository.Proofs.Configuration.References
import Depository.Proofs.Time.InstantReading
import Depository.Proofs.Document.Variants
import Depository.Proofs.Document.Entities
import Depository.Proofs.Database.Addresses
import Depository.Proofs.CommandLine.Secrecy
import Depository.Proofs.Notification.Names
import Depository.Proofs.Configuration.Muting
import Depository.Proofs.Schema.Arranging
