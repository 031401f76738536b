import ComplianceRegistry.Document.Printer
import ComplianceRegistry.Main
import ComplianceRegistry.Run
import ComplianceRegistry.Schema.Migration
import ComplianceRegistry.Schema.Upsert
import ComplianceRegistry.Proofs.Session
import ComplianceRegistry.Proofs.Trail
import ComplianceRegistry.Proofs.Consistency
import ComplianceRegistry.Proofs.Lookup
import ComplianceRegistry.Proofs.Regulations
import ComplianceRegistry.Proofs.Statuses
import ComplianceRegistry.Proofs.Soundness
import ComplianceRegistry.Proofs.Operations
import ComplianceRegistry.Proofs.Requests
import ComplianceRegistry.Proofs.Arrivals
import ComplianceRegistry.Proofs.Refusals
import ComplianceRegistry.Proofs.Faults
import ComplianceRegistry.Proofs.Integrity
import ComplianceRegistry.Proofs.Configs
import ComplianceRegistry.Proofs.Failures
import ComplianceRegistry.Proofs.Ledger
import ComplianceRegistry.Proofs.Updates
import ComplianceRegistry.Proofs.Lifecycles
import ComplianceRegistry.Proofs.Replay
import ComplianceRegistry.Proofs.Contention
import ComplianceRegistry.Proofs.Encoding
import ComplianceRegistry.Proofs.Uplink
import ComplianceRegistry.Proofs.Announcements
import ComplianceRegistry.Proofs.Comparison
import ComplianceRegistry.Proofs.Attribution
import ComplianceRegistry.Proofs.Callers
import ComplianceRegistry.Proofs.Projects
import ComplianceRegistry.Proofs.Agreement
import ComplianceRegistry.Proofs.Isolation
import ComplianceRegistry.Proofs.Room
import ComplianceRegistry.Proofs.Values
import ComplianceRegistry.Proofs.Numerals
import ComplianceRegistry.Proofs.Verdicts
import ComplianceRegistry.Proofs.Writes
import ComplianceRegistry.Proofs.Batches
import ComplianceRegistry.Proofs.Steps
import ComplianceRegistry.Proofs.Growth
import ComplianceRegistry.Proofs.Coverage
import ComplianceRegistry.Proofs.Asking
import ComplianceRegistry.Proofs.Readable
import ComplianceRegistry.Proofs.Showing
import ComplianceRegistry.Proofs.Grammar
import ComplianceRegistry.Proofs.Literals
import ComplianceRegistry.Proofs.Acceptance
import ComplianceRegistry.Proofs.Bounds
import ComplianceRegistry.Proofs.Merging
import ComplianceRegistry.Proofs.Repetition
import ComplianceRegistry.Proofs.Listings
import ComplianceRegistry.Proofs.Addresses
import ComplianceRegistry.Proofs.Paths
import ComplianceRegistry.Proofs.Pages
import ComplianceRegistry.Proofs.Migrations
import ComplianceRegistry.Proofs.Seeding
import ComplianceRegistry.Proofs.Outbox
import ComplianceRegistry.Proofs.Deliveries
import ComplianceRegistry.Proofs.Overflows
import ComplianceRegistry.Proofs.Ranges
