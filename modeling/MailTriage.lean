import MailTriage.Main
import MailTriage.Mailbox.Memory
import MailTriage.Proofs.Inspection.ConflictReport
import MailTriage.Proofs.Inspection.Lookup
import MailTriage.Proofs.Inspection.LostSamples
import MailTriage.Proofs.Rule.InForce
import MailTriage.Proofs.Rule.Labelling
import MailTriage.Proofs.Rule.OwnDomain
import MailTriage.Proofs.Rule.Rereading
import MailTriage.Proofs.Rule.Shapes
import MailTriage.Proofs.Store.Acceptance
import MailTriage.Proofs.Store.AllowList
import MailTriage.Proofs.Store.AuditTrail
import MailTriage.Proofs.Store.Insertion
import MailTriage.Proofs.Store.MessageMirror
import MailTriage.Proofs.Store.Serialisation
import MailTriage.Proofs.Store.WiderWindow
import MailTriage.Proofs.Suggestion.Concurrency
import MailTriage.Proofs.Suggestion.Failures
import MailTriage.Proofs.Suggestion.History
import MailTriage.Proofs.Suggestion.Identity
import MailTriage.Proofs.Suggestion.Proposal
import MailTriage.Proofs.Json.Data
import MailTriage.Proofs.Address.DisplayName
import MailTriage.Proofs.Domain.Breadth
import MailTriage.Proofs.Store.Migration
