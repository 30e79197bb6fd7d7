import PaymentPlans.Database.Script
import PaymentPlans.Json.Request
import PaymentPlans.Machine.Simulated
import PaymentPlans.Main
import PaymentPlans.Memory.Basic
import PaymentPlans.Repository.Interception
import PaymentPlans.Proofs.Creation
import PaymentPlans.Proofs.Memory.Traffic
import PaymentPlans.Proofs.Relational.Agreement
import PaymentPlans.Proofs.Memory.Effect
import PaymentPlans.Proofs.BadAmount
import PaymentPlans.Proofs.Memory.Isolation
import PaymentPlans.Proofs.Memory.Registry
import PaymentPlans.Proofs.Memory.Created
import PaymentPlans.Proofs.Listing
import PaymentPlans.Proofs.Memory.Completion
import PaymentPlans.Proofs.Text.Digits
import PaymentPlans.Proofs.Amount.Written
import PaymentPlans.Proofs.Resubmission
import PaymentPlans.Proofs.Amount.Exact
import PaymentPlans.Proofs.Database.Address
import PaymentPlans.Proofs.Database.Catalogue
import PaymentPlans.Proofs.Command.Plan
import PaymentPlans.Proofs.Text.Front
import PaymentPlans.Proofs.Json.Written
import PaymentPlans.Proofs.Identifier.Written
import PaymentPlans.Proofs.Instant.Written
import PaymentPlans.Proofs.Json.View
import PaymentPlans.Proofs.Settings.Written
import PaymentPlans.Proofs.Machine.Files
import PaymentPlans.Proofs.Settings.History
import PaymentPlans.Proofs.Toml.Place
import PaymentPlans.Proofs.Instant.Spelling
import PaymentPlans.Proofs.PlanFile.Open
import PaymentPlans.Proofs.Toml.Lines
import PaymentPlans.Proofs.Toml.Prefix
import PaymentPlans.Proofs.PlanFile.DueDate
import PaymentPlans.Proofs.Toml.Opening
import PaymentPlans.Proofs.Relational.Listing
import PaymentPlans.Proofs.Command.Setup
import PaymentPlans.Proofs.Relational.Keys
import PaymentPlans.Proofs.Traversal
import PaymentPlans.Proofs.PlanFile.Shape
import PaymentPlans.Proofs.PlanFile.Entries
