import EntitySlice.Command.Outcome
import EntitySlice.Config.Sources
import EntitySlice.Main
import EntitySlice.Proofs.Coverage
import EntitySlice.Proofs.Identifiers
import EntitySlice.Proofs.Independence
import EntitySlice.Proofs.ElementIds
import EntitySlice.Proofs.References
import EntitySlice.Proofs.Source.Expressions
import EntitySlice.Proofs.Regeneration
import EntitySlice.Proofs.StagedCommit
import EntitySlice.Proofs.Submissions
import EntitySlice.Proofs.Updates
import EntitySlice.Proofs.Slice.Checks
import EntitySlice.Proofs.Source.Records
import EntitySlice.Proofs.NewRecords
import EntitySlice.Proofs.Relocation
import EntitySlice.Proofs.Corrections
import EntitySlice.Proofs.Commands
import EntitySlice.Proofs.Bindings
import EntitySlice.Proofs.BatchFaults
import EntitySlice.Proofs.KeyChoice
import EntitySlice.Proofs.SchemaGrammar
import EntitySlice.Proofs.NamingGrammar
import EntitySlice.Proofs.Identities
import EntitySlice.Proofs.ListAnswers
import EntitySlice.Proofs.FormUpdates
import EntitySlice.Proofs.Captions
import EntitySlice.Proofs.Envelopes
import EntitySlice.Proofs.AbsentValues
import EntitySlice.Proofs.OptionLists
import EntitySlice.Proofs.FieldSubsets
import EntitySlice.Proofs.Encodings
import EntitySlice.Proofs.Hooks
import EntitySlice.Proofs.Source.Braces
import EntitySlice.Proofs.Source.Tags
