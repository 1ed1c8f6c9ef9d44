import WideRow.Main
import WideRow.Proofs.Maps
import WideRow.Proofs.Precedence
import WideRow.Proofs.ValidSchemas
import WideRow.Proofs.BuiltPlan
import WideRow.Proofs.ChangeGroups
import WideRow.Proofs.ChangeOrder
import WideRow.Proofs.Reading
import WideRow.Proofs.NewValues
import WideRow.Proofs.Completion
import WideRow.Proofs.ChangedColumns
import WideRow.Proofs.Conditions
import WideRow.Proofs.Candidates
import WideRow.Proofs.RowRecords
import WideRow.Proofs.Rescan
import WideRow.Proofs.Calls
import WideRow.Proofs.Turns
import WideRow.Proofs.Failures
import WideRow.Proofs.Reads
import WideRow.Proofs.Protocol
import WideRow.Proofs.Handover
import WideRow.Proofs.FullWindow
import WideRow.Proofs.Unchanged
import WideRow.Proofs.NewRecords
import WideRow.Proofs.WrittenRecords
import WideRow.Proofs.Parts
import WideRow.Proofs.CheckedRuns
import WideRow.Proofs.Skipped
import WideRow.Proofs.EarlyAnswers
import WideRow.Proofs.PlainOutput
import WideRow.Proofs.Accounts
import WideRow.Proofs.Tombstones
import WideRow.Proofs.InTime
import WideRow.Proofs.HiddenPuts
import WideRow.Proofs.ReadBack
import WideRow.Proofs.Deletions
import WideRow.Proofs.Histories
import WideRow.Proofs.Evaluations
import WideRow.Proofs.UnsplitGroups
import WideRow.Proofs.FlatFields
import WideRow.Proofs.AuthorizedPaths
import WideRow.Proofs.FlatRows
import WideRow.Proofs.KeptColumns
import WideRow.Proofs.Choices
import WideRow.Proofs.Ways
import WideRow.Proofs.RowChoices
import WideRow.Proofs.AuthorizedMembers
import WideRow.Proofs.ReachedMembers
import WideRow.Proofs.HiddenMembers
import WideRow.Proofs.WrittenText
import WideRow.Proofs.Cuts
import WideRow.Proofs.GroupIds
import WideRow.Proofs.RowKeys
import WideRow.Proofs.Prevailing
import WideRow.Proofs.Receivers
import WideRow.Proofs.Relations
import WideRow.Proofs.RequiredColumns
import WideRow.Proofs.OutputKeys
import WideRow.Proofs.PrintedJson
import WideRow.Proofs.SinkCalls
import WideRow.Proofs.PatternPlaces
import WideRow.Proofs.PatternBounds
import WideRow.Proofs.Contexts
import WideRow.Proofs.TokenContext
import WideRow.Proofs.ClassContext
import WideRow.Proofs.FormContext
import WideRow.Proofs.HeldForms
import WideRow.Proofs.WholeValues
