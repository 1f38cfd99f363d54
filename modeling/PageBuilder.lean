import PageBuilder.Event.Recorder
import PageBuilder.Main
import PageBuilder.Proofs.Formula.Grammar
import PageBuilder.Proofs.Formula.TokenStream
import PageBuilder.Proofs.Formula.Reading
import PageBuilder.Proofs.Formula.Parsing
import PageBuilder.Proofs.Formula.Words
import PageBuilder.Proofs.Session.History
import PageBuilder.Proofs.Session.Invariant
import PageBuilder.Proofs.Session.Replay
import PageBuilder.Proofs.Event.Report
import PageBuilder.Proofs.Event.StoreDispatch
import PageBuilder.Proofs.Inspector.AllowedStyles
import PageBuilder.Proofs.Inspector.ModeOrder
import PageBuilder.Proofs.Design.Upsert
import PageBuilder.Proofs.Design.UpsertTarget
import PageBuilder.Proofs.Design.UpsertHistory
import PageBuilder.Proofs.Design.NodeStyle
import PageBuilder.Proofs.Design.BaseViewport
import PageBuilder.Proofs.Policy.OfferedWords
import PageBuilder.Proofs.Session.WrittenData
import PageBuilder.Proofs.Design.Cascade
import PageBuilder.Proofs.Design.Breakdown
import PageBuilder.Proofs.Event.UndoneDispatch
import PageBuilder.Proofs.Event.EdgeGates
import PageBuilder.Proofs.Formula.Composition
import PageBuilder.Proofs.Event.Errands
import PageBuilder.Proofs.Event.Isolation
import PageBuilder.Proofs.Event.Accounts
import PageBuilder.Proofs.Json.Fields
import PageBuilder.Proofs.Design.Stored
import PageBuilder.Proofs.Event.Stored
import PageBuilder.Proofs.Session.DataPaths
import PageBuilder.Proofs.Formula.Dependence
import PageBuilder.Proofs.Formula.Spelling
import PageBuilder.Proofs.Inspector.ExpectedProps
import PageBuilder.Proofs.Policy.Range
import PageBuilder.Proofs.Inspector.Overlays
import PageBuilder.Proofs.Inspector.DeepEquality
import PageBuilder.Proofs.Formula.Height
import PageBuilder.Proofs.Formula.FirstOffence
import PageBuilder.Proofs.Formula.Chains
import PageBuilder.Proofs.Formula.Comparisons
import PageBuilder.Proofs.Policy.References
import PageBuilder.Proofs.Session.Recency
import PageBuilder.Proofs.Formula.Quoting
import PageBuilder.Proofs.Formula.Lexemes
import PageBuilder.Proofs.Formula.Layout
import PageBuilder.Proofs.Policy.Lengths
