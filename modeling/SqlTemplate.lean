import SqlTemplate.Settings.Reader
import SqlTemplate.Template
import SqlTemplate.Document.Reader
import SqlTemplate.Proofs.Numbered
import SqlTemplate.Proofs.Scope
import SqlTemplate.Proofs.Binding
import SqlTemplate.Proofs.Tree
import SqlTemplate.Proofs.Evaluation
import SqlTemplate.Proofs.Rounds
import SqlTemplate.Proofs.Lookup
import SqlTemplate.Proofs.Parameter
import SqlTemplate.Proofs.Static
import SqlTemplate.Proofs.Emission
import SqlTemplate.Proofs.Name
import SqlTemplate.Proofs.InList
import SqlTemplate.Proofs.Rescan
import SqlTemplate.Proofs.Escape
import SqlTemplate.Proofs.Inlined
import SqlTemplate.Proofs.FirstFault
import SqlTemplate.Proofs.Answers
import SqlTemplate.Proofs.Encoding
import SqlTemplate.Proofs.Uniform
import SqlTemplate.Proofs.Screening
import SqlTemplate.Proofs.Entries
import SqlTemplate.Proofs.Written
import SqlTemplate.Proofs.Bindable
import SqlTemplate.Proofs.BoundKind
import SqlTemplate.Proofs.CallFault
import SqlTemplate.Proofs.Registration
import SqlTemplate.Proofs.Separators
import SqlTemplate.Proofs.Agreement
import SqlTemplate.Proofs.Inside
import SqlTemplate.Proofs.Shadow
import SqlTemplate.Proofs.Declared
import SqlTemplate.Proofs.Pieces
import SqlTemplate.Proofs.Clauses
import SqlTemplate.Proofs.Expression
import SqlTemplate.Proofs.Readback
import SqlTemplate.Proofs.Inlining
import SqlTemplate.Proofs.FullMatch
import SqlTemplate.Proofs.Grammar
import SqlTemplate.Proofs.Shrinking
import SqlTemplate.Proofs.DeclaredKinds
import SqlTemplate.Proofs.WellFormed
import SqlTemplate.Proofs.Navigation
import SqlTemplate.Proofs.Location
import SqlTemplate.Proofs.History
