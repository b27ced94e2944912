import GrammarGraph.CSharp.Grammar
import GrammarGraph.Datum
import GrammarGraph.Description.Json
import GrammarGraph.Text.Quoted
import GrammarGraph.Unicode.CaseFolding
import GrammarGraph.Unicode.Greek
import GrammarGraph.Unicode.Printable
import GrammarGraph.Unicode.Word
import GrammarGraph.Proofs.Run
import GrammarGraph.Proofs.Engine
import GrammarGraph.Proofs.Derivation
import GrammarGraph.Proofs.Consumed
import GrammarGraph.Proofs.CSharp.Rules
import GrammarGraph.Proofs.Outcome
import GrammarGraph.Proofs.CSharp.Tokens
import GrammarGraph.Proofs.CSharp.Spelling
import GrammarGraph.Proofs.CSharp.Start
import GrammarGraph.Proofs.CSharp.Reading
import GrammarGraph.Proofs.CSharp.Acceptance
import GrammarGraph.Proofs.CSharp.RoundTrip
import GrammarGraph.Proofs.History
import GrammarGraph.Proofs.Lifecycle
import GrammarGraph.Proofs.Registry
import GrammarGraph.Proofs.Graph
import GrammarGraph.Proofs.Picture
import GrammarGraph.Proofs.Extension
import GrammarGraph.Proofs.Texts
import GrammarGraph.Proofs.CSharp.Construct
import GrammarGraph.Proofs.CSharp.Rejection
import GrammarGraph.Proofs.Logging
import GrammarGraph.Proofs.Evaluation
import GrammarGraph.Proofs.Rounds
import GrammarGraph.Proofs.Depth
import GrammarGraph.Proofs.Failure
import GrammarGraph.Proofs.Blame
import GrammarGraph.Proofs.Trail
import GrammarGraph.Proofs.Defect
import GrammarGraph.Proofs.Overflow
import GrammarGraph.Proofs.Termination
import GrammarGraph.Proofs.Alike
import GrammarGraph.Proofs.Comparison
import GrammarGraph.Proofs.Query
import GrammarGraph.Proofs.Book
import GrammarGraph.Proofs.Numbering
import GrammarGraph.Proofs.Order
import GrammarGraph.Proofs.Ownership
import GrammarGraph.Proofs.Severance
import GrammarGraph.Proofs.Detachment
import GrammarGraph.Proofs.Visits
import GrammarGraph.Proofs.Rerouting
import GrammarGraph.Proofs.Naming
import GrammarGraph.Proofs.Diagnostics
import GrammarGraph.Proofs.Permanence
import GrammarGraph.Proofs.Guard
import GrammarGraph.Proofs.Whole
import GrammarGraph.Proofs.Repetition
import GrammarGraph.Proofs.CSharp.Soundness
import GrammarGraph.Proofs.Replies
import GrammarGraph.Proofs.Iteration
import GrammarGraph.Proofs.Algebra
import GrammarGraph.Proofs.Json.Lossless
import GrammarGraph.Proofs.EmptyMatch
import GrammarGraph.Proofs.Redrawing
import GrammarGraph.Proofs.CSharp.Block
import GrammarGraph.Proofs.CSharp.SelfContained
import GrammarGraph.Proofs.Assembly
import GrammarGraph.Proofs.Identity
import GrammarGraph.Proofs.Access
import GrammarGraph.Proofs.Attachment
