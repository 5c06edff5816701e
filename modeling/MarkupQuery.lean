import MarkupQuery.Lenient
import MarkupQuery.Query.Progress
import MarkupQuery.Selector.Outline
import MarkupQuery.Tree.Build
import MarkupQuery.Tree.Handle
import MarkupQuery.Tree.Render
import MarkupQuery.Proofs.Tree.Growth
import MarkupQuery.Proofs.Tree.Linked
import MarkupQuery.Proofs.Tree.Walks
import MarkupQuery.Proofs.Tree.Building
import MarkupQuery.Proofs.Tree.Consistency
import MarkupQuery.Proofs.Selector.Chain
import MarkupQuery.Proofs.Selector.Search
import MarkupQuery.Proofs.Query.Blank
import MarkupQuery.Proofs.Query.Bracket
import MarkupQuery.Proofs.Query.Complex
import MarkupQuery.Proofs.Query.Composition
import MarkupQuery.Proofs.Query.Spelling
import MarkupQuery.Proofs.Query.Bounds
import MarkupQuery.Proofs.Selector.Normal
import MarkupQuery.Proofs.Query.NormalForm
import MarkupQuery.Proofs.Query.Writing
import MarkupQuery.Proofs.Query.Expressive
import MarkupQuery.Proofs.Selector.Isomorphism
import MarkupQuery.Proofs.Lenient.Calls
import MarkupQuery.Proofs.Lenient.Nested
import MarkupQuery.Proofs.Tree.Forest
import MarkupQuery.Proofs.Query.Transcript
import MarkupQuery.Proofs.Query.Requests
import MarkupQuery.Proofs.Query.Refusals
import MarkupQuery.Proofs.Query.Leading
import MarkupQuery.Proofs.Query.Trailing
import MarkupQuery.Proofs.Selector.Containing
import MarkupQuery.Proofs.Selector.Naming
import MarkupQuery.Proofs.Selector.Position
import MarkupQuery.Proofs.Query.Numbering
import MarkupQuery.Proofs.Selector.Relational
import MarkupQuery.Proofs.Selector.Algebra
import MarkupQuery.Proofs.Selector.Synonyms
import MarkupQuery.Proofs.Tree.Text
import MarkupQuery.Proofs.Query.PatternSource
import MarkupQuery.Proofs.Query.Padding
import MarkupQuery.Proofs.Query.ClosingBracket
import MarkupQuery.Proofs.Lenient.Remembering
import MarkupQuery.Proofs.Selector.Progression
import MarkupQuery.Proofs.Selector.Undisturbed
import MarkupQuery.Proofs.Selector.Outline
import MarkupQuery.Proofs.Selector.Including
