import Gallery.Main
import Gallery.Proofs.Library.Search
import Gallery.Proofs.Query.WrittenForm
import Gallery.Proofs.Query.Budget
import Gallery.Proofs.Query.Circularity
import Gallery.Proofs.Query.Substitution
import Gallery.Proofs.Library.Attachment
import Gallery.Proofs.Library.Definitions
import Gallery.Proofs.Library.Relations
import Gallery.Proofs.Library.Identities
import Gallery.Proofs.Library.Tasks
import Gallery.Proofs.Library.Registration
import Gallery.Proofs.Library.References
import Gallery.Proofs.Library.Similarity
import Gallery.Proofs.Library.Relabelling
import Gallery.Proofs.Query.Independence
import Gallery.Proofs.Query.Stability
import Gallery.Proofs.Query.Restatement
import Gallery.Proofs.Library.Renaming
import Gallery.Proofs.Query.Marks
import Gallery.Proofs.Query.Precedence
import Gallery.Proofs.Pattern.WholeMatch
import Gallery.Proofs.Library.Convergence
import Gallery.Proofs.Library.Counts
import Gallery.Proofs.Library.Merging
import Gallery.Proofs.Library.Usage
import Gallery.Library.Ranking
import Gallery.Proofs.Text.ByteOrder
import Gallery.Proofs.Library.Ranking
import Gallery.Proofs.Hash.Distance
import Gallery.Proofs.Query.ErrorPlace
import Gallery.Proofs.Library.Admission
import Gallery.Proofs.Library.Extension
import Gallery.Proofs.Text.Boundary
import Gallery.Proofs.Sql.LastOccurrence
import Gallery.Proofs.Hash.Comparison
import Gallery.Proofs.Text.Hexadecimal
import Gallery.Proofs.Hash.WrittenForm
import Gallery.Proofs.Library.Hashes
import Gallery.Proofs.Query.Rewriting
import Gallery.Proofs.Query.Rendering
import Gallery.Proofs.Sql.PatternCache
