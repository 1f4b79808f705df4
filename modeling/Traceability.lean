import Traceability.Main
import Traceability.Proofs.Flooding
import Traceability.Proofs.Indexing
import Traceability.Proofs.Labelling
import Traceability.Proofs.QueryMeaning
import Traceability.Proofs.Redirecting
import Traceability.Proofs.Resolving
import Traceability.Proofs.Selection
import Traceability.Proofs.Sources
import Traceability.Proofs.Writing
import Traceability.Proofs.Populating
import Traceability.Proofs.RuleTexts
import Traceability.Proofs.Moves
import Traceability.Proofs.Findings
import Traceability.Proofs.Comparing
import Traceability.Proofs.Enforcing
import Traceability.Proofs.Agreeing
import Traceability.Proofs.Aggregating
import Traceability.Proofs.Refusing
import Traceability.Proofs.Replaying
import Traceability.Proofs.Dangling
import Traceability.Proofs.Recomparing
import Traceability.Proofs.Delisting
import Traceability.Proofs.Contradicting
import Traceability.Proofs.Captioning
import Traceability.Proofs.Qualifying
import Traceability.Proofs.Counting
import Traceability.Proofs.Ranking
import Traceability.Proofs.Nesting
import Traceability.Proofs.Transcribing
import Traceability.Proofs.Appending
import Traceability.Proofs.Escaping
