import EvoPlatform.Foundation.Transition
import EvoPlatform.Sync.Client
import Mathlib.Data.List.Dedup

/-!
# The requests of a client

The endpoint bounds the number of mutations of a request and the lengths of the
ids, while a drain sends the last mutation of every row in the outbox.
-/

namespace EvoPlatform
namespace Sync

open Offline

/-! ## What a drain sends -/

/-- The rows with an entry. -/
def rowsOf (entries : List OutboxMutation) : List (SyncTable × String) :=
  (entries.map fun m => (m.table, m.rowId)).dedup

/-- An outbox that fits into one request: at most 5000 rows, each with an id of
at least one and at most 500 code points. -/
def Fits (outbox : Outbox) : Prop :=
  (rowsOf outbox.entries).length ≤ 5000 ∧
    ∀ m ∈ outbox.entries,
      1 ≤ m.rowId.length ∧ m.rowId.length ≤ 500

section Runs

variable {client next : Client}

/-- The request of a client passes the schema, if one is under way. -/
def WellFormed (client : Client) : Prop :=
  ∀ loop snapshot request, client.phase = .awaiting loop snapshot request →
    requestSchema request = true

end Runs

end Sync
end EvoPlatform
