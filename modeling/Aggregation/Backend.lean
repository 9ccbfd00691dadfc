/-
**Backends and their registrations.**

A `Descriptor` is what is submitted for a backend: its identity, its priority and, for a backend
served elsewhere, the name of the service behind it. A `Registration` adds the condition last
observed; a `StatusEvent` says that a condition was written.
-/

import Aggregation.Priority

namespace Aggregation

/-- A backend as it is submitted; one without a service is served locally. -/
structure Descriptor where
  identity : Identity
  priority : Priority
  service : Option String
deriving DecidableEq, Inhabited

namespace Descriptor

/-- Whether the backend is served by the delegate itself. -/
def isLocal (descriptor : Descriptor) : Bool := descriptor.service.isNone

/-- The backend's rank in discovery. -/
def ranked (descriptor : Descriptor) : Ranked := (descriptor.identity, descriptor.priority)

end Descriptor

/-- A registered backend with the condition last written for it. -/
structure Registration where
  descriptor : Descriptor
  available : Bool
  message : Option String
deriving DecidableEq, Inhabited

/-- A condition was written for a backend. -/
structure StatusEvent where
  identity : Identity
  available : Bool
deriving DecidableEq, Inhabited

end Aggregation
