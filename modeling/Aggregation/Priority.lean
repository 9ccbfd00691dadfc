/-
**Discovery priorities.**

A priority holds two 32-bit ranks: of the group among the groups and of the version inside its
group. Discovery lists the higher rank first and settles ties by identity, which
`compareDiscovery` says on identity/priority pairs. A `PriorityTable` gives the priority of each
identity that may be registered; an operator's entries override the built-in ones.
-/

import Aggregation.Identity
import Aggregation.Table

namespace Aggregation

/-- The rank of a group among groups and of a version inside its group. -/
structure Priority where
  group : Int32
  version : Int32
deriving DecidableEq, Inhabited

namespace Priority

/-- The two ranks as `group/version`. -/
def display (priority : Priority) : String :=
  toString priority.group.toInt ++ "/" ++ toString priority.version.toInt

end Priority

/-- An identity with its priority. -/
abbrev Ranked := Identity × Priority

namespace Ranked

/-- Discovery order: higher group rank, then higher version rank, then identity. -/
def compareDiscovery (a b : Ranked) : Ordering :=
  (compare b.2.group.toInt a.2.group.toInt).then
    ((compare b.2.version.toInt a.2.version.toInt).then (compare a.1 b.1))

/-- Whether an entry does not come after another one in discovery order. -/
def le (a b : Ranked) : Bool := (compareDiscovery a b).isLE

end Ranked

/-- The priority of each identity that may be registered. -/
abbrev PriorityTable := Table Identity Priority

namespace PriorityTable

/-- The entries known without configuration. -/
def builtin : PriorityTable := Table.ofList [
  (Identity.core, ⟨18000, 1⟩),
  (⟨"admissionregistration.k8s.io", "v1"⟩, ⟨16700, 15⟩),
  (⟨"admissionregistration.k8s.io", "v1beta1"⟩, ⟨16700, 12⟩),
  (⟨"admissionregistration.k8s.io", "v1alpha1"⟩, ⟨16700, 9⟩),
  (⟨"apiextensions.k8s.io", "v1"⟩, ⟨16700, 15⟩)]

/-- The entries in discovery order. -/
def discoveryOrder (table : PriorityTable) : List Ranked := table.entries.mergeSort Ranked.le

end PriorityTable

end Aggregation
