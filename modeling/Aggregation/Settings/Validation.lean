/-
**Validating settings.**

A document that can be read may still make no sense. `problems` lists everything that is wrong, in
the order of the sections and of the items in them; settings are valid if the list is empty.
-/

import Aggregation.Net.SocketAddress
import Aggregation.Settings.Basic

namespace Aggregation.Settings

/-- Something wrong with settings. -/
inductive Problem where
  | bindAddress (address : String)
  | zeroRequestTimeout
  | relativePath (index : Nat) (path : String)
  | zeroRemindInterval
  | emptyPriorityVersion (index : Nat)
  | duplicatePriority (index : Nat) (group version : String)
  | emptyBackendGroup (index : Nat)
  | emptyBackendVersion (index : Nat)
  | emptyBackendService (index : Nat)
  | duplicateBackend (index : Nat) (group version : String)
  | zeroSyncInterval
  | relativeStoragePrefix
  | zeroProbeInterval
  | zeroProbeTimeout
  | unpairedClientCertificate
  | duplicateMapping (index : Nat) (name : String)
  | metricsAddress (address : String)
deriving DecidableEq

namespace Problem

/-- An item of a list. -/
def item (list : String) (index : Nat) : String := list ++ "[" ++ toString index ++ "]"

/-- The field that is wrong. -/
def field : Problem → String
  | bindAddress _ => "listener.bind_address"
  | zeroRequestTimeout => "listener.request_timeout_secs"
  | relativePath index _ => item "delegate.listed_paths" index
  | zeroRemindInterval => "discovery.remind_interval_secs"
  | emptyPriorityVersion index => item "priorities" index ++ ".version"
  | duplicatePriority index _ _ => item "priorities" index
  | emptyBackendGroup index => item "backends" index ++ ".group"
  | emptyBackendVersion index => item "backends" index ++ ".version"
  | emptyBackendService index => item "backends" index ++ ".service"
  | duplicateBackend index _ _ => item "backends" index
  | zeroSyncInterval => "registry.sync_interval_secs"
  | relativeStoragePrefix => "registry.storage_prefix"
  | zeroProbeInterval => "availability.interval_secs"
  | zeroProbeTimeout => "availability.timeout_secs"
  | unpairedClientCertificate => "transport.client_cert_path"
  | duplicateMapping index _ => item "name_mappings.mappings" index
  | metricsAddress _ => "observability.metrics_address"

/-- What is wrong with a number that has to be positive. -/
def notPositive : String := "must be greater than 0"

/-- What is wrong with a text that has to hold something. -/
def isEmpty : String := "must not be empty"

/-- What is wrong with the field. -/
def message : Problem → String
  | bindAddress address => "'" ++ address ++ "' is not a socket address"
  | zeroRequestTimeout => notPositive
  | relativePath _ path => "'" ++ path ++ "' must start with '/'"
  | zeroRemindInterval => notPositive
  | emptyPriorityVersion _ => isEmpty
  | duplicatePriority _ group version => "duplicate entry for " ++ group ++ "/" ++ version
  | emptyBackendGroup _ => isEmpty
  | emptyBackendVersion _ => isEmpty
  | emptyBackendService _ => isEmpty
  | duplicateBackend _ group version => "duplicate backend " ++ group ++ "/" ++ version
  | zeroSyncInterval => notPositive
  | relativeStoragePrefix => "must start with '/'"
  | zeroProbeInterval => notPositive
  | zeroProbeTimeout => notPositive
  | unpairedClientCertificate => "client certificate and key must be set together"
  | duplicateMapping _ name => "duplicate mapping for '" ++ name ++ "'"
  | metricsAddress address => "'" ++ address ++ "' is not a socket address"

/-- The field with what is wrong with it. -/
def display (problem : Problem) : String := problem.field ++ ": " ++ problem.message

end Problem

/-! ### Rules -/

/-- A problem that is there under a condition. -/
def whenever (condition : Prop) [Decidable condition] (problem : Problem) : List Problem :=
  if condition then [problem] else []

/-- Whether a text starts with a slash. -/
def isRooted (text : String) : Bool := text.toList.head? = some '/'

/-- The problems of each item of a list, given its index and the items before it. -/
def itemwise {α : Type} (rule : Nat → List α → α → List Problem) :
    Nat → List α → List α → List Problem
  | _, _, [] => []
  | index, before, entry :: rest =>
    rule index before entry ++ itemwise rule (index + 1) (before ++ [entry]) rest

/-- The problems of a listed path. -/
def pathProblems (index : Nat) (_ : List String) (path : String) : List Problem :=
  whenever (¬isRooted path) (.relativePath index path)

/-- The problems of a priority entry. -/
def priorityProblems (index : Nat) (before : List PriorityEntry) (entry : PriorityEntry) :
    List Problem :=
  whenever (entry.version = "") (.emptyPriorityVersion index) ++
  whenever (∃ other ∈ before, other.group = entry.group ∧ other.version = entry.version)
    (.duplicatePriority index entry.group entry.version)

/-- The problems of a backend entry. -/
def backendProblems (index : Nat) (before : List BackendEntry) (entry : BackendEntry) :
    List Problem :=
  whenever (entry.group = "") (.emptyBackendGroup index) ++
  whenever (entry.version = "") (.emptyBackendVersion index) ++
  whenever (entry.service = "") (.emptyBackendService index) ++
  whenever (∃ other ∈ before, other.group = entry.group ∧ other.version = entry.version)
    (.duplicateBackend index entry.group entry.version)

/-- The problems of a mapping. -/
def mappingProblems (index : Nat) (before : List Mapping) (mapping : Mapping) : List Problem :=
  whenever (∃ other ∈ before, other.name = mapping.name) (.duplicateMapping index mapping.name)

/-- Everything that is wrong with settings. -/
def problems (settings : Settings) : List Problem :=
  let listener := settings.listener
  let observability := settings.observability
  whenever ((Net.SocketAddress.parse? listener.bindAddress).isNone)
    (.bindAddress listener.bindAddress) ++
  whenever (listener.requestTimeoutSecs = 0) .zeroRequestTimeout ++
  itemwise pathProblems 0 [] settings.delegate.listedPaths ++
  whenever (settings.discovery.remindIntervalSecs = 0) .zeroRemindInterval ++
  itemwise priorityProblems 0 [] settings.priorities ++
  itemwise backendProblems 0 [] settings.backends ++
  whenever (settings.registry.syncIntervalSecs = 0) .zeroSyncInterval ++
  whenever (¬isRooted settings.registry.storagePrefix) .relativeStoragePrefix ++
  whenever (settings.availability.intervalSecs = 0) .zeroProbeInterval ++
  whenever (settings.availability.timeoutSecs = 0) .zeroProbeTimeout ++
  whenever (settings.transport.clientCertPath.isSome ≠ settings.transport.clientKeyPath.isSome)
    .unpairedClientCertificate ++
  itemwise mappingProblems 0 [] settings.nameMappings.mappings ++
  whenever (observability.metricsEnabled ∧
      (Net.SocketAddress.parse? observability.metricsAddress).isNone)
    (.metricsAddress observability.metricsAddress)

/-- All problems in words. -/
def problemsText (problems : List Problem) : String :=
  "Validation failed: " ++ ", ".intercalate (problems.map Problem.display)

/-- The settings if they make sense, otherwise what is wrong with them. -/
def validate (settings : Settings) : Except (List Problem) Settings :=
  match settings.problems with
  | [] => .ok settings
  | problems => .error problems

end Aggregation.Settings
