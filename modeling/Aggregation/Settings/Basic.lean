/-
**Settings.**

The settings of the aggregation layer in their sections. Every section and most fields have a
default, which are the ones given here.
-/

import Aggregation.Backend
import Aggregation.Store.Options
import Aggregation.Url.Parser

namespace Aggregation

namespace Settings

/-- A certificate and its key to serve with. -/
structure Tls where
  certPath : String
  keyPath : String
deriving DecidableEq

/-- The address served. -/
structure Listener where
  bindAddress : String := "0.0.0.0:8443"
  tls : Option Tls := none
  requestTimeoutSecs : UInt64 := 60
  shutdownGraceSecs : UInt64 := 10
deriving DecidableEq

/-- The server whose paths are aggregated. -/
structure Delegate where
  listedPaths : List String := []
  address : Option Url := none
deriving DecidableEq

/-- What happens to identities without a priority. -/
inductive UnknownPolicy where
  | silent
  | log
  | remind
deriving DecidableEq

/-- How identities without a priority are reported. -/
structure Discovery where
  unknownIdentityPolicy : UnknownPolicy := .log
  remindIntervalSecs : UInt64 := 300
deriving DecidableEq

/-- A priority that overrides or extends the built-in ones. -/
structure PriorityEntry where
  group : String
  version : String
  groupPriority : Int32
  versionPriority : Int32
deriving DecidableEq

/-- A backend served by an external service. -/
structure BackendEntry where
  group : String
  version : String
  service : String
  groupPriority : Int32
  versionPriority : Int32
deriving DecidableEq

/-- The group rank of a backend that gives none. -/
def BackendEntry.defaultGroupPriority : Int32 := 1000

/-- The version rank of a backend that gives none. -/
def BackendEntry.defaultVersionPriority : Int32 := 9

/-- How registrations are kept. -/
structure Registry where
  syncIntervalSecs : UInt64 := 30
  storagePrefix : String := "/registry/aggregator"
  codec : StorageCodec := .json
deriving DecidableEq

/-- How backends are probed. -/
structure Availability where
  enabled : Bool := true
  intervalSecs : UInt64 := 5
  timeoutSecs : UInt64 := 5
deriving DecidableEq

/-- How backends are connected to. -/
structure Transport where
  connectTimeoutSecs : UInt64 := 30
  keepaliveSecs : UInt64 := 30
  idleTimeoutSecs : UInt64 := 90
  maxIdlePerHost : UInt64 := 100
  honorProxyEnv : Bool := true
  skipHostnameVerification : Bool := true
  clientCertPath : Option String := none
  clientKeyPath : Option String := none
deriving DecidableEq

/-- The address of a service name. -/
structure Mapping where
  name : String
  address : Url
deriving DecidableEq

/-- The addresses of service names, and a file with more of them. -/
structure NameMappings where
  mappings : List Mapping := []
  path : Option String := none
deriving DecidableEq

/-- What is logged and measured. -/
structure Observability where
  logLevel : String := "info"
  metricsEnabled : Bool := false
  metricsAddress : String := "0.0.0.0:9090"
deriving DecidableEq

end Settings

/-- The settings of the aggregation layer. -/
structure Settings where
  listener : Settings.Listener := {}
  delegate : Settings.Delegate := {}
  discovery : Settings.Discovery := {}
  priorities : List Settings.PriorityEntry := []
  backends : List Settings.BackendEntry := []
  registry : Settings.Registry := {}
  availability : Settings.Availability := {}
  transport : Settings.Transport := {}
  nameMappings : Settings.NameMappings := {}
  observability : Settings.Observability := {}
deriving DecidableEq

end Aggregation
