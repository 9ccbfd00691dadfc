/-
**Reading settings.**

Settings are read from a document value. A section is a table, whose unknown keys are ignored, or a
list of its fields in their order; a field that is left out has its default, or makes the document
invalid if it has none. Documents come in two dialects, which differ in whether a list may be
longer than the section has fields and in what may stand behind a choice written as a key.
-/

import Aggregation.Settings.Basic

namespace Aggregation.Settings

/-- What the notations of documents differ in. -/
structure Dialect where
  /-- Whether items beyond the fields of a section are ignored. -/
  allowsExtraItems : Bool
  /-- Whether a value can stand behind a choice. -/
  isUnit : Json → Bool

namespace Dialect

/-- Documents in JSON. -/
def json : Dialect where
  allowsExtraItems := false
  isUnit value :=
    match value with
    | .null => true
    | _ => false

/-- Documents in TOML. -/
def toml : Dialect where
  allowsExtraItems := true
  isUnit value :=
    match value with
    | .object [] => true
    | .array [] => true
    | _ => false

end Dialect

/-! ### Values -/

/-- A text. -/
def readText? : Json → Option String
  | .string text => some text
  | _ => none

/-- A truth value. -/
def readBool? : Json → Option Bool
  | .bool value => some value
  | _ => none

/-- A natural number of 64 bits. -/
def readUInt64? : Json → Option UInt64
  | .int value => if 0 ≤ value ∧ value < UInt64.size then some (UInt64.ofNat value.toNat) else none
  | _ => none

/-- An integer of 32 bits. -/
def readInt32? : Json → Option Int32
  | .int value =>
    if Int32.minValue.toInt ≤ value ∧ value ≤ Int32.maxValue.toInt then some (Int32.ofInt value)
    else none
  | _ => none

/-- A URL in its text. -/
def readUrl? : Json → Option Url
  | .string text => (Url.parse text).toOption
  | _ => none

/-- A value that may be null. -/
def readOptional? {α : Type} (read? : Json → Option α) : Json → Option (Option α)
  | .null => some none
  | value => (read? value).map some

/-- A list. -/
def readList? {α : Type} (read? : Json → Option α) : Json → Option (List α)
  | .array items => items.mapM read?
  | _ => none

/-- One of some words, as the word itself or as the only key of a table. -/
def readChoice? {α : Type} (dialect : Dialect) (choices : List (String × α)) : Json → Option α
  | .string word => choices.lookup word
  | .object [(word, value)] => if dialect.isUnit value then choices.lookup word else none
  | _ => none

/-! ### Sections -/

/-- A section as it is written. -/
inductive Section where
  | named (members : List (String × Json))
  | listed (items : List Json)

namespace Section

/-- A value as a section with a number of fields. -/
def of? (dialect : Dialect) (fields : Nat) : Json → Option Section
  | .object members => some (named members)
  | .array items =>
    if items.length ≤ fields ∨ dialect.allowsExtraItems then some (listed items) else none
  | _ => none

/-- The value of a field, given by its name and position. -/
def field? (written : Section) (name : String) (position : Nat) : Option Json :=
  match written with
  | named members => Json.member? members name
  | listed items => items[position]?

/-- A field that cannot be left out. -/
def required {α : Type} (written : Section) (name : String) (position : Nat)
    (read? : Json → Option α) : Option α :=
  written.field? name position >>= read?

/-- A field with a default. -/
def field {α : Type} (written : Section) (name : String) (position : Nat) (default : α)
    (read? : Json → Option α) : Option α :=
  match written.field? name position with
  | none => some default
  | some value => read? value

end Section

variable (dialect : Dialect)

/-- The certificate and key to serve with. -/
def Tls.read? (value : Json) : Option Tls := do
  let written ← Section.of? dialect 2 value
  return {
    certPath := ← written.required "cert_path" 0 readText?
    keyPath := ← written.required "key_path" 1 readText? }

/-- The section `listener`. -/
def Listener.read? (value : Json) : Option Listener := do
  let written ← Section.of? dialect 4 value
  let default : Listener := {}
  return {
    bindAddress := ← written.field "bind_address" 0 default.bindAddress readText?
    tls := ← written.field "tls" 1 default.tls (readOptional? (Tls.read? dialect))
    requestTimeoutSecs :=
      ← written.field "request_timeout_secs" 2 default.requestTimeoutSecs readUInt64?
    shutdownGraceSecs :=
      ← written.field "shutdown_grace_secs" 3 default.shutdownGraceSecs readUInt64? }

/-- The section `delegate`. -/
def Delegate.read? (value : Json) : Option Delegate := do
  let written ← Section.of? dialect 2 value
  let default : Delegate := {}
  return {
    listedPaths := ← written.field "listed_paths" 0 default.listedPaths (readList? readText?)
    address := ← written.field "address" 1 default.address (readOptional? readUrl?) }

/-- The words for what happens to identities without a priority. -/
def policyWords : List (String × UnknownPolicy) :=
  [("silent", .silent), ("log", .log), ("remind", .remind)]

/-- The section `discovery`. -/
def Discovery.read? (value : Json) : Option Discovery := do
  let written ← Section.of? dialect 2 value
  let default : Discovery := {}
  return {
    unknownIdentityPolicy := ← written.field "unknown_identity_policy" 0
      default.unknownIdentityPolicy (readChoice? dialect policyWords)
    remindIntervalSecs :=
      ← written.field "remind_interval_secs" 1 default.remindIntervalSecs readUInt64? }

/-- An item of `priorities`. -/
def PriorityEntry.read? (value : Json) : Option PriorityEntry := do
  let written ← Section.of? dialect 4 value
  return {
    group := ← written.field "group" 0 "" readText?
    version := ← written.required "version" 1 readText?
    groupPriority := ← written.required "group_priority" 2 readInt32?
    versionPriority := ← written.required "version_priority" 3 readInt32? }

/-- An item of `backends`. -/
def BackendEntry.read? (value : Json) : Option BackendEntry := do
  let written ← Section.of? dialect 5 value
  return {
    group := ← written.required "group" 0 readText?
    version := ← written.required "version" 1 readText?
    service := ← written.required "service" 2 readText?
    groupPriority :=
      ← written.field "group_priority" 3 BackendEntry.defaultGroupPriority readInt32?
    versionPriority :=
      ← written.field "version_priority" 4 BackendEntry.defaultVersionPriority readInt32? }

/-- The words for how registrations are persisted. -/
def codecWords : List (String × StorageCodec) := [("json", .json)]

/-- The section `registry`. -/
def Registry.read? (value : Json) : Option Registry := do
  let written ← Section.of? dialect 3 value
  let default : Registry := {}
  return {
    syncIntervalSecs :=
      ← written.field "sync_interval_secs" 0 default.syncIntervalSecs readUInt64?
    storagePrefix := ← written.field "storage_prefix" 1 default.storagePrefix readText?
    codec := ← written.field "codec" 2 default.codec (readChoice? dialect codecWords) }

/-- The section `availability`. -/
def Availability.read? (value : Json) : Option Availability := do
  let written ← Section.of? dialect 3 value
  let default : Availability := {}
  return {
    enabled := ← written.field "enabled" 0 default.enabled readBool?
    intervalSecs := ← written.field "interval_secs" 1 default.intervalSecs readUInt64?
    timeoutSecs := ← written.field "timeout_secs" 2 default.timeoutSecs readUInt64? }

/-- The section `transport`. -/
def Transport.read? (value : Json) : Option Transport := do
  let written ← Section.of? dialect 8 value
  let default : Transport := {}
  return {
    connectTimeoutSecs :=
      ← written.field "connect_timeout_secs" 0 default.connectTimeoutSecs readUInt64?
    keepaliveSecs := ← written.field "keepalive_secs" 1 default.keepaliveSecs readUInt64?
    idleTimeoutSecs := ← written.field "idle_timeout_secs" 2 default.idleTimeoutSecs readUInt64?
    maxIdlePerHost := ← written.field "max_idle_per_host" 3 default.maxIdlePerHost readUInt64?
    honorProxyEnv := ← written.field "honor_proxy_env" 4 default.honorProxyEnv readBool?
    skipHostnameVerification := ← written.field "skip_hostname_verification" 5
      default.skipHostnameVerification readBool?
    clientCertPath := ← written.field "client_cert_path" 6 default.clientCertPath
      (readOptional? readText?)
    clientKeyPath := ← written.field "client_key_path" 7 default.clientKeyPath
      (readOptional? readText?) }

/-- An item of a list of mappings. -/
def Mapping.read? (value : Json) : Option Mapping := do
  let written ← Section.of? dialect 2 value
  return {
    name := ← written.required "name" 0 readText?
    address := ← written.required "address" 1 readUrl? }

/-- The section `name_mappings`. -/
def NameMappings.read? (value : Json) : Option NameMappings := do
  let written ← Section.of? dialect 2 value
  let default : NameMappings := {}
  return {
    mappings := ← written.field "mappings" 0 default.mappings (readList? (Mapping.read? dialect))
    path := ← written.field "path" 1 default.path (readOptional? readText?) }

/-- The section `observability`. -/
def Observability.read? (value : Json) : Option Observability := do
  let written ← Section.of? dialect 3 value
  let default : Observability := {}
  return {
    logLevel := ← written.field "log_level" 0 default.logLevel readText?
    metricsEnabled := ← written.field "metrics_enabled" 1 default.metricsEnabled readBool?
    metricsAddress := ← written.field "metrics_address" 2 default.metricsAddress readText? }

/-- Whole settings. -/
def read? (value : Json) : Option Settings := do
  let written ← Section.of? dialect 10 value
  return {
    listener := ← written.field "listener" 0 {} (Listener.read? dialect)
    delegate := ← written.field "delegate" 1 {} (Delegate.read? dialect)
    discovery := ← written.field "discovery" 2 {} (Discovery.read? dialect)
    priorities := ← written.field "priorities" 3 [] (readList? (PriorityEntry.read? dialect))
    backends := ← written.field "backends" 4 [] (readList? (BackendEntry.read? dialect))
    registry := ← written.field "registry" 5 {} (Registry.read? dialect)
    availability := ← written.field "availability" 6 {} (Availability.read? dialect)
    transport := ← written.field "transport" 7 {} (Transport.read? dialect)
    nameMappings := ← written.field "name_mappings" 8 {} (NameMappings.read? dialect)
    observability := ← written.field "observability" 9 {} (Observability.read? dialect) }

end Aggregation.Settings
