/-
**Writing settings.**

Settings are written with every field, absent options as null. Reading what was written gives the
same settings back.
-/

import Aggregation.Settings.Basic

namespace Aggregation.Settings

/-- A natural number of 64 bits. -/
def ofUInt64 (value : UInt64) : Json := .int value.toNat

/-- An integer of 32 bits. -/
def ofInt32 (value : Int32) : Json := .int value.toInt

/-- A value that may be absent. -/
def ofOptional {α : Type} (write : α → Json) (value : Option α) : Json := value.elim .null write

/-- A URL as its text. -/
def ofUrl (url : Url) : Json := .string url.display

/-- The certificate and key to serve with. -/
def Tls.write (tls : Tls) : Json := .object [
  ("cert_path", .string tls.certPath),
  ("key_path", .string tls.keyPath)]

/-- The section `listener`. -/
def Listener.write (listener : Listener) : Json := .object [
  ("bind_address", .string listener.bindAddress),
  ("tls", ofOptional Tls.write listener.tls),
  ("request_timeout_secs", ofUInt64 listener.requestTimeoutSecs),
  ("shutdown_grace_secs", ofUInt64 listener.shutdownGraceSecs)]

/-- The section `delegate`. -/
def Delegate.write (delegate : Delegate) : Json := .object [
  ("listed_paths", .array (delegate.listedPaths.map .string)),
  ("address", ofOptional ofUrl delegate.address)]

/-- The word for what happens to identities without a priority. -/
def UnknownPolicy.word : UnknownPolicy → String
  | silent => "silent"
  | log => "log"
  | remind => "remind"

/-- The section `discovery`. -/
def Discovery.write (discovery : Discovery) : Json := .object [
  ("unknown_identity_policy", .string discovery.unknownIdentityPolicy.word),
  ("remind_interval_secs", ofUInt64 discovery.remindIntervalSecs)]

/-- An item of `priorities`. -/
def PriorityEntry.write (entry : PriorityEntry) : Json := .object [
  ("group", .string entry.group),
  ("version", .string entry.version),
  ("group_priority", ofInt32 entry.groupPriority),
  ("version_priority", ofInt32 entry.versionPriority)]

/-- An item of `backends`. -/
def BackendEntry.write (entry : BackendEntry) : Json := .object [
  ("group", .string entry.group),
  ("version", .string entry.version),
  ("service", .string entry.service),
  ("group_priority", ofInt32 entry.groupPriority),
  ("version_priority", ofInt32 entry.versionPriority)]

/-- The word for how registrations are persisted. -/
def codecWord : StorageCodec → String
  | .json => "json"

/-- The section `registry`. -/
def Registry.write (registry : Registry) : Json := .object [
  ("sync_interval_secs", ofUInt64 registry.syncIntervalSecs),
  ("storage_prefix", .string registry.storagePrefix),
  ("codec", .string (codecWord registry.codec))]

/-- The section `availability`. -/
def Availability.write (availability : Availability) : Json := .object [
  ("enabled", .bool availability.enabled),
  ("interval_secs", ofUInt64 availability.intervalSecs),
  ("timeout_secs", ofUInt64 availability.timeoutSecs)]

/-- The section `transport`. -/
def Transport.write (transport : Transport) : Json := .object [
  ("connect_timeout_secs", ofUInt64 transport.connectTimeoutSecs),
  ("keepalive_secs", ofUInt64 transport.keepaliveSecs),
  ("idle_timeout_secs", ofUInt64 transport.idleTimeoutSecs),
  ("max_idle_per_host", ofUInt64 transport.maxIdlePerHost),
  ("honor_proxy_env", .bool transport.honorProxyEnv),
  ("skip_hostname_verification", .bool transport.skipHostnameVerification),
  ("client_cert_path", Json.ofText? transport.clientCertPath),
  ("client_key_path", Json.ofText? transport.clientKeyPath)]

/-- An item of a list of mappings. -/
def Mapping.write (mapping : Mapping) : Json := .object [
  ("name", .string mapping.name),
  ("address", ofUrl mapping.address)]

/-- The section `name_mappings`. -/
def NameMappings.write (names : NameMappings) : Json := .object [
  ("mappings", .array (names.mappings.map Mapping.write)),
  ("path", Json.ofText? names.path)]

/-- The section `observability`. -/
def Observability.write (observability : Observability) : Json := .object [
  ("log_level", .string observability.logLevel),
  ("metrics_enabled", .bool observability.metricsEnabled),
  ("metrics_address", .string observability.metricsAddress)]

/-- Whole settings. -/
def write (settings : Settings) : Json := .object [
  ("listener", settings.listener.write),
  ("delegate", settings.delegate.write),
  ("discovery", settings.discovery.write),
  ("priorities", .array (settings.priorities.map PriorityEntry.write)),
  ("backends", .array (settings.backends.map BackendEntry.write)),
  ("registry", settings.registry.write),
  ("availability", settings.availability.write),
  ("transport", settings.transport.write),
  ("name_mappings", settings.nameMappings.write),
  ("observability", settings.observability.write)]

end Aggregation.Settings
