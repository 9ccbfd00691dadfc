/-
**Storage options and persisted documents.**

`StorageOptions` say where registrations are persisted and at which version each persisted group is
encoded. A registration's document is compact JSON with sorted keys, stored under
`keyPrefix/apiservices/version.group`. Without an encode version for the registration group nothing
can be encoded.
-/

import Aggregation.Backend
import Aggregation.Json.Printer
import Aggregation.Text.Quoted

namespace Aggregation

/-- The form in which registrations are persisted. -/
inductive StorageCodec where
  | json
deriving DecidableEq

/-- Where and how registrations are persisted. -/
structure StorageOptions where
  keyPrefix : String
  codec : StorageCodec
  encodeVersions : Table String Identity
  skipHealthEndpoints : Bool

/-- Why storage options are refused. -/
inductive StorageError where
  | relativePrefix (keyPrefix : String)
  | noEncodeVersion (group : String)
deriving DecidableEq

namespace StorageError

/-- The reason in words. -/
def reason : StorageError → String
  | relativePrefix keyPrefix => "storage prefix " ++ Text.quoted keyPrefix ++ " must start with '/'"
  | noEncodeVersion group => "no encode version for " ++ group

/-- The whole message. -/
def message (error : StorageError) : String := "invalid storage options: " ++ error.reason

end StorageError

namespace StorageOptions

/-- The group of the registration records. -/
def registrationGroup : String := "apiregistration.k8s.io"

/-- The group of the records that map names to addresses. -/
def serviceGroup : String := "service.grafana.app"

/-- The options for the aggregation layer's own records. -/
def forAggregator (keyPrefix : String) (codec : StorageCodec) : StorageOptions where
  keyPrefix := keyPrefix
  codec := codec
  encodeVersions := Table.ofList [
    (registrationGroup, ⟨registrationGroup, "v1"⟩),
    (serviceGroup, ⟨serviceGroup, "v0alpha1"⟩)]
  skipHealthEndpoints := true

/-- The identity at whose version registrations are encoded. -/
def registrationVersion? (options : StorageOptions) : Option Identity :=
  options.encodeVersions.get? registrationGroup

/-- Whether the options can be installed, and why not. -/
def check (options : StorageOptions) : Except StorageError Unit :=
  if options.keyPrefix.toList.head? ≠ some '/' then .error (.relativePrefix options.keyPrefix)
  else if options.registrationVersion?.isNone then .error (.noEncodeVersion registrationGroup)
  else .ok ()

/-- A key prefix without its trailing slashes. -/
def trimmedPrefix (keyPrefix : String) : String :=
  String.ofList (keyPrefix.toList.reverse.dropWhile (· = '/')).reverse

/-- The key of a backend's document. -/
def key (options : StorageOptions) (identity : Identity) : String :=
  trimmedPrefix options.keyPrefix ++ "/apiservices/" ++ identity.backendName

/-- The document of a registration, its keys sorted. -/
def document (encodedAt : Identity) (registration : Registration) : Json :=
  let descriptor := registration.descriptor
  .object [
    ("apiVersion", .string encodedAt.display),
    ("kind", .string "APIService"),
    ("metadata", .object [("name", .string descriptor.identity.backendName)]),
    ("spec", .object [
      ("group", .string descriptor.identity.group),
      ("groupPriorityMinimum", .int descriptor.priority.group.toInt),
      ("service", Json.ofText? descriptor.service),
      ("version", .string descriptor.identity.version),
      ("versionPriority", .int descriptor.priority.version.toInt)]),
    ("status", .object [
      ("available", .bool registration.available),
      ("message", Json.ofText? registration.message)])]

/-- The persisted text of a registration, if the options can encode. -/
def encode? (options : StorageOptions) (registration : Registration) : Option String :=
  options.registrationVersion?.map fun encodedAt =>
    match options.codec with
    | .json => (document encodedAt registration).compact

end StorageOptions

end Aggregation
