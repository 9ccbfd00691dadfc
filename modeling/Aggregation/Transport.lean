/-
**The transport to backends.**

A transport is set up once from its settings. If both a client certificate and its key are given,
they are read, the certificate first, and have to be able to identify the aggregator. Which pairs
can, and from what a client can be built at all, is up to the library that the clients are of.
-/

import Aggregation.Credentials.Pair
import Aggregation.File
import Aggregation.Settings.Basic

namespace Aggregation

/-- How backends are connected to, as far as it differs between transports. -/
structure Transport where
  skipHostname : Bool
  hasIdentity : Bool
  hasDialer : Bool
deriving DecidableEq

/-- Why a transport cannot be set up. -/
inductive TransportError where
  | unreadable (path : String) (error : FileError)
  | unusableIdentity
  | unbuildable
deriving DecidableEq

namespace TransportError

/-- The error in words; what the library has to say of it is left out. -/
def message : TransportError → String
  | unreadable path error => "failed to read " ++ path ++ ": " ++ error.message
  | unusableIdentity => "invalid proxy client identity"
  | unbuildable => "failed to build proxy transport"

end TransportError

/-- A library of clients, as far as it may refuse to make one. -/
structure ClientLibrary where
  /-- Whether a pair can identify a client. -/
  identifies : CredentialPair → Bool
  /-- Whether a client can be built from settings, an identity and perhaps a dialer. -/
  builds : Settings.Transport → Option CredentialPair → Bool → Bool

/-- The library that goes by the shape of an identity and then builds every client. -/
def ClientLibrary.byShape : ClientLibrary := ⟨CredentialPair.canIdentify, fun _ _ _ => true⟩

namespace Transport

/-- The bytes of a named file. -/
def readFile (files : Directory) (path : String) : Except TransportError Bytes :=
  (files.file path).bytes.mapError (.unreadable path)

/-- The identity that the settings give, if any; it has to be usable. -/
def identity? (library : ClientLibrary) (settings : Settings.Transport) (files : Directory) :
    Except TransportError (Option CredentialPair) :=
  match settings.clientCertPath, settings.clientKeyPath with
  | some certPath, some keyPath => do
    let certificates ← readFile files certPath
    let key ← readFile files keyPath
    let pair : CredentialPair := ⟨certificates, key⟩
    if library.identifies pair then .ok (some pair) else .error .unusableIdentity
  | _, _ => .ok none

/-- Sets up a transport with the clients of a library; a dialer may replace the look-up of hosts. -/
def buildWith (library : ClientLibrary) (settings : Settings.Transport) (files : Directory)
    (dialer : Bool) : Except TransportError Transport := do
  let identity ← identity? library settings files
  if library.builds settings identity dialer then
    .ok ⟨settings.skipHostnameVerification, identity.isSome, dialer⟩
  else .error .unbuildable

/-- Sets up a transport whose identity only has to be of the right shape. -/
def build (settings : Settings.Transport) (files : Directory) (dialer : Bool) :
    Except TransportError Transport :=
  buildWith .byShape settings files dialer

end Transport

end Aggregation
