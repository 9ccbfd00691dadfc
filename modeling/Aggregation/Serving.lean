/-
**What a server needs to serve over TLS.**

The certificate and its key are files. Both have to be there before either is looked into, and have
to make up a pair that can serve.
-/

import Aggregation.Credentials.Pair
import Aggregation.File
import Aggregation.Settings.Basic
import Aggregation.Text.Quoted

namespace Aggregation

/-- Why a certificate and its key cannot be served with. -/
inductive ServingError where
  | noCertificate (path : String)
  | noKey (path : String)
  | unusable
deriving DecidableEq

namespace ServingError

/-- The error in words; what is wrong with an unusable pair is not said. -/
def message : ServingError → String
  | noCertificate path => "Certificate file not found: " ++ Text.quoted path
  | noKey path => "Private key file not found: " ++ Text.quoted path
  | unusable => "unusable certificate or key"

end ServingError

/-- The pair that settings name, if it can serve. -/
def Settings.Tls.load (tls : Settings.Tls) (files : Directory) :
    Except ServingError CredentialPair :=
  match files.file tls.certPath, files.file tls.keyPath with
  | none, _ => .error (.noCertificate tls.certPath)
  | some _, none => .error (.noKey tls.keyPath)
  | some certificates, some key =>
    let pair : CredentialPair := ⟨certificates, key⟩
    if pair.canServe then .ok pair else .error .unusable

end Aggregation
