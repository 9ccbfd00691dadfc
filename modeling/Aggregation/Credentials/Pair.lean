/-
**Certificates and their keys.**

A `CredentialPair` is the text of a file of certificates and that of a key. It identifies the
aggregator to backends, or serves its clients. The two uses differ in the keys they take: an
identity needs a wrapped key, and its file has to begin with it; a server takes a bare key too, but
there has to be exactly one in the file. A certificate is known by its shape: what it certifies, the
algorithm, and the signature.
-/

import Aggregation.Credentials.Armour
import Aggregation.Credentials.Element

namespace Aggregation

/-- The content of a file of certificates and that of a key. -/
structure CredentialPair where
  certificates : Bytes
  key : Bytes

namespace CredentialPair

/-- The label of certificates. -/
def certificateLabel : List Char := "CERTIFICATE".toList

/-- The label of wrapped keys. -/
def wrappedLabel : List Char := "PRIVATE KEY".toList

/-- The labels of bare keys. -/
def bareLabels : List (List Char) := ["RSA PRIVATE KEY".toList, "EC PRIVATE KEY".toList]

/-- Whether some bytes are shaped like a certificate. -/
def isCertificate (bytes : Bytes) : Bool :=
  match Element.sequence? bytes with
  | some elements =>
    elements.map Element.tag == [Element.sequenceTag, Element.sequenceTag, Element.bitsTag]
  | none => false

/-- Whether some bytes are shaped like a wrapped key: a version, an algorithm, and the key. -/
def isWrappedKey (bytes : Bytes) : Bool :=
  match Element.sequence? bytes with
  | some elements =>
    [Element.numberTag, Element.sequenceTag, Element.bytesTag].isPrefixOf (elements.map Element.tag)
  | none => false

/-- Whether some bytes are shaped like a bare key: a version, and its parts. -/
def isBareKey (bytes : Bytes) : Bool :=
  match Element.sequence? bytes with
  | some (version :: _ :: _) => version.tag == Element.numberTag
  | _ => false

/-- The certificates of a file; none if any block of the file is broken or not what it says. -/
def certificates? (bytes : Bytes) : Option (List Armour) := do
  let blocks ← (Armour.blocks bytes).mapM id
  let found := blocks.filter fun block => block.label = certificateLabel
  if found.all fun block => isCertificate block.content then some found else none

/-- Whether a file holds certificates. -/
def holdsCertificates (bytes : Bytes) : Bool :=
  (certificates? bytes).any fun found => !found.isEmpty

/-- The first line of a file that begins with a wrapped key. -/
def wrappedStart : Bytes :=
  (Armour.opening ++ wrappedLabel ++ Armour.dashes).map fun c => UInt8.ofNat c.toNat

/-- Whether a pair can identify a client. -/
def canIdentify (pair : CredentialPair) : Bool :=
  wrappedStart.isPrefixOf pair.key && holdsCertificates pair.certificates &&
    match Armour.blocks pair.key with
    | some block :: _ => block.label = wrappedLabel && isWrappedKey block.content
    | _ => false

/-- Whether a block holds a key. -/
def isKey (block : Armour) : Bool := block.label = wrappedLabel || block.label ∈ bareLabels

/-- The blocks of a file that hold keys; broken blocks are passed over. -/
def keys (bytes : Bytes) : List Armour := ((Armour.blocks bytes).filterMap id).filter isKey

/-- Whether a pair can serve clients. -/
def canServe (pair : CredentialPair) : Bool :=
  holdsCertificates pair.certificates &&
    match keys pair.key with
    | [block] => isWrappedKey block.content || isBareKey block.content
    | _ => false

end CredentialPair

end Aggregation
