/-
**When a transport can be set up.**

Settings that name both a certificate and a key give an identity, all others give none
(`Identifies`). Setting up a transport fails only for want of one of the two files, for a pair that
the library of the clients does not take, and for a client that it does not build (`Fails`).
Otherwise the transport is as the settings say (`becomes_buildWith`).
-/

import Aggregation.Transport

namespace Aggregation.Transport

variable {library : ClientLibrary} {settings : Settings.Transport} {files : Directory}
  {dialer : Bool}

/-- The settings name the files of a certificate and a key. -/
structure Names (settings : Settings.Transport) (certPath keyPath : String) : Prop where
  certificate : settings.clientCertPath = some certPath
  key : settings.clientKeyPath = some keyPath

/-- The identity that settings give with some files, or none. -/
inductive Identifies (library : ClientLibrary) (settings : Settings.Transport)
    (files : Directory) : Option CredentialPair → Prop
  | without (unnamed : ∀ certPath keyPath, ¬Names settings certPath keyPath) :
      Identifies library settings files none
  | usable {certPath keyPath : String} {pair : CredentialPair}
      (named : Names settings certPath keyPath)
      (certificates : files.file certPath = some pair.certificates)
      (key : files.file keyPath = some pair.key)
      (usable : library.identifies pair = true) : Identifies library settings files (some pair)

/-- Why a transport cannot be set up. -/
inductive Fails (library : ClientLibrary) (settings : Settings.Transport) (files : Directory)
    (dialer : Bool) : TransportError → Prop
  | noCertificates {certPath keyPath : String} (named : Names settings certPath keyPath)
      (missing : files.file certPath = none) :
      Fails library settings files dialer (.unreadable certPath .missing)
  | noKey {certPath keyPath : String} {certificates : Bytes}
      (named : Names settings certPath keyPath)
      (read : files.file certPath = some certificates) (missing : files.file keyPath = none) :
      Fails library settings files dialer (.unreadable keyPath .missing)
  | unusable {certPath keyPath : String} {pair : CredentialPair}
      (named : Names settings certPath keyPath)
      (certificates : files.file certPath = some pair.certificates)
      (key : files.file keyPath = some pair.key)
      (unusable : library.identifies pair = false) :
      Fails library settings files dialer .unusableIdentity
  | unbuildable {identity : Option CredentialPair}
      (identifies : Identifies library settings files identity)
      (refused : library.builds settings identity dialer = false) :
      Fails library settings files dialer .unbuildable

/-- What becomes of setting up a transport. -/
inductive Becomes (library : ClientLibrary) (settings : Settings.Transport) (files : Directory)
    (dialer : Bool) : Except TransportError Transport → Prop
  | failed {error : TransportError} (fails : Fails library settings files dialer error) :
      Becomes library settings files dialer (.error error)
  | built {identity : Option CredentialPair}
      (identifies : Identifies library settings files identity)
      (builds : library.builds settings identity dialer = true) :
      Becomes library settings files dialer
        (.ok ⟨settings.skipHostnameVerification, identity.isSome, dialer⟩)

/-- **The settings give an identity or none, or the transport fails.** -/
theorem identity?_cases (library : ClientLibrary) (settings : Settings.Transport)
    (files : Directory) (dialer : Bool) :
    (∃ identity, identity? library settings files = .ok identity ∧
      Identifies library settings files identity) ∨
    ∃ error, identity? library settings files = .error error ∧
      Fails library settings files dialer error := by
  unfold identity? readFile
  split
  · next certPath keyPath certificate key =>
    have named : Names settings certPath keyPath := ⟨certificate, key⟩
    rcases read : files.file certPath with _ | certificates
    · exact .inr ⟨_, rfl, .noCertificates named read⟩
    rcases readKey : files.file keyPath with _ | key
    · exact .inr ⟨_, rfl, .noKey named read readKey⟩
    let pair : CredentialPair := ⟨certificates, key⟩
    cases identifies : library.identifies pair with
    | true => exact .inl ⟨some pair, if_pos identifies, .usable named read readKey identifies⟩
    | false =>
      have refused : ¬library.identifies pair = true := Bool.eq_false_iff.mp identifies
      exact .inr ⟨_, if_neg refused, .unusable named read readKey identifies⟩
  · next unnamed =>
    exact .inl ⟨none, rfl, .without fun certPath keyPath named =>
      unnamed certPath keyPath named.certificate named.key⟩

/-- **A transport fails for one of the reasons there are, or is as the settings say.** -/
theorem becomes_buildWith (library : ClientLibrary) (settings : Settings.Transport)
    (files : Directory) (dialer : Bool) :
    Becomes library settings files dialer (buildWith library settings files dialer) := by
  unfold buildWith
  obtain ⟨identity, given, identifies⟩ | ⟨error, given, fails⟩ :=
    identity?_cases library settings files dialer
  · rw [given]
    show Becomes library settings files dialer (if library.builds settings identity dialer then
      .ok ⟨settings.skipHostnameVerification, identity.isSome, dialer⟩ else .error .unbuildable)
    split
    · next builds => exact .built identifies builds
    · next refused => exact .failed (.unbuildable identifies (Bool.eq_false_iff.mpr refused))
  · rw [given]
    exact .failed fails

end Aggregation.Transport
