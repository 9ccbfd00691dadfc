/-
**A document tells its registration.**

A document names every field of its registration in a place of its own. A text there is quoted, an
absent one is the word `null`, and ranks are whole numbers, so whatever characters the texts hold,
the text of a document is read as the document (`plain_document`), and the document has the fields
back (`document_inj`). Options that can encode therefore never persist two registrations in the same
way (`injective_encode?_iff`), and neither do two of them that encode at different versions
(`eq_of_encode?`).
-/

import Aggregation.Proofs.Json.Reader
import Aggregation.Store.Options

namespace Aggregation

/-- An absent text is none of the texts. -/
theorem Json.ofText?_inj {first second : Option String} :
    ofText? first = ofText? second ↔ first = second := by
  cases first <;> cases second <;> simp [ofText?]

theorem Priority.eq_of_toInt {first second : Priority}
    (group : first.group.toInt = second.group.toInt)
    (version : first.version.toInt = second.version.toInt) : first = second := by
  rcases first with ⟨ownGroup, ownVersion⟩
  rcases second with ⟨otherGroup, otherVersion⟩
  rw [Priority.mk.injEq]
  exact ⟨Int32.toInt_inj.mp group, Int32.toInt_inj.mp version⟩

namespace StorageOptions

/-- No object of a document names a member twice. -/
theorem plain_document (encodedAt : Identity) (registration : Registration) :
    (document encodedAt registration).Plain := by
  have metadata : (Json.object [("name",
      .string registration.descriptor.identity.backendName)]).Plain :=
    Json.plain_object rfl (.string _)
  have spec : (Json.object [
      ("group", .string registration.descriptor.identity.group),
      ("groupPriorityMinimum", .int registration.descriptor.priority.group.toInt),
      ("service", Json.ofText? registration.descriptor.service),
      ("version", .string registration.descriptor.identity.version),
      ("versionPriority", .int registration.descriptor.priority.version.toInt)]).Plain :=
    Json.plain_object rfl ⟨.string _, .int _, Json.plain_ofText? _, .string _, .int _⟩
  have status : (Json.object [
      ("available", .bool registration.available),
      ("message", Json.ofText? registration.message)]).Plain :=
    Json.plain_object rfl ⟨.bool _, Json.plain_ofText? _⟩
  exact Json.plain_object rfl ⟨.string _, .string _, metadata, spec, status⟩

/-- **The fields of a registration stand in its document.** -/
theorem document_inj {encodedAt other : Identity} {first second : Registration}
    (same : document encodedAt first = document other second) : first = second := by
  rcases first with ⟨⟨⟨group, version⟩, priority, service⟩, available, message⟩
  rcases second with ⟨⟨⟨group', version'⟩, priority', service'⟩, available', message'⟩
  simp only [document, Json.object.injEq, List.cons.injEq, Prod.mk.injEq, Json.string.injEq,
    Json.int.injEq, Json.bool.injEq, Json.ofText?_inj, true_and, and_true] at same
  obtain ⟨-, -, ⟨rfl, groupRank, rfl, rfl, versionRank⟩, rfl, rfl⟩ := same
  cases Priority.eq_of_toInt groupRank versionRank
  rfl

/-- The text of a registration at a version. -/
theorem encode?_eq_some_iff {options : StorageOptions} {registration : Registration}
    {text : String} :
    options.encode? registration = some text ↔
      ∃ encodedAt, options.registrationVersion? = some encodedAt ∧
        (document encodedAt registration).compact = text :=
  Option.map_eq_some_iff

/-- **A text is that of one registration only**, whichever options it was written under. -/
theorem eq_of_encode? {options other : StorageOptions} {first second : Registration}
    {text : String} (encoded : options.encode? first = some text)
    (same : other.encode? second = some text) : first = second := by
  obtain ⟨encodedAt, -, written⟩ := encode?_eq_some_iff.mp encoded
  obtain ⟨encodedAt', -, written'⟩ := encode?_eq_some_iff.mp same
  have texts : (document encodedAt first).compact = (document encodedAt' second).compact :=
    written.trans written'.symm
  exact document_inj ((Json.compact_inj (plain_document _ _) (plain_document _ _)).mp texts)

/-- Without a version no registration has a text. -/
theorem encode?_of_missing {options : StorageOptions}
    (missing : options.registrationVersion? = none) (registration : Registration) :
    options.encode? registration = none := by
  rw [encode?, missing]
  rfl

/-- **The persisted form loses nothing.** Options that can encode persist different registrations as
different texts; options that cannot tell none from another. -/
theorem injective_encode?_iff (options : StorageOptions) :
    Function.Injective options.encode? ↔ options.registrationVersion?.isSome := by
  constructor
  · intro injective
    by_contra unset
    have missing : options.registrationVersion? = none := Option.not_isSome_iff_eq_none.mp unset
    have same : options.encode? ⟨default, true, none⟩ = options.encode? ⟨default, false, none⟩ := by
      rw [encode?_of_missing missing, encode?_of_missing missing]
    cases injective same
  · intro encodes first second same
    obtain ⟨encodedAt, version⟩ := Option.isSome_iff_exists.mp encodes
    have encoded : options.encode? first = some (document encodedAt first).compact :=
      encode?_eq_some_iff.mpr ⟨encodedAt, version, rfl⟩
    exact eq_of_encode? encoded (same.symm.trans encoded)

end StorageOptions

end Aggregation
