/-
**Written settings are read as the settings.**

Every section writes all of its fields under different names, so what is written is plain
(`plain_write`) and a section shows each field that it wrote (`Section.of?_written`). From the
leaves up, whatever is read from what a value wrote is the value; with the JSON text around it,
`ofText?_toText` says so of whole settings. The one thing relied on is that a URL's own text is
read as the URL (`Faithful`), which is asked of the URLs in the settings only.

A document may leave fields out, hold unknown ones and have its keys in any order. Settings that
were read from it are read again from their own text, and are as valid as before
(`round_trip`).
-/

import Aggregation.Proofs.Json.Reader
import Aggregation.Settings.Reader
import Aggregation.Settings.Validation
import Aggregation.Settings.Writer

namespace Aggregation

namespace Json

/-- Under names that differ, each member is found under its own. -/
theorem member?_of_mem {members : List (String × Json)} {name : String} {value : Json}
    (distinct : (members.map Prod.fst).Nodup) (member : (name, value) ∈ members) :
    member? members name = some value := by
  unfold member?
  have found : (members.reverse.find? fun entry => entry.1 == name).isSome := by
    rw [List.find?_isSome]
    exact ⟨(name, value), List.mem_reverse.mpr member, beq_self_eq_true name⟩
  obtain ⟨entry, first⟩ := Option.isSome_iff_exists.mp found
  have named : entry.1 = name := by simpa using List.find?_some first
  have listed : entry ∈ members := List.mem_reverse.mp (List.mem_of_find?_eq_some first)
  rw [first, List.inj_on_of_nodup_map distinct listed member named]
  rfl

end Json

namespace Settings

open Json (plain_object plain_array plain_ofText?)

/-! ### What is written is plain -/

section Plain

theorem plain_ofOptional {α : Type} {write : α → Json} (each : ∀ inner, (write inner).Plain)
    (value : Option α) : (ofOptional write value).Plain := by
  cases value with
  | none => exact .null
  | some inner => exact each inner

theorem plain_ofUInt64 (value : UInt64) : (ofUInt64 value).Plain := .int _

theorem plain_ofInt32 (value : Int32) : (ofInt32 value).Plain := .int _

theorem plain_ofUrl (url : Url) : (ofUrl url).Plain := .string _

theorem Tls.plain_write (tls : Tls) : tls.write.Plain :=
  plain_object rfl ⟨.string _, .string _⟩

theorem Listener.plain_write (listener : Listener) : listener.write.Plain :=
  plain_object rfl
    ⟨.string _, plain_ofOptional Tls.plain_write _, plain_ofUInt64 _, plain_ofUInt64 _⟩

theorem Delegate.plain_write (delegate : Delegate) : delegate.write.Plain :=
  plain_object rfl ⟨plain_array .string _, plain_ofOptional plain_ofUrl _⟩

theorem Discovery.plain_write (discovery : Discovery) : discovery.write.Plain :=
  plain_object rfl ⟨.string _, plain_ofUInt64 _⟩

theorem PriorityEntry.plain_write (entry : PriorityEntry) : entry.write.Plain :=
  plain_object rfl ⟨.string _, .string _, plain_ofInt32 _, plain_ofInt32 _⟩

theorem BackendEntry.plain_write (entry : BackendEntry) : entry.write.Plain :=
  plain_object rfl ⟨.string _, .string _, .string _, plain_ofInt32 _, plain_ofInt32 _⟩

theorem Registry.plain_write (registry : Registry) : registry.write.Plain :=
  plain_object rfl ⟨plain_ofUInt64 _, .string _, .string _⟩

theorem Availability.plain_write (availability : Availability) : availability.write.Plain :=
  plain_object rfl ⟨.bool _, plain_ofUInt64 _, plain_ofUInt64 _⟩

theorem Transport.plain_write (transport : Transport) : transport.write.Plain :=
  plain_object rfl ⟨plain_ofUInt64 _, plain_ofUInt64 _, plain_ofUInt64 _, plain_ofUInt64 _,
    .bool _, .bool _, plain_ofText? _, plain_ofText? _⟩

theorem Mapping.plain_write (mapping : Mapping) : mapping.write.Plain :=
  plain_object rfl ⟨.string _, plain_ofUrl _⟩

theorem NameMappings.plain_write (names : NameMappings) : names.write.Plain :=
  plain_object rfl ⟨plain_array Mapping.plain_write _, plain_ofText? _⟩

theorem Observability.plain_write (observability : Observability) : observability.write.Plain :=
  plain_object rfl ⟨.string _, .bool _, .string _⟩

/-- **Settings are written without fractions and without repeated names.** -/
theorem plain_write (settings : Settings) : settings.write.Plain :=
  plain_object rfl ⟨settings.listener.plain_write, settings.delegate.plain_write,
    settings.discovery.plain_write, plain_array PriorityEntry.plain_write _,
    plain_array BackendEntry.plain_write _, settings.registry.plain_write,
    settings.availability.plain_write, settings.transport.plain_write,
    settings.nameMappings.plain_write, settings.observability.plain_write⟩

end Plain

/-! ### Values are read back -/

theorem readText?_string (text : String) : readText? (.string text) = some text := rfl

theorem readBool?_bool (value : Bool) : readBool? (.bool value) = some value := rfl

theorem readUInt64?_ofUInt64 (value : UInt64) : readUInt64? (ofUInt64 value) = some value := by
  have within : (0 : Int) ≤ value.toNat ∧ (value.toNat : Int) < UInt64.size :=
    ⟨Int.natCast_nonneg _, Int.ofNat_lt.mpr value.toNat_lt_size⟩
  dsimp only [readUInt64?, ofUInt64]
  rw [if_pos within, Int.toNat_natCast, UInt64.ofNat_toNat]

theorem readInt32?_ofInt32 (value : Int32) : readInt32? (ofInt32 value) = some value := by
  have within : Int32.minValue.toInt ≤ value.toInt ∧ value.toInt ≤ Int32.maxValue.toInt :=
    ⟨Int32.minValue_le_toInt value, Int32.toInt_le value⟩
  dsimp only [readInt32?, ofInt32]
  rw [if_pos within, Int32.ofInt_toInt]

section Containers

variable {α : Type} {read? : Json → Option α} {write : α → Json}

/-- What may be absent is read back if only absence is written as null. -/
theorem readOptional?_ofOptional {value : Option α}
    (back : ∀ inner ∈ value, read? (write inner) = some inner)
    (visible : ∀ inner, write inner ≠ .null) :
    readOptional? read? (ofOptional write value) = some value := by
  cases value with
  | none => rfl
  | some inner =>
    show readOptional? read? (write inner) = _
    unfold readOptional?
    split
    · next null => exact absurd null (visible inner)
    · rw [back inner rfl]
      rfl

theorem readList?_map {items : List α} (back : ∀ item ∈ items, read? (write item) = some item) :
    readList? read? (.array (items.map write)) = some items := by
  show (items.map write).mapM read? = _
  induction items with
  | nil => rfl
  | cons item rest ih =>
    rw [List.map_cons, List.mapM_cons, back item List.mem_cons_self,
      ih fun other member => back other (List.mem_cons_of_mem _ member)]
    rfl

end Containers

theorem readOptional?_ofText? (value : Option String) :
    readOptional? readText? (Json.ofText? value) = some value := by
  cases value <;> rfl

/-- Whether the text of a URL is read as the URL. -/
def Faithful (url : Url) : Prop := (Url.parse url.display).toOption = some url

instance (url : Url) : Decidable (Faithful url) :=
  inferInstanceAs (Decidable ((Url.parse url.display).toOption = some url))

theorem readUrl?_ofUrl {url : Url} (faithful : Faithful url) :
    readUrl? (ofUrl url) = some url := faithful

variable (dialect : Dialect)

theorem readChoice?_word (policy : UnknownPolicy) :
    readChoice? dialect policyWords (.string policy.word) = some policy := by
  cases policy <;> rfl

theorem readChoice?_codecWord (codec : StorageCodec) :
    readChoice? dialect codecWords (.string (codecWord codec)) = some codec := by
  cases codec
  rfl

/-! ### Sections are read back -/

/-- **A section that was written shows each of its fields.** -/
theorem Section.of?_written {members : List (String × Json)} (plain : (Json.object members).Plain)
    (fields : Nat) : ∃ written, of? dialect fields (.object members) = some written ∧
      ∀ position {name value}, members[position]? = some (name, value) →
        written.field? name position = some value :=
  ⟨named members, rfl, fun _ _ _ listed =>
    Json.member?_of_mem plain.distinct (List.mem_of_getElem? listed)⟩

theorem Tls.read?_write (tls : Tls) : Tls.read? dialect tls.write = some tls := by
  obtain ⟨written, shape, shown⟩ := Section.of?_written dialect tls.plain_write 2
  simp only [Tls.read?, Tls.write, shape, Option.bind_eq_bind, Option.bind_some,
    Section.required, shown 0 rfl, shown 1 rfl, readText?_string]
  rfl

theorem Listener.read?_write (listener : Listener) :
    Listener.read? dialect listener.write = some listener := by
  have tls : readOptional? (Tls.read? dialect) (ofOptional Tls.write listener.tls) =
      some listener.tls :=
    readOptional?_ofOptional (fun tls _ => tls.read?_write dialect) (by nofun)
  obtain ⟨written, shape, shown⟩ := Section.of?_written dialect listener.plain_write 4
  simp only [Listener.read?, Listener.write, shape, Option.bind_eq_bind, Option.bind_some,
    Section.field, shown 0 rfl, shown 1 rfl, shown 2 rfl, shown 3 rfl, readText?_string, tls,
    readUInt64?_ofUInt64]
  rfl

theorem Delegate.read?_write {delegate : Delegate}
    (faithful : ∀ url ∈ delegate.address, Faithful url) :
    Delegate.read? dialect delegate.write = some delegate := by
  have paths : readList? readText? (.array (delegate.listedPaths.map .string)) =
      some delegate.listedPaths := readList?_map fun path _ => readText?_string path
  have address : readOptional? readUrl? (ofOptional ofUrl delegate.address) =
      some delegate.address :=
    readOptional?_ofOptional (fun url known => readUrl?_ofUrl (faithful url known)) (by nofun)
  obtain ⟨written, shape, shown⟩ := Section.of?_written dialect delegate.plain_write 2
  simp only [Delegate.read?, Delegate.write, shape, Option.bind_eq_bind, Option.bind_some,
    Section.field, shown 0 rfl, shown 1 rfl, paths, address]
  rfl

theorem Discovery.read?_write (discovery : Discovery) :
    Discovery.read? dialect discovery.write = some discovery := by
  obtain ⟨written, shape, shown⟩ := Section.of?_written dialect discovery.plain_write 2
  simp only [Discovery.read?, Discovery.write, shape, Option.bind_eq_bind, Option.bind_some,
    Section.field, shown 0 rfl, shown 1 rfl, readChoice?_word, readUInt64?_ofUInt64]
  rfl

theorem PriorityEntry.read?_write (entry : PriorityEntry) :
    PriorityEntry.read? dialect entry.write = some entry := by
  obtain ⟨written, shape, shown⟩ := Section.of?_written dialect entry.plain_write 4
  simp only [PriorityEntry.read?, PriorityEntry.write, shape, Option.bind_eq_bind,
    Option.bind_some, Section.field, Section.required, shown 0 rfl, shown 1 rfl, shown 2 rfl,
    shown 3 rfl, readText?_string, readInt32?_ofInt32]
  rfl

theorem BackendEntry.read?_write (entry : BackendEntry) :
    BackendEntry.read? dialect entry.write = some entry := by
  obtain ⟨written, shape, shown⟩ := Section.of?_written dialect entry.plain_write 5
  simp only [BackendEntry.read?, BackendEntry.write, shape, Option.bind_eq_bind,
    Option.bind_some, Section.field, Section.required, shown 0 rfl, shown 1 rfl, shown 2 rfl,
    shown 3 rfl, shown 4 rfl, readText?_string, readInt32?_ofInt32]
  rfl

theorem Registry.read?_write (registry : Registry) :
    Registry.read? dialect registry.write = some registry := by
  obtain ⟨written, shape, shown⟩ := Section.of?_written dialect registry.plain_write 3
  simp only [Registry.read?, Registry.write, shape, Option.bind_eq_bind, Option.bind_some,
    Section.field, shown 0 rfl, shown 1 rfl, shown 2 rfl, readUInt64?_ofUInt64,
    readText?_string, readChoice?_codecWord]
  rfl

theorem Availability.read?_write (availability : Availability) :
    Availability.read? dialect availability.write = some availability := by
  obtain ⟨written, shape, shown⟩ := Section.of?_written dialect availability.plain_write 3
  simp only [Availability.read?, Availability.write, shape, Option.bind_eq_bind,
    Option.bind_some, Section.field, shown 0 rfl, shown 1 rfl, shown 2 rfl, readBool?_bool,
    readUInt64?_ofUInt64]
  rfl

theorem Transport.read?_write (transport : Transport) :
    Transport.read? dialect transport.write = some transport := by
  obtain ⟨written, shape, shown⟩ := Section.of?_written dialect transport.plain_write 8
  simp only [Transport.read?, Transport.write, shape, Option.bind_eq_bind, Option.bind_some,
    Section.field, shown 0 rfl, shown 1 rfl, shown 2 rfl, shown 3 rfl, shown 4 rfl, shown 5 rfl,
    shown 6 rfl, shown 7 rfl, readUInt64?_ofUInt64, readBool?_bool, readOptional?_ofText?]
  rfl

theorem Mapping.read?_write {mapping : Mapping} (faithful : Faithful mapping.address) :
    Mapping.read? dialect mapping.write = some mapping := by
  obtain ⟨written, shape, shown⟩ := Section.of?_written dialect mapping.plain_write 2
  simp only [Mapping.read?, Mapping.write, shape, Option.bind_eq_bind, Option.bind_some,
    Section.required, shown 0 rfl, shown 1 rfl, readText?_string, readUrl?_ofUrl faithful]
  rfl

theorem NameMappings.read?_write {names : NameMappings}
    (faithful : ∀ mapping ∈ names.mappings, Faithful mapping.address) :
    NameMappings.read? dialect names.write = some names := by
  have mappings : readList? (Mapping.read? dialect) (.array (names.mappings.map Mapping.write)) =
      some names.mappings :=
    readList?_map fun mapping listed => Mapping.read?_write dialect (faithful mapping listed)
  obtain ⟨written, shape, shown⟩ := Section.of?_written dialect names.plain_write 2
  simp only [NameMappings.read?, NameMappings.write, shape, Option.bind_eq_bind,
    Option.bind_some, Section.field, shown 0 rfl, shown 1 rfl, mappings, readOptional?_ofText?]
  rfl

theorem Observability.read?_write (observability : Observability) :
    Observability.read? dialect observability.write = some observability := by
  obtain ⟨written, shape, shown⟩ := Section.of?_written dialect observability.plain_write 3
  simp only [Observability.read?, Observability.write, shape, Option.bind_eq_bind,
    Option.bind_some, Section.field, shown 0 rfl, shown 1 rfl, shown 2 rfl, readText?_string,
    readBool?_bool]
  rfl

/-! ### Whole settings -/

/-- The URLs in settings. -/
def urls (settings : Settings) : List Url :=
  settings.delegate.address.toList ++ settings.nameMappings.mappings.map Mapping.address

/-- **The document that settings are written as is read as the settings.** -/
theorem read?_write {settings : Settings} (faithful : ∀ url ∈ settings.urls, Faithful url) :
    read? dialect settings.write = some settings := by
  have delegate : Delegate.read? dialect settings.delegate.write = some settings.delegate :=
    Delegate.read?_write dialect fun url known =>
      faithful url (List.mem_append_left _ (Option.mem_toList.mpr known))
  have names : NameMappings.read? dialect settings.nameMappings.write =
      some settings.nameMappings :=
    NameMappings.read?_write dialect fun mapping listed =>
      faithful _ (List.mem_append_right _ (List.mem_map_of_mem listed))
  have priorities : readList? (PriorityEntry.read? dialect)
      (.array (settings.priorities.map PriorityEntry.write)) = some settings.priorities :=
    readList?_map fun entry _ => entry.read?_write dialect
  have backends : readList? (BackendEntry.read? dialect)
      (.array (settings.backends.map BackendEntry.write)) = some settings.backends :=
    readList?_map fun entry _ => entry.read?_write dialect
  obtain ⟨written, shape, shown⟩ := Section.of?_written dialect settings.plain_write 10
  simp only [read?, write, shape, Option.bind_eq_bind, Option.bind_some, Section.field,
    shown 0 rfl, shown 1 rfl, shown 2 rfl, shown 3 rfl, shown 4 rfl, shown 5 rfl, shown 6 rfl,
    shown 7 rfl, shown 8 rfl, shown 9 rfl, Listener.read?_write, delegate,
    Discovery.read?_write, priorities, backends, Registry.read?_write, Availability.read?_write,
    Transport.read?_write, names, Observability.read?_write]
  rfl

/-- The JSON text of settings. -/
def toText (settings : Settings) : String := settings.write.compact

/-- The settings of a JSON text. -/
def ofText? (text : String) : Option Settings := Json.parse? text >>= read? .json

/-- **The text that settings are written as is read as the settings.** -/
theorem ofText?_toText {settings : Settings} (faithful : ∀ url ∈ settings.urls, Faithful url) :
    ofText? settings.toText = some settings := by
  unfold ofText? toText
  rw [Json.parse?_compact settings.plain_write]
  exact read?_write .json faithful

/--
**Settings survive their text.** Written settings are read as they were. Settings that were read
from a document are read again from their own text, and found as valid as the document's.
-/
theorem round_trip (settings : Settings) (faithful : ∀ url ∈ settings.urls, Faithful url) :
    read? .json settings.write = some settings ∧
      ofText? settings.toText = some settings ∧
      ∀ document, read? .json document = some settings →
        ofText? settings.toText = read? .json document ∧
          (ofText? settings.toText).map validate = (read? .json document).map validate := by
  have again := ofText?_toText faithful
  refine ⟨read?_write .json faithful, again, fun document known => ?_⟩
  rw [again, known]
  exact ⟨rfl, rfl⟩

/-- A document that leaves fields out, holds an unknown one and has its sections in no order. -/
theorem round_trip_partial :
    let document := Json.object [
      ("name_mappings", .object [("mappings", .array [
        .object [("address", .string "HTTPS://[0:0::1]:443/a b"), ("name", .string "query")]])]),
      ("comment", .null),
      ("delegate", .object [("address", .string "http://127.1:3000")]),
      ("listener", .array [.string "[::]:8443", .null])]
    let settings : Settings := {
      listener := { bindAddress := "[::]:8443" }
      delegate := { address := some {
        scheme := "http", username := "", password := "", host := some (.ipv4 ⟨2130706433⟩)
        port := some 3000, path := .segments [""], query := none, fragment := none } }
      nameMappings := { mappings := [⟨"query", {
        scheme := "https", username := "", password := ""
        host := some (.ipv6 ⟨[0, 0, 0, 0, 0, 0, 0, 1]⟩), port := none
        path := .segments ["a%20b"], query := none, fragment := none }⟩] } }
    read? .json document = some settings ∧ ofText? settings.toText = read? .json document := by
  intro document settings
  have known : read? .json document = some settings := by decide +kernel
  have faithful : ∀ url ∈ settings.urls, Faithful url := by decide +kernel
  exact ⟨known, ((round_trip settings faithful).2.2 document known).1⟩

end Settings

end Aggregation
