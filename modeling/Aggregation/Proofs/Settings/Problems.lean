/-
**Which problems settings have.**

What settings have to be is said twice: as the conditions on `Valid` settings, and as the problems
of those that are not, one for each condition that is broken (`Violates`, `valid_iff`). An item of a
list repeats a key if one before it has the same (`Recurs`), so of several equal items each but the
first is a problem.

Validating goes through settings section by section. Each problem has a `place` in the schema, and
what is found in a part of the settings lies between two places (`Between`): parts that follow one
another can be put together, so the problems of all settings are in order and none comes twice
(`between_problems`), nor do two of them name the same field (`place_of_field`). As they are also
just those there are (`mem_problems`), validating tells exactly what is wrong (`validate_exact`).
-/

import Aggregation.Proofs.Settings.Validation
import Aggregation.Proofs.Text.Digits
import Aggregation.Proofs.Text.Split
import Mathlib.Data.List.Lex

namespace Aggregation.Settings

/-! ### What settings have to be -/

/-- The text can be read as the address of a socket. -/
def IsSocketAddress (text : String) : Prop := (Net.SocketAddress.parse? text).isSome = true

/-- The text is a path from the root. -/
def FromRoot (text : String) : Prop := ∃ below, text = "/" ++ below

/-- The identity of a priority entry. -/
def PriorityEntry.identity (entry : PriorityEntry) : Identity := ⟨entry.group, entry.version⟩

/-- An item before the one at an index has the same key. -/
def Recurs {α β : Type} (key : α → β) (items : List α) (index : Nat) (item : α) : Prop :=
  ∃ earlier < index, ∃ other, items[earlier]? = some other ∧ key other = key item

/-- What settings have to be. -/
structure Valid (settings : Settings) : Prop where
  bindAddress : IsSocketAddress settings.listener.bindAddress
  metricsAddress : settings.observability.metricsEnabled = true →
    IsSocketAddress settings.observability.metricsAddress
  requestTimeout : settings.listener.requestTimeoutSecs ≠ 0
  remindInterval : settings.discovery.remindIntervalSecs ≠ 0
  syncInterval : settings.registry.syncIntervalSecs ≠ 0
  probeInterval : settings.availability.intervalSecs ≠ 0
  probeTimeout : settings.availability.timeoutSecs ≠ 0
  listedPaths : ∀ path ∈ settings.delegate.listedPaths, FromRoot path
  storagePrefix : FromRoot settings.registry.storagePrefix
  priorityVersions : ∀ entry ∈ settings.priorities, entry.version ≠ ""
  backendNames : ∀ entry ∈ settings.backends,
    entry.group ≠ "" ∧ entry.version ≠ "" ∧ entry.service ≠ ""
  clientCertificate : settings.transport.clientCertPath.isSome =
    settings.transport.clientKeyPath.isSome
  priorities : (settings.priorities.map PriorityEntry.identity).Nodup
  backends : (settings.backends.map BackendEntry.identity).Nodup
  mappings : (settings.nameMappings.mappings.map Mapping.name).Nodup

/-- What is wrong with settings: a problem for each condition that is broken. -/
inductive Violates (settings : Settings) : Problem → Prop where
  | bindAddress (unread : ¬IsSocketAddress settings.listener.bindAddress) :
    Violates settings (.bindAddress settings.listener.bindAddress)
  | requestTimeout (zero : settings.listener.requestTimeoutSecs = 0) :
    Violates settings .zeroRequestTimeout
  | listedPath {index : Nat} {path : String}
    (listed : settings.delegate.listedPaths[index]? = some path) (relative : ¬FromRoot path) :
    Violates settings (.relativePath index path)
  | remindInterval (zero : settings.discovery.remindIntervalSecs = 0) :
    Violates settings .zeroRemindInterval
  | priorityVersion {index : Nat} {entry : PriorityEntry}
    (listed : settings.priorities[index]? = some entry) (empty : entry.version = "") :
    Violates settings (.emptyPriorityVersion index)
  | priority {index : Nat} {entry : PriorityEntry}
    (listed : settings.priorities[index]? = some entry)
    (recurs : Recurs PriorityEntry.identity settings.priorities index entry) :
    Violates settings (.duplicatePriority index entry.group entry.version)
  | backendGroup {index : Nat} {entry : BackendEntry}
    (listed : settings.backends[index]? = some entry) (empty : entry.group = "") :
    Violates settings (.emptyBackendGroup index)
  | backendVersion {index : Nat} {entry : BackendEntry}
    (listed : settings.backends[index]? = some entry) (empty : entry.version = "") :
    Violates settings (.emptyBackendVersion index)
  | backendService {index : Nat} {entry : BackendEntry}
    (listed : settings.backends[index]? = some entry) (empty : entry.service = "") :
    Violates settings (.emptyBackendService index)
  | backend {index : Nat} {entry : BackendEntry}
    (listed : settings.backends[index]? = some entry)
    (recurs : Recurs BackendEntry.identity settings.backends index entry) :
    Violates settings (.duplicateBackend index entry.group entry.version)
  | syncInterval (zero : settings.registry.syncIntervalSecs = 0) :
    Violates settings .zeroSyncInterval
  | storagePrefix (relative : ¬FromRoot settings.registry.storagePrefix) :
    Violates settings .relativeStoragePrefix
  | probeInterval (zero : settings.availability.intervalSecs = 0) :
    Violates settings .zeroProbeInterval
  | probeTimeout (zero : settings.availability.timeoutSecs = 0) :
    Violates settings .zeroProbeTimeout
  | clientCertificate (unpaired : settings.transport.clientCertPath.isSome ≠
      settings.transport.clientKeyPath.isSome) :
    Violates settings .unpairedClientCertificate
  | mapping {index : Nat} {mapping : Mapping}
    (listed : settings.nameMappings.mappings[index]? = some mapping)
    (recurs : Recurs Mapping.name settings.nameMappings.mappings index mapping) :
    Violates settings (.duplicateMapping index mapping.name)
  | metricsAddress (enabled : settings.observability.metricsEnabled = true)
    (unread : ¬IsSocketAddress settings.observability.metricsAddress) :
    Violates settings (.metricsAddress settings.observability.metricsAddress)

/-- Keys are different if none recurs. -/
theorem nodup_iff_not_recurs {α β : Type} (key : α → β) (items : List α) :
    (items.map key).Nodup ↔
      ∀ index item, items[index]? = some item → ¬Recurs key items index item := by
  rw [List.nodup_iff_getElem?_ne_getElem?]
  constructor
  · rintro distinct index item listed ⟨earlier, before, other, known, same⟩
    have inside : index < (items.map key).length := by
      rw [List.length_map]
      exact (List.getElem?_eq_some_iff.mp listed).1
    refine distinct earlier index before inside ?_
    rw [List.getElem?_map, List.getElem?_map, listed, known, Option.map_some, Option.map_some, same]
  · intro fresh earlier index before inside same
    rw [List.length_map] at inside
    have known := List.getElem?_eq_getElem (before.trans inside)
    have listed := List.getElem?_eq_getElem inside
    rw [List.getElem?_map, List.getElem?_map, known, listed, Option.map_some, Option.map_some,
      Option.some.injEq] at same
    exact fresh index _ listed ⟨earlier, before, _, known, same⟩

/-- **Settings are valid if nothing is wrong with them.** -/
theorem valid_iff (settings : Settings) :
    settings.Valid ↔ ∀ problem, ¬settings.Violates problem := by
  constructor
  · intro valid problem violation
    cases violation with
    | bindAddress unread => exact unread valid.bindAddress
    | requestTimeout zero => exact valid.requestTimeout zero
    | listedPath listed relative =>
      exact relative (valid.listedPaths _ (List.mem_of_getElem? listed))
    | remindInterval zero => exact valid.remindInterval zero
    | priorityVersion listed empty =>
      exact valid.priorityVersions _ (List.mem_of_getElem? listed) empty
    | priority listed recurs =>
      exact (nodup_iff_not_recurs _ _).mp valid.priorities _ _ listed recurs
    | backendGroup listed empty =>
      exact (valid.backendNames _ (List.mem_of_getElem? listed)).1 empty
    | backendVersion listed empty =>
      exact (valid.backendNames _ (List.mem_of_getElem? listed)).2.1 empty
    | backendService listed empty =>
      exact (valid.backendNames _ (List.mem_of_getElem? listed)).2.2 empty
    | backend listed recurs =>
      exact (nodup_iff_not_recurs _ _).mp valid.backends _ _ listed recurs
    | syncInterval zero => exact valid.syncInterval zero
    | storagePrefix relative => exact relative valid.storagePrefix
    | probeInterval zero => exact valid.probeInterval zero
    | probeTimeout zero => exact valid.probeTimeout zero
    | clientCertificate unpaired => exact unpaired valid.clientCertificate
    | mapping listed recurs =>
      exact (nodup_iff_not_recurs _ _).mp valid.mappings _ _ listed recurs
    | metricsAddress enabled unread => exact unread (valid.metricsAddress enabled)
  · intro sane
    constructor
    · exact not_not.mp fun unread => sane _ (.bindAddress unread)
    · exact fun enabled => not_not.mp fun unread => sane _ (.metricsAddress enabled unread)
    · exact fun zero => sane _ (.requestTimeout zero)
    · exact fun zero => sane _ (.remindInterval zero)
    · exact fun zero => sane _ (.syncInterval zero)
    · exact fun zero => sane _ (.probeInterval zero)
    · exact fun zero => sane _ (.probeTimeout zero)
    · intro path member
      obtain ⟨index, listed⟩ := List.mem_iff_getElem?.mp member
      exact not_not.mp fun relative => sane _ (.listedPath listed relative)
    · exact not_not.mp fun relative => sane _ (.storagePrefix relative)
    · intro entry member empty
      obtain ⟨index, listed⟩ := List.mem_iff_getElem?.mp member
      exact sane _ (.priorityVersion listed empty)
    · intro entry member
      obtain ⟨index, listed⟩ := List.mem_iff_getElem?.mp member
      exact ⟨fun empty => sane _ (.backendGroup listed empty),
        fun empty => sane _ (.backendVersion listed empty),
        fun empty => sane _ (.backendService listed empty)⟩
    · exact not_not.mp fun unpaired => sane _ (.clientCertificate unpaired)
    · exact (nodup_iff_not_recurs _ _).mpr fun _ _ listed recurs => sane _ (.priority listed recurs)
    · exact (nodup_iff_not_recurs _ _).mpr fun _ _ listed recurs => sane _ (.backend listed recurs)
    · exact (nodup_iff_not_recurs _ _).mpr fun _ _ listed recurs => sane _ (.mapping listed recurs)

/-! ### The problems that are found -/

theorem mem_whenever {condition : Prop} [Decidable condition] {problem found : Problem} :
    found ∈ whenever condition problem ↔ condition ∧ found = problem := by
  unfold whenever
  split
  · next holds => simp [holds]
  · next fails => simp [fails]

theorem isRooted_iff (text : String) : isRooted text = true ↔ FromRoot text := by
  unfold isRooted FromRoot
  rw [decide_eq_true_eq]
  constructor
  · intro first
    obtain ⟨below, shape⟩ : ∃ below, text.toList = '/' :: below := by
      cases chars : text.toList with
      | nil => simp [chars] at first
      | cons c below =>
        rw [chars, List.head?_cons, Option.some.injEq] at first
        exact ⟨below, by rw [first]⟩
    refine ⟨String.ofList below, String.toList_injective ?_⟩
    simp [shape]
  · rintro ⟨below, rfl⟩
    simp

/-- What is found in a list is found in one of its items, given those before it. -/
theorem mem_itemwise {α : Type} {rule : Nat → List α → α → List Problem} {start : Nat}
    {before items : List α} {problem : Problem} :
    problem ∈ itemwise rule start before items ↔
      ∃ index item, items[index]? = some item ∧
        problem ∈ rule (start + index) (before ++ items.take index) item := by
  induction items generalizing start before with
  | nil => simp [itemwise]
  | cons first rest ih =>
    have shifted (index : Nat) (item : α) :
        rule (start + (index + 1)) (before ++ (first :: rest).take (index + 1)) item =
          rule (start + 1 + index) (before ++ [first] ++ rest.take index) item := by
      rw [List.take_succ_cons, List.append_assoc, Nat.add_assoc, Nat.add_comm 1]
      rfl
    rw [itemwise, List.mem_append, ih]
    constructor
    · rintro (found | ⟨index, item, listed, found⟩)
      · exact ⟨0, first, rfl, by simpa using found⟩
      · exact ⟨index + 1, item, listed, shifted index item ▸ found⟩
    · rintro ⟨index, item, listed, found⟩
      cases index with
      | zero =>
        cases listed
        exact .inl (by simpa using found)
      | succ index => exact .inr ⟨index, item, listed, shifted index item ▸ found⟩

/-- A key recurs if one of the items before has it. -/
theorem recurs_iff {α β : Type} (key : α → β) (items : List α) (index : Nat) (item : α) :
    Recurs key items index item ↔ ∃ other ∈ items.take index, key other = key item := by
  unfold Recurs
  constructor
  · rintro ⟨earlier, before, other, known, same⟩
    refine ⟨other, List.mem_of_getElem? (i := earlier) ?_, same⟩
    rw [List.getElem?_take_of_lt before, known]
  · rintro ⟨other, member, same⟩
    obtain ⟨earlier, known⟩ := List.mem_iff_getElem?.mp member
    rw [List.getElem?_take] at known
    split at known
    · next before => exact ⟨earlier, before, other, known, same⟩
    · cases known

theorem mem_pathProblems (paths : List String) (problem : Problem) :
    problem ∈ itemwise pathProblems 0 [] paths ↔
      ∃ index path, paths[index]? = some path ∧ ¬FromRoot path ∧
        problem = .relativePath index path := by
  simp only [mem_itemwise, pathProblems, mem_whenever, isRooted_iff, Nat.zero_add]

theorem mem_priorityProblems (entries : List PriorityEntry) (problem : Problem) :
    problem ∈ itemwise priorityProblems 0 [] entries ↔
      ∃ index entry, entries[index]? = some entry ∧
        (entry.version = "" ∧ problem = .emptyPriorityVersion index ∨
          Recurs PriorityEntry.identity entries index entry ∧
            problem = .duplicatePriority index entry.group entry.version) := by
  simp only [mem_itemwise, priorityProblems, List.mem_append, mem_whenever, recurs_iff,
    PriorityEntry.identity, Identity.mk.injEq, Nat.zero_add, List.nil_append]

theorem mem_backendProblems (entries : List BackendEntry) (problem : Problem) :
    problem ∈ itemwise backendProblems 0 [] entries ↔
      ∃ index entry, entries[index]? = some entry ∧
        (entry.group = "" ∧ problem = .emptyBackendGroup index ∨
          entry.version = "" ∧ problem = .emptyBackendVersion index ∨
          entry.service = "" ∧ problem = .emptyBackendService index ∨
          Recurs BackendEntry.identity entries index entry ∧
            problem = .duplicateBackend index entry.group entry.version) := by
  simp only [mem_itemwise, backendProblems, List.mem_append, mem_whenever, recurs_iff,
    BackendEntry.identity, Identity.mk.injEq, Nat.zero_add, List.nil_append, or_assoc]

theorem mem_mappingProblems (mappings : List Mapping) (problem : Problem) :
    problem ∈ itemwise mappingProblems 0 [] mappings ↔
      ∃ index mapping, mappings[index]? = some mapping ∧
        Recurs Mapping.name mappings index mapping ∧
          problem = .duplicateMapping index mapping.name := by
  simp only [mem_itemwise, mappingProblems, mem_whenever, recurs_iff, Nat.zero_add,
    List.nil_append]

/-- **What is found is what is wrong.** -/
theorem mem_problems (settings : Settings) (problem : Problem) :
    problem ∈ settings.problems ↔ settings.Violates problem := by
  simp only [problems, List.mem_append, mem_whenever, mem_pathProblems, mem_priorityProblems,
    mem_backendProblems, mem_mappingProblems, isRooted_iff, or_assoc]
  constructor
  · rintro (⟨wrong, rfl⟩ | ⟨wrong, rfl⟩ | ⟨index, path, listed, wrong, rfl⟩ | ⟨wrong, rfl⟩ |
      ⟨index, entry, listed, ⟨wrong, rfl⟩ | ⟨wrong, rfl⟩⟩ |
      ⟨index, entry, listed, ⟨wrong, rfl⟩ | ⟨wrong, rfl⟩ | ⟨wrong, rfl⟩ | ⟨wrong, rfl⟩⟩ |
      ⟨wrong, rfl⟩ | ⟨wrong, rfl⟩ | ⟨wrong, rfl⟩ | ⟨wrong, rfl⟩ | ⟨wrong, rfl⟩ |
      ⟨index, mapping, listed, wrong, rfl⟩ | ⟨⟨enabled, wrong⟩, rfl⟩)
    · exact .bindAddress (by simpa [IsSocketAddress] using wrong)
    · exact .requestTimeout wrong
    · exact .listedPath listed wrong
    · exact .remindInterval wrong
    · exact .priorityVersion listed wrong
    · exact .priority listed wrong
    · exact .backendGroup listed wrong
    · exact .backendVersion listed wrong
    · exact .backendService listed wrong
    · exact .backend listed wrong
    · exact .syncInterval wrong
    · exact .storagePrefix wrong
    · exact .probeInterval wrong
    · exact .probeTimeout wrong
    · exact .clientCertificate wrong
    · exact .mapping listed wrong
    · exact .metricsAddress enabled (by simpa [IsSocketAddress] using wrong)
  · intro violation
    cases violation
    -- Of all the parts only that of the violation can hold its problem.
    all_goals simp only [reduceCtorEq, and_false, or_false, false_or, exists_false]
    case bindAddress unread => simpa [IsSocketAddress] using unread
    case requestTimeout zero => simpa using zero
    case listedPath listed relative => exact ⟨_, _, listed, relative, rfl⟩
    case remindInterval zero => simpa using zero
    case priorityVersion listed empty => exact ⟨_, _, listed, empty, rfl⟩
    case priority listed recurs => exact ⟨_, _, listed, recurs, rfl⟩
    case backendGroup listed empty => exact ⟨_, _, listed, empty, rfl⟩
    case backendVersion listed empty => exact ⟨_, _, listed, empty, rfl⟩
    case backendService listed empty => exact ⟨_, _, listed, empty, rfl⟩
    case backend listed recurs => exact ⟨_, _, listed, recurs, rfl⟩
    case syncInterval zero => simpa using zero
    case storagePrefix relative => simpa using relative
    case probeInterval zero => simpa using zero
    case probeTimeout zero => simpa using zero
    case clientCertificate unpaired => simpa using unpaired
    case mapping listed recurs => exact ⟨_, _, listed, recurs, rfl⟩
    case metricsAddress enabled unread =>
      simpa [IsSocketAddress] using And.intro enabled unread

/-! ### The order of the problems -/

/-- Where a problem stands in the schema: the section, the field of the section, and in a list the
item and the field of the item. What concerns an item as a whole stands behind its fields. -/
def Problem.place : Problem → List Nat
  | bindAddress _ => [0, 0]
  | zeroRequestTimeout => [0, 2]
  | relativePath index _ => [1, 0, index]
  | zeroRemindInterval => [2, 1]
  | emptyPriorityVersion index => [3, index, 1]
  | duplicatePriority index _ _ => [3, index, 4]
  | emptyBackendGroup index => [4, index, 0]
  | emptyBackendVersion index => [4, index, 1]
  | emptyBackendService index => [4, index, 2]
  | duplicateBackend index _ _ => [4, index, 5]
  | zeroSyncInterval => [5, 0]
  | relativeStoragePrefix => [5, 1]
  | zeroProbeInterval => [6, 1]
  | zeroProbeTimeout => [6, 2]
  | unpairedClientCertificate => [7, 6]
  | duplicateMapping index _ => [8, 0, index, 2]
  | metricsAddress _ => [9, 2]

/-- Problems in order, from a first place on and before a last one. -/
structure Between (first last : List Nat) (problems : List Problem) : Prop where
  forward : first ≤ last
  ordered : problems.Pairwise fun earlier later => earlier.place < later.place
  inside : ∀ problem ∈ problems, first ≤ problem.place ∧ problem.place < last

namespace Between

variable {first middle last : List Nat} {problems others : List Problem}

theorem nil (forward : first ≤ last) : Between first last [] :=
  ⟨forward, List.Pairwise.nil, fun _ member => absurd member List.not_mem_nil⟩

/-- What is found behind other problems follows them. -/
theorem append (front : Between first middle problems) (back : Between middle last others) :
    Between first last (problems ++ others) where
  forward := front.forward.trans back.forward
  ordered := by
    refine List.pairwise_append.mpr ⟨front.ordered, back.ordered, fun early found late behind => ?_⟩
    exact (front.inside early found).2.trans_le (back.inside late behind).1
  inside problem member := by
    rcases List.mem_append.mp member with found | behind
    · have bounds := front.inside problem found
      exact ⟨bounds.1, bounds.2.trans_le back.forward⟩
    · have bounds := back.inside problem behind
      exact ⟨front.forward.trans bounds.1, bounds.2⟩

theorem extend {later : List Nat} (between : Between first last problems) (behind : last < later) :
    Between first later problems where
  forward := between.forward.trans behind.le
  ordered := between.ordered
  inside problem member := by
    have bounds := between.inside problem member
    exact ⟨bounds.1, bounds.2.trans behind⟩

theorem whenever {condition : Prop} [Decidable condition] {problem : Problem}
    (own : problem.place = first) (before : first < last) :
    Between first last (whenever condition problem) where
  forward := before.le
  ordered := by
    unfold Settings.whenever
    split
    · exact List.pairwise_singleton _ _
    · exact List.Pairwise.nil
  inside found member := by
    rw [(mem_whenever.mp member).2, own]
    exact ⟨le_rfl, before⟩

/-- Problems of items are in the order of the items. -/
theorem itemwise {α : Type} (place : Nat → List Nat) {rule : Nat → List α → α → List Problem}
    (each : ∀ index before item, Between (place index) (place (index + 1)) (rule index before item))
    (start : Nat) (before items : List α) :
    Between (place start) (place (start + items.length)) (itemwise rule start before items) := by
  induction items generalizing start before with
  | nil => exact nil le_rfl
  | cons item rest ih =>
    have later := ih (start + 1) (before ++ [item])
    rw [Nat.add_assoc, Nat.add_comm 1] at later
    exact (each start before item).append later

end Between

theorem between_pathProblems (paths : List String) :
    Between [1, 0, 0] [2, 1] (itemwise pathProblems 0 [] paths) := by
  have each (index : Nat) (before : List String) (path : String) :
      Between [1, 0, index] [1, 0, index + 1] (pathProblems index before path) :=
    .whenever rfl (by simp [List.cons_lt_cons_iff])
  have inOrder := Between.itemwise (fun index => [1, 0, index]) each 0 [] paths
  exact inOrder.extend (by simp [List.cons_lt_cons_iff])

theorem between_priorityProblems (entries : List PriorityEntry) :
    Between [3, 0, 1] [4, 0, 0] (itemwise priorityProblems 0 [] entries) := by
  have each (index : Nat) (before : List PriorityEntry) (entry : PriorityEntry) :
      Between [3, index, 1] [3, index + 1, 1] (priorityProblems index before entry) := by
    have version : [3, index, 1] < [3, index, 4] := by simp [List.cons_lt_cons_iff]
    have whole : [3, index, 4] < [3, index + 1, 1] := by simp [List.cons_lt_cons_iff]
    exact .append (.whenever rfl version) (.whenever rfl whole)
  have inOrder := Between.itemwise (fun index => [3, index, 1]) each 0 [] entries
  exact inOrder.extend (by simp [List.cons_lt_cons_iff])

theorem between_backendProblems (entries : List BackendEntry) :
    Between [4, 0, 0] [5, 0] (itemwise backendProblems 0 [] entries) := by
  have each (index : Nat) (before : List BackendEntry) (entry : BackendEntry) :
      Between [4, index, 0] [4, index + 1, 0] (backendProblems index before entry) := by
    have group : [4, index, 0] < [4, index, 1] := by simp [List.cons_lt_cons_iff]
    have version : [4, index, 1] < [4, index, 2] := by simp [List.cons_lt_cons_iff]
    have service : [4, index, 2] < [4, index, 5] := by simp [List.cons_lt_cons_iff]
    have whole : [4, index, 5] < [4, index + 1, 0] := by simp [List.cons_lt_cons_iff]
    exact .append (.append (.append (.whenever rfl group) (.whenever rfl version))
      (.whenever rfl service)) (.whenever rfl whole)
  have inOrder := Between.itemwise (fun index => [4, index, 0]) each 0 [] entries
  exact inOrder.extend (by simp [List.cons_lt_cons_iff])

theorem between_mappingProblems (mappings : List Mapping) :
    Between [8, 0, 0, 2] [9, 2] (itemwise mappingProblems 0 [] mappings) := by
  have each (index : Nat) (before : List Mapping) (mapping : Mapping) :
      Between [8, 0, index, 2] [8, 0, index + 1, 2] (mappingProblems index before mapping) :=
    .whenever rfl (by simp [List.cons_lt_cons_iff])
  have inOrder := Between.itemwise (fun index => [8, 0, index, 2]) each 0 [] mappings
  exact inOrder.extend (by simp [List.cons_lt_cons_iff])

/-- **Problems are in the order of the schema.** -/
theorem between_problems (settings : Settings) : Between [0, 0] [10] settings.problems := by
  unfold problems
  refine .append (.append (.append (.append (.append (.append (.append (.append (.append (.append
    (.append (.append (.whenever rfl ?_) (.whenever rfl ?_)) (between_pathProblems _))
    (.whenever rfl ?_)) (between_priorityProblems _)) (between_backendProblems _))
    (.whenever rfl ?_)) (.whenever rfl ?_)) (.whenever rfl ?_)) (.whenever rfl ?_))
    (.whenever rfl ?_)) (between_mappingProblems _)) (.whenever rfl ?_)
  all_goals simp [Problem.place, List.cons_lt_cons_iff]

/-! ### The fields of the problems -/

namespace Problem

/-- What a problem is about: a field or a list, and in a list the index of the item and the field of
the item, if it is not the whole one. -/
def spot : Problem → String × Option (Nat × String)
  | bindAddress _ => ("listener.bind_address", none)
  | zeroRequestTimeout => ("listener.request_timeout_secs", none)
  | relativePath index _ => ("delegate.listed_paths", some (index, ""))
  | zeroRemindInterval => ("discovery.remind_interval_secs", none)
  | emptyPriorityVersion index => ("priorities", some (index, ".version"))
  | duplicatePriority index _ _ => ("priorities", some (index, ""))
  | emptyBackendGroup index => ("backends", some (index, ".group"))
  | emptyBackendVersion index => ("backends", some (index, ".version"))
  | emptyBackendService index => ("backends", some (index, ".service"))
  | duplicateBackend index _ _ => ("backends", some (index, ""))
  | zeroSyncInterval => ("registry.sync_interval_secs", none)
  | relativeStoragePrefix => ("registry.storage_prefix", none)
  | zeroProbeInterval => ("availability.interval_secs", none)
  | zeroProbeTimeout => ("availability.timeout_secs", none)
  | unpairedClientCertificate => ("transport.client_cert_path", none)
  | duplicateMapping index _ => ("name_mappings.mappings", some (index, ""))
  | metricsAddress _ => ("observability.metrics_address", none)

/-- An item as it is written behind its list. -/
def itemChars : Option (Nat × String) → List Char
  | none => []
  | some (index, own) => '[' :: (Nat.toDigits 10 index ++ ']' :: own.toList)

theorem toList_item (list : String) (index : Nat) :
    (item list index).toList = list.toList ++ '[' :: (Nat.toDigits 10 index ++ [']']) := by
  simp [item, Nat.repr_eq_ofList_toDigits]

theorem toList_field (problem : Problem) :
    problem.field.toList = problem.spot.1.toList ++ itemChars problem.spot.2 := by
  cases problem
  all_goals simp [field, spot, itemChars, toList_item]

/-- An item is read back from what is written: its index ends at the first closing bracket. -/
theorem itemChars_injective : Function.Injective itemChars := by
  rintro (_ | ⟨index, own⟩) (_ | ⟨other, its⟩) same
  · rfl
  · cases same
  · cases same
  · rw [itemChars, itemChars, List.cons.injEq] at same
    have bare (value : Nat) : ']' ∉ Nat.toDigits 10 value := fun member => by
      have digit := Text.isDigit_of_mem_toDigits value _ member
      revert digit
      decide
    have digits := congrArg (List.takeWhile (· ≠ ']')) same.2
    rw [Text.takeWhile_part (bare index) (.inr ⟨_, rfl⟩),
      Text.takeWhile_part (bare other) (.inr ⟨_, rfl⟩)] at digits
    have indices : index = other := by
      rw [← Text.digitsValue_toDigits index, digits, Text.digitsValue_toDigits]
    subst indices
    have rest := List.append_cancel_left same.2
    rw [List.cons.injEq] at rest
    rw [String.toList_injective rest.2]

/-- A field tells what its problem is about: its first bracket ends the name of the list. -/
theorem spot_of_field {first second : Problem} (same : first.field = second.field) :
    first.spot = second.spot := by
  have bare (problem : Problem) : '[' ∉ problem.spot.1.toList := by cases problem <;> simp [spot]
  have separated (problem : Problem) : itemChars problem.spot.2 = [] ∨
      ∃ rest, itemChars problem.spot.2 = '[' :: rest := by
    rcases problem.spot.2 with _ | ⟨index, own⟩
    · exact .inl rfl
    · exact .inr ⟨_, rfl⟩
  have chars := congrArg String.toList same
  rw [toList_field, toList_field] at chars
  have names := congrArg (List.takeWhile (· ≠ '[')) chars
  rw [Text.takeWhile_part (bare first) (separated first),
    Text.takeWhile_part (bare second) (separated second)] at names
  rw [names] at chars
  exact Prod.ext (String.toList_injective names)
    (itemChars_injective (List.append_cancel_left chars))

theorem place_of_spot {first second : Problem} (same : first.spot = second.spot) :
    first.place = second.place := by
  cases first <;> cases second <;> simp_all [spot, place]

/-- **A problem names its own place.** -/
theorem place_of_field {first second : Problem} (same : first.field = second.field) :
    first.place = second.place :=
  place_of_spot (spot_of_field same)

end Problem

/-! ### Validating -/

/-- The problems of settings. -/
structure Lists (settings : Settings) (problems : List Problem) : Prop where
  /-- There is one for each condition that is broken, and no other. -/
  exact : ∀ problem, problem ∈ problems ↔ settings.Violates problem
  /-- They are in the order of the schema and of the items in it. -/
  ordered : problems.Pairwise fun earlier later => earlier.place < later.place
  /-- No two of them name the same field. -/
  named : (problems.map Problem.field).Nodup

theorem lists_problems (settings : Settings) : settings.Lists settings.problems where
  exact := mem_problems settings
  ordered := (between_problems settings).ordered
  named := by
    rw [List.Nodup, List.pairwise_map]
    exact (between_problems settings).ordered.imp fun before same =>
      before.ne (Problem.place_of_field same)

/-- There is one list of the problems of settings. -/
theorem Lists.eq {settings : Settings} {problems others : List Problem}
    (lists : settings.Lists problems) (also : settings.Lists others) : problems = others := by
  have distinct {problems : List Problem} (lists : settings.Lists problems) : problems.Nodup :=
    lists.ordered.imp fun before same => absurd (congrArg Problem.place same) before.ne
  have reordered : problems.Perm others :=
    (List.perm_ext_iff_of_nodup (distinct lists) (distinct also)).mpr fun problem =>
      (lists.exact problem).trans (also.exact problem).symm
  exact reordered.eq_of_pairwise (fun first second _ _ before after => absurd before after.asymm)
    lists.ordered also.ordered

/-- **Validation is exact.** Settings are accepted, as they are, if they are valid. Others are
refused with the list of all that is wrong with them: one problem for each condition that is broken,
and one for each item with the key of an earlier one, in the order of the schema and of the items.
-/
theorem validate_exact (settings : Settings) :
    (settings.validate = .ok settings ↔ settings.Valid) ∧
      ∀ problems, settings.validate = .error problems ↔
        ¬settings.Valid ∧ settings.Lists problems := by
  have listed := lists_problems settings
  have nothing : settings.problems = [] ↔ settings.Valid := by
    rw [valid_iff, List.eq_nil_iff_forall_not_mem]
    exact forall_congr' fun problem => not_congr (listed.exact problem)
  unfold validate
  split
  · next none =>
    have valid : settings.Valid := nothing.mp none
    exact ⟨by simp [valid], fun problems => by simp [valid]⟩
  · next some =>
    have invalid : ¬settings.Valid := fun valid => some (nothing.mpr valid)
    refine ⟨by simp [invalid], fun problems => ?_⟩
    rw [Except.error.injEq]
    exact ⟨fun same => ⟨invalid, same ▸ listed⟩, fun lists => listed.eq lists.2⟩

/-- Of three entries with one key the first is none too many. -/
example : problems { priorities := [⟨"g", "v1", 100, 9⟩, ⟨"g", "v1", 200, 9⟩, ⟨"g", "", 100, 9⟩,
    ⟨"g", "v1", 100, 9⟩] } =
      [.duplicatePriority 1 "g" "v1", .emptyPriorityVersion 2, .duplicatePriority 3 "g" "v1"] := by
  decide +kernel

end Aggregation.Settings
