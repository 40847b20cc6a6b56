import EntityStore.Proofs.Json.Reading
/-!
# Units survive JSON

The text of a unit is read back as the unit.  So is every variant of it: the members of the unit
and of its storage in any order, with members under other names among them, without the settings
that are the usual ones, and with `null` for the path of a storage that has none.  A text that has
one of the unit's members twice is refused, and so is one with a file and no path.

Main statement: `json_round_trip`.  The reader looks members up by their keys, and what it finds
depends neither on their order (`field?_perm`) nor on the members under other keys.
-/

namespace EntityStore

/-! ## 1. Members under keys -/

namespace Json

variable {members members' : List (String × Json)} {key : String}

theorem field?_cons (k : String) (value : Json) (members : List (String × Json)) (key : String) :
    field? ((k, value) :: members) key =
      if k = key then
        match field? members key with
        | some none => some (some value)
        | _ => none
      else field? members key := by
  unfold field?
  by_cases h : k = key
  · simp only [List.filter_cons, h, beq_self_eq_true, if_true]
    cases members.filter (·.1 == key) with
    | nil => rfl
    | cons first rest => cases rest <;> rfl
  · simp [h]

theorem field?_eq_none (h : ∀ m ∈ members, m.1 ≠ key) : field? members key = some none := by
  have hnone : members.filter (·.1 == key) = [] := by
    rw [List.filter_eq_nil_iff]
    exact fun m hm => by simpa using h m hm
  rw [field?, hnone]

/-- Nothing is found under a key that two members have. -/
theorem field?_repeated (h : 2 ≤ members.countP (·.1 == key)) : field? members key = none := by
  rw [List.countP_eq_length_filter] at h
  unfold field?
  generalize members.filter (·.1 == key) = found at h ⊢
  match found with
  | [] => simp at h
  | [_] => simp at h
  | _ :: _ :: _ => rfl

/-- The order of members makes no difference. -/
theorem field?_perm (h : members.Perm members') (key : String) :
    field? members key = field? members' key := by
  rcases Nat.lt_or_ge (members.countP (·.1 == key)) 2 with hfew | hmany
  · have hfilter := h.filter (·.1 == key)
    rw [List.countP_eq_length_filter] at hfew
    unfold field?
    generalize members.filter (·.1 == key) = found at hfilter hfew ⊢
    match found with
    | [] => rw [hfilter.nil_eq]
    | [m] => rw [List.singleton_perm.mp hfilter]
    | _ :: _ :: _ => simp at hfew
  · rw [field?_repeated hmany, field?_repeated (h.countP_eq _ ▸ hmany)]

/-- Where there is a member, its value is found, or nothing if the key is there again. -/
theorem field?_of_mem {value : Json} (h : (key, value) ∈ members) :
    field? members key = some (some value) ∨ field? members key = none := by
  have hmem : (key, value) ∈ members.filter (·.1 == key) :=
    List.mem_filter.mpr ⟨h, beq_self_eq_true _⟩
  unfold field?
  generalize members.filter (·.1 == key) = found at hmem ⊢
  match found with
  | [] => cases hmem
  | [_] =>
    rw [← List.mem_singleton.mp hmem]
    exact .inl rfl
  | _ :: _ :: _ => exact .inr rfl

theorem mem_of_field? {value : Json} (h : field? members key = some (some value)) :
    (key, value) ∈ members := by
  unfold field? at h
  split at h
  · cases h
  · rename_i k v hfilter
    have hmem : (k, v) ∈ members.filter (·.1 == key) := by simp [hfilter]
    obtain ⟨hmem, hkey⟩ := List.mem_filter.mp hmem
    cases h
    rwa [← eq_of_beq hkey]
  · cases h

theorem keyed?_eq_some {object : List (Option String × Json)} (h : keyed? object = some members) :
    object = members.map fun m => (some m.1, m.2) := by
  induction object generalizing members with
  | nil =>
    cases h
    rfl
  | cons m object ih =>
    obtain ⟨key?, value⟩ := m
    cases key? with
    | none => cases h
    | some key =>
      obtain ⟨rest, hrest, rfl⟩ := Option.map_eq_some_iff.mp h
      rw [ih hrest]
      rfl

theorem mem_keyed? {object : List (Option String × Json)} (h : keyed? object = some members)
    {value : Json} : (some key, value) ∈ object ↔ (key, value) ∈ members := by
  rw [keyed?_eq_some h]
  simp

/-- The key and the value of a member. -/
def Member.entry (m : Member) : String × Json :=
  (m.key, m.value)

theorem keyed?_members (members : List Member) :
    keyed? (members.map fun m => (some m.key, m.value)) = some (members.map Member.entry) := by
  induction members with
  | nil => rfl
  | cons m members ih => simp [keyed?, ih, Member.entry]

/-- A member that is added to others: it has a name that they do not know, and any value. -/
structure Added (known : List String) (m : Member) : Prop where
  key : m.key ∉ known
  spelled : Spells m.text m.value

theorem field?_added {known : List String} {added : List Member} (h : ∀ m ∈ added, Added known m)
    (hkey : key ∈ known) : field? (added.map Member.entry) key = some none := by
  refine field?_eq_none fun entry hentry => ?_
  obtain ⟨m, hm, rfl⟩ := List.mem_map.mp hentry
  rintro rfl
  exact (h m hm).key hkey

theorem natural?_natural {n limit : Nat} (h : n ≤ limit) :
    natural? limit (.number (natural n)) = some n := by
  have hdigits : (natural n).all Char.isDigit = true :=
    List.all_eq_true.mpr fun c hc => isDigit_of_mem_natural hc
  have hvalue : Nat.ofDigitChars 10 (natural n) 0 = n :=
    Nat.ofDigitChars_toDigits (by omega) (Nat.le_refl 10)
  simp [natural?, hdigits, hvalue, h]

end Json

open Json

/-! ## 2. Storages -/

namespace Storage

def kindMember (s : Storage) : Member :=
  ⟨"kind", quote s.label.toList, .text s.label⟩

def pathMember (path : String) : Member :=
  ⟨"path", quote path.toList, .text path⟩

/-- The members of a storage. -/
def members (s : Storage) : List Member :=
  match s with
  | .file path => [s.kindMember, pathMember path]
  | _ => [s.kindMember]

/-- Members that stand for a storage: its own in any order, others among them, and `null` for a
path that it does not have. -/
inductive Variant (s : Storage) : List Member → Prop
  | intro {nulls added written : List Member} :
      (nulls = [] ∨ (∀ path, s ≠ .file path) ∧ nulls = [⟨"path", ['n', 'u', 'l', 'l'], .null⟩]) →
      (∀ m ∈ added, Added ["kind", "path"] m) →
      written.Perm (s.members ++ nulls ++ added) → Variant s written

theorem jsonText_eq (s : Storage) : s.jsonText = objectText s.members := by
  cases s <;> rfl

theorem variant_members (s : Storage) : s.Variant s.members :=
  .intro (.inl rfl) (fun _ hm => absurd hm List.not_mem_nil) (by simp)

theorem spells_members (s : Storage) : ∀ m ∈ s.members, Spells m.text m.value := by
  intro m hm
  cases s <;> simp only [members, kindMember, pathMember, List.mem_cons, List.not_mem_nil,
    or_false] at hm <;> rcases hm with rfl | rfl <;> exact .text _

theorem Variant.spells {s : Storage} {written : List Member} (h : s.Variant written) :
    ∀ m ∈ written, Spells m.text m.value := by
  cases h with
  | intro hnulls hadded hperm =>
    intro m hm
    rcases List.mem_append.mp (hperm.mem_iff.mp hm) with hm | hm
    · rcases List.mem_append.mp hm with hm | hm
      · exact s.spells_members m hm
      · rcases hnulls with rfl | ⟨-, rfl⟩
        · cases hm
        · rw [List.mem_singleton.mp hm]
          exact .null
    · exact (hadded m hm).spelled

/-- Each variant is read as the storage. -/
theorem Variant.ofJson? {s : Storage} {written : List Member} (h : s.Variant written) :
    Storage.ofJson? (objectValue written) = some s := by
  cases h with
  | @intro nulls added _ hnulls hadded hperm =>
    have hentries := hperm.map Member.entry
    have hkind : field? (added.map Member.entry) "kind" = some none := field?_added hadded (by simp)
    have hpath : field? (added.map Member.entry) "path" = some none := field?_added hadded (by simp)
    rw [objectValue, Storage.ofJson?, keyed?_members, Option.bind_some, Storage.ofMembers?,
      field?_perm hentries, field?_perm hentries]
    simp only [List.map_append]
    cases s with
    | memory =>
      rcases hnulls with rfl | ⟨-, rfl⟩ <;>
        simp [members, kindMember, Member.entry, field?_cons, hkind, hpath, case?, ofParts?, label]
    | sharedMemory =>
      rcases hnulls with rfl | ⟨-, rfl⟩ <;>
        simp [members, kindMember, Member.entry, field?_cons, hkind, hpath, case?, ofParts?, label]
    | file path =>
      rcases hnulls with rfl | ⟨hfile, -⟩
      · simp [members, kindMember, pathMember, Member.entry, field?_cons, hkind, hpath, case?,
          ofParts?, label, string?]
      · exact absurd rfl (hfile path)

end Storage

/-! ## 3. Units -/

theorem SchemaMode.ofLabel?_label (mode : SchemaMode) :
    SchemaMode.ofLabel? mode.label = some mode := by
  cases mode <;> rfl

namespace PersistenceUnit

variable {u : PersistenceUnit} {written : List Member}

/-- The keys of a unit's members. -/
def keys : List String :=
  ["name", "storage", "busy_timeout_ms", "foreign_keys", "schema_mode"]

def nameMember (u : PersistenceUnit) : Member :=
  ⟨"name", quote u.name.toList, .text u.name⟩

def storageMember (storage : List Member) : Member :=
  ⟨"storage", objectText storage, objectValue storage⟩

def timeoutMember (u : PersistenceUnit) : Member :=
  ⟨"busy_timeout_ms", natural u.busyTimeout, .number (natural u.busyTimeout)⟩

def foreignKeysMember (u : PersistenceUnit) : Member :=
  ⟨"foreign_keys", boolean u.foreignKeys, .bool u.foreignKeys⟩

def modeMember (u : PersistenceUnit) : Member :=
  ⟨"schema_mode", quote u.schemaMode.label.toList, .text u.schemaMode.label⟩

/-- The members of a unit, in the order in which they are written. -/
def members (u : PersistenceUnit) : List Member :=
  [u.nameMember, storageMember u.storage.members, u.timeoutMember, u.foreignKeysMember,
    u.modeMember]

theorem jsonText_eq (u : PersistenceUnit) : u.jsonText = objectText u.members := by
  simp only [jsonText, Storage.jsonText_eq]
  rfl

/-- A setting is there, unless it is the usual one. -/
def Optional (usual : Prop) (m : Member) (written : List Member) : Prop :=
  written = [m] ∨ usual ∧ written = []

namespace Optional

variable {usual : Prop} {m : Member} {key : String} {rest : List Member}

theorem spells (h : Optional usual m written) (hm : Spells m.text m.value) :
    ∀ x ∈ written, Spells x.text x.value := by
  rcases h with rfl | ⟨-, rfl⟩
  · simpa using hm
  · simp

theorem field?_of_ne (h : Optional usual m written) (hkey : m.key ≠ key) (rest : List Member) :
    field? ((written ++ rest).map Member.entry) key = field? (rest.map Member.entry) key := by
  rcases h with rfl | ⟨-, rfl⟩
  · exact (field?_cons m.key m.value _ key).trans (if_neg hkey)
  · rfl

/-- A setting that is not there is read as the usual one. -/
theorem orElse? {α : Type} {read : Json → Option α} {missing value : α}
    (h : Optional usual m written) (hrest : field? (rest.map Member.entry) m.key = some none)
    (hread : read m.value = some value) (husual : usual → missing = value) :
    ∃ found, field? ((written ++ rest).map Member.entry) m.key = some found ∧
      Json.orElse? read missing found = some value := by
  rcases h with rfl | ⟨husual', rfl⟩
  · refine ⟨some m.value, ?_, hread⟩
    have hcons := field?_cons m.key m.value (rest.map Member.entry) m.key
    rw [if_pos rfl, hrest] at hcons
    exact hcons
  · exact ⟨none, hrest, congrArg some (husual husual')⟩

end Optional

/-- The settings of a unit, without some that are the usual ones, and other members after them. -/
inductive Settings (u : PersistenceUnit) : List Member → Prop
  | intro {timeout foreignKeys mode added : List Member} :
      Optional (u.busyTimeout = defaultTimeout) u.timeoutMember timeout →
      Optional (u.foreignKeys = true) u.foreignKeysMember foreignKeys →
      Optional (u.schemaMode = .create) u.modeMember mode →
      (∀ m ∈ added, Added keys m) → Settings u (timeout ++ (foreignKeys ++ (mode ++ added)))

namespace Settings

variable {settings : List Member}

theorem spells (h : Settings u settings) : ∀ m ∈ settings, Spells m.text m.value := by
  cases h with
  | intro htimeout hkeys hmode hadded =>
    intro m hm
    simp only [List.mem_append] at hm
    rcases hm with hm | hm | hm | hm
    · exact htimeout.spells (.integer u.busyTimeout) m hm
    · exact hkeys.spells (.boolean u.foreignKeys) m hm
    · exact hmode.spells (.text u.schemaMode.label) m hm
    · exact (hadded m hm).spelled

/-- Name and storage are no settings. -/
theorem field?_eq_none (h : Settings u settings) {key : String}
    (hkey : key = "name" ∨ key = "storage") :
    field? (settings.map Member.entry) key = some none := by
  cases h with
  | intro htimeout hkeys hmode hadded =>
    have hother : "busy_timeout_ms" ≠ key ∧ "foreign_keys" ≠ key ∧ "schema_mode" ≠ key ∧
        key ∈ keys := by
      rcases hkey with rfl | rfl <;> decide
    rw [htimeout.field?_of_ne hother.1, hkeys.field?_of_ne hother.2.1,
      hmode.field?_of_ne hother.2.2.1]
    exact field?_added hadded hother.2.2.2

theorem timeout (h : Settings u settings) (hu : u.busyTimeout ≤ maxTimeout) :
    ∃ found, field? (settings.map Member.entry) "busy_timeout_ms" = some found ∧
      Json.orElse? (natural? maxTimeout) defaultTimeout found = some u.busyTimeout := by
  cases h with
  | @intro _ foreignKeys mode added htimeout hkeys hmode hadded =>
    refine htimeout.orElse? ?_ (natural?_natural hu) Eq.symm
    calc field? ((foreignKeys ++ (mode ++ added)).map Member.entry) "busy_timeout_ms"
        = field? ((mode ++ added).map Member.entry) "busy_timeout_ms" :=
          hkeys.field?_of_ne (show "foreign_keys" ≠ "busy_timeout_ms" by decide) _
      _ = field? (added.map Member.entry) "busy_timeout_ms" :=
          hmode.field?_of_ne (show "schema_mode" ≠ "busy_timeout_ms" by decide) _
      _ = some none := field?_added hadded (by simp [keys])

theorem foreignKeys (h : Settings u settings) :
    ∃ found, field? (settings.map Member.entry) "foreign_keys" = some found ∧
      Json.orElse? bool? true found = some u.foreignKeys := by
  cases h with
  | @intro _ foreignKeys mode added htimeout hkeys hmode hadded =>
    rw [htimeout.field?_of_ne (show "busy_timeout_ms" ≠ "foreign_keys" by decide)]
    refine hkeys.orElse? ?_ rfl Eq.symm
    exact (hmode.field?_of_ne (show "schema_mode" ≠ "foreign_keys" by decide) _).trans
      (field?_added hadded (by simp [keys]))

theorem mode (h : Settings u settings) :
    ∃ found, field? (settings.map Member.entry) "schema_mode" = some found ∧
      Json.orElse? (fun mode => mode.case?.bind SchemaMode.ofLabel?) .create found =
        some u.schemaMode := by
  cases h with
  | intro htimeout hkeys hmode hadded =>
    rw [htimeout.field?_of_ne (show "busy_timeout_ms" ≠ "schema_mode" by decide),
      hkeys.field?_of_ne (show "foreign_keys" ≠ "schema_mode" by decide)]
    exact hmode.orElse? (field?_added hadded (by simp [keys, modeMember]))
      u.schemaMode.ofLabel?_label Eq.symm

end Settings

/-- Members that stand for a unit: its name, its storage, its settings and other members, in any
order. -/
inductive Variant (u : PersistenceUnit) : List Member → Prop
  | intro {storage settings written : List Member} : u.storage.Variant storage →
      Settings u settings → written.Perm (u.nameMember :: storageMember storage :: settings) →
      Variant u written

theorem variant_members (u : PersistenceUnit) : u.Variant u.members :=
  .intro u.storage.variant_members
    (.intro (.inl rfl) (.inl rfl) (.inl rfl) fun _ hm => absurd hm List.not_mem_nil) (.refl _)

theorem Variant.spells (h : u.Variant written) : ∀ m ∈ written, Spells m.text m.value := by
  cases h with
  | intro hstorage hsettings hperm =>
    intro m hm
    rcases List.mem_cons.mp (hperm.mem_iff.mp hm) with rfl | hm
    · exact .text u.name
    rcases List.mem_cons.mp hm with rfl | hm
    · exact .object hstorage.spells
    · exact hsettings.spells m hm

/-- Each variant is read as the unit. -/
theorem Variant.ofValue? (h : u.Variant written) (hu : u.busyTimeout ≤ maxTimeout) :
    PersistenceUnit.ofValue? (objectValue written) = some u := by
  cases h with
  | @intro storage settings _ hstorage hsettings hperm =>
    have hentries := hperm.map Member.entry
    obtain ⟨timeout, htimeout, hreadTimeout⟩ := hsettings.timeout hu
    obtain ⟨foreignKeys, hkeys, hreadKeys⟩ := hsettings.foreignKeys
    obtain ⟨mode, hmode, hreadMode⟩ := hsettings.mode
    have hname := hsettings.field?_eq_none (.inl rfl)
    have hstored := hsettings.field?_eq_none (.inr rfl)
    rw [objectValue, PersistenceUnit.ofValue?, keyed?_members, Option.bind_some,
      PersistenceUnit.ofMembers?]
    simp only [field?_perm hentries, List.map_cons, Member.entry, nameMember, storageMember,
      field?_cons]
    simp [hname, hstored, htimeout, hkeys, hmode, ofParts?, string?, hstorage.ofJson?,
      hreadTimeout, hreadKeys, hreadMode]

/-- Each variant of a unit is read as the unit. -/
theorem Variant.ofJson? (h : u.Variant written) (hu : u.busyTimeout ≤ maxTimeout) :
    PersistenceUnit.ofJson? (String.ofList (objectText written)) = some u := by
  rw [PersistenceUnit.ofJson?, read?_of_spells (.object h.spells), Option.bind_some, h.ofValue? hu]

/-! ## 4. Refused texts -/

variable {text : String} {object storage : List (Option String × Json)} {key : String}

/-- A unit is not read where one of its keys stands for nothing. -/
theorem ofMembers?_eq_none {members : List (String × Json)} (hkey : key ∈ keys)
    (hnone : field? members key = none) : ofMembers? members = none := by
  unfold ofMembers?
  simp only [keys, List.mem_cons, List.not_mem_nil, or_false] at hkey
  rcases hkey with rfl | rfl | rfl | rfl | rfl <;> simp [hnone]

/-- An object that has one of the unit's members twice is refused. -/
theorem ofJson?_repeated (htext : read? text = some (.object object)) (hkey : key ∈ keys)
    (htwice : 2 ≤ object.countP (·.1 == some key)) : ofJson? text = none := by
  rw [ofJson?, htext, Option.bind_some, ofValue?, Option.bind_eq_none_iff]
  intro members hmembers
  refine ofMembers?_eq_none hkey (field?_repeated ?_)
  rw [keyed?_eq_some hmembers, List.countP_map] at htwice
  simpa [Function.comp_def] using htwice

/-- A file without a path, or with `null` in its place, is no storage. -/
theorem storage_without_path {kind : Json} (hkind : (some "kind", kind) ∈ storage)
    (hfile : kind.case? = some "file")
    (hpath : ∀ path, (some "path", path) ∈ storage → path = .null) :
    Storage.ofJson? (.object storage) = none := by
  rw [Storage.ofJson?, Option.bind_eq_none_iff]
  intro members hmembers
  simp only [mem_keyed? hmembers] at hkind hpath
  have hnothing : ∀ path, field? members "path" = some path →
      Storage.ofParts? "file" path = none := by
    intro path hfound
    cases path with
    | none => rfl
    | some path =>
      rw [hpath path (mem_of_field? hfound)]
      rfl
  unfold Storage.ofMembers?
  split
  · rename_i kind' path hkind' hpath'
    rcases field?_of_mem hkind with hfound | hfound
    · rw [hfound] at hkind'
      cases hkind'
      simp [hfile, hnothing path hpath']
    · rw [hfound] at hkind'
      cases hkind'
  · rfl

/-- An object with a file and no path is refused. -/
theorem ofJson?_without_path {kind : Json} (htext : read? text = some (.object object))
    (hstorage : (some "storage", .object storage) ∈ object) (hkind : (some "kind", kind) ∈ storage)
    (hfile : kind.case? = some "file")
    (hpath : ∀ path, (some "path", path) ∈ storage → path = .null) :
    ofJson? text = none := by
  rw [ofJson?, htext, Option.bind_some, ofValue?, Option.bind_eq_none_iff]
  intro members hmembers
  have hnone := storage_without_path hkind hfile hpath
  rcases field?_of_mem ((mem_keyed? hmembers).mp hstorage) with hfound | hfound
  · unfold ofMembers?
    split
    · rename_i hstored _ _ _
      rw [hfound] at hstored
      cases hstored
      simp [ofParts?, hnone]
    · rfl
  · exact ofMembers?_eq_none (by simp [keys]) hfound

/-! ## 5. Round trip -/

/-- **Units survive JSON.**  The text of a unit is read back as the unit, and so is every variant of
it.  Refused is every text that has one of the unit's members twice, or a file and no path. -/
theorem json_round_trip (u : PersistenceUnit) (hu : u.busyTimeout ≤ maxTimeout) :
    ofJson? u.toJson = some u ∧
    (∀ written, u.Variant written → ofJson? (String.ofList (objectText written)) = some u) ∧
    (∀ text object key, read? text = some (.object object) → key ∈ keys →
      2 ≤ object.countP (·.1 == some key) → ofJson? text = none) ∧
    (∀ text object storage kind, read? text = some (.object object) →
      (some "storage", .object storage) ∈ object → (some "kind", kind) ∈ storage →
      kind.case? = some "file" → (∀ path, (some "path", path) ∈ storage → path = .null) →
      ofJson? text = none) := by
  refine ⟨?_, fun written h => h.ofJson? hu, ?_, ?_⟩
  · rw [toJson, jsonText_eq]
    exact u.variant_members.ofJson? hu
  · exact fun _ _ _ htext hkey htwice => ofJson?_repeated htext hkey htwice
  · exact fun _ _ _ _ htext hstorage hkind hfile hpath =>
      ofJson?_without_path htext hstorage hkind hfile hpath

/-- The members of a unit in another order: the usual settings are left out, an unknown member
stands first, and the path of shared memory is `null`. -/
def shopMembers : List Member :=
  [⟨"size", integer (-5), .number (integer (-5))⟩,
    storageMember [⟨"path", ['n', 'u', 'l', 'l'], .null⟩, Storage.sharedMemory.kindMember],
    nameMember (.new "shop" .sharedMemory)]

theorem json_round_trip_shop :
    String.ofList (objectText shopMembers) =
      "\x7b\"size\":-5,\"storage\":\x7b\"path\":null,\"kind\":\"shared_memory\"\x7d," ++
        "\"name\":\"shop\"\x7d" ∧
    ofJson? (String.ofList (objectText shopMembers)) = some (.new "shop" .sharedMemory) := by
  have hstorage : Storage.sharedMemory.Variant
      [⟨"path", ['n', 'u', 'l', 'l'], .null⟩, Storage.sharedMemory.kindMember] :=
    .intro (.inr ⟨fun _ => Storage.noConfusion, rfl⟩) (fun _ hm => absurd hm List.not_mem_nil)
      (.swap _ _ _)
  have hadded : ∀ m ∈ [(⟨"size", integer (-5), .number (integer (-5))⟩ : Member)],
      Added keys m := by
    intro m hm
    rw [List.mem_singleton.mp hm]
    exact ⟨by decide, .integer (-5)⟩
  have hsettings : Settings (.new "shop" .sharedMemory)
      ([] ++ ([] ++ ([] ++ [⟨"size", integer (-5), .number (integer (-5))⟩]))) :=
    .intro (.inr ⟨rfl, rfl⟩) (.inr ⟨rfl, rfl⟩) (.inr ⟨rfl, rfl⟩) hadded
  have hvariant : (PersistenceUnit.new "shop" .sharedMemory).Variant shopMembers :=
    .intro hstorage hsettings (List.reverse_perm [_, _, _])
  exact ⟨by decide +kernel,
    (json_round_trip (.new "shop" .sharedMemory) (by decide)).2.1 _ hvariant⟩

end PersistenceUnit

end EntityStore
