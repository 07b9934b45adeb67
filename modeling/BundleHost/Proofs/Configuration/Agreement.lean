import BundleHost.Proofs.Configuration.Part
import BundleHost.Proofs.Settings.Accepted

/-!
# Sections and settings by name

A section of a document that gives values to scalar options comes to the same as setting these
options by name one after the other, in whatever order: both succeed in the same cases and with the
same settings. Nulls and keys that name nothing make no difference.

## Main statements

* `exists_setAll_iff` — which values can be set one after the other.
* `Gives.decode_eq_ok_iff` — a section is read as what setting its values results in.
* `section_agrees` — the same for configurations.
-/

namespace BundleHost

open SettingsKind OptionFamily Settings

variable {kind : SettingsKind}

/-! ## Setting one option after the other -/

namespace Settings

/-- Sets options by name one after the other. -/
def setAll (settings : kind.Settings) (given : List (String × OptionValue)) :
    Except ConfigError kind.Settings :=
  given.foldlM (fun settings entry => set settings entry.1 entry.2) settings

end Settings

/-- Reads what a place is set to. -/
def Place.readValue : (p : Place kind) → OptionValue → Except ConfigError p.Held
  | .scalar o, value => (reading o value).map some
  | .collection c, _ => .error (.unknownOption c.name)

theorem fillsPlaces_set : FillsPlaces (Place.isScalar : Place kind → Bool) Place.readValue set := by
  intro p scalar settings value
  cases p with
  | collection c => cases scalar
  | scalar o =>
    rw [Place.name, set_name, Place.readValue]
    cases reading o value with
    | error _ => rfl
    | ok x => exact congrArg Except.ok (assign_eq settings o x)

namespace Settings

theorem setAll_eq_ok_iff {given : List (String × OptionValue)} (nodup : (Entries.keys given).Nodup)
    (named : ∀ entry ∈ given, ∃ o : kind.ScalarOption, OptionFamily.name o = entry.1)
    {before after : kind.Settings} :
    setAll before given = .ok after ↔ ∀ p, HeldAfter Place.readValue before after p
      (if p.isScalar then Entries.lookup? p.name given else none) := by
  refine fillsPlaces_set.foldlM_eq_ok_iff nodup fun entry mem unnamed => ?_
  obtain ⟨o, same⟩ := named entry mem
  exact absurd same (unnamed (.scalar o) rfl)

/-- Whether an option can be set does not depend on what was set before. -/
theorem exists_set_iff (settings other : kind.Settings) (name : String) (value : OptionValue) :
    (∃ after, set settings name value = .ok after) ↔ ∃ after, set other name value = .ok after := by
  rw [set_eq, set_eq]
  cases kind.option? name with
  | none => simp
  | some o => cases read : reading o value <;> simp [read, Except.map]

theorem exists_setAll_iff (given : List (String × OptionValue)) (settings : kind.Settings) :
    (∃ after, setAll settings given = .ok after) ↔
      ∀ entry ∈ given, ∃ after, set (empty : kind.Settings) entry.1 entry.2 = .ok after := by
  induction given generalizing settings with
  | nil => exact ⟨fun _ => nofun, fun _ => ⟨settings, rfl⟩⟩
  | cons entry rest ih =>
    rw [List.forall_mem_cons, ← exists_set_iff settings empty]
    simp only [setAll, List.foldlM_cons, Decoder.bind_eq_ok_iff]
    constructor
    · rintro ⟨after, between, first, later⟩
      exact ⟨⟨between, first⟩, (ih between).mp ⟨after, later⟩⟩
    · rintro ⟨⟨between, first⟩, later⟩
      obtain ⟨after, later⟩ := (ih between).mpr later
      exact ⟨after, between, first, later⟩

end Settings

/-! ## Sections -/

/-- The values that the entries of a section give. Besides there may be nulls of scalar options and
keys that name nothing. Members of vocabularies are not given by their codes. -/
inductive Gives (kind : SettingsKind) :
    List (String × Document) → List (String × OptionValue) → Prop where
  | nil : Gives kind [] []
  | value {entries : List (String × Document)} {given : List (String × OptionValue)}
    (o : kind.ScalarOption) (value : OptionValue)
    (uncoded : ∀ v n, type o = .choice v → value ≠ .int n) (rest : Gives kind entries given) :
    Gives kind ((OptionFamily.name o, value.encode) :: entries)
      ((OptionFamily.name o, value) :: given)
  | null {entries : List (String × Document)} {given : List (String × OptionValue)}
    (o : kind.ScalarOption) (rest : Gives kind entries given) :
    Gives kind ((OptionFamily.name o, .null) :: entries) given
  | unknown {entries : List (String × Document)} {given : List (String × OptionValue)}
    {key : String} (unnamed : key ∉ namesInOrder kind) (document : Document)
    (rest : Gives kind entries given) :
    Gives kind ((key, document) :: entries) given

/-- What is found for a place among the entries of a section, and what among the values given. -/
inductive GivenAs : Place kind → Option Document → Option OptionValue → Prop where
  | value (o : kind.ScalarOption) (value : OptionValue)
    (uncoded : ∀ v n, type o = .choice v → value ≠ .int n) :
    GivenAs (.scalar o) (some value.encode) (some value)
  | null (o : kind.ScalarOption) : GivenAs (.scalar o) (some .null) none
  | absent (p : Place kind) : GivenAs p none none

theorem Gives.named {entries : List (String × Document)} {given : List (String × OptionValue)}
    (gives : Gives kind entries given) :
    ∀ entry ∈ given, ∃ o : kind.ScalarOption, OptionFamily.name o = entry.1 := by
  induction gives with
  | nil => nofun
  | value o value uncoded rest ih => exact List.forall_mem_cons.mpr ⟨⟨o, rfl⟩, ih⟩
  | null o rest ih => exact ih
  | unknown unnamed document rest ih => exact ih

theorem Gives.sublist {entries : List (String × Document)} {given : List (String × OptionValue)}
    (gives : Gives kind entries given) :
    (Entries.keys given).Sublist (Entries.keys entries) := by
  induction gives with
  | nil => exact .slnil
  | value o value uncoded rest ih => exact ih.cons_cons _
  | null o rest ih => exact ih.cons _
  | unknown unnamed document rest ih => exact ih.cons _

theorem Gives.givenAs {entries : List (String × Document)} {given : List (String × OptionValue)}
    (gives : Gives kind entries given) (nodup : (Entries.keys entries).Nodup) (p : Place kind) :
    GivenAs p (Entries.lookup? p.name entries) (Entries.lookup? p.name given) := by
  induction gives with
  | nil => exact .absent p
  | @value entries given o value uncoded rest ih =>
    obtain ⟨fresh, nodup⟩ := List.nodup_cons.mp nodup
    by_cases same : OptionFamily.name o = p.name
    · obtain rfl : p = .scalar o := Place.name_injective same.symm
      rw [Place.name, Entries.lookup?_cons_self, Entries.lookup?_cons_self]
      exact .value o value uncoded
    · rw [Entries.lookup?_cons_of_ne same, Entries.lookup?_cons_of_ne same]
      exact ih nodup
  | @null entries given o rest ih =>
    obtain ⟨fresh, nodup⟩ := List.nodup_cons.mp nodup
    by_cases same : OptionFamily.name o = p.name
    · obtain rfl : p = .scalar o := Place.name_injective same.symm
      have absent : Entries.lookup? (OptionFamily.name o) given = none :=
        Entries.lookup?_eq_none_iff.mpr fun mem => fresh (rest.sublist.subset mem)
      rw [Place.name, Entries.lookup?_cons_self, absent]
      exact .null o
    · rw [Entries.lookup?_cons_of_ne same]
      exact ih nodup
  | unknown unnamed document rest ih =>
    have other : _ ≠ p.name := fun same => unnamed (Place.mem_namesInOrder.mpr ⟨p, same.symm⟩)
    rw [Entries.lookup?_cons_of_ne other]
    exact ih (List.nodup_cons.mp nodup).2

theorem ok_iff_some {α : Type} {x y : α} :
    (Except.ok y : Except DecodeError α) = .ok x ↔ some y = some x := by
  simp

theorem error_iff_none {α : Type} {error : DecodeError} {x : α} :
    Except.error error = .ok x ↔ none = some x := by
  simp

/-- Documents and option values mean the same, codes of members excepted. -/
theorem ScalarType.decode_value_eq_ok_iff {t : ScalarType} {value : OptionValue}
    (uncoded : ∀ v n, t = .choice v → value ≠ .int n) {x : t.Value} :
    t.decode value.encode = .ok x ↔ t.ofOptionValue? value = some x := by
  cases t with
  | flag =>
    cases value with
    | bool b => exact ok_iff_some
    | _ => exact error_iff_none
  | count =>
    cases value with
    | int n =>
      change (Decoder.natBelow UInt32.size (.int n) >>= fun n => .ok (UInt32.ofNat n)) = .ok x ↔ _
      rw [ScalarType.ofOptionValue?, Decoder.natBelow]
      split
      next => exact ok_iff_some
      next => exact error_iff_none
    | _ => exact error_iff_none
  | text =>
    cases value with
    | text s => exact ok_iff_some
    | _ => exact error_iff_none
  | choice v =>
    cases value with
    | text s =>
      change Enumeration.read s = .ok x ↔ Enumeration.ofName? s = some x
      rw [Enumeration.read]
      cases (Enumeration.ofName? s : Option v.Member) <;> simp
    | int n => exact absurd rfl (uncoded v n rfl)
    | bool _ => exact error_iff_none

/-- A place that is given a value as a document holds what it is set to by name. -/
theorem Place.read_scalar (o : kind.ScalarOption) (value : OptionValue)
    (uncoded : ∀ v n, type o = .choice v → value ≠ .int n) (x : Option (Value o)) :
    Place.read (.scalar o) value.encode = .ok x ↔ Place.readValue (.scalar o) value = .ok x := by
  have decoded : Place.read (.scalar o) value.encode = ((type o).decode value.encode).map some := by
    cases o <;> cases value <;> rfl
  rw [decoded, Place.readValue, Decoder.map_eq_ok_iff, Decoder.map_eq_ok_iff]
  refine exists_congr fun y => and_congr_left fun _ => ?_
  rw [ScalarType.decode_value_eq_ok_iff uncoded, reading_eq_ok_iff, ofOptionValue?_eq_some_iff]

theorem GivenAs.readAt_iff {p : Place kind} {document : Option Document}
    {value : Option OptionValue} (given : GivenAs p document value) {after : kind.Settings} :
    p.readAt document = .ok (held after p) ↔
      HeldAfter Place.readValue empty after p (if p.isScalar then value else none) := by
  cases given with
  | value o value uncoded => exact Place.read_scalar o value uncoded _
  | null o =>
    have unset : held (empty : kind.Settings) (.scalar o) = none := by
      cases kind <;> cases o <;> rfl
    have read : Place.read (.scalar o) .null = .ok none := by cases o <;> rfl
    change Place.read (.scalar o) .null = .ok _ ↔ held after (.scalar o) = _
    rw [read, unset, Except.ok.injEq, eq_comm]
  | absent p =>
    rw [ite_self, Place.readAt, HeldAfter, Except.ok.injEq, eq_comm]

section Sections

variable {entries : List (String × Document)} {given : List (String × OptionValue)}

/-- A section is read as what setting its values results in. -/
theorem Gives.decode_eq_ok_iff (gives : Gives kind entries given)
    (nodup : (Entries.keys entries).Nodup) {settings : kind.Settings} :
    Settings.decode (.table entries) = .ok settings ↔ setAll empty given = .ok settings := by
  rw [Settings.decode_table_eq_ok_iff nodup,
    setAll_eq_ok_iff (nodup.sublist gives.sublist) gives.named]
  exact forall_congr' fun p => (gives.givenAs nodup p).readAt_iff

/-- The order in which options are set makes no difference. -/
theorem Gives.setAll_perm (gives : Gives kind entries given)
    (nodup : (Entries.keys entries).Nodup) {order : List (String × OptionValue)}
    (perm : order.Perm given) {settings : kind.Settings} :
    setAll empty order = .ok settings ↔ setAll empty given = .ok settings := by
  have nodup : (Entries.keys given).Nodup := nodup.sublist gives.sublist
  have nodup' : (Entries.keys order).Nodup := (perm.map Prod.fst).nodup_iff.mpr nodup
  have named := gives.named
  rw [setAll_eq_ok_iff nodup named,
    setAll_eq_ok_iff nodup' fun entry mem => named entry (perm.mem_iff.mp mem)]
  simp only [Entries.lookup?_perm perm nodup']

/-- Exactly the options that were given a value are set. -/
theorem isSet_of_setAll (nodup : (Entries.keys given).Nodup)
    (named : ∀ entry ∈ given, ∃ o : kind.ScalarOption, OptionFamily.name o = entry.1)
    {settings : kind.Settings} (done : setAll empty given = .ok settings) (o : kind.ScalarOption) :
    isSet settings (OptionFamily.name o) =
      .ok (decide (OptionFamily.name o ∈ Entries.keys given)) := by
  have holds := (setAll_eq_ok_iff nodup named).mp done (.scalar o)
  rw [isSet_eq, SettingsKind.option?, ofName?_name]
  refine congrArg Except.ok ?_
  change (held settings (.scalar o)).isSome = _
  simp only [Place.isScalar, if_true, Place.name] at holds
  cases found : Entries.lookup? (OptionFamily.name o) given with
  | none =>
    have unset : held (empty : kind.Settings) (.scalar o) = none := by
      cases kind <;> cases o <;> rfl
    rw [found, HeldAfter, unset] at holds
    simp [holds, Entries.lookup?_eq_none_iff.mp found]
  | some value =>
    rw [found, HeldAfter, Place.readValue, Decoder.map_eq_ok_iff] at holds
    obtain ⟨x, _, held⟩ := holds
    have mem := Entries.mem_keys_of_mem (Entries.mem_of_lookup? found)
    simp [← held, mem]

end Sections

/-! ## Configurations -/

namespace Configuration

/-- A table with the section of one part and without that of the other. Further keys may be there,
but no key twice. -/
structure HasOnly (part : Part) (root entries : List (String × Document)) : Prop where
  nodup : (Entries.keys root).Nodup
  mem : (part.name, .table entries) ∈ root
  alone : ∀ other : Part, other ≠ part → other.name ∉ Entries.keys root

theorem HasOnly.decode_eq_ok_iff {part : Part} {root entries : List (String × Document)}
    (only : HasOnly part root entries) {configuration : Configuration} :
    decode (.table root) = .ok configuration ↔
      Settings.decode (.table entries) = .ok (configuration.settings part) ∧
      ∀ other : Part, other ≠ part → configuration.settings other = empty := by
  have here : Entries.lookup? part.name root = some (.table entries) :=
    (Entries.lookup?_eq_some_iff only.nodup).mpr only.mem
  have there : ∀ other : Part, other ≠ part → Entries.lookup? other.name root = none :=
    fun other ne => Entries.lookup?_eq_none_iff.mpr (only.alone other ne)
  rw [decode_table_eq_ok_iff only.nodup]
  constructor
  · intro reads
    refine ⟨?_, fun other ne => ?_⟩
    · have read := reads part
      rwa [here] at read
    · have read := reads other
      rw [there other ne] at read
      exact (Except.ok.inj read).symm
  · rintro ⟨read, blank⟩ other
    by_cases same : other = part
    · subst same
      rwa [here]
    · rw [there other same, blank other same]
      rfl

/-- A section whose entries give values to scalar options is accepted if every value can be set on
its own, and is then what setting them in any order results in. -/
theorem section_agrees {part : Part} {root entries : List (String × Document)}
    {given : List (String × OptionValue)} (only : HasOnly part root entries)
    (nodup : (Entries.keys entries).Nodup) (gives : Gives part.kind entries given) :
    ((∃ configuration, ofDocument (.table root) = .ok configuration) ↔
      ∀ entry ∈ given, ∃ after,
        set (empty : part.kind.Settings) entry.1 entry.2 = .ok after) ∧
    ∀ configuration, ofDocument (.table root) = .ok configuration →
      (∀ order : List (String × OptionValue), order.Perm given →
        setAll empty order = .ok (configuration.settings part)) ∧
      (∀ other : Part, other ≠ part → configuration.settings other = empty) ∧
      ∀ o : part.kind.ScalarOption,
        isSet (configuration.settings part) (OptionFamily.name o) =
          .ok (decide (OptionFamily.name o ∈ Entries.keys given)) := by
  have reads : ∀ configuration, ofDocument (.table root) = .ok configuration ↔
      setAll empty given = .ok (configuration.settings part) ∧
      ∀ other : Part, other ≠ part → configuration.settings other = empty := by
    intro configuration
    rw [ofDocument_eq_ok_iff, only.decode_eq_ok_iff, gives.decode_eq_ok_iff nodup]
  refine ⟨?_, fun configuration read => ?_⟩
  · rw [← exists_setAll_iff given empty]
    simp only [reads]
    constructor
    · rintro ⟨configuration, done, -⟩
      exact ⟨_, done⟩
    · rintro ⟨settings, done⟩
      obtain ⟨configuration, holds⟩ :=
        exists_settings fun other => if same : other = part then same ▸ settings else empty
      refine ⟨configuration, ?_, fun other ne => ?_⟩
      · simpa [holds] using done
      · simp [holds, ne]
  · obtain ⟨done, blank⟩ := (reads configuration).mp read
    refine ⟨fun order perm => (gives.setAll_perm nodup perm).mpr done, blank, fun o => ?_⟩
    exact isSet_of_setAll (nodup.sublist gives.sublist) gives.named done o

/-- An alias in capitals, a null and an unknown key. -/
theorem section_agrees_alias :
    let entries : List (String × Document) :=
      [("banner", .null), ("target", .text "ES6"), ("colour", .bool true), ("log_limit", .int 7)]
    ∃ configuration, ofDocument (.table [("version", .int 1), ("build", .table entries)]) =
        .ok configuration ∧
      setAll empty [("log_limit", .int 7), ("target", .text "ES6")] =
        .ok (configuration.settings .build) ∧
      isSet (configuration.settings .build) "banner" = .ok false := by
  intro entries
  let target : SettingsKind.build.ScalarOption := .shared .target
  let limit : SettingsKind.build.ScalarOption := .shared .logLimit
  have gives : Gives .build entries [("target", .text "ES6"), ("log_limit", .int 7)] :=
    .null (.shared .banner) <| .value target (.text "ES6") nofun <|
      .unknown (by decide) _ <| .value limit (.int 7) nofun .nil
  have only : HasOnly .build [("version", .int 1), ("build", .table entries)] entries :=
    ⟨(by decide : ["version", "build"].Nodup), by simp [Part.name],
      fun other ne => by cases other <;> simp_all [Part.name, Entries.keys]⟩
  have nodup : (Entries.keys entries).Nodup :=
    (by decide : ["banner", "target", "colour", "log_limit"].Nodup)
  obtain ⟨accepted, agrees⟩ := section_agrees only nodup gives
  obtain ⟨configuration, read⟩ := accepted.mpr (by
    simp only [List.forall_mem_cons]
    exact ⟨⟨_, rfl⟩, ⟨_, rfl⟩, List.forall_mem_nil _⟩)
  obtain ⟨anyOrder, -, isSet⟩ := agrees configuration read
  refine ⟨configuration, read, anyOrder _ (.swap _ _ _), ?_⟩
  exact isSet (.shared .banner)

end Configuration

end BundleHost
