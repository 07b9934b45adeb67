import BundleHost.Decoder
import BundleHost.Proofs.Entries

/-!
# Decoding what was encoded

An encoder and a decoder that undo each other are built from smaller such pairs: options from
values, lists from items, records from fields, and tagged records from a tag and its content. For
records it is enough that the entries are the fields in their order, each of which decodes.

## Main statements

* `record_of_fits` — a table of fields that fit is read as a record, and every field is found in it.
* `record_list_eq_ok_iff` — which lists are read as a record.
* `record_table_eq_ok_iff`, `lookup?_fieldsOf` — which tables without repeated keys are read as a
  record, and what is found in it.
* `tagged_table` — a tagged table is read by its tag.
-/

namespace BundleHost.Decoder

variable {α β : Type}

theorem ok_bind (a : α) (f : α → Except DecodeError β) : (Except.ok a >>= f) = f a := rfl

theorem bind_eq_ok_iff {ε : Type} {x : Except ε α} {f : α → Except ε β} {b : β} :
    (x >>= f) = .ok b ↔ ∃ a, x = .ok a ∧ f a = .ok b := by
  cases x with
  | error fault => exact ⟨nofun, nofun⟩
  | ok a =>
    constructor
    · intro h
      exact ⟨a, rfl, h⟩
    · rintro ⟨_, ⟨⟩, h⟩
      exact h

theorem bind_eq_error_iff {ε : Type} {x : Except ε α} {f : α → Except ε β} {fault : ε} :
    (x >>= f) = .error fault ↔ x = .error fault ∨ ∃ a, x = .ok a ∧ f a = .error fault := by
  cases x <;> simp [bind, Except.bind]

theorem exists_ok_iff {ε : Type} {x : Except ε α} : (∃ a, x = .ok a) ↔ x.isOk = true := by
  cases x <;> simp [Except.isOk, Except.toBool]

/-- A result is there exactly if `P` holds, when `P` follows from any result and from no failure. -/
theorem exists_ok_iff_of_cases {ε : Type} {x : Except ε α} {P : Prop} (ok : ∀ a, x = .ok a → P)
    (error : ∀ fault, x = .error fault → ¬ P) : (∃ a, x = .ok a) ↔ P := by
  constructor
  · rintro ⟨a, made⟩
    exact ok a made
  · intro holds
    cases result : x with
    | ok a => exact ⟨a, rfl⟩
    | error fault => exact absurd holds (error fault result)

theorem map_eq_ok_iff {ε : Type} {x : Except ε α} {f : α → β} {b : β} :
    x.map f = .ok b ↔ ∃ a, x = .ok a ∧ f a = b := by
  cases x <;> simp [Except.map]

theorem exists_map_eq_ok_iff {ε : Type} {x : Except ε α} {f : α → β} :
    (∃ b, x.map f = .ok b) ↔ ∃ a, x = .ok a := by
  cases x <;> simp [Except.map]

theorem bind_ok_eq_map {ε : Type} (x : Except ε α) (f : α → β) :
    (x >>= fun a => .ok (f a)) = x.map f := by
  cases x <;> rfl

theorem map_map {γ ε : Type} (x : Except ε α) (f : α → β) (g : β → γ) :
    (x.map f).map g = x.map fun a => g (f a) := by
  cases x <;> rfl

/-- What `encode` writes, `decode` reads. -/
def Inverts (decode : Decoder α) (encode : α → Document) : Prop :=
  ∀ a, decode (encode a) = .ok a

theorem inverts_text : Inverts text .text := fun _ => rfl

theorem inverts_bool : Inverts bool .bool := fun _ => rfl

theorem natBelow_int {bound n : Nat} (h : n < bound) : natBelow bound (.int n) = .ok n := by
  have nonneg : (0 : Int) ≤ n := Int.natCast_nonneg n
  have below : (n : Int) < bound := Int.ofNat_lt.mpr h
  simp [natBelow, nonneg, below]

theorem Inverts.optional {decode : Decoder α} {encode : α → Document} (h : Inverts decode encode)
    (written : ∀ a, encode a ≠ .null) : Inverts (optional decode) (Document.ofOption encode) := by
  intro a
  cases a with
  | none => rfl
  | some a =>
    rw [Document.ofOption, Decoder.optional, h a]
    · rfl
    · exact written a

theorem Inverts.list {decode : Decoder α} {encode : α → Document} (h : Inverts decode encode) :
    Inverts (list decode) fun values => .list (values.map encode) := by
  intro values
  change items decode (values.map encode) = .ok values
  induction values with
  | nil => rfl
  | cons a rest ih =>
    rw [List.map_cons, items, h a, ih]
    rfl

theorem entries_map_encode {decode : Decoder α} {encode : α → Document} (h : Inverts decode encode)
    (written : List (String × α)) :
    entries decode (written.map fun (key, a) => (key, encode a)) = .ok written := by
  induction written with
  | nil => rfl
  | cons entry rest ih =>
    rw [List.map_cons, entries, h entry.2, ih]
    rfl

theorem OrderedMap.ofEntries_entries (map : OrderedMap α) :
    OrderedMap.ofEntries map.entries = map :=
  OrderedMap.ext (Entries.distinct_of_nodup map.nodup_keys)

theorem Inverts.map {decode : Decoder α} {encode : α → Document} (h : Inverts decode encode) :
    Inverts (Decoder.map decode) fun map =>
      .table (map.entries.map fun (key, a) => (key, encode a)) := by
  intro map
  rw [Decoder.map, entries_map_encode h, Except.map, OrderedMap.ofEntries_entries]

/-- Names that their reader knows are read as variants. -/
theorem inverts_variant {ofName? : String → Option α} {name : α → String}
    (known : ∀ a, ofName? (name a) = some a) (tagged : Bool) :
    Inverts (variant tagged ofName?) fun a => .text (name a) := by
  intro a
  simp only [variant, known]

/-! ## Records -/

/-- The entry is for the field, and passes its check. -/
def Fits (field : Field) (entry : String × Document) : Prop :=
  field.name = entry.1 ∧ field.check entry.2 = .ok ()

theorem fits_field {decode : Decoder α} {document : Document} {a : α} (name : String)
    (presence : Presence) (h : decode document = .ok a) :
    Fits (field name presence decode) (name, document) := by
  refine ⟨rfl, ?_⟩
  change (decode document).map _ = _
  rw [h]
  rfl

theorem names_of_fits {fields : List Field} {entries : List (String × Document)}
    (fits : List.Forall₂ Fits fields entries) : fields.map (·.name) = Entries.keys entries := by
  induction fits with
  | nil => rfl
  | cons fit _ ih => exact congr (congrArg List.cons fit.1) ih

theorem exists_fits {fields : List Field} {entries : List (String × Document)}
    (fits : List.Forall₂ Fits fields entries) : ∀ entry ∈ entries, ∃ field ∈ fields,
      Fits field entry := by
  induction fits with
  | nil => nofun
  | cons fit _ ih =>
    intro entry mem
    obtain rfl | mem := List.mem_cons.mp mem
    · exact ⟨_, List.mem_cons_self, fit⟩
    · obtain ⟨field, mem, fit⟩ := ih entry mem
      exact ⟨field, List.mem_cons_of_mem _ mem, fit⟩

theorem find?_of_mem {fields : List Field} (nodup : (fields.map (·.name)).Nodup) {field : Field}
    (mem : field ∈ fields) : fields.find? (·.name = field.name) = some field := by
  induction fields with
  | nil => cases mem
  | cons first rest ih =>
    obtain ⟨fresh, nodup⟩ := List.nodup_cons.mp nodup
    obtain rfl | mem := List.mem_cons.mp mem
    · simp
    · have other : first.name ≠ field.name := fun eq =>
        fresh (List.mem_map.mpr ⟨field, mem, eq.symm⟩)
      simp [other, ih nodup mem]

/-- Entries that fit fields, of which no two have one key, are all collected. -/
theorem collect_of_fits {fields : List Field} (names : (fields.map (·.name)).Nodup)
    {entries found : List (String × Document)}
    (fits : ∀ entry ∈ entries, ∃ field ∈ fields, Fits field entry)
    (nodup : (Entries.keys (entries.reverse ++ found)).Nodup) :
    collect fields found entries = .ok (entries.reverse ++ found) := by
  induction entries generalizing found with
  | nil => rfl
  | cons entry rest ih =>
    obtain ⟨key, document⟩ := entry
    obtain ⟨field, mem, rfl, check⟩ := fits (key, document) List.mem_cons_self
    rw [List.reverse_cons, List.append_assoc, List.singleton_append] at nodup ⊢
    have fresh : found.any (·.1 = field.name) = false := by
      rw [Entries.keys, List.map_append] at nodup
      have absent : field.name ∉ found.map (·.1) :=
        (List.nodup_cons.mp (List.nodup_append.mp nodup).2.1).1
      rw [List.any_eq_false]
      intro entry mem same
      exact absent (List.mem_map.mpr ⟨entry, mem, by simpa using same⟩)
    simp only [collect, find?_of_mem names mem, fresh, check]
    exact ih (fun entry mem => fits entry (List.mem_cons_of_mem _ mem)) nodup

/-- A table of all fields in their order is read as a record, in which every field is found. -/
theorem record_of_fits {fields : List Field} (names : (fields.map (·.name)).Nodup)
    {entries : List (String × Document)} (fits : List.Forall₂ Fits fields entries) :
    ∃ found, record fields (.table entries) = .ok found ∧
      ∀ entry ∈ entries, Entries.lookup? entry.1 found = some entry.2 := by
  have keys := names_of_fits fits
  have nodup : (Entries.keys entries.reverse).Nodup := by
    rw [Entries.keys, List.map_reverse, List.nodup_reverse, ← Entries.keys, ← keys]
    exact names
  have collected : collect fields [] entries = .ok entries.reverse := by
    rw [← List.append_nil entries.reverse] at nodup ⊢
    exact collect_of_fits names (exists_fits fits) nodup
  refine ⟨entries.reverse, ?_, fun entry mem =>
    (Entries.lookup?_eq_some_iff nodup).mpr (List.mem_reverse.mpr mem)⟩
  have complete : (fields.find? fun field =>
      field.presence = .required && !entries.reverse.any (·.1 = field.name)) = none := by
    rw [List.find?_eq_none]
    intro field mem
    have there : field.name ∈ Entries.keys entries := keys ▸ List.mem_map_of_mem mem
    obtain ⟨entry, mem, eq⟩ := List.mem_map.mp there
    simp only [Bool.and_eq_true, not_and, Bool.not_eq_true, Bool.not_eq_false']
    exact fun _ => List.any_eq_true.mpr ⟨entry, List.mem_reverse.mpr mem, by simp [eq]⟩
  simp only [record, collected, complete]

/-- A list is read as a record if its items fit the fields in their order, none of them left out. -/
theorem record_list_eq_ok_iff {fields : List Field}
    (required : ∀ field ∈ fields, field.presence = .required) {items : List Document}
    {found : List (String × Document)} :
    record fields (.list items) = .ok found ↔
      List.Forall₂ Fits fields found ∧ items = found.map (·.2) := by
  change align fields items = .ok found ↔ _
  induction fields generalizing items found with
  | nil =>
    rw [List.forall₂_nil_left_iff]
    cases items with
    | nil =>
      constructor
      · rintro ⟨⟩
        exact ⟨rfl, rfl⟩
      · rintro ⟨rfl, -⟩
        rfl
    | cons document rest =>
      refine ⟨nofun, ?_⟩
      rintro ⟨rfl, ⟨⟩⟩
  | cons field fields ih =>
    obtain ⟨first, required⟩ := List.forall_mem_cons.mp required
    rw [List.forall₂_cons_left_iff]
    cases items with
    | nil =>
      rw [align, if_neg (by rw [first]; nofun)]
      refine ⟨nofun, ?_⟩
      rintro ⟨⟨_, _, _, _, rfl⟩, ⟨⟩⟩
    | cons document rest =>
      rw [align]
      constructor
      · intro aligned
        cases check : field.check document with
        | error _ => simp [check] at aligned
        | ok _ =>
          cases later : align fields rest with
          | error _ => simp [check, later] at aligned
          | ok found' =>
            obtain rfl : (field.name, document) :: found' = found := by
              simpa [check, later] using aligned
            obtain ⟨fits, rfl⟩ := (ih required).mp later
            exact ⟨⟨_, _, ⟨rfl, check⟩, fits, rfl⟩, rfl⟩
      · rintro ⟨⟨⟨name, given⟩, found, ⟨rfl, check⟩, fits, rfl⟩, same⟩
        obtain ⟨rfl, rfl⟩ := List.cons.inj same
        simp only [check, (ih required).mpr ⟨fits, rfl⟩]

/-- Whether a field is content with its document, or with having none. -/
def Field.Accepts (field : Field) : Option Document → Prop
  | some document => field.check document = .ok ()
  | none => field.presence ≠ .required

/-- The entry is that of a field. -/
def isFieldOf (fields : List Field) (entry : String × Document) : Bool :=
  (fields.find? (·.name = entry.1)).isSome

/-- Entries without repeated keys are collected if all fields among them pass their checks. -/
theorem collect_eq_ok_iff {fields : List Field} {entries found result : List (String × Document)}
    (nodup : (Entries.keys (entries.reverse ++ found)).Nodup) :
    collect fields found entries = .ok result ↔
      (∀ entry ∈ entries, ∀ field, fields.find? (·.name = entry.1) = some field →
        field.check entry.2 = .ok ()) ∧
      result = (entries.filter (isFieldOf fields)).reverse ++ found := by
  induction entries generalizing found with
  | nil => simp [collect, eq_comm]
  | cons entry rest ih =>
    obtain ⟨key, document⟩ := entry
    rw [List.reverse_cons, List.append_assoc, List.singleton_append] at nodup
    simp only [collect, List.forall_mem_cons]
    cases known : fields.find? (·.name = key) with
    | none =>
      have other : isFieldOf fields (key, document) = false := by simp [isFieldOf, known]
      have nodup' : (Entries.keys (rest.reverse ++ found)).Nodup :=
        nodup.sublist (((List.sublist_cons_self _ _).append_left _).map _)
      rw [List.filter_cons_of_neg (by simp [other])]
      simp [ih nodup']
    | some field =>
      have own : isFieldOf fields (key, document) = true := by simp [isFieldOf, known]
      have fresh : found.any (·.1 = key) = false := by
        rw [Entries.keys, List.map_append] at nodup
        have absent : key ∉ found.map (·.1) :=
          (List.nodup_cons.mp (List.nodup_append.mp nodup).2.1).1
        rw [List.any_eq_false]
        intro entry mem same
        exact absent (List.mem_map.mpr ⟨entry, mem, by simpa using same⟩)
      rw [List.filter_cons_of_pos own]
      simp only [fresh, Option.some.injEq, forall_eq']
      cases check : field.check document with
      | error fault => simp
      | ok _ => simp [ih nodup]

/-- In a record the same is found as in the table, as far as fields are concerned. -/
theorem lookup?_filter_isFieldOf {fields : List Field} {field : Field} (mem : field ∈ fields)
    (entries : List (String × Document)) :
    Entries.lookup? field.name (entries.filter (isFieldOf fields)) =
      Entries.lookup? field.name entries := by
  have known : ∀ entry : String × Document, entry.1 = field.name →
      isFieldOf fields entry = true := by
    intro entry same
    exact List.find?_isSome.mpr ⟨field, mem, by simp [same]⟩
  rw [Entries.lookup?_eq_find?, Entries.lookup?_eq_find?, List.find?_filter]
  congr 2
  funext entry
  by_cases same : entry.1 = field.name
  · simp [same, known entry same]
  · simp [same]

/-- What a record holds of a table: the entries of its fields. -/
def fieldsOf (fields : List Field) (entries : List (String × Document)) :
    List (String × Document) :=
  (entries.filter (isFieldOf fields)).reverse

theorem lookup?_fieldsOf {fields : List Field} {entries : List (String × Document)}
    (nodup : (Entries.keys entries).Nodup) {field : Field} (mem : field ∈ fields) :
    Entries.lookup? field.name (fieldsOf fields entries) = Entries.lookup? field.name entries := by
  have nodup' : (Entries.keys (entries.filter (isFieldOf fields))).Nodup :=
    nodup.sublist (List.filter_sublist.map _)
  have perm := List.reverse_perm (entries.filter (isFieldOf fields))
  rw [fieldsOf, ← Entries.lookup?_perm perm.symm nodup', lookup?_filter_isFieldOf mem]

theorem any_fieldsOf {fields : List Field} {entries : List (String × Document)}
    (nodup : (Entries.keys entries).Nodup) {field : Field} (mem : field ∈ fields) :
    (fieldsOf fields entries).any (·.1 = field.name) =
      (Entries.lookup? field.name entries).isSome := by
  rw [← lookup?_fieldsOf nodup mem, Entries.lookup?_eq_find?, Option.isSome_map,
    Bool.eq_iff_iff, List.any_eq_true, List.find?_isSome]

theorem record_table_eq_ok_iff {fields : List Field} (names : (fields.map (·.name)).Nodup)
    {entries : List (String × Document)} (nodup : (Entries.keys entries).Nodup)
    {found : List (String × Document)} :
    record fields (.table entries) = .ok found ↔
      (∀ field ∈ fields, field.Accepts (Entries.lookup? field.name entries)) ∧
      found = fieldsOf fields entries := by
  have nodup' : (Entries.keys (entries.reverse ++ [])).Nodup := by
    rw [List.append_nil, Entries.keys, List.map_reverse, List.nodup_reverse]
    exact nodup
  have collected : ∀ kept, collect fields [] entries = .ok kept ↔
      (∀ entry ∈ entries, ∀ field, fields.find? (·.name = entry.1) = some field →
        field.check entry.2 = .ok ()) ∧ kept = fieldsOf fields entries := by
    intro kept
    rw [collect_eq_ok_iff nodup', List.append_nil, fieldsOf]
  have missing : ∀ field ∈ fields,
      (field.presence = .required && !(fieldsOf fields entries).any (·.1 = field.name)) = true ↔
        field.presence = .required ∧ Entries.lookup? field.name entries = none := by
    intro field mem
    rw [any_fieldsOf nodup mem]
    simp
  constructor
  · intro read
    simp only [record] at read
    cases collecting : collect fields [] entries with
    | error fault => simp [collecting] at read
    | ok kept =>
      obtain ⟨checks, rfl⟩ := (collected kept).mp collecting
      simp only [collecting] at read
      split at read
      · cases read
      next complete =>
        refine ⟨fun field mem => ?_, (Except.ok.inj read).symm⟩
        cases here : Entries.lookup? field.name entries with
        | none =>
          intro required
          exact List.find?_eq_none.mp complete field mem ((missing field mem).mpr ⟨required, here⟩)
        | some document =>
          exact checks _ (Entries.mem_of_lookup? here) field (find?_of_mem names mem)
  · rintro ⟨accepts, rfl⟩
    have checks : ∀ entry ∈ entries, ∀ field, fields.find? (·.name = entry.1) = some field →
        field.check entry.2 = .ok () := by
      intro entry mem field known
      have same : field.name = entry.1 := by simpa using List.find?_some known
      have here := accepts field (List.mem_of_find?_eq_some known)
      rwa [same, (Entries.lookup?_eq_some_iff nodup).mpr mem] at here
    have complete : (fields.find? fun field => field.presence = .required &&
        !(fieldsOf fields entries).any (·.1 = field.name)) = none := by
      rw [List.find?_eq_none]
      intro field mem absent
      obtain ⟨required, absent⟩ := (missing field mem).mp absent
      have here := accepts field mem
      rw [absent] at here
      exact here required
    simp only [record, (collected _).mpr ⟨checks, rfl⟩, complete]

/-! ## Tagged documents -/

theorem splitTag_of_tag {τ : Type} (name : String) (readTag : Decoder τ) (tag : τ)
    {content : List (String × Document)} (other : name ∉ Entries.keys content)
    (seen : List (String × Document)) :
    splitTag name readTag (some tag) seen content = .ok (tag, seen.reverse ++ content) := by
  induction content generalizing seen with
  | nil => simp [splitTag]
  | cons entry rest ih =>
    obtain ⟨key, document⟩ := entry
    obtain ⟨here, later⟩ := List.ne_and_not_mem_of_not_mem_cons other
    rw [splitTag, if_neg (Ne.symm here), ih later]
    simp

theorem tagged_table {τ : Type} {name : String} {readTag : Decoder τ} {document : Document}
    {tag : τ} (h : readTag document = .ok tag) {content : List (String × Document)}
    (other : name ∉ Entries.keys content) (read : τ → Decoder α) :
    tagged name readTag read (.table ((name, document) :: content)) =
      read tag (.table content) := by
  have split : splitTag name readTag none [] ((name, document) :: content) =
      .ok (tag, content) := by
    rw [splitTag, if_pos rfl, h]
    exact splitTag_of_tag name readTag tag other []
  rw [tagged, split]
  rfl

/-- Names that their reader knows are read as tags. -/
theorem inverts_tag {τ : Type} {ofName? : String → Option τ} {name : τ → String}
    (known : ∀ a, ofName? (name a) = some a) :
    Inverts (tag ofName?) fun a => .text (name a) := by
  intro a
  simp only [tag, known]

end BundleHost.Decoder
