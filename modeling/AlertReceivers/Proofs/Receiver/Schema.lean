import AlertReceivers.Proofs.Lookup
import AlertReceivers.Receiver.Decode
import Mathlib.Data.List.Nodup

namespace AlertReceivers

/-!
# Laws of schemas

Every kind names its fields differently, and none of them like the key that
names the kind.  A name therefore leads back to the one field that carries it, and a
receiver has one setting of each field, of the field's sort.
-/

namespace Kind

/-- A key of a node names a field of a kind, whatever tags are around the key. -/
def Names
    (kind : Kind)
    (field : Field)
    (key : Node) :
    Prop :=
  field ∈ kind.schema ∧ key.asText? = some field.name

/-- The fields of a kind have distinct names. -/
theorem nodup_fieldNames (kind : Kind) :
    (kind.schema.map (·.name)).Nodup := by
  cases kind <;> decide

/-- No field has the name of the key for the kind. -/
theorem name_ne_kindKey
    {kind : Kind}
    {field : Field}
    (member : field ∈ kind.schema) :
    field.name ≠ kindKey := by
  have everyName : ∀ field ∈ kind.schema, field.name ≠ kindKey := by
    cases kind <;> decide
  exact everyName field member

/-- Only texts and secrets have to be given. -/
theorem sort_of_required
    {kind : Kind}
    {field : Field}
    (member : field ∈ kind.schema)
    (required : field.required = true) :
    field.sort = .text ∨ field.sort = .secret := by
  have everySort :
      ∀ field ∈ kind.schema, field.required = true →
        field.sort = .text ∨ field.sort = .secret := by
    cases kind <;> decide
  exact everySort field member required

/-- The fields of a pushover receiver for retrying and expiring hold spans. -/
theorem exists_spanField
    {name : String}
    (isName : name = "retry" ∨ name = "expire") :
    ∃ field ∈ pushover.schema, field.name = name ∧ field.sort = .span := by
  rcases isName with rfl | rfl <;> decide

/-- The field with the headers of mails, which are none at first. -/
def headersField : Field where
  name :=
    "headers"
  initial :=
    .table .empty

/-- Mail receivers have headers. -/
theorem headersField_mem_schema :
    headersField ∈ Kind.email.schema := by
  decide

/-- A name finds the field of the kind that carries it. -/
theorem field?_eq_some_iff
    {kind : Kind}
    {name : String}
    {field : Field} :
    kind.field? name = some field ↔
      field ∈ kind.schema ∧ field.name = name := by
  unfold field?
  constructor
  · intro found
    exact ⟨List.mem_of_find?_eq_some found, by
      simpa using List.find?_some found⟩
  · rintro ⟨member, rfl⟩
    cases found : kind.schema.find? fun other => other.name == field.name with
    | none =>
        simpa using List.find?_eq_none.mp found field member
    | some other =>
        have sameName : other.name = field.name := by
          simpa using List.find?_some found
        rw [eq_of_name_eq (List.mem_of_find?_eq_some found) member sameName]

/-- A key leads to the field that it names. -/
theorem fieldOf?_eq_some_iff
    {kind : Kind}
    {key : Node}
    {field : Field} :
    kind.fieldOf? key = some field ↔ kind.Names field key := by
  unfold fieldOf? Names
  rw [Option.bind_eq_some_iff]
  constructor
  · rintro ⟨name, text, found⟩
    obtain ⟨member, rfl⟩ := field?_eq_some_iff.mp found
    exact ⟨member, text⟩
  · rintro ⟨member, text⟩
    exact ⟨field.name, text, field?_eq_some_iff.mpr ⟨member, rfl⟩⟩

/-- A key has no field if it names none. -/
theorem fieldOf?_eq_none_iff
    {kind : Kind}
    {key : Node} :
    kind.fieldOf? key = none ↔ ∀ field, ¬ kind.Names field key := by
  simp [Option.eq_none_iff_forall_ne_some, fieldOf?_eq_some_iff]

/-- A kind declares the keys that name one of its fields. -/
theorem declares_iff
    {kind : Kind}
    {key : Node} :
    kind.declares key = true ↔ ∃ field, kind.Names field key := by
  simp [declares, Option.isSome_iff_exists, fieldOf?_eq_some_iff]

/-- A key names one field only. -/
theorem Names.unique
    {kind : Kind}
    {first second : Field}
    {key : Node}
    (namesFirst : kind.Names first key)
    (namesSecond : kind.Names second key) :
    first = second :=
  eq_of_name_eq namesFirst.1 namesSecond.1
    (Option.some.inj (namesFirst.2.symm.trans namesSecond.2))

/-- The key that names the kind names no field. -/
theorem Names.not_isKindKey
    {kind : Kind}
    {field : Field}
    {key : Node}
    (names : kind.Names field key) :
    Receiver.isKindKey key = false := by
  simp [Receiver.isKindKey, names.2, name_ne_kindKey names.1]

/-- A setting given to every field is found under the field's name. -/
theorem lookup_map_schema
    (kind : Kind)
    (settingOf : Field → Setting)
    {field : Field}
    (member : field ∈ kind.schema) :
    (kind.schema.map fun field => (field.name, settingOf field)).lookup
        field.name =
      some (settingOf field) := by
  refine (Lookup.lookup_eq_some_iff_mem ?_).mpr
    (List.mem_map.mpr ⟨field, member, rfl⟩)
  simpa [List.map_map, Function.comp_def] using kind.nodup_fieldNames

/-- A field is initially set to its default. -/
theorem setting?_initial
    {kind : Kind}
    {field : Field}
    (member : field ∈ kind.schema) :
    kind.initial.setting? field.name = some field.initial :=
  kind.lookup_map_schema (·.initial) member

end Kind

namespace Receiver

/-- The settings of a receiver have the names of the schema's fields. -/
theorem names_settings (receiver : Receiver) :
    receiver.settings.map (·.1) = receiver.kind.schema.map (·.name) := by
  have sameNames := congrArg (List.map Prod.fst) receiver.followsSchema
  rwa [List.map_map, List.map_map] at sameNames

/-- No field has two settings. -/
theorem nodup_names (receiver : Receiver) :
    (receiver.settings.map (·.1)).Nodup :=
  receiver.names_settings ▸ receiver.kind.nodup_fieldNames

variable {receiver : Receiver}

/-- The settings that can be found are those in the list. -/
theorem setting?_eq_some_iff
    {name : String}
    {setting : Setting} :
    receiver.setting? name = some setting ↔ (name, setting) ∈ receiver.settings :=
  Lookup.lookup_eq_some_iff_mem receiver.nodup_names

/-- A field of the schema has a setting. -/
theorem exists_setting
    {field : Field}
    (member : field ∈ receiver.kind.schema) :
    ∃ setting, receiver.setting? field.name = some setting := by
  have isName : field.name ∈ receiver.settings.map (·.1) :=
    receiver.names_settings ▸ List.mem_map.mpr ⟨field, member, rfl⟩
  obtain ⟨⟨name, setting⟩, inSettings, rfl⟩ := List.mem_map.mp isName
  exact ⟨setting, setting?_eq_some_iff.mpr inSettings⟩

/-- The setting of a field has the field's sort. -/
theorem sort_of_setting?
    {field : Field}
    {setting : Setting}
    (member : field ∈ receiver.kind.schema)
    (found : receiver.setting? field.name = some setting) :
    setting.sort = field.sort := by
  obtain ⟨other, otherMember, sameName, sameSort⟩ :=
    exists_field_of_mem (setting?_eq_some_iff.mp found)
  rw [Kind.eq_of_name_eq member otherMember sameName.symm, sameSort]

end Receiver

end AlertReceivers
