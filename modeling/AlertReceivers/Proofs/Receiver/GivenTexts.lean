import AlertReceivers.Proofs.ListFacts
import AlertReceivers.Proofs.Receiver.Tagged
import AlertReceivers.Proofs.Receiver.Verdict

namespace AlertReceivers

/-!
# Other texts for fields

A node that is a receiver still is one if its fields for texts and secrets are given other
scalars, none of them an empty text.
-/

open ListFacts (exists_of_mem_of_forall₂)

/-- The text of a setting for a text or a secret. -/
def Setting.exposed? : Setting → Option String
  | .text value =>
      some value
  | .secret value =>
      some value.expose
  | _ =>
      none

/-- Fields of a sort hold texts, be they secret or not. -/
def SettingSort.IsTextual (sort : SettingSort) : Prop :=
  sort = .text ∨ sort = .secret

/-- A scalar with text is given to a field for a text or a secret of a kind. -/
structure Kind.SuppliesText
    (kind : Kind)
    (key value : Node) :
    Prop where
  named :
    ∃ field, kind.Names field key ∧ field.sort.IsTextual
  hasText :
    ∃ text, value.scalarText? = some text ∧ text ≠ ""

/-- An entry is that of another node, or supplies a text under its key. -/
inductive Kind.Stands (kind : Kind) : Node × Node → Node × Node → Prop where
  | same {entry : Node × Node} :
      Stands kind entry entry
  | supplied {key value other : Node} :
      kind.SuppliesText key value →
      Stands kind (key, value) (key, other)

namespace Setting

variable {sort : SettingSort}
variable {node : Node}
variable {text : String}

/-- A scalar converts to a text or a secret that holds what it shows. -/
theorem exists_converts_of_isTextual
    (textual : sort.IsTextual)
    (isText : node.scalarText? = some text) :
    ∃ setting, Converts sort node setting ∧ setting.exposed? = some text := by
  rcases textual with rfl | rfl
  · exact ⟨_, .text isText, rfl⟩
  · exact ⟨_, .secret isText, rfl⟩

/-- A text or a secret holds what its scalar shows. -/
theorem exposed?_of_converts
    {setting : Setting}
    (textual : sort.IsTextual)
    (isText : node.scalarText? = some text)
    (converts : Converts sort node setting) :
    setting.exposed? = some text := by
  obtain ⟨other, convertsOther, isExposed⟩ := exists_converts_of_isTextual textual isText
  rw [Kind.converts_unique converts convertsOther, isExposed]

theorem isEmpty_of_exposed?
    {setting : Setting}
    (isExposed : setting.exposed? = some text) :
    setting.isEmpty = text.isEmpty := by
  cases setting <;> cases isExposed <;> rfl

end Setting

namespace Kind

variable {kind : Kind}
variable {entries others : List (Node × Node)}

/-- Entries that supply texts have the keys of the other entries. -/
theorem map_keys_of_stands
    (stand : List.Forall₂ kind.Stands entries others) :
    entries.map (·.1) = others.map (·.1) := by
  induction stand with
  | nil =>
      rfl
  | cons head _ inductionHypothesis =>
      rw [List.map_cons, List.map_cons, inductionHypothesis]
      cases head <;> rfl

theorem timesNamed_congr
    (sameKeys : entries.map (·.1) = others.map (·.1))
    (name : String) :
    timesNamed entries name = timesNamed others name := by
  have counted : ∀ list : List (Node × Node),
      timesNamed list name =
        (list.map (·.1)).countP fun key => key.asText? == some name := by
    intro list
    rw [List.countP_map]
    rfl
  rw [counted, counted, sameKeys]

theorem exists_names_congr
    (sameKeys : entries.map (·.1) = others.map (·.1))
    {field : Field} :
    (∃ entry ∈ entries, kind.Names field entry.1) ↔
      ∃ entry ∈ others, kind.Names field entry.1 := by
  have onKeys : ∀ list : List (Node × Node),
      (∃ entry ∈ list, kind.Names field entry.1) ↔
        ∃ key ∈ list.map (·.1), kind.Names field key := by
    simp
  rw [onKeys, onKeys, sameKeys]

/-- A field that is left empty comes after none or behind the first such field. -/
theorem exists_lacksFirst
    {field : Field}
    (member : field ∈ kind.schema)
    (lacks : kind.Lacks entries field) :
    ∃ name, kind.LacksFirst entries name := by
  classical
  have isFound :
      (kind.schema.find? fun other => decide (kind.Lacks entries other)).isSome :=
    List.find?_isSome.mpr ⟨field, member, decide_eq_true lacks⟩
  obtain ⟨first, found⟩ := Option.isSome_iff_exists.mp isFound
  refine ⟨first.name, (find?_eq_some_iff_lacksFirst fun _ => decide_eq_true_iff).mp ?_⟩
  rw [found, Option.map_some]

section Standing

variable (stand : List.Forall₂ kind.Stands entries others)
include stand

/-- Supplied texts fit their fields. -/
theorem Readable.of_stands
    (readable : kind.Readable others) :
    kind.Readable entries := by
  obtain ⟨fits, once⟩ := readable
  have sameKeys := map_keys_of_stands stand
  refine ⟨fun entry member => ?_, ?_⟩
  · obtain ⟨other, otherMember, stands⟩ := exists_of_mem_of_forall₂ stand member
    cases stands with
    | same =>
        exact fits entry otherMember
    | supplied supplies =>
        intro field names
        obtain ⟨⟨textField, namesText, textual⟩, text, isText, _⟩ := supplies
        rw [names.unique namesText]
        obtain ⟨setting, converts, _⟩ := Setting.exists_converts_of_isTextual textual isText
        exact ⟨setting, converts⟩
  · rintro ⟨field, inSchema, twice⟩
    rw [timesNamed_congr sameKeys] at twice
    exact once ⟨field, inSchema, twice⟩

/-- What entries give to a field for something else, or leave empty, the other entries
give as well. -/
theorem Gives.of_stands
    {field : Field}
    {setting : Setting}
    (unsupplied : ¬ field.sort.IsTextual ∨ setting.isEmpty = true)
    (gives : kind.Gives entries field setting) :
    kind.Gives others field setting where
  named := by
    intro other member names
    obtain ⟨entry, entryMember, stands⟩ := exists_of_mem_of_forall₂ stand.flip member
    cases stands with
    | same =>
        exact gives.named other entryMember names
    | @supplied key value _ supplies =>
        obtain ⟨⟨textField, namesText, textual⟩, text, isText, notEmpty⟩ := supplies
        have sameField := names.unique namesText
        have converts := gives.named (key, value) entryMember names
        rw [← sameField] at textual
        have isExposed := Setting.exposed?_of_converts textual isText converts
        have isFilled : text.isEmpty = false := by simpa using notEmpty
        rcases unsupplied with notTextual | isEmpty
        · exact (notTextual textual).elim
        · rw [Setting.isEmpty_of_exposed? isExposed, isFilled] at isEmpty
          cases isEmpty
  initial := by
    intro notNamed
    refine gives.initial fun entry member names => ?_
    obtain ⟨other, otherMember, namesOther⟩ :=
      (exists_names_congr (map_keys_of_stands stand)).mp ⟨entry, member, names⟩
    exact notNamed other otherMember namesOther

/-- Other texts make no key undeclared. -/
theorem undeclared_nil_of_stands
    (undeclared : kind.Undeclared others []) :
    kind.Undeclared entries [] := by
  rw [undeclared_iff, eq_comm, unknownKeys, List.map_eq_nil_iff, List.filter_eq_nil_iff]
    at undeclared ⊢
  intro entry member
  obtain ⟨other, otherMember, stands⟩ := exists_of_mem_of_forall₂ stand member
  cases stands with
  | same =>
      exact undeclared entry otherMember
  | @supplied key _ otherValue _ =>
      exact undeclared (key, otherValue) otherMember

/-- Supplied texts leave no other field empty. -/
theorem not_lacksFirst_of_stands
    (complete : ∀ name, ¬ kind.LacksFirst others name)
    (name : String) :
    ¬ kind.LacksFirst entries name := by
  rintro ⟨earlier, field, later, shape, _, ⟨required, setting, gives, isEmpty⟩, _⟩
  have member : field ∈ kind.schema := by simp [shape]
  have lacks : kind.Lacks others field :=
    ⟨required, setting, gives.of_stands stand (.inr isEmpty), isEmpty⟩
  obtain ⟨other, lacksFirst⟩ := exists_lacksFirst member lacks
  exact complete other lacksFirst

/-- Other texts make no headers collide. -/
theorem headersCollide_of_stands
    (collide : kind.HeadersCollide entries) :
    kind.HeadersCollide others := by
  obtain ⟨isMail, written, gives, collides⟩ := collide
  have notTextual : ¬ headersField.sort.IsTextual := by
    rintro (isText | isSecret)
    · cases isText
    · cases isSecret
  exact ⟨isMail, written, gives.of_stands stand (.inl notTextual), collides⟩

end Standing

end Kind

namespace Receiver

variable {kind : Kind}
variable {entries others : List (Node × Node)}

section Standing

variable (stand : List.Forall₂ kind.Stands entries others)
include stand

/-- With other texts, entries still are those of a receiver. -/
theorem ofEntries_of_stands
    (decoded : ∃ receiver, ofEntries kind others = .ok receiver) :
    ∃ receiver, ofEntries kind entries = .ok receiver := by
  rw [(judged_of_ofEntries kind others).verdict.receiver] at decoded
  rw [(judged_of_ofEntries kind entries).verdict.receiver]
  obtain ⟨readable, apart, complete, declared⟩ := decoded
  exact ⟨readable.of_stands stand, mt (Kind.headersCollide_of_stands stand) apart,
    Kind.not_lacksFirst_of_stands stand complete, Kind.undeclared_nil_of_stands stand declared⟩

/-- No text is supplied for the kind. -/
theorem kindNode?_of_stands : kindNode? entries = kindNode? others := by
  induction stand with
  | nil =>
      rfl
  | cons head _ inductionHypothesis =>
      rw [kindNode?_cons, kindNode?_cons, inductionHypothesis]
      cases head with
      | same =>
          rfl
      | supplied supplies =>
          obtain ⟨⟨field, names, _⟩, _⟩ := supplies
          simp only [names.not_isKindKey, Bool.false_eq_true, if_false]

/-- With other texts, a node that names its kind still is a receiver. -/
theorem decodeTagged_of_stands
    (named : namedKind? entries = some kind)
    (decoded : ∃ receiver, decodeTagged (.mapping others) = .ok receiver) :
    ∃ receiver, decodeTagged (.mapping entries) = .ok receiver := by
  obtain ⟨value, isValue, isName⟩ := namedKind?_eq_some_iff.mp named
  have isOther := isValue
  rw [kindNode?_of_stands stand] at isOther
  rw [decodeTagged_of_kindNode? isOther isName] at decoded
  rw [decodeTagged_of_kindNode? isValue isName]
  refine ofEntries_of_stands (List.rel_filter ?_ stand) decoded
  intro entry other stands
  cases stands <;> rfl

end Standing

/-- A receiver holds the texts that its entries give. -/
theorem exposed?_of_ofEntries
    {receiver : Receiver}
    {field : Field}
    {entry : Node × Node}
    {text : String}
    (decoded : ofEntries kind entries = .ok receiver)
    (member : entry ∈ entries)
    (names : kind.Names field entry.1)
    (textual : field.sort.IsTextual)
    (isText : entry.2.scalarText? = some text) :
    (receiver.setting? field.name).bind Setting.exposed? = some text := by
  obtain ⟨given, kept, gives, keeps, found⟩ :=
    (overlays_of_ofEntries decoded).settings field names.1
  have isExposed :=
    Setting.exposed?_of_converts textual isText (gives.named entry member names)
  rw [found, Option.bind_some]
  cases keeps with
  | headers _ _ _ =>
      cases isExposed
  | other _ =>
      exact isExposed

/-- A receiver whose node names its kind holds the texts that the node gives. -/
theorem exposed?_of_decodeTagged
    {receiver : Receiver}
    {field : Field}
    {entry : Node × Node}
    {text : String}
    (named : namedKind? entries = some kind)
    (decoded : decodeTagged (.mapping entries) = .ok receiver)
    (member : entry ∈ entries)
    (names : kind.Names field entry.1)
    (textual : field.sort.IsTextual)
    (isText : entry.2.scalarText? = some text) :
    receiver.kind = kind ∧
      (receiver.setting? field.name).bind Setting.exposed? = some text := by
  obtain ⟨value, isValue, isName⟩ := namedKind?_eq_some_iff.mp named
  rw [decodeTagged_of_kindNode? isValue isName] at decoded
  have isLeft : entry ∈ entries.filter fun other => !isKindKey other.1 :=
    List.mem_filter.mpr ⟨member, by rw [names.not_isKindKey, Bool.not_false]⟩
  exact ⟨(overlays_of_ofEntries decoded).sameKind,
    exposed?_of_ofEntries decoded isLeft names textual isText⟩

end Receiver

end AlertReceivers
