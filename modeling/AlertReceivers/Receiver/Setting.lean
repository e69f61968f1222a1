import AlertReceivers.Dict
import AlertReceivers.Node.Mismatch
import AlertReceivers.Secret
import AlertReceivers.Span.Reader

namespace AlertReceivers

/-!
# Settings

A setting is the value of one field of a receiver.  The sort of a field says
how its value is read from a node: flags look through tags, and texts take any
scalar without a tag as its text, null being empty.
-/

/-- The value of a field. -/
inductive Setting where
  | flag (on : Bool)
  | optionalFlag (on : Option Bool)
  | text (value : String)
  | secret (value : Secret)
  | span (value : Span)
  | table (entries : Dict String)
  deriving Repr, DecidableEq

/-- The sorts of fields. -/
inductive SettingSort where
  | flag
  | optionalFlag
  | text
  | secret
  | span
  | table
  deriving Repr, DecidableEq

/-- Why an entry of a node gives no setting. -/
inductive SettingError where
  | mismatch (cause : Mismatch)
  | badSpan (refusal : Span.Refusal)
  | duplicateField (field : String)
  deriving Repr, DecidableEq

namespace SettingError

/-- The message of an entry that gives no setting. -/
def message : SettingError → String
  | .mismatch cause =>
      cause.message
  | .badSpan refusal =>
      refusal.message
  | .duplicateField field =>
      "duplicate field `" ++ field ++ "`"

end SettingError

namespace Setting

/-- The sort of a setting. -/
def sort : Setting → SettingSort
  | .flag _ =>
      .flag
  | .optionalFlag _ =>
      .optionalFlag
  | .text _ =>
      .text
  | .secret _ =>
      .secret
  | .span _ =>
      .span
  | .table _ =>
      .table

/-- Whether a setting says nothing: an empty text or secret, or no flag. -/
def isEmpty : Setting → Bool
  | .text value =>
      value.isEmpty
  | .secret value =>
      value.isEmpty
  | .optionalFlag on =>
      on.isNone
  | _ =>
      false

/-- Read a flag. -/
def readFlag (node : Node) : Except Mismatch Bool :=
  match node.untagged with
  | .boolean on =>
      .ok on
  | other =>
      .error (.type (.ofNode other) .boolean)

/-- Read a flag that null leaves open. -/
def readOptionalFlag : Node → Except Mismatch (Option Bool)
  | .null =>
      .ok none
  | node =>
      (readFlag node).map some

/-- Read a text. -/
def readText (node : Node) : Except Mismatch String :=
  match node.scalarText? with
  | some value =>
      .ok value
  | none =>
      .error (.type (.ofTextNode node) .scalar)

/-- Read the entries of a table in order. -/
def readPairs : List (Node × Node) → Except Mismatch (List (String × String))
  | [] =>
      .ok []
  | (key, value) :: rest => do
      let keyText ← readText key
      let valueText ← readText value
      let pairs ← readPairs rest
      .ok ((keyText, valueText) :: pairs)

/-- Read a table of texts.  Of keys with one text, the last entry counts. -/
def readTable : Node → Except Mismatch (Dict String)
  | .null =>
      .ok .empty
  | .mapping entries =>
      (readPairs entries).map Dict.ofList
  | other =>
      .error (.type (.ofTextNode other) .table)

/-- Read a span.  Null is the empty span. -/
def readSpan : Node → Outcome SettingError Span
  | .null =>
      .ok .zero
  | node =>
      match readText node with
      | .ok written =>
          (Span.read written).mapRefusal .badSpan
      | .error cause =>
          .refuse (.mismatch cause)

/-- A reading that can only end in a mismatch. -/
def ofMismatch : Except Mismatch α → Outcome SettingError α
  | .ok value =>
      .ok value
  | .error cause =>
      .refuse (.mismatch cause)

end Setting

/-- Read a setting of a sort. -/
def SettingSort.read
    (sort : SettingSort)
    (node : Node) :
    Outcome SettingError Setting :=
  match sort with
  | .flag =>
      (Setting.ofMismatch (Setting.readFlag node)).map .flag
  | .optionalFlag =>
      (Setting.ofMismatch (Setting.readOptionalFlag node)).map .optionalFlag
  | .text =>
      (Setting.ofMismatch (Setting.readText node)).map .text
  | .secret =>
      (Setting.ofMismatch (Setting.readText node)).map fun value => .secret ⟨value⟩
  | .span =>
      (Setting.readSpan node).map .span
  | .table =>
      (Setting.ofMismatch (Setting.readTable node)).map .table

namespace SettingSort

/-- What is wrapped as a setting of a sort has this sort. -/
theorem sort_of_map
    {sort : SettingSort}
    {wrap : α → Setting}
    {reading : Outcome SettingError α}
    {setting : Setting}
    (wraps : ∀ value, (wrap value).sort = sort)
    (reads : reading.map wrap = .ok setting) :
    setting.sort = sort := by
  cases reading with
  | error failure =>
      cases reads
  | ok value =>
      cases reads
      exact wraps value

/-- A setting that is read has the sort that was asked for. -/
theorem sort_of_read
    {sort : SettingSort}
    {node : Node}
    {setting : Setting}
    (reads : sort.read node = .ok setting) :
    setting.sort = sort := by
  cases sort <;> exact sort_of_map (fun _ => rfl) reads

end SettingSort

end AlertReceivers
