import AlertReceivers.Proofs.Outcome
import AlertReceivers.Yaml.Reading

namespace AlertReceivers.Yaml

/-!
# Comparing readings

Readings of two documents are compared step by step: they fail alike, or give related
values.
-/

namespace Tree

/-- What a tree in a document stands for: the use of an anchor stands for what has
the anchor. -/
def resolve (root tree : Tree) : Tree :=
  match tree with
  | .reference _ number =>
      (root.anchored? number).getD tree
  | _ =>
      tree

end Tree

namespace Reading

/-- A chain goes on with the count that its first part leaves. -/
theorem bind_apply
    (reading : Reading α)
    (next : α → Reading β)
    (count : Nat) :
    (reading >>= next) count =
      match reading count with
      | .ok (value, count) =>
          next value count
      | .error error =>
          .error error :=
  rfl

/-- Chains are equal if their second parts agree on what the first part gives. -/
theorem bind_congr
    {reading : Reading α}
    {firstNext secondNext : α → Reading β}
    (same :
      ∀ count value left, reading count = .ok (value, left) →
        firstNext value = secondNext value) :
    (reading >>= firstNext) = (reading >>= secondNext) := by
  funext count
  rw [bind_apply, bind_apply]
  cases given : reading count with
  | error error =>
      rfl
  | ok result =>
      exact congrFun (same count result.1 result.2 given) result.2

/-- Two readings fail alike, or give related values after as many replacements. -/
def Alike
    (related : α → β → Prop)
    (first : Reading α)
    (second : Reading β) :
    Prop :=
  ∀ count,
    Outcome.Matches
      (fun firstResult secondResult =>
        related firstResult.1 secondResult.1 ∧ firstResult.2 = secondResult.2)
      (first count) (second count)

namespace Alike

variable {related : α → β → Prop}
variable {first : Reading α}
variable {second : Reading β}

/-- A reading is like itself if each node is related to itself. -/
theorem refl
    {related : α → α → Prop}
    (reflexive : ∀ value, related value value)
    (reading : Reading α) :
    Alike related reading reading :=
  fun count => .refl (fun result => ⟨reflexive result.1, rfl⟩) (reading count)

/-- Readings that give related values are alike. -/
theorem pure
    {firstValue : α}
    {secondValue : β}
    (isRelated : related firstValue secondValue) :
    Alike related (Pure.pure firstValue : Reading α) (Pure.pure secondValue) :=
  fun _ => .ok ⟨isRelated, rfl⟩

/-- Readings that fail for the same cause are alike. -/
theorem fail (cause : ReadCause) :
    Alike related (Reading.fail cause) (Reading.fail cause) :=
  fun _ => .error

/-- Chains are alike if their parts are. -/
theorem bind
    {relatedNext : γ → δ → Prop}
    {firstNext : α → Reading γ}
    {secondNext : β → Reading δ}
    (alike : Alike related first second)
    (next :
      ∀ firstValue secondValue, related firstValue secondValue →
        Alike relatedNext (firstNext firstValue) (secondNext secondValue)) :
    Alike relatedNext (first >>= firstNext) (second >>= secondNext) := by
  intro count
  rw [bind_apply, bind_apply]
  have start := alike count
  generalize first count = firstResult at start ⊢
  generalize second count = secondResult at start ⊢
  cases start with
  | error =>
      exact .error
  | @ok firstValue secondValue isRelated =>
      obtain ⟨firstValue, firstCount⟩ := firstValue
      obtain ⟨secondValue, secondCount⟩ := secondValue
      obtain ⟨valuesRelated, rfl⟩ := isRelated
      exact next firstValue secondValue valuesRelated firstCount

/-- Readings that are alike stay so when errors are placed alike. -/
theorem placed
    (alike : Alike related first second)
    (mark : Mark)
    (path : Path) :
    Alike related (first.placed mark path) (second.placed mark path) := by
  intro count
  unfold Reading.placed
  have start := alike count
  generalize first count = firstResult at start ⊢
  generalize second count = secondResult at start ⊢
  cases start with
  | error =>
      exact .error
  | ok isRelated =>
      exact .ok isRelated

/-- Related values have what is known of all values of the first reading. -/
theorem and_left
    {known : α → Prop}
    (alike : Alike related first second)
    (holds : ∀ count value left, first count = .ok (value, left) → known value) :
    Alike (fun firstValue secondValue => known firstValue ∧ related firstValue secondValue)
      first second := by
  intro count
  have start := alike count
  have known := holds count
  generalize first count = firstResult at start known ⊢
  generalize second count = secondResult at start ⊢
  cases start with
  | error =>
      exact .error
  | @ok firstValue secondValue isRelated =>
      exact .ok ⟨⟨known firstValue.1 firstValue.2 rfl, isRelated.1⟩, isRelated.2⟩

/-- Alike readings are alike for every weaker relation. -/
theorem imp
    {other : α → β → Prop}
    (alike : Alike related first second)
    (weaker : ∀ firstValue secondValue,
      related firstValue secondValue → other firstValue secondValue) :
    Alike other first second := by
  intro count
  have start := alike count
  generalize first count = firstResult at start ⊢
  generalize second count = secondResult at start ⊢
  cases start with
  | error =>
      exact .error
  | ok isRelated =>
      exact .ok ⟨weaker _ _ isRelated.1, isRelated.2⟩

end Alike

end Reading

/-- Following a tree gives what it stands for. -/
theorem Tree.follow_eq
    (root tree : Tree)
    {count left : Nat}
    {followed : Tree}
    (given : root.follow tree count = .ok (followed, left)) :
    followed = root.resolve tree := by
  cases tree with
  | reference mark number =>
      simp only [follow] at given
      split at given
      · cases given
      · cases given
        rfl
  | scalar | sequence | mapping =>
      cases given
      rfl

/-- The reader of what is inside the collections of some depth, if there may be anything
inside. -/
def Tree.readInside? (root : Tree) : Nat → Option (Path → Tree → Reading Node)
  | 0 =>
      none
  | depth + 1 =>
      some (root.read depth)

/-- A tree is read by following it, and errors are placed where that leads. -/
theorem Tree.read_eq
    (root : Tree)
    (depth : Nat)
    (path : Path)
    (tree : Tree) :
    root.read depth path tree =
      root.follow tree >>= fun followed =>
        (readFollowed (root.readInside? depth) path followed).placed followed.mark path := by
  cases depth <;> rfl

/-- Items are read alike by readers that agree on each of them. -/
theorem readItems_congr
    {firstRead secondRead : Path → Tree → Reading Node}
    {items : List Tree}
    (same : ∀ item ∈ items, ∀ path, firstRead path item = secondRead path item)
    (path : Path)
    (index : Nat) :
    readItems firstRead path index items = readItems secondRead path index items := by
  induction items generalizing index with
  | nil =>
      rfl
  | cons item rest inductionHypothesis =>
      obtain ⟨sameItem, sameRest⟩ := List.forall_mem_cons.mp same
      simp only [readItems, sameItem, inductionHypothesis sameRest]

/-- Entries are read alike by readers that agree on each key and value. -/
theorem readEntries_congr
    {firstRead secondRead : Path → Tree → Reading Node}
    {entries : List (Tree × Tree)}
    (same :
      ∀ entry ∈ entries, ∀ path,
        firstRead path entry.1 = secondRead path entry.1 ∧
          firstRead path entry.2 = secondRead path entry.2)
    (path : Path)
    (done : List (Node × Node)) :
    readEntries firstRead path done entries =
      readEntries secondRead path done entries := by
  induction entries generalizing done with
  | nil =>
      rfl
  | cons entry rest inductionHypothesis =>
      obtain ⟨sameEntry, sameRest⟩ := List.forall_mem_cons.mp same
      simp only [readEntries, (sameEntry _).1, (sameEntry _).2,
        inductionHypothesis sameRest]

end AlertReceivers.Yaml
