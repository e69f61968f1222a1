namespace AlertReceivers

/-!
# Sorted dictionaries

A dictionary holds at most one value for each text key and lists its entries in
ascending order of the keys.  The order is that of the keys' characters, which
is also the order of their UTF-8 bytes.
-/

/-- Entries with strictly ascending text keys. -/
structure Dict (α : Type) where
  /-- The entries in ascending order of their keys. -/
  entries : List (String × α)
  sorted : entries.Pairwise (fun first second => first.1 < second.1)
  deriving DecidableEq

namespace Dict

instance [Repr α] : Repr (Dict α) where
  reprPrec dict prec :=
    reprPrec dict.entries prec

/-- The dictionary without entries. -/
def empty : Dict α where
  entries :=
    []
  sorted :=
    .nil

instance : EmptyCollection (Dict α) :=
  ⟨empty⟩

instance : Inhabited (Dict α) :=
  ⟨empty⟩

/-- Put an entry in its place, replacing the value of an equal key. -/
def insertEntry
    (key : String)
    (value : α) :
    List (String × α) → List (String × α)
  | [] =>
      [(key, value)]
  | (headKey, headValue) :: rest =>
      if key < headKey then
        (key, value) :: (headKey, headValue) :: rest
      else if headKey < key then
        (headKey, headValue) :: insertEntry key value rest
      else
        (key, value) :: rest

/-- Every entry after an insertion is the inserted one or was there before. -/
theorem mem_insertEntry
    {key : String}
    {value : α}
    {entry : String × α}
    {entries : List (String × α)}
    (member : entry ∈ insertEntry key value entries) :
    entry = (key, value) ∨ entry ∈ entries := by
  induction entries with
  | nil =>
      exact .inl (by simpa [insertEntry] using member)
  | cons head rest inductionHypothesis =>
      unfold insertEntry at member
      split at member
      · simpa using member
      · split at member
        · rcases List.mem_cons.mp member with isHead | inRest
          · exact .inr (List.mem_cons.mpr (.inl isHead))
          · exact (inductionHypothesis inRest).imp id (List.mem_cons_of_mem head)
        · rcases List.mem_cons.mp member with isNew | inRest
          · exact .inl isNew
          · exact .inr (List.mem_cons_of_mem head inRest)

/-- Insertion keeps the keys strictly ascending. -/
theorem sorted_insertEntry
    (key : String)
    (value : α)
    {entries : List (String × α)}
    (sorted : entries.Pairwise (fun first second => first.1 < second.1)) :
    (insertEntry key value entries).Pairwise
      (fun first second => first.1 < second.1) := by
  induction entries with
  | nil =>
      exact List.pairwise_singleton _ _
  | cons head rest inductionHypothesis =>
      obtain ⟨headBelow, restSorted⟩ := List.pairwise_cons.mp sorted
      unfold insertEntry
      split
      · rename_i below
        refine List.pairwise_cons.mpr ⟨fun entry member => ?_, sorted⟩
        rcases List.mem_cons.mp member with isHead | inRest
        · exact isHead ▸ below
        · exact String.lt_trans below (headBelow entry inRest)
      · split
        · rename_i notBelow above
          refine List.pairwise_cons.mpr
            ⟨fun entry member => ?_, inductionHypothesis restSorted⟩
          rcases mem_insertEntry member with isNew | inRest
          · exact isNew ▸ above
          · exact headBelow entry inRest
        · rename_i notBelow notAbove
          have sameKey : key = head.1 :=
            String.le_antisymm
              (String.not_lt.mp notAbove) (String.not_lt.mp notBelow)
          refine List.pairwise_cons.mpr ⟨fun entry member => ?_, restSorted⟩
          exact sameKey ▸ headBelow entry member

/-- Put a value under a key, replacing the value that the key had. -/
def insert
    (dict : Dict α)
    (key : String)
    (value : α) :
    Dict α where
  entries :=
    insertEntry key value dict.entries
  sorted :=
    sorted_insertEntry key value dict.sorted

/-- Insert the pairs one after another, so the last pair of a key wins. -/
def ofList (pairs : List (String × α)) : Dict α :=
  pairs.foldl (fun dict pair => dict.insert pair.1 pair.2) empty

/-- The value of a key. -/
def get?
    (dict : Dict α)
    (key : String) :
    Option α :=
  dict.entries.lookup key

/-- Whether a key has a value. -/
def contains
    (dict : Dict α)
    (key : String) :
    Bool :=
  (dict.get? key).isSome

/-- The keys in ascending order. -/
def keys (dict : Dict α) : List String :=
  dict.entries.map (·.1)

/-- The number of entries. -/
def size (dict : Dict α) : Nat :=
  dict.entries.length

/-- Whether there are no entries. -/
def isEmpty (dict : Dict α) : Bool :=
  dict.entries.isEmpty

/-- The dictionary without a key. -/
def erase
    (dict : Dict α)
    (key : String) :
    Dict α where
  entries :=
    dict.entries.filter (fun entry => entry.1 != key)
  sorted :=
    dict.sorted.filter _

/-- Give each value another one, or drop its entry. -/
def filterMap
    (change : α → Option β)
    (dict : Dict α) :
    Dict β where
  entries :=
    dict.entries.filterMap fun entry => (change entry.2).map fun value => (entry.1, value)
  sorted := by
    refine dict.sorted.filterMap _ fun first second below => ?_
    intro changedFirst firstChanged changedSecond secondChanged
    obtain ⟨_, _, rfl⟩ := Option.map_eq_some_iff.mp firstChanged
    obtain ⟨_, _, rfl⟩ := Option.map_eq_some_iff.mp secondChanged
    exact below

end Dict

end AlertReceivers
