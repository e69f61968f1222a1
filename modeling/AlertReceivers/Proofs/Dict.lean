import AlertReceivers.Dict
import AlertReceivers.Proofs.Lookup
import Mathlib.Data.List.Dedup
import Mathlib.Data.List.Perm.Basic
import Mathlib.Data.List.Sort

namespace AlertReceivers.Dict

/-!
# Laws of dictionaries

A dictionary is determined by what its keys give: an insertion changes the value
of one key only, and inserting pairs one after another leaves each key with the
value of its last pair.
-/

variable {α β : Type}

/-- The keys of a dictionary differ. -/
theorem nodup_keys (dict : Dict α) : dict.keys.Nodup :=
  List.pairwise_map.mpr
    (dict.sorted.imp fun below => String.ne_of_lt below)

/-- A key has a value exactly if the dictionary holds the pair. -/
theorem get?_eq_some_iff
    {dict : Dict α}
    {key : String}
    {value : α} :
    dict.get? key = some value ↔ (key, value) ∈ dict.entries :=
  Lookup.lookup_eq_some_iff_mem dict.nodup_keys

/-- The keys are those with a value. -/
theorem mem_keys_iff
    {dict : Dict α}
    {key : String} :
    key ∈ dict.keys ↔ ∃ value, dict.get? key = some value := by
  simp only [get?_eq_some_iff, keys, List.mem_map]
  constructor
  · rintro ⟨entry, member, rfl⟩
    exact ⟨entry.2, member⟩
  · rintro ⟨value, member⟩
    exact ⟨(key, value), member, rfl⟩

/-- A key stands in an entry. -/
theorem exists_entry
    {dict : Dict α}
    {key : String}
    (member : key ∈ dict.keys) :
    ∃ value, (key, value) ∈ dict.entries := by
  obtain ⟨value, found⟩ := mem_keys_iff.mp member
  exact ⟨value, get?_eq_some_iff.mp found⟩

/-- In front of an entry stand the entries with smaller keys. -/
theorem mem_earlier_iff
    {dict : Dict α}
    {earlier later : List (String × α)}
    {pair entry : String × α}
    (shape : dict.entries = earlier ++ pair :: later) :
    entry ∈ earlier ↔ entry ∈ dict.entries ∧ entry.1 < pair.1 := by
  have sorted := dict.sorted
  rw [shape, List.pairwise_append, List.pairwise_cons] at sorted
  obtain ⟨_, ⟨pairBelow, _⟩, earlierBelow⟩ := sorted
  rw [shape]
  constructor
  · intro member
    exact ⟨List.mem_append_left _ member,
      earlierBelow entry member pair List.mem_cons_self⟩
  · rintro ⟨member, below⟩
    rcases List.mem_append.mp member with inEarlier | notEarlier
    · exact inEarlier
    rcases List.mem_cons.mp notEarlier with rfl | inLater
    · exact (String.lt_irrefl _ below).elim
    · exact (String.lt_asymm below (pairBelow entry inLater)).elim

/-- A dictionary has one entry for each of its keys. -/
theorem length_keys (dict : Dict α) : dict.keys.length = dict.size :=
  List.length_map _

/-- A dictionary has as many entries as there are names for its keys exactly if no name
is repeated. -/
theorem size_eq_length_iff
    {dict : Dict α}
    {names : List String}
    (sameNames : ∀ name, name ∈ dict.keys ↔ name ∈ names) :
    dict.size = names.length ↔ names.Nodup := by
  have sameKeys : dict.keys.Perm names.dedup := by
    rw [List.perm_ext_iff_of_nodup dict.nodup_keys (List.nodup_dedup _)]
    intro name
    rw [List.mem_dedup, sameNames]
  rw [← length_keys, sameKeys.length_eq]
  constructor
  · intro sameLength
    exact List.dedup_eq_self.mp ((List.dedup_sublist names).eq_of_length sameLength)
  · intro distinct
    rw [distinct.dedup]

/-- Dictionaries with the same value for every key are equal. -/
theorem ext_get?
    {first second : Dict α}
    (same : ∀ key, first.get? key = second.get? key) :
    first = second := by
  have irreflexive :
      Std.Irrefl (fun first second : String × α => first.1 < second.1) :=
    ⟨fun entry => String.lt_irrefl entry.1⟩
  have asymmetric :
      Std.Antisymm (fun first second : String × α => first.1 < second.1) :=
    ⟨fun _ _ below above => (String.lt_asymm below above).elim⟩
  have sameEntries : first.entries = second.entries := by
    refine first.sorted.eq_of_mem_iff second.sorted fun entry => ?_
    obtain ⟨key, value⟩ := entry
    rw [← get?_eq_some_iff, ← get?_eq_some_iff, same]
  cases first
  cases second
  simpa using sameEntries

/-- Changing the values of a dictionary changes what its keys give. -/
theorem get?_filterMap
    (change : α → Option β)
    (dict : Dict α)
    (key : String) :
    (dict.filterMap change).get? key = (dict.get? key).bind change := by
  refine Option.ext fun value => ?_
  rw [get?_eq_some_iff, Option.bind_eq_some_iff]
  simp only [get?_eq_some_iff, filterMap, List.mem_filterMap,
    Option.map_eq_some_iff, Prod.mk.injEq]
  constructor
  · rintro ⟨entry, member, changed, isChanged, rfl, rfl⟩
    exact ⟨entry.2, member, isChanged⟩
  · rintro ⟨former, member, isChanged⟩
    exact ⟨(key, former), member, value, isChanged, rfl, rfl⟩

/-- The empty dictionary has no values. -/
@[simp] theorem get?_empty (key : String) :
    (empty : Dict α).get? key = none :=
  rfl

/-- An insertion changes the value of its key only. -/
theorem lookup_insertEntry
    (key other : String)
    (value : α)
    (entries : List (String × α)) :
    (insertEntry key value entries).lookup other =
      if other = key then some value else entries.lookup other := by
  induction entries with
  | nil =>
      simp [insertEntry, Lookup.lookup_cons_eq_ite]
  | cons head rest inductionHypothesis =>
      unfold insertEntry
      split
      · rw [Lookup.lookup_cons_eq_ite]
      · split
        · rename_i notBelow above
          rw [Lookup.lookup_cons_eq_ite, Lookup.lookup_cons_eq_ite,
            inductionHypothesis]
          by_cases isHead : other = head.1
          · have notKey : head.1 ≠ key := String.ne_of_lt above
            simp [isHead, notKey]
          · simp [isHead]
        · rename_i notBelow notAbove
          have sameKey : key = head.1 :=
            String.le_antisymm
              (String.not_lt.mp notAbove) (String.not_lt.mp notBelow)
          rw [Lookup.lookup_cons_eq_ite, Lookup.lookup_cons_eq_ite]
          by_cases same : other = key <;> simp [← sameKey, same]

/-- An insertion changes the value of its key and of no other. -/
theorem get?_insert
    (dict : Dict α)
    (key other : String)
    (value : α) :
    (dict.insert key value).get? other =
      if other = key then some value else dict.get? other :=
  lookup_insertEntry key other value dict.entries

/-- Inserting further pairs gives each key the value of its last pair, if it has
one, and leaves it alone otherwise. -/
theorem get?_foldl_insert
    (dict : Dict α)
    (pairs : List (String × α))
    (key : String) :
    (pairs.foldl (fun dict pair => dict.insert pair.1 pair.2) dict).get? key =
      (pairs.reverse.lookup key).or (dict.get? key) := by
  induction pairs generalizing dict with
  | nil =>
      rfl
  | cons pair rest inductionHypothesis =>
      rw [List.foldl_cons, inductionHypothesis, get?_insert,
        List.reverse_cons, List.lookup_append,
        Lookup.lookup_cons_eq_ite, Option.or_assoc]
      by_cases same : key = pair.1 <;> simp [same]

/-- The last pair of a key wins. -/
theorem get?_ofList
    (pairs : List (String × α))
    (key : String) :
    (ofList pairs).get? key = pairs.reverse.lookup key := by
  unfold ofList
  rw [get?_foldl_insert, get?_empty, Option.or_none]

/-- The first pair wins only if its key has no other pair. -/
theorem get?_ofList_cons
    (pair : String × α)
    (rest : List (String × α))
    (key : String) :
    (ofList (pair :: rest)).get? key =
      ((ofList rest).get? key).or (if key = pair.1 then some pair.2 else none) := by
  rw [get?_ofList, get?_ofList, List.reverse_cons, List.lookup_append,
    Lookup.lookup_cons_eq_ite]
  rfl

/-- The keys of a dictionary made from pairs are theirs. -/
theorem mem_keys_ofList
    {pairs : List (String × α)}
    {key : String} :
    key ∈ (ofList pairs).keys ↔ key ∈ pairs.map (·.1) := by
  rw [mem_keys_iff, get?_ofList, ← Option.isSome_iff_exists, List.lookup_isSome_iff]
  simp only [List.mem_reverse, beq_iff_eq, List.mem_map, @eq_comm _ key]

/-- Inserting the entries of a dictionary one after another gives it back. -/
theorem ofList_entries (dict : Dict α) : ofList dict.entries = dict := by
  refine ext_get? fun key => ?_
  rw [get?_ofList]
  refine Lookup.lookup_congr_of_mem_iff ?_ dict.nodup_keys (by simp) key
  rw [List.map_reverse]
  exact List.nodup_reverse.mpr dict.nodup_keys

end AlertReceivers.Dict
