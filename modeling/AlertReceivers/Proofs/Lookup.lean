import Mathlib.Data.List.Nodup

namespace AlertReceivers.Lookup

/-!
# Lookups in lists of named values

A list of pairs is searched from its front.  When its names are distinct, a
lookup finds exactly the pairs that the list holds, in whatever order they stand.
-/

variable {α β : Type}

section AnyNames

variable {κ : Type} [BEq κ] [LawfulBEq κ] [DecidableEq κ]

/-- The first pair is found under its name, and hides no other name. -/
theorem lookup_cons_eq_ite
    (name : κ)
    (head : κ × α)
    (rest : List (κ × α)) :
    (head :: rest).lookup name =
      if name = head.1 then some head.2 else rest.lookup name := by
  obtain ⟨headName, headValue⟩ := head
  by_cases same : name = headName
  · simp [same]
  · simp [List.lookup_cons, same, beq_eq_false_iff_ne.mpr same]

omit [DecidableEq κ] in
/-- What is found is one of the pairs. -/
theorem mem_of_lookup
    {name : κ}
    {value : α}
    {entries : List (κ × α)}
    (found : entries.lookup name = some value) :
    (name, value) ∈ entries := by
  obtain ⟨earlier, later, shape, _⟩ := List.lookup_eq_some_iff.mp found
  rw [shape]
  simp

/-- With distinct names, a lookup finds exactly the pairs of the list. -/
theorem lookup_eq_some_iff_mem
    {entries : List (κ × α)}
    (distinct : (entries.map (·.1)).Nodup)
    {name : κ}
    {value : α} :
    entries.lookup name = some value ↔ (name, value) ∈ entries := by
  refine ⟨mem_of_lookup, fun member => ?_⟩
  induction entries with
  | nil =>
      simp at member
  | cons head rest inductionHypothesis =>
      obtain ⟨headFresh, restDistinct⟩ := List.nodup_cons.mp distinct
      rcases List.mem_cons.mp member with isHead | inRest
      · rw [← isHead, List.lookup_cons_self]
      · have nameNe : name ≠ head.1 := by
          rintro rfl
          exact headFresh (List.mem_map.mpr ⟨_, inRest, rfl⟩)
        rw [lookup_cons_eq_ite, if_neg nameNe]
        exact inductionHypothesis restDistinct inRest

end AnyNames

/-- Two lists with distinct names and the same pairs answer every lookup alike. -/
theorem lookup_congr_of_mem_iff
    {first second : List (String × α)}
    (firstDistinct : (first.map (·.1)).Nodup)
    (secondDistinct : (second.map (·.1)).Nodup)
    (same : ∀ entry, entry ∈ first ↔ entry ∈ second)
    (name : String) :
    first.lookup name = second.lookup name := by
  refine Option.ext fun value => ?_
  rw [lookup_eq_some_iff_mem firstDistinct,
    lookup_eq_some_iff_mem secondDistinct, same]

/-- Changing every value by its name changes what lookups find in the same way. -/
theorem lookup_map_value
    (change : String → α → β)
    (entries : List (String × α))
    (name : String) :
    (entries.map fun entry => (entry.1, change entry.1 entry.2)).lookup name =
      (entries.lookup name).map (change name) := by
  induction entries with
  | nil =>
      rfl
  | cons head rest inductionHypothesis =>
      rw [List.map_cons, lookup_cons_eq_ite, lookup_cons_eq_ite,
        inductionHypothesis]
      by_cases same : name = head.1 <;> simp [same]

/-- Lists with the same distinct names are equal if every name has one value. -/
theorem ext_lookup
    {first second : List (String × α)}
    (sameNames : first.map (·.1) = second.map (·.1))
    (distinct : (first.map (·.1)).Nodup)
    (sameValues :
      ∀ name ∈ first.map (·.1), first.lookup name = second.lookup name) :
    first = second := by
  induction first generalizing second with
  | nil =>
      exact (List.map_eq_nil_iff.mp sameNames.symm).symm
  | cons head rest inductionHypothesis =>
      obtain ⟨otherHead, otherRest, rfl, sameName, sameRest⟩ :=
        List.map_eq_cons_iff.mp sameNames.symm
      obtain ⟨headFresh, restDistinct⟩ := List.nodup_cons.mp distinct
      have sameValue := sameValues head.1 List.mem_cons_self
      simp only [lookup_cons_eq_ite, sameName, if_true, Option.some.injEq]
        at sameValue
      have sameTail : rest = otherRest := by
        refine inductionHypothesis sameRest.symm restDistinct
          fun name member => ?_
        have notHead : name ≠ head.1 := by
          rintro rfl
          exact headFresh member
        have inTail := sameValues name (List.mem_cons_of_mem _ member)
        simpa only [lookup_cons_eq_ite, sameName, if_neg notHead] using inTail
      rw [sameTail, Prod.ext sameName.symm sameValue]

end AlertReceivers.Lookup
