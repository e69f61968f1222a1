import AlertReceivers.Receiver.Kind

namespace AlertReceivers

/-!
# Tallies of kinds

A tally says how often each kind was counted.  It lists the kinds that were counted at
all, in the order of kinds.
-/

/-- How often kinds were counted. -/
structure Tally where
  /-- The counted kinds in ascending order, with their numbers. -/
  counts : List (Kind × Nat)
  sorted : (counts.map (·.1)).Pairwise (fun first second => first.rank < second.rank)

namespace Tally

/-- The tally of nothing. -/
def empty : Tally where
  counts :=
    []
  sorted :=
    .nil

/-- Count a kind once more, or for the first time at its place. -/
def countEntry (kind : Kind) : List (Kind × Nat) → List (Kind × Nat)
  | [] =>
      [(kind, 1)]
  | (headKind, number) :: rest =>
      if kind.rank < headKind.rank then
        (kind, 1) :: (headKind, number) :: rest
      else if headKind.rank < kind.rank then
        (headKind, number) :: countEntry kind rest
      else
        (headKind, number + 1) :: rest

/-- Every kind after a count is the counted one or was there before. -/
theorem mem_countEntry
    {kind other : Kind}
    {counts : List (Kind × Nat)}
    (member : other ∈ (countEntry kind counts).map (·.1)) :
    other = kind ∨ other ∈ counts.map (·.1) := by
  induction counts with
  | nil =>
      exact .inl (by simpa [countEntry] using member)
  | cons head rest inductionHypothesis =>
      unfold countEntry at member
      split at member
      · simpa using member
      · split at member
        · rcases List.mem_cons.mp member with isHead | inRest
          · exact .inr (List.mem_cons.mpr (.inl isHead))
          · exact (inductionHypothesis inRest).imp id (List.mem_cons_of_mem head.1)
        · exact .inr member

/-- Counting keeps the kinds strictly ascending. -/
theorem sorted_countEntry
    (kind : Kind)
    {counts : List (Kind × Nat)}
    (sorted : (counts.map (·.1)).Pairwise (fun first second => first.rank < second.rank)) :
    ((countEntry kind counts).map (·.1)).Pairwise
      (fun first second => first.rank < second.rank) := by
  induction counts with
  | nil =>
      exact List.pairwise_singleton _ _
  | cons head rest inductionHypothesis =>
      obtain ⟨headBelow, restSorted⟩ := List.pairwise_cons.mp sorted
      unfold countEntry
      split
      · rename_i below
        refine List.pairwise_cons.mpr ⟨fun other member => ?_, sorted⟩
        rcases List.mem_cons.mp member with isHead | inRest
        · exact isHead ▸ below
        · exact Nat.lt_trans below (headBelow other inRest)
      · split
        · rename_i above
          refine List.pairwise_cons.mpr
            ⟨fun other member => ?_, inductionHypothesis restSorted⟩
          rcases mem_countEntry member with isNew | inRest
          · exact isNew ▸ above
          · exact headBelow other inRest
        · exact sorted

/-- Count a kind. -/
def count
    (tally : Tally)
    (kind : Kind) :
    Tally where
  counts :=
    countEntry kind tally.counts
  sorted :=
    sorted_countEntry kind tally.sorted

/-- Count kinds one after another. -/
def ofKinds (kinds : List Kind) : Tally :=
  kinds.foldl count empty

/-- The number of a kind that was counted. -/
def get?
    (tally : Tally)
    (kind : Kind) :
    Option Nat :=
  tally.counts.lookup kind

/-- The counted kinds in ascending order. -/
def kinds (tally : Tally) : List Kind :=
  tally.counts.map (·.1)

end Tally

end AlertReceivers
