import AlertReceivers.Proofs.Lookup
import AlertReceivers.Receiver.Tally
import Mathlib.Algebra.Ring.Nat
import Mathlib.Data.List.Sort

namespace AlertReceivers

/-!
# Laws of tallies

Counting a kind raises its number by one and leaves the others alone.  So a tally of
kinds has the number of occurrences of each kind that occurs, its numbers add up to that
of all kinds, and it lists the kinds in the order of all kinds.
-/

namespace Kind

theorem eq_of_rank_eq
    {first second : Kind}
    (same : first.rank = second.rank) :
    first = second := by
  cases first <;> cases second <;> first | rfl | cases same

theorem mem_all (kind : Kind) : kind ∈ all := by
  cases kind <;> decide

/-- All kinds are listed in the order of kinds. -/
theorem sorted_all : all.Pairwise (fun first second => first.rank < second.rank) := by
  decide

end Kind

namespace Tally

variable {kind other : Kind}
variable {counts : List (Kind × Nat)}

/-- A kind that is below all counted ones was not counted. -/
theorem lookup_eq_none_of_below
    (below : ∀ counted ∈ counts.map (·.1), kind.rank < counted.rank) :
    counts.lookup kind = none := by
  refine List.lookup_eq_none_iff.mpr fun entry member => ?_
  have isBelow := below entry.1 (List.mem_map_of_mem member)
  rw [bne_iff_ne]
  rintro rfl
  exact Nat.lt_irrefl _ isBelow

/-- Counting a kind changes its number only. -/
theorem lookup_countEntry
    (sorted : (counts.map (·.1)).Pairwise (fun first second => first.rank < second.rank)) :
    (countEntry kind counts).lookup other =
      if other = kind then some ((counts.lookup kind).getD 0 + 1) else counts.lookup other := by
  induction counts with
  | nil =>
      simp [countEntry, Lookup.lookup_cons_eq_ite]
  | cons head rest inductionHypothesis =>
      obtain ⟨headBelow, restSorted⟩ := List.pairwise_cons.mp sorted
      unfold countEntry
      split
      · rename_i below
        have isNew : (head :: rest).lookup kind = none := by
          refine lookup_eq_none_of_below fun counted member => ?_
          rcases List.mem_cons.mp member with rfl | inRest
          · exact below
          · exact Nat.lt_trans below (headBelow counted inRest)
        rw [Lookup.lookup_cons_eq_ite, isNew]
        rfl
      · split
        · rename_i above
          have notHead : kind ≠ head.1 := by
            rintro rfl
            exact Nat.lt_irrefl _ above
          rw [Lookup.lookup_cons_eq_ite, inductionHypothesis restSorted,
            Lookup.lookup_cons_eq_ite kind, if_neg notHead, Lookup.lookup_cons_eq_ite other]
          by_cases isHead : other = head.1
          · rw [if_pos isHead, if_pos isHead, if_neg (isHead ▸ notHead.symm)]
          · rw [if_neg isHead, if_neg isHead]
        · rename_i notBelow notAbove
          have isHead : head.1 = kind :=
            Kind.eq_of_rank_eq
              (Nat.le_antisymm (Nat.not_lt.mp notBelow) (Nat.not_lt.mp notAbove))
          rw [Lookup.lookup_cons_eq_ite, Lookup.lookup_cons_eq_ite kind,
            Lookup.lookup_cons_eq_ite other, isHead, if_pos rfl]
          by_cases isKind : other = kind
          · rw [if_pos isKind, if_pos isKind, Option.getD_some]
          · rw [if_neg isKind, if_neg isKind, if_neg isKind]

/-- Counting a kind raises its number by one and leaves the others alone. -/
theorem get?_count
    (tally : Tally)
    (kind other : Kind) :
    (tally.count kind).get? other =
      if other = kind then some ((tally.get? kind).getD 0 + 1) else tally.get? other :=
  lookup_countEntry tally.sorted

/--
Counting kinds one after another raises the number of each by that of its occurrences.

The induction is on the kinds that are still to be counted, for every tally so far.
-/
theorem get?_foldl_count
    (kinds : List Kind)
    (tally : Tally) :
    (kinds.foldl count tally).get? kind =
      if kind ∈ kinds then
        some ((tally.get? kind).getD 0 + kinds.count kind)
      else
        tally.get? kind := by
  induction kinds generalizing tally with
  | nil =>
      rfl
  | cons head rest inductionHypothesis =>
      rw [List.foldl_cons, inductionHypothesis, get?_count, List.count_cons]
      by_cases isHead : kind = head
      · subst isHead
        by_cases inRest : kind ∈ rest
        · simp only [inRest, List.mem_cons_self, if_true, Option.getD_some, beq_self_eq_true]
          rw [Nat.add_assoc, Nat.add_comm 1]
        · simp [inRest, List.count_eq_zero_of_not_mem inRest]
      · simp [isHead, Ne.symm isHead]

/-- A tally of kinds has exactly the kinds that occur, with their numbers of occurrences. -/
theorem get?_ofKinds (kinds : List Kind) :
    (ofKinds kinds).get? kind = if kind ∈ kinds then some (kinds.count kind) else none := by
  have isEmpty : empty.get? kind = none := rfl
  rw [ofKinds, get?_foldl_count, isEmpty, Option.getD_none, Nat.zero_add]

/-- The sum of all numbers. -/
def total (tally : Tally) : Nat :=
  (tally.counts.map (·.2)).sum

/-- Counting a kind adds one to the sum. -/
theorem sum_countEntry
    (kind : Kind)
    (counts : List (Kind × Nat)) :
    ((countEntry kind counts).map (·.2)).sum = (counts.map (·.2)).sum + 1 := by
  induction counts with
  | nil =>
      rfl
  | cons head rest inductionHypothesis =>
      unfold countEntry
      split
      · simp only [List.map_cons, List.sum_cons]
        omega
      · split
        · simp only [List.map_cons, List.sum_cons, inductionHypothesis]
          omega
        · simp only [List.map_cons, List.sum_cons]
          omega

/-- Each count raises the sum of all numbers by one. -/
theorem total_foldl_count
    (kinds : List Kind)
    (tally : Tally) :
    (kinds.foldl count tally).total = tally.total + kinds.length := by
  induction kinds generalizing tally with
  | nil =>
      rfl
  | cons head rest inductionHypothesis =>
      have isOneMore : (tally.count head).total = tally.total + 1 :=
        sum_countEntry head tally.counts
      rw [List.foldl_cons, inductionHypothesis, isOneMore, List.length_cons]
      omega

/-- The numbers of a tally of kinds add up to the number of kinds. -/
theorem total_ofKinds (kinds : List Kind) : (ofKinds kinds).total = kinds.length := by
  have isEmpty : empty.total = 0 := rfl
  rw [ofKinds, total_foldl_count, isEmpty, Nat.zero_add]

/-- No kind is counted twice. -/
theorem nodup_kinds (tally : Tally) : tally.kinds.Nodup :=
  tally.sorted.imp fun below same => Nat.ne_of_lt below (congrArg Kind.rank same)

/-- The counts are what is found for the kinds. -/
theorem mem_counts_iff
    {tally : Tally}
    {number : Nat} :
    (kind, number) ∈ tally.counts ↔ tally.get? kind = some number :=
  (Lookup.lookup_eq_some_iff_mem tally.nodup_kinds).symm

/-- A tally lists the counted kinds among all kinds, in their order. -/
theorem kinds_eq_filter (tally : Tally) :
    tally.kinds = Kind.all.filter (fun kind => kind ∈ tally.kinds) := by
  have irreflexive :
      Std.Irrefl (fun first second : Kind => first.rank < second.rank) :=
    ⟨fun kind => Nat.lt_irrefl kind.rank⟩
  have asymmetric :
      Std.Antisymm (fun first second : Kind => first.rank < second.rank) :=
    ⟨fun _ _ below above => (Nat.lt_asymm below above).elim⟩
  refine tally.sorted.eq_of_mem_iff (Kind.sorted_all.filter _) fun kind => ?_
  rw [List.mem_filter, decide_eq_true_eq]
  exact ⟨fun counted => ⟨kind.mem_all, counted⟩, fun counted => counted.2⟩

/-- The kinds are listed in their order. -/
theorem kinds_sublist_all (tally : Tally) : tally.kinds.Sublist Kind.all := by
  rw [kinds_eq_filter]
  exact List.filter_sublist

end Tally

end AlertReceivers
