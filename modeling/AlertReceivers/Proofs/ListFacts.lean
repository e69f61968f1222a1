import Mathlib.Data.List.Forall2
import Mathlib.Data.List.TakeWhile

namespace AlertReceivers.ListFacts

/-!
# Related lists and split lists

Two lists whose elements are related one by one answer questions about elements alike.
What a list begins and ends with tells where it is split.
-/

variable {α β : Type}

section Related

variable {relation : α → β → Prop}
variable {first : List α}
variable {second : List β}

/-- Each element of a list is related to one of the other list. -/
theorem exists_of_mem_of_forall₂
    (related : List.Forall₂ relation first second)
    {element : α}
    (member : element ∈ first) :
    ∃ other ∈ second, relation element other := by
  induction related with
  | nil =>
      cases member
  | cons head _ inductionHypothesis =>
      rcases List.mem_cons.mp member with rfl | inRest
      · exact ⟨_, List.mem_cons_self, head⟩
      · obtain ⟨other, otherMember, isRelated⟩ := inductionHypothesis inRest
        exact ⟨other, List.mem_cons_of_mem _ otherMember, isRelated⟩

/-- Related lists end in related elements. -/
theorem exists_getLast?_of_forall₂
    (related : List.Forall₂ relation first second)
    {last : α}
    (isLast : first.getLast? = some last) :
    ∃ other, second.getLast? = some other ∧ relation last other := by
  have reversed := List.rel_reverse related
  rw [List.getLast?_eq_head?_reverse] at isLast ⊢
  generalize first.reverse = firstReversed at reversed isLast
  generalize second.reverse = secondReversed at reversed ⊢
  cases reversed with
  | nil =>
      cases isLast
  | @cons _ other _ _ head _ =>
      cases isLast
      exact ⟨other, rfl, head⟩

/-- A test that holds of related elements alike is passed by some element of both lists or
by none. -/
theorem any_eq_of_forall₂
    {test : α → Bool}
    {otherTest : β → Bool}
    (sameTest : ∀ element other, relation element other → test element = otherTest other)
    (related : List.Forall₂ relation first second) :
    first.any test = second.any otherTest := by
  induction related with
  | nil =>
      rfl
  | cons head _ inductionHypothesis =>
      rw [List.any_cons, List.any_cons, sameTest _ _ head, inductionHypothesis]

/-- Lists are equal that are related to one list element by element, if each element of it
is related to one thing only. -/
theorem eq_of_forall₂
    {things others : List β}
    (unique :
      ∀ {element thing}, (element, thing) ∈ first.zip things →
        ∀ {other}, relation element other → thing = other)
    (sameLength : first.length = things.length)
    (areOthers : List.Forall₂ relation first others) :
    things = others := by
  have areThings :
      List.Forall₂ (fun element thing => ∀ {other}, relation element other → thing = other)
        first things :=
    List.forall₂_iff_zip.mpr ⟨sameLength, unique⟩
  clear unique sameLength
  induction areOthers generalizing things with
  | nil =>
      cases areThings
      rfl
  | cons isHead _ inductionHypothesis =>
      cases areThings with
      | cons uniqueHead uniqueRest =>
          rw [uniqueHead isHead, inductionHypothesis uniqueRest]

end Related

section Split

/-- A list is split in one way only into elements of a class and a rest that does not begin
with one of them. -/
theorem append_inj_of_class
    (inClass : α → Bool)
    {front back otherFront otherBack : List α}
    (isFront : ∀ element ∈ front, inClass element = true)
    (isBack : ∀ element ∈ back.head?, inClass element = false)
    (isOtherFront : ∀ element ∈ otherFront, inClass element = true)
    (isOtherBack : ∀ element ∈ otherBack.head?, inClass element = false)
    (same : front ++ back = otherFront ++ otherBack) :
    front = otherFront ∧ back = otherBack := by
  have stops : ∀ rest : List α,
      (∀ element ∈ rest.head?, inClass element = false) → rest.takeWhile inClass = [] := by
    intro rest isRest
    cases rest with
    | nil =>
        rfl
    | cons element others =>
        rw [List.takeWhile_cons, isRest element rfl]
        rfl
  have sameFront := congrArg (List.takeWhile inClass) same
  rw [List.takeWhile_append_of_pos isFront, List.takeWhile_append_of_pos isOtherFront,
    stops back isBack, stops otherBack isOtherBack, List.append_nil, List.append_nil]
    at sameFront
  subst sameFront
  exact ⟨rfl, List.append_cancel_left same⟩

/-- What is left after some elements ends in the shared end, if they are no part of it. -/
theorem exists_shared
    (passed : List α)
    {tail rest ending : List α}
    (isText : passed ++ tail = rest ++ ending)
    (isKept : ending <:+ tail) :
    ∃ more, tail = more ++ ending ∧ rest = passed ++ more := by
  obtain ⟨more, rfl⟩ := isKept
  rw [← List.append_assoc] at isText
  exact ⟨more, rfl, (List.append_cancel_right isText).symm⟩

/-- Some element is the last one in front of an end. -/
theorem exists_last
    (element : α)
    (rest ending : List α) :
    ∃ last, last :: ending <:+ element :: (rest ++ ending) := by
  obtain ⟨init, last, isLast⟩ :=
    (List.eq_nil_or_concat (element :: rest)).resolve_left (List.cons_ne_nil element rest)
  refine ⟨last, init, ?_⟩
  rw [List.concat_eq_append] at isLast
  rw [← List.singleton_append, ← List.append_assoc, ← isLast]
  rfl

end Split

end AlertReceivers.ListFacts
