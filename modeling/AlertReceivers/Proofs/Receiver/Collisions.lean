import AlertReceivers.Proofs.Receiver.WrittenHeaders
import AlertReceivers.Receiver.Editing

namespace AlertReceivers

/-!
# The first collision of headers

Headers are normalised in the ascending order of their names, and the first name with
the canonical form of a smaller one ends the work.  Such a name is found exactly if
some canonical form is that of two names.  Otherwise every value is found under the
canonical form of its name.
-/

open Text (canonicalHeaderName)

/-- A name of a table has the canonical form of a smaller one. -/
def FollowsTwin
    (written : Dict String)
    (name : String) :
    Prop :=
  name ∈ written.keys ∧
    ∃ smaller ∈ written.keys,
      smaller < name ∧ canonicalHeaderName smaller = canonicalHeaderName name

/-- A name of a table is the first one with the canonical form of a smaller one. -/
structure IsFirstCollision
    (written : Dict String)
    (name : String) :
    Prop where
  followsTwin :
    FollowsTwin written name
  first :
    ∀ other, FollowsTwin written other → name ≤ other

/-- The canonical forms of the names of a table differ. -/
def CanonicalNamesDiffer (written : Dict String) : Prop :=
  Set.InjOn canonicalHeaderName {name | name ∈ written.keys}

/-- Canonical names differ exactly if none collide. -/
theorem canonicalNamesDiffer_iff
    {written : Dict String} :
    CanonicalNamesDiffer written ↔ ¬ Collides written := by
  constructor
  · rintro injective ⟨first, firstMember, second, secondMember, differ, same⟩
    exact differ (injective firstMember secondMember same)
  · intro apart first firstMember second secondMember same
    by_contra differ
    exact apart ⟨first, firstMember, second, secondMember, differ, same⟩

/-- Rekeying stops at a pair whose canonical name was put in place by the pairs in
front of it. -/
theorem exists_of_rekeyHeaders_error
    {done : Dict String}
    {pairs : List (String × String)}
    {header : String}
    (refused : rekeyHeaders done pairs = .error header) :
    ∃ earlier pair later before,
      pairs = earlier ++ pair :: later ∧
        rekeyHeaders done earlier = .ok before ∧
        before.contains header = true ∧
        canonicalHeaderName pair.1 = header := by
  induction pairs generalizing done with
  | nil =>
      cases refused
  | cons pair rest inductionHypothesis =>
      unfold rekeyHeaders at refused
      split at refused
      · rename_i taken
        cases refused
        exact ⟨[], pair, rest, done, rfl, rfl, taken, rfl⟩
      · rename_i notTaken
        obtain ⟨earlier, other, later, before, rfl, rekeyed, taken, isHeader⟩ :=
          inductionHypothesis refused
        refine ⟨pair :: earlier, other, later, before, rfl, ?_, taken, isHeader⟩
        rw [rekeyHeaders, if_neg notTaken]
        exact rekeyed

/-- Headers that cannot be rekeyed are refused for the first collision. -/
theorem isFirstCollision_of_rekeyHeaders_error
    {written : Dict String}
    {header : String}
    (refused : rekeyHeaders .empty written.entries = .error header) :
    ∃ name, IsFirstCollision written name ∧ canonicalHeaderName name = header := by
  obtain ⟨earlier, pair, later, before, shape, rekeyed, taken, isHeader⟩ :=
    exists_of_rekeyHeaders_error refused
  have inEarlier : ∀ entry, entry ∈ earlier ↔ entry ∈ written.entries ∧ entry.1 < pair.1 :=
    fun entry => Dict.mem_earlier_iff shape
  have inKeys : ∀ entry ∈ written.entries, entry.1 ∈ written.keys :=
    fun entry member => List.mem_map_of_mem member
  refine ⟨pair.1, ⟨⟨inKeys pair (by simp [shape]), ?_⟩, fun other twin => ?_⟩, isHeader⟩
  · obtain ⟨value, found⟩ := Option.isSome_iff_exists.mp taken
    rw [get?_of_rekeyHeaders rekeyed, Dict.get?_empty] at found
    obtain ⟨twin, member, isTwin, _⟩ := found.resolve_left (by simp)
    obtain ⟨twinMember, below⟩ := (inEarlier twin).mp member
    exact ⟨twin.1, inKeys twin twinMember, below, isTwin.trans isHeader.symm⟩
  · -- Two earlier names with one canonical form would have ended the work before.
    by_contra notFirst
    obtain ⟨otherMember, smaller, smallerMember, below, same⟩ := twin
    have otherBelow : other < pair.1 := String.not_le.mp notFirst
    obtain ⟨distinct, _⟩ := rekeyHeaders_ok_iff.mp ⟨before, rekeyed⟩
    have injective := List.inj_on_of_nodup_map distinct
    obtain ⟨otherValue, otherEntry⟩ := Dict.exists_entry otherMember
    obtain ⟨smallerValue, smallerEntry⟩ := Dict.exists_entry smallerMember
    have samePair : (smaller, smallerValue) = (other, otherValue) :=
      injective ((inEarlier _).mpr ⟨smallerEntry, String.lt_trans below otherBelow⟩)
        ((inEarlier _).mpr ⟨otherEntry, otherBelow⟩) same
    exact String.ne_of_lt below (congrArg Prod.fst samePair)

/-- Only one name is the first to collide. -/
theorem IsFirstCollision.unique
    {written : Dict String}
    {first second : String}
    (isFirst : IsFirstCollision written first)
    (isSecond : IsFirstCollision written second) :
    first = second :=
  String.le_antisymm (isFirst.first second isSecond.followsTwin)
    (isSecond.first first isFirst.followsTwin)

/-- A first collision is a collision. -/
theorem IsFirstCollision.collides
    {written : Dict String}
    {name : String}
    (isFirst : IsFirstCollision written name) :
    Collides written := by
  obtain ⟨member, smaller, smallerMember, below, same⟩ := isFirst.followsTwin
  exact ⟨smaller, smallerMember, name, member, String.ne_of_lt below, same⟩

/-- Headers are refused exactly for the first collision of their names. -/
theorem rekeyHeaders_error_iff
    {written : Dict String}
    {header : String} :
    rekeyHeaders .empty written.entries = .error header ↔
      ∃ name, IsFirstCollision written name ∧ canonicalHeaderName name = header := by
  constructor
  · exact isFirstCollision_of_rekeyHeaders_error
  · rintro ⟨name, isFirst, rfl⟩
    cases outcome : rekeyHeaders .empty written.entries with
    | ok result =>
        exact (rekeyHeaders_entries_ok_iff.mp ⟨result, outcome⟩ isFirst.collides).elim
    | error header =>
        obtain ⟨other, isOther, rfl⟩ := isFirstCollision_of_rekeyHeaders_error outcome
        rw [isOther.unique isFirst]

namespace Receiver

/-- Two receivers differ in their headers at most. -/
structure EqualButHeaders (first second : Receiver) : Prop where
  sameKind :
    first.kind = second.kind
  sameNames :
    first.settings.map (·.1) = second.settings.map (·.1)
  sameSettings :
    ∀ name, name ≠ "headers" → first.setting? name = second.setting? name

/-- Other headers change nothing but the headers. -/
theorem equalButHeaders_withHeaders
    (receiver : Receiver)
    (headers : Dict String) :
    (receiver.withHeaders headers).EqualButHeaders receiver where
  sameKind :=
    rfl
  sameNames := by
    rw [names_settings, names_settings]
    rfl
  sameSettings := by
    intro name notHeaders
    simp [setting?_withHeaders, notHeaders]

variable {receiver normal : Receiver}

/-- The headers of a normalised mail are the rekeyed ones. -/
theorem rekeyHeaders_of_normalize
    (isMail : receiver.kind = .email)
    (normalized : receiver.normalize = .ok normal) :
    rekeyHeaders .empty receiver.headers.entries = .ok normal.headers := by
  rw [normalize_of_eq_email isMail] at normalized
  split at normalized
  · rename_i headers rekeyed
    cases normalized
    rw [rekeyed, headers_withHeaders isMail]
  · cases normalized

/-- A mail is refused exactly if its headers cannot be rekeyed, and for the same
header. -/
theorem normalize_error_iff
    (isMail : receiver.kind = .email)
    {error : DecodeError} :
    receiver.normalize = .error error ↔
      ∃ header,
        rekeyHeaders .empty receiver.headers.entries = .error header ∧
          error = .duplicateHeader .email header := by
  rw [normalize_of_eq_email isMail]
  cases rekeyHeaders .empty receiver.headers.entries with
  | ok headers =>
      simp
  | error header =>
      simp [eq_comm]

/-- Normalising a mail as an edit leaves behind what normalising gives, and changes its
headers at most even if it is refused. -/
theorem exists_apply_normalize (receiver : Receiver) :
    ∃ after answer,
      receiver.apply .normalize = .ok (after, answer) ∧
        (receiver.normalize = .ok after ∧ answer = .passed ∨
          ∃ error, receiver.normalize = .error error ∧ answer = .failed error) ∧
        after.EqualButHeaders receiver := by
  cases outcome : receiver.normalize with
  | ok normal =>
      obtain ⟨sameKind, sameSettings⟩ := frame_of_normalize outcome
      refine ⟨normal, .passed, by simp only [apply, outcome], .inl ⟨rfl, rfl⟩, ?_⟩
      exact ⟨sameKind, by rw [names_settings, names_settings, sameKind],
        fun name notHeaders => sameSettings name (.inr notHeaders)⟩
  | error error =>
      exact ⟨receiver.withHeaders .empty, .failed error, by simp only [apply, outcome],
        .inr ⟨error, rfl, rfl⟩, equalButHeaders_withHeaders receiver .empty⟩

/--
Normalising a mail succeeds exactly if the canonical forms of its header names differ,
and then it has as many headers as before, each value under the canonical form of its
name.  Otherwise it is refused for the first name, in ascending order, that has the
canonical form of a smaller one.  Either way nothing but the headers changes.
-/
theorem normalize_of_mail
    (isMail : receiver.kind = .email) :
    ((∃ normal, receiver.normalize = .ok normal) ↔
        CanonicalNamesDiffer receiver.headers) ∧
      (∀ normal, receiver.normalize = .ok normal →
        Rekeys normal.headers receiver.headers ∧
          (∀ name ∈ receiver.headers.keys,
            normal.headers.get? (canonicalHeaderName name) = receiver.headers.get? name) ∧
          normal.headers.size = receiver.headers.size) ∧
      (∀ error,
        receiver.normalize = .error error ↔
          ∃ name,
            IsFirstCollision receiver.headers name ∧
              error = .duplicateHeader .email (canonicalHeaderName name)) ∧
      ∃ after answer,
        receiver.apply .normalize = .ok (after, answer) ∧
          (receiver.normalize = .ok after ∧ answer = .passed ∨
            ∃ error, receiver.normalize = .error error ∧ answer = .failed error) ∧
          after.EqualButHeaders receiver := by
  refine ⟨?_, fun normal normalized => ?_, fun error => ?_, receiver.exists_apply_normalize⟩
  · rw [canonicalNamesDiffer_iff, normalize_ok_iff, and_iff_right isMail]
  · have rekeyed := rekeyHeaders_of_normalize isMail normalized
    have rekeys := rekeys_of_rekeyHeaders rekeyed
    refine ⟨rekeys, fun name member => ?_, ?_⟩
    · obtain ⟨value, found⟩ := Dict.mem_keys_iff.mp member
      rw [found]
      exact (rekeys _ _).mpr ⟨name, rfl, found⟩
    · exact rekeys.size_eq (rekeyHeaders_entries_ok_iff.mp ⟨_, rekeyed⟩)
  · rw [normalize_error_iff isMail]
    constructor
    · rintro ⟨header, refused, rfl⟩
      obtain ⟨name, isFirst, rfl⟩ := rekeyHeaders_error_iff.mp refused
      exact ⟨name, isFirst, rfl⟩
    · rintro ⟨name, isFirst, rfl⟩
      exact ⟨_, rekeyHeaders_error_iff.mpr ⟨name, isFirst, rfl⟩, rfl⟩

/-- A mail with three spellings of one header and two of another. -/
def manySpellings : Receiver :=
  Kind.email.initial.withHeaders
    (.ofList [("subject", "a"), ("reply-to", "b"), ("Subject", "c"), ("SUBJECT", "d"),
      ("Reply-To", "e")])

/-- Two headers collide, and the one whose collision comes first is reported. -/
theorem normalize_of_mail_manySpellings :
    manySpellings.kind = .email ∧
      manySpellings.headers.keys =
        ["Reply-To", "SUBJECT", "Subject", "reply-to", "subject"] ∧
      manySpellings.normalize = .error (.duplicateHeader .email "Subject") ∧
      ¬ CanonicalNamesDiffer manySpellings.headers ∧
      ∃ name,
        IsFirstCollision manySpellings.headers name ∧ canonicalHeaderName name = "Subject" := by
  have refused :
      manySpellings.normalize = .error (.duplicateHeader .email "Subject") := rfl
  have isMail : manySpellings.kind = .email := rfl
  obtain ⟨isOk, _, isError, _⟩ := normalize_of_mail isMail
  obtain ⟨name, isFirst, same⟩ := (isError _).mp refused
  refine ⟨isMail, rfl, refused, ?_, name, isFirst, (DecodeError.duplicateHeader.inj same).2.symm⟩
  rw [← isOk, refused]
  simp

end Receiver

end AlertReceivers
