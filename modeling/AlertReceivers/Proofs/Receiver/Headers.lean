import AlertReceivers.Proofs.Receiver.Conversion
import AlertReceivers.Proofs.Receiver.Schema

namespace AlertReceivers

/-!
# Rekeyed headers

Headers are put under their canonical names one after another.  That succeeds
exactly if no two names have one canonical form, and then no value is lost.
-/

open Text (canonicalHeaderName)

/-- A table holds the values of another under the canonical forms of its names. -/
def Rekeys (canonical written : Dict String) : Prop :=
  ∀ name value,
    canonical.get? name = some value ↔
      ∃ original,
        canonicalHeaderName original = name ∧
          written.get? original = some value

/-- Two names of a table have the same canonical form. -/
def Collides (written : Dict String) : Prop :=
  ∃ first ∈ written.keys, ∃ second ∈ written.keys,
    first ≠ second ∧ canonicalHeaderName first = canonicalHeaderName second

theorem contains_eq_false_iff
    {done : Dict String}
    {name : String} :
    ¬ done.contains name = true ↔ done.get? name = none := by
  simp [Dict.contains]

/-- Headers can be rekeyed exactly if their canonical names are distinct and none
of them is taken. -/
theorem rekeyHeaders_ok_iff
    {done : Dict String}
    {pairs : List (String × String)} :
    (∃ result, rekeyHeaders done pairs = .ok result) ↔
      (pairs.map fun pair => canonicalHeaderName pair.1).Nodup ∧
        ∀ pair ∈ pairs, done.get? (canonicalHeaderName pair.1) = none := by
  induction pairs generalizing done with
  | nil =>
      simp [rekeyHeaders]
  | cons pair rest inductionHypothesis =>
      rw [List.map_cons, List.nodup_cons, List.forall_mem_cons]
      unfold rekeyHeaders
      split
      · rename_i taken
        have notFree : done.get? (canonicalHeaderName pair.1) ≠ none :=
          fun free => contains_eq_false_iff.mpr free taken
        simp [notFree]
      · rename_i notTaken
        have free := contains_eq_false_iff.mp notTaken
        rw [inductionHypothesis]
        constructor
        · rintro ⟨distinct, restFree⟩
          have freeTwice : ∀ later ∈ rest,
              canonicalHeaderName later.1 ≠ canonicalHeaderName pair.1 ∧
                done.get? (canonicalHeaderName later.1) = none := by
            intro later member
            have laterFree := restFree later member
            rw [Dict.get?_insert] at laterFree
            split at laterFree
            · cases laterFree
            · rename_i differs
              exact ⟨differs, laterFree⟩
          refine ⟨⟨?_, distinct⟩, free, fun later member =>
            (freeTwice later member).2⟩
          intro repeated
          obtain ⟨later, member, same⟩ := List.mem_map.mp repeated
          exact (freeTwice later member).1 same
        · rintro ⟨⟨fresh, distinct⟩, _, restFree⟩
          refine ⟨distinct, fun later member => ?_⟩
          rw [Dict.get?_insert, if_neg]
          · exact restFree later member
          · intro same
            exact fresh (List.mem_map.mpr ⟨later, member, same⟩)

/-- Rekeyed headers have the values that were done before and those of the pairs. -/
theorem get?_of_rekeyHeaders
    {done result : Dict String}
    {pairs : List (String × String)}
    (rekeyed : rekeyHeaders done pairs = .ok result)
    (name value : String) :
    result.get? name = some value ↔
      done.get? name = some value ∨
        ∃ pair ∈ pairs,
          canonicalHeaderName pair.1 = name ∧ pair.2 = value := by
  induction pairs generalizing done with
  | nil =>
      cases rekeyed
      simp
  | cons pair rest inductionHypothesis =>
      unfold rekeyHeaders at rekeyed
      split at rekeyed
      · cases rekeyed
      · rename_i notTaken
        have free := contains_eq_false_iff.mp notTaken
        rw [inductionHypothesis rekeyed, Dict.get?_insert, List.exists_mem_cons_iff]
        by_cases same : name = canonicalHeaderName pair.1
        · subst name
          simp [free]
        · simp [same, Ne.symm same]

/-- The headers of a table can be rekeyed exactly if its names do not collide. -/
theorem rekeyHeaders_entries_ok_iff
    {written : Dict String} :
    (∃ result, rekeyHeaders .empty written.entries = .ok result) ↔
      ¬ Collides written := by
  have distinctNames :
      (written.entries.map fun pair => canonicalHeaderName pair.1).Nodup ↔
        (written.keys.map canonicalHeaderName).Nodup := by
    simp [Dict.keys, Function.comp_def]
  rw [rekeyHeaders_ok_iff, distinctNames,
    List.nodup_map_iff_inj_on written.nodup_keys]
  constructor
  · rintro ⟨injective, _⟩ ⟨first, firstMember, second, secondMember, differ, same⟩
    exact differ (injective first firstMember second secondMember same)
  · intro apart
    refine ⟨fun first firstMember second secondMember same => ?_, by simp⟩
    by_contra differ
    exact apart ⟨first, firstMember, second, secondMember, differ, same⟩

/-- The headers of a table are rekeyed to their canonical names. -/
theorem rekeys_of_rekeyHeaders
    {written result : Dict String}
    (rekeyed : rekeyHeaders .empty written.entries = .ok result) :
    Rekeys result written := by
  intro name value
  rw [get?_of_rekeyHeaders rekeyed, Dict.get?_empty]
  simp only [Dict.get?_eq_some_iff, reduceCtorEq, false_or]
  constructor
  · rintro ⟨pair, member, isName, rfl⟩
    exact ⟨pair.1, isName, member⟩
  · rintro ⟨original, isName, member⟩
    exact ⟨(original, value), member, isName, rfl⟩

theorem Rekeys.unique
    {first second written : Dict String}
    (rekeysFirst : Rekeys first written)
    (rekeysSecond : Rekeys second written) :
    first = second :=
  Dict.ext_get? fun name => Option.ext fun value => by
    rw [rekeysFirst, rekeysSecond]

/-- Headers that have canonical names already stay as they are. -/
theorem rekeyHeaders_of_canonical
    {written : Dict String}
    (canonical : ∀ name ∈ written.keys, canonicalHeaderName name = name) :
    rekeyHeaders .empty written.entries = .ok written := by
  have apart : ¬ Collides written := by
    rintro ⟨first, firstMember, second, secondMember, differ, same⟩
    rw [canonical first firstMember, canonical second secondMember] at same
    exact differ same
  have staysPut : Rekeys written written := by
    intro name value
    constructor
    · intro found
      exact ⟨name, canonical name (Dict.mem_keys_iff.mpr ⟨value, found⟩), found⟩
    · rintro ⟨original, isName, found⟩
      have isCanonical :=
        canonical original (Dict.mem_keys_iff.mpr ⟨value, found⟩)
      rwa [← isName, isCanonical]
  obtain ⟨result, rekeyed⟩ := rekeyHeaders_entries_ok_iff.mpr apart
  rw [rekeyed, (rekeys_of_rekeyHeaders rekeyed).unique staysPut]

namespace Receiver

theorem headers_of_setting?
    {receiver : Receiver}
    {table : Dict String}
    (found : receiver.setting? "headers" = some (.table table)) :
    receiver.headers = table := by
  simp only [headers, found]

/-- A mail has a table of headers. -/
theorem setting?_headers
    {receiver : Receiver}
    (isMail : receiver.kind = .email) :
    receiver.setting? "headers" = some (.table receiver.headers) := by
  have member : Kind.headersField ∈ receiver.kind.schema :=
    isMail ▸ Kind.headersField_mem_schema
  obtain ⟨setting, found⟩ := exists_setting member
  change receiver.setting? "headers" = some setting at found
  obtain ⟨table, rfl⟩ := Setting.exists_table (sort_of_setting? member found)
  rw [headers_of_setting? found, found]

/-- Changing a setting that the receiver has changes this setting alone. -/
theorem setting?_withSetting
    (receiver : Receiver)
    (name : String)
    (setting : Setting)
    (sameSort :
      ∀ field ∈ receiver.kind.schema, field.name = name → field.sort = setting.sort)
    (other : String) :
    (receiver.withSetting name setting sameSort).setting? other =
      (receiver.setting? other).map
        (fun former => if other = name then setting else former) := by
  have eachEntry : ∀ entry : String × Setting,
      (if entry.1 = name then (name, setting) else entry) =
        (entry.1, if entry.1 = name then setting else entry.2) := by
    intro entry
    split
    · rename_i same
      rw [same]
    · rfl
  unfold setting? withSetting
  simp only [eachEntry]
  exact Lookup.lookup_map_value
    (fun entryName former => if entryName = name then setting else former)
    receiver.settings other

/-- Changing the headers that a receiver has changes nothing else. -/
theorem setting?_withHeaders
    (receiver : Receiver)
    (headers : Dict String)
    (other : String) :
    (receiver.withHeaders headers).setting? other =
      (receiver.setting? other).map
        (fun former => if other = "headers" then .table headers else former) :=
  setting?_withSetting receiver "headers" (.table headers) _ other

/-- A mail has the headers that it is given. -/
theorem headers_withHeaders
    {receiver : Receiver}
    (isMail : receiver.kind = .email)
    (headers : Dict String) :
    (receiver.withHeaders headers).headers = headers := by
  apply headers_of_setting?
  simp [setting?_withHeaders, setting?_headers isMail]

/-- Receivers of one kind are equal if each field has one setting in both. -/
theorem ext_setting?
    {first second : Receiver}
    (sameKind : first.kind = second.kind)
    (sameSettings :
      ∀ field ∈ first.kind.schema, first.setting? field.name = second.setting? field.name) :
    first = second := by
  have sameNames : first.settings.map (·.1) = second.settings.map (·.1) := by
    rw [names_settings, names_settings, sameKind]
  have sameLists : first.settings = second.settings := by
    refine Lookup.ext_lookup sameNames first.nodup_names fun name isName => ?_
    rw [names_settings] at isName
    obtain ⟨field, member, rfl⟩ := List.mem_map.mp isName
    exact sameSettings field member
  obtain ⟨kind, settings, followsSchema⟩ := first
  obtain ⟨otherKind, otherSettings, otherFollows⟩ := second
  cases sameKind
  cases sameLists
  rfl

/-- Giving a mail the headers that it has changes nothing. -/
theorem withHeaders_headers
    {receiver : Receiver}
    (isMail : receiver.kind = .email) :
    receiver.withHeaders receiver.headers = receiver := by
  refine ext_setting? rfl fun field member => ?_
  rw [setting?_withHeaders]
  by_cases isHeaders : field.name = "headers"
  · simp [isHeaders, setting?_headers isMail]
  · simp [isHeaders]

theorem normalize_of_ne_email
    {receiver : Receiver}
    (notMail : receiver.kind ≠ .email) :
    receiver.normalize = .ok receiver := by
  unfold normalize
  split
  · contradiction
  · rfl

theorem normalize_of_eq_email
    {receiver : Receiver}
    (isMail : receiver.kind = .email) :
    receiver.normalize =
      match rekeyHeaders .empty receiver.headers.entries with
      | .ok headers =>
          .ok (receiver.withHeaders headers)
      | .error header =>
          .error (.duplicateHeader .email header) := by
  obtain ⟨kind, settings, followsSchema⟩ := receiver
  change kind = .email at isMail
  subst kind
  rfl

/-- Normalising a mail receiver with canonical headers changes nothing. -/
theorem normalize_of_canonical
    {receiver : Receiver}
    (isMail : receiver.kind = .email)
    (canonical : ∀ name ∈ receiver.headers.keys, canonicalHeaderName name = name) :
    receiver.normalize = .ok receiver := by
  rw [normalize_of_eq_email isMail, rekeyHeaders_of_canonical canonical]
  exact congrArg Except.ok (withHeaders_headers isMail)

/-- A receiver can be normalised unless it sends mails with colliding headers. -/
theorem normalize_ok_iff
    {receiver : Receiver} :
    (∃ result, receiver.normalize = .ok result) ↔
      ¬ (receiver.kind = .email ∧ Collides receiver.headers) := by
  by_cases isMail : receiver.kind = .email
  · rw [normalize_of_eq_email isMail]
    have rekeyed :
        (∃ result, rekeyHeaders .empty receiver.headers.entries = .ok result) ↔
          ¬ Collides receiver.headers :=
      rekeyHeaders_entries_ok_iff
    cases outcome : rekeyHeaders .empty receiver.headers.entries with
    | ok headers =>
        simpa [isMail, outcome] using rekeyed
    | error header =>
        simpa [isMail, outcome] using rekeyed
  · rw [normalize_of_ne_email isMail]
    simp [isMail]

/-- Normalisation is refused only for a header of a mail receiver. -/
theorem duplicateHeader_of_normalize
    {receiver : Receiver}
    {error : DecodeError}
    (refused : receiver.normalize = .error error) :
    receiver.kind = .email ∧ ∃ header, error = .duplicateHeader .email header := by
  by_cases isMail : receiver.kind = .email
  · rw [normalize_of_eq_email isMail] at refused
    split at refused
    · cases refused
    · rename_i header _
      exact ⟨isMail, header, (Except.error.inj refused).symm⟩
  · rw [normalize_of_ne_email isMail] at refused
    cases refused

/-- Normalisation keeps the kind and the settings other than the headers. -/
theorem frame_of_normalize
    {receiver result : Receiver}
    (normalized : receiver.normalize = .ok result) :
    result.kind = receiver.kind ∧
      ∀ name, receiver.kind ≠ .email ∨ name ≠ "headers" →
        result.setting? name = receiver.setting? name := by
  by_cases isMail : receiver.kind = .email
  · rw [normalize_of_eq_email isMail] at normalized
    split at normalized
    · cases normalized
      refine ⟨rfl, fun name otherwise => ?_⟩
      have notHeaders : name ≠ "headers" :=
        otherwise.resolve_left fun notMail => notMail isMail
      simp [setting?_withHeaders, notHeaders]
    · cases normalized
  · rw [normalize_of_ne_email isMail] at normalized
    cases normalized
    exact ⟨rfl, fun _ _ => rfl⟩

end Receiver

end AlertReceivers
