import AlertReceivers.Proofs.Receiver.Verdict
import Mathlib.Data.List.Dedup
import Mathlib.Data.List.Pairwise
import Mathlib.Data.List.Perm.Basic

namespace AlertReceivers

/-!
# Headers as they are written

The headers of a mail are written as a mapping of scalars to scalars, and their names
are texts only once it is read.  Two names that are spelt differently collide.  Names
with one text, such as a number and the text of its digits, do not: the last of them
wins, so that headers are lost exactly if two names have one text.
-/

open Text (canonicalHeaderName)

/-- The names in a mapping of headers, as texts. -/
def headerNames (pairs : List (Node × Node)) : List String :=
  pairs.filterMap fun pair => pair.1.scalarText?

/-- Two entries of a mapping of headers have related names. -/
def HasNames
    (related : String → String → Prop)
    (pairs : List (Node × Node)) :
    Prop :=
  ∃ first second firstName secondName,
    [first, second].Sublist pairs ∧
      first.1.scalarText? = some firstName ∧
      second.1.scalarText? = some secondName ∧
      related firstName secondName

/-- Two entries have names with one canonical form. -/
def HeadersClash : List (Node × Node) → Prop :=
  HasNames fun first second => canonicalHeaderName first = canonicalHeaderName second

/-- Two entries have names with one text. -/
def RepeatsText : List (Node × Node) → Prop :=
  HasNames (· = ·)

/-- The entries of a node for a mail give a mapping of scalars to scalars as its
headers, and all that is declared beside it converts. -/
structure WritesHeaders
    (entries pairs : List (Node × Node)) :
    Prop where
  named :
    ∃ key, Kind.email.Names Kind.headersField key ∧ (key, .mapping pairs) ∈ entries
  scalars :
    ∀ pair ∈ pairs, pair.1.scalarText?.isSome ∧ pair.2.scalarText?.isSome
  others :
    ∀ entry ∈ entries, ¬ Kind.email.Names Kind.headersField entry.1 →
      Kind.email.Fits entry
  once :
    ¬ Kind.email.Repeats entries

theorem hasNames_iff
    {related : String → String → Prop}
    {pairs : List (Node × Node)} :
    HasNames related pairs ↔
      ¬ (headerNames pairs).Pairwise fun first second => ¬ related first second := by
  unfold headerNames
  rw [List.pairwise_filterMap, List.pairwise_iff_forall_sublist]
  simp only [HasNames, not_forall, not_not]
  constructor
  · rintro ⟨first, second, firstName, secondName, ordered, isFirst, isSecond, areRelated⟩
    exact ⟨first, second, ordered, firstName, isFirst, secondName, isSecond, areRelated⟩
  · rintro ⟨first, second, ordered, firstName, isFirst, secondName, isSecond, areRelated⟩
    exact ⟨first, second, firstName, secondName, ordered, isFirst, isSecond, areRelated⟩

/-- No text is repeated exactly if the texts of the names are distinct. -/
theorem not_repeatsText_iff
    {pairs : List (Node × Node)} :
    ¬ RepeatsText pairs ↔ (headerNames pairs).Nodup := by
  rw [RepeatsText, hasNames_iff, not_not]
  rfl

/-- The names of headers are the texts of their keys. -/
theorem mem_headerNames_iff
    {pairs : List (Node × Node)}
    {name : String} :
    name ∈ headerNames pairs ↔ ∃ pair ∈ pairs, pair.1.scalarText? = some name := by
  simp [headerNames]

/-- Different names clash exactly if two names do that are written somewhere. -/
theorem hasNames_ne_iff
    {pairs : List (Node × Node)} :
    HasNames
        (fun first second =>
          first ≠ second ∧ canonicalHeaderName first = canonicalHeaderName second)
        pairs ↔
      ∃ first ∈ headerNames pairs, ∃ second ∈ headerNames pairs,
        first ≠ second ∧ canonicalHeaderName first = canonicalHeaderName second := by
  rw [hasNames_iff, not_iff_comm]
  constructor
  · intro noClash
    refine List.pairwise_of_forall_mem_list fun first isFirst second isSecond clash => ?_
    exact noClash ⟨first, isFirst, second, isSecond, clash⟩
  · rintro apart ⟨first, isFirst, second, isSecond, differ, same⟩
    have symmetric :
        Std.Symm fun first second =>
          ¬ (first ≠ second ∧ canonicalHeaderName first = canonicalHeaderName second) :=
      ⟨fun _ _ notClash clash => notClash ⟨clash.1.symm, clash.2.symm⟩⟩
    exact apart.forall isFirst isSecond differ ⟨differ, same⟩

/-- Without repeated texts, clashing names are different ones. -/
theorem headersClash_iff_of_not_repeatsText
    {pairs : List (Node × Node)}
    (distinct : ¬ RepeatsText pairs) :
    HeadersClash pairs ↔
      HasNames
        (fun first second =>
          first ≠ second ∧ canonicalHeaderName first = canonicalHeaderName second)
        pairs := by
  rw [not_repeatsText_iff] at distinct
  rw [HeadersClash, hasNames_iff, hasNames_iff, not_iff_not]
  constructor
  · intro apart
    exact apart.imp fun notSame clash => notSame clash.2
  · intro apart
    exact (distinct.and apart).imp fun both same => both.2 ⟨both.1, same⟩

namespace WritesHeaders

variable {entries pairs : List (Node × Node)}

/-- The mapping converts to a table. -/
theorem exists_table (writes : WritesHeaders entries pairs) :
    ∃ written, Converts .table (.mapping pairs) (.table written) := by
  obtain ⟨read, isRead⟩ := Setting.exists_readPairs writes.scalars
  have reads : Setting.readTable (.mapping pairs) = .ok (.ofList read) := by
    simp only [Setting.readTable, isRead, Except.map]
  exact ⟨_, Setting.readTable_eq_ok_iff.mp reads⟩

/-- The headers are given by the mapping alone. -/
theorem eq_of_names
    (writes : WritesHeaders entries pairs)
    {entry : Node × Node}
    (member : entry ∈ entries)
    (names : Kind.email.Names Kind.headersField entry.1) :
    entry.2 = .mapping pairs := by
  obtain ⟨key, namesKey, keyMember⟩ := writes.named
  by_contra differs
  refine writes.once ⟨Kind.headersField, Kind.headersField_mem_schema, ?_⟩
  have entriesDiffer : entry ≠ (key, .mapping pairs) := fun same =>
    differs (congrArg Prod.snd same)
  obtain ⟨before, after, rfl⟩ := List.append_of_mem member
  have isNamed : ∀ other : Node × Node,
      Kind.email.Names Kind.headersField other.1 →
        (other.1.asText? == some Kind.headersField.name) = true :=
    fun other namesOther => by rw [namesOther.2, beq_self_eq_true]
  have elsewhere : (key, .mapping pairs) ∈ before ++ after := by
    simpa [entriesDiffer.symm] using keyMember
  have once : 0 < Kind.timesNamed (before ++ after) Kind.headersField.name :=
    List.countP_pos_iff.mpr ⟨_, elsewhere, isNamed (key, .mapping pairs) namesKey⟩
  simp only [Kind.timesNamed, List.countP_append, List.countP_cons,
    isNamed entry names, if_true] at once ⊢
  omega

/-- Entries with headers of scalars can be read. -/
theorem readable (writes : WritesHeaders entries pairs) :
    Kind.email.Readable entries := by
  refine ⟨fun entry member => ?_, writes.once⟩
  by_cases names : Kind.email.Names Kind.headersField entry.1
  · intro field namesField
    obtain ⟨written, converts⟩ := writes.exists_table
    rw [namesField.unique names, writes.eq_of_names member names]
    exact ⟨.table written, converts⟩
  · exact writes.others entry member names

/-- The table that is given to the headers holds the last value of each name. -/
theorem get?_of_gives
    (writes : WritesHeaders entries pairs)
    {written : Dict String}
    (gives : Kind.email.Gives entries Kind.headersField (.table written))
    (name : String) :
    written.get? name = lastText? pairs name := by
  obtain ⟨key, names, member⟩ := writes.named
  cases gives.named (key, .mapping pairs) member names with
  | table _ texts =>
      exact texts name

/-- The names of the headers are those that are written. -/
theorem mem_keys_iff
    (writes : WritesHeaders entries pairs)
    {written : Dict String}
    (gives : Kind.email.Gives entries Kind.headersField (.table written))
    {name : String} :
    name ∈ written.keys ↔ name ∈ headerNames pairs := by
  rw [Dict.mem_keys_iff, mem_headerNames_iff]
  simp only [writes.get?_of_gives gives, lastText?, Option.bind_eq_some_iff]
  constructor
  · rintro ⟨value, pair, found, _⟩
    have isName := List.find?_some found
    have member := List.mem_of_find?_eq_some found
    exact ⟨pair, List.mem_reverse.mp member, by simpa using isName⟩
  · rintro ⟨pair, member, isName⟩
    have isFound :
        (pairs.reverse.find? fun entry => entry.1.scalarText? == some name).isSome :=
      List.find?_isSome.mpr ⟨pair, List.mem_reverse.mpr member, by simp [isName]⟩
    obtain ⟨last, found⟩ := Option.isSome_iff_exists.mp isFound
    have lastMember := List.mem_reverse.mp (List.mem_of_find?_eq_some found)
    obtain ⟨value, isValue⟩ :=
      Option.isSome_iff_exists.mp (writes.scalars last lastMember).2
    exact ⟨value, last, found, isValue⟩

/-- Headers collide exactly if two different names are written that clash. -/
theorem headersCollide_iff (writes : WritesHeaders entries pairs) :
    Kind.email.HeadersCollide entries ↔
      HasNames
        (fun first second =>
          first ≠ second ∧ canonicalHeaderName first = canonicalHeaderName second)
        pairs := by
  rw [hasNames_ne_iff]
  constructor
  · rintro ⟨_, written, gives, first, firstMember, second, secondMember, clash⟩
    exact ⟨first, (writes.mem_keys_iff gives).mp firstMember,
      second, (writes.mem_keys_iff gives).mp secondMember, clash⟩
  · rintro ⟨first, firstMember, second, secondMember, clash⟩
    obtain ⟨given, ended⟩ := Kind.readGiven_ok_iff.mpr writes.readable
    have inSchema := Kind.headersField_mem_schema
    obtain ⟨setting, gives, _⟩ := Kind.gives_of_overlay ended inSchema
    obtain ⟨written, rfl⟩ := Setting.exists_table (gives.sort_eq inSchema)
    exact ⟨rfl, written, gives, first, (writes.mem_keys_iff gives).mpr firstMember,
      second, (writes.mem_keys_iff gives).mpr secondMember, clash⟩

end WritesHeaders

/-- Rekeying keeps the number of headers, unless names collide. -/
theorem Rekeys.size_eq
    {canonical written : Dict String}
    (rekeys : Rekeys canonical written)
    (apart : ¬ Collides written) :
    canonical.size = written.size := by
  have distinct : (written.keys.map canonicalHeaderName).Nodup := by
    rw [List.nodup_map_iff_inj_on written.nodup_keys]
    intro first isFirst second isSecond same
    by_contra differ
    exact apart ⟨first, isFirst, second, isSecond, differ, same⟩
  have sameKeys : canonical.keys.Perm (written.keys.map canonicalHeaderName) := by
    rw [List.perm_ext_iff_of_nodup canonical.nodup_keys distinct]
    intro name
    simp only [List.mem_map, Dict.mem_keys_iff, rekeys name]
    constructor
    · rintro ⟨value, original, isName, found⟩
      exact ⟨original, ⟨value, found⟩, isName⟩
    · rintro ⟨original, ⟨value, found⟩, isName⟩
      exact ⟨value, original, isName, found⟩
  rw [← Dict.length_keys, sameKeys.length_eq, List.length_map, Dict.length_keys]

namespace WritesHeaders

variable {entries pairs : List (Node × Node)}

/-- Every header has a name. -/
theorem length_headerNames (writes : WritesHeaders entries pairs) :
    (headerNames pairs).length = pairs.length := by
  unfold headerNames
  rw [List.length_filterMap_eq_countP, List.countP_eq_length]
  exact fun pair member => (writes.scalars pair member).1

/-- As many headers are given as are written exactly if no text is repeated. -/
theorem size_eq_length_iff
    (writes : WritesHeaders entries pairs)
    {written : Dict String}
    (gives : Kind.email.Gives entries Kind.headersField (.table written)) :
    written.size = pairs.length ↔ ¬ RepeatsText pairs := by
  rw [not_repeatsText_iff, ← writes.length_headerNames]
  exact Dict.size_eq_length_iff fun name => writes.mem_keys_iff gives

/-- Without repeated texts, every name gives the text of its own entry. -/
theorem get?_of_not_repeatsText
    (writes : WritesHeaders entries pairs)
    {written : Dict String}
    (gives : Kind.email.Gives entries Kind.headersField (.table written))
    (distinct : ¬ RepeatsText pairs)
    {pair : Node × Node}
    (member : pair ∈ pairs)
    {name : String}
    (isName : pair.1.scalarText? = some name) :
    written.get? name = pair.2.scalarText? := by
  have apart :
      pairs.Pairwise fun first second =>
        ¬ (first.1.scalarText? = some name ∧ second.1.scalarText? = some name) := by
    rw [List.pairwise_iff_forall_sublist]
    rintro first second ordered ⟨isFirst, isSecond⟩
    exact distinct ⟨first, second, name, name, ordered, isFirst, isSecond, rfl⟩
  have symmetric :
      Std.Symm fun first second : Node × Node =>
        ¬ (first.1.scalarText? = some name ∧ second.1.scalarText? = some name) :=
    ⟨fun _ _ notBoth both => notBoth both.symm⟩
  have inKeys : name ∈ written.keys :=
    (writes.mem_keys_iff gives).mpr (mem_headerNames_iff.mpr ⟨pair, member, isName⟩)
  obtain ⟨value, found⟩ := Dict.mem_keys_iff.mp inKeys
  rw [found]
  rw [writes.get?_of_gives gives, lastText?, Option.bind_eq_some_iff] at found
  obtain ⟨last, isLast, isValue⟩ := found
  have lastMember := List.mem_reverse.mp (List.mem_of_find?_eq_some isLast)
  have lastName := List.find?_some isLast
  rw [beq_iff_eq] at lastName
  have isPair : pair = last := by
    by_contra differ
    exact apart.forall member lastMember differ ⟨isName, lastName⟩
  rw [isPair, isValue]

end WritesHeaders

namespace Receiver

/-- The headers of a decoded mail are the given ones, rekeyed without collisions. -/
theorem rekeys_headers
    {entries : List (Node × Node)}
    {receiver : Receiver}
    (decoded : ofEntries .email entries = .ok receiver) :
    ∃ written,
      Kind.email.Gives entries Kind.headersField (.table written) ∧
        Rekeys receiver.headers written ∧
        ¬ Collides written := by
  obtain ⟨written, gives, rekeys⟩ := (overlays_of_ofEntries decoded).rekeys_headers
  have judged := (judged_of_ofEntries .email entries).verdict
  refine ⟨written, gives, rekeys, fun collides => ?_⟩
  exact (judged.receiver.mp ⟨receiver, decoded⟩).2.1 ⟨rfl, written, gives, collides⟩

/--
A mail is refused for a duplicate header exactly if two names with different texts
have one canonical form.  If no two names have one text, these are exactly the names
that clash, and then decoding keeps every header: there are as many of them as are
written, each with the text of its entry under the canonical form of its name.  If two
names have one text, there are fewer.
-/
theorem decode_of_writtenHeaders
    {entries pairs : List (Node × Node)}
    (writes : WritesHeaders entries pairs) :
    ((∃ header,
        decode .email (.mapping entries) = .refuse (.duplicateHeader .email header)) ↔
      HasNames
        (fun first second =>
          first ≠ second ∧ canonicalHeaderName first = canonicalHeaderName second)
        pairs) ∧
      (¬ RepeatsText pairs →
        ((∃ header,
            decode .email (.mapping entries) =
              .refuse (.duplicateHeader .email header)) ↔
          HeadersClash pairs)) ∧
      ∀ receiver, decode .email (.mapping entries) = .ok receiver →
        (receiver.headers.size = pairs.length ↔ ¬ RepeatsText pairs) ∧
          (¬ RepeatsText pairs →
            ∀ pair ∈ pairs, ∀ name, pair.1.scalarText? = some name →
              receiver.headers.get? (canonicalHeaderName name) =
                pair.2.scalarText?) := by
  have judged := (judged_of_ofEntries .email entries).verdict
  have isDuplicate :
      (∃ header,
        decode .email (.mapping entries) = .refuse (.duplicateHeader .email header)) ↔
        HasNames
          (fun first second =>
            first ≠ second ∧ canonicalHeaderName first = canonicalHeaderName second)
          pairs :=
    judged.duplicateHeader.trans
      ((and_iff_right writes.readable).trans writes.headersCollide_iff)
  refine ⟨isDuplicate, fun distinct => ?_, fun receiver decoded => ?_⟩
  · exact isDuplicate.trans (headersClash_iff_of_not_repeatsText distinct).symm
  · obtain ⟨written, gives, rekeys, apart⟩ := rekeys_headers decoded
    refine ⟨?_, fun distinct pair member name isName => ?_⟩
    · rw [rekeys.size_eq apart, writes.size_eq_length_iff gives]
    · have found := writes.get?_of_not_repeatsText gives distinct member isName
      obtain ⟨value, isValue⟩ :=
        Option.isSome_iff_exists.mp (writes.scalars pair member).2
      rw [isValue] at found ⊢
      exact (rekeys _ _).mpr ⟨name, rfl, found⟩

theorem writesHeaders_headersEntries
    {pairs : List (Node × Node)}
    (scalars :
      ∀ pair ∈ pairs, pair.1.scalarText?.isSome ∧ pair.2.scalarText?.isSome) :
    WritesHeaders (headersEntries pairs) pairs where
  named :=
    ⟨.text "headers", Kind.fieldOf?_eq_some_iff.mp rfl, by simp [headersEntries]⟩
  scalars :=
    scalars
  others := by
    intro entry member notHeaders
    simp only [headersEntries, List.mem_cons, List.not_mem_nil, or_false] at member
    rcases member with rfl | rfl
    · exact (Kind.fits_iff_read_ok (Kind.fieldOf?_eq_some_iff.mp rfl)).mpr ⟨_, rfl⟩
    · exact (notHeaders (Kind.fieldOf?_eq_some_iff.mp rfl)).elim
  once := by
    rintro ⟨field, _, twice⟩
    simp only [headersEntries, Kind.timesNamed_cons, Node.asText?, Node.untagged,
      Option.some.injEq] at twice
    by_cases isHeaders : "headers" = field.name
    · simp [← isHeaders, Kind.timesNamed] at twice
    · simp only [isHeaders, if_false, Kind.timesNamed, List.countP_nil] at twice
      split at twice <;> omega

/-- Headers of which one has a number as its name. -/
def mixedHeaders : List (Node × Node) :=
  [(.text "x-foo", .boolean true), (.number (.integer 1), .text "b")]

/-- Two headers whose canonical names differ are both kept. -/
theorem decode_of_writtenHeaders_mixedHeaders :
    WritesHeaders (headersEntries mixedHeaders) mixedHeaders ∧
      ∃ receiver,
        decode .email (.mapping (headersEntries mixedHeaders)) = .ok receiver ∧
          receiver.headers.size = 2 ∧
          receiver.headers.get? (canonicalHeaderName "x-foo") = some "true" := by
  have writes : WritesHeaders (headersEntries mixedHeaders) mixedHeaders :=
    writesHeaders_headersEntries (by decide)
  have distinct : ¬ RepeatsText mixedHeaders := not_repeatsText_iff.mpr (by decide)
  obtain ⟨_, _, ofReceiver⟩ := decode_of_writtenHeaders writes
  obtain ⟨sizes, each⟩ := ofReceiver _ rfl
  exact ⟨writes, _, rfl, sizes.mpr distinct,
    each distinct (.text "x-foo", .boolean true) (by simp [mixedHeaders]) "x-foo" rfl⟩

/-- Headers with a number and the text of its digits as their names. -/
def numberedHeaders : List (Node × Node) :=
  [(.number (.integer 1), .text "a"), (.text "1", .text "b")]

/-- Two names clash, but they are not refused: one of the headers is lost. -/
theorem numberedHeaders_lose_header :
    WritesHeaders (headersEntries numberedHeaders) numberedHeaders ∧
      HeadersClash numberedHeaders ∧
      ∃ receiver,
        decode .email (.mapping (headersEntries numberedHeaders)) = .ok receiver ∧
          receiver.headers.size = 1 ∧
          numberedHeaders.length = 2 := by
  refine ⟨writesHeaders_headersEntries (by decide), ?_, _, rfl, rfl, rfl⟩
  exact ⟨_, _, "1", "1", .refl _, rfl, rfl, rfl⟩

end Receiver

end AlertReceivers
