import Reflow.Proofs.Json.Expansion
import Reflow.Proofs.Json.Printing

/-!
# Nested containers

The reader opens a limited number of nested containers. A text has one meaning whatever the limit
is, so what is written for a value is read again exactly if the value stays within the limit.
Expansion puts whole documents inside of others, each within the limit for itself, and what it
writes is read again exactly if the result stays within the limit, too.
-/

namespace Reflow.Json

/-! ## How deep containers are nested -/

mutual

/-- The number of containers that are nested in a value. -/
def Value.nesting : Value → Nat
  | .array items => itemsNesting items + 1
  | .object members => membersNesting members + 1
  | _ => 0

/-- The number of containers that are nested in an item. -/
def itemsNesting : List Value → Nat
  | [] => 0
  | item :: items => max item.nesting (itemsNesting items)

/-- The number of containers that are nested in the value of a member. -/
def membersNesting : List (Text × Value) → Nat
  | [] => 0
  | (_, value) :: members => max value.nesting (membersNesting members)

end

theorem itemsNesting_le_iff {items : List Value} {depth : Nat} :
    itemsNesting items ≤ depth ↔ ∀ item ∈ items, item.nesting ≤ depth := by
  induction items with
  | nil => simp [itemsNesting]
  | cons item items ih => rw [itemsNesting, Nat.max_le, ih, List.forall_mem_cons]

theorem membersNesting_le_iff {members : List Member} {depth : Nat} :
    membersNesting members ≤ depth ↔ ∀ member ∈ members, member.2.nesting ≤ depth := by
  induction members with
  | nil => simp [membersNesting]
  | cons member members ih => rw [membersNesting, Nat.max_le, ih, List.forall_mem_cons]

variable {depth limit : Nat} {parts : List Text} {text : Text} {value : Value}

theorem Denotes.nesting_le (denotes : Denotes depth parts value) : value.nesting ≤ depth := by
  induction denotes with
  | scalar scalar => cases scalar <;> exact Nat.zero_le _
  | array _ ih =>
      rw [Value.nesting]
      exact Nat.succ_le_succ (itemsNesting_le_iff.mpr (List.forall_mem_map.mpr ih))
  | object _ _ ih =>
      rw [Value.nesting]
      refine Nat.succ_le_succ (membersNesting_le_iff.mpr fun member listed => ?_)
      obtain ⟨entry, isEntry, rfl⟩ := List.mem_map.mp (mem_of_mem_collectMembers listed)
      exact ih entry isEntry

theorem Denotes.mono (denotes : Denotes depth parts value) (le : depth ≤ limit) :
    Denotes limit parts value := by
  induction denotes generalizing limit with
  | scalar scalar => exact .scalar scalar
  | array _ ih =>
      cases limit with
      | zero => cases le
      | succ limit => exact .array fun item listed => ih item listed (Nat.le_of_succ_le_succ le)
  | object keys _ ih =>
      cases limit with
      | zero => cases le
      | succ limit =>
          exact .object keys fun entry isEntry => ih entry isEntry (Nat.le_of_succ_le_succ le)

theorem Value.Fits.mono (fits : value.Fits depth) (le : depth ≤ limit) : value.Fits limit := by
  induction fits generalizing limit with
  | null => exact .null
  | bool value => exact .bool value
  | integer ranged => exact .integer ranged
  | string text => exact .string text
  | array _ ih =>
      cases limit with
      | zero => cases le
      | succ limit => exact .array fun item listed => ih item listed (Nat.le_of_succ_le_succ le)
  | object distinct _ ih =>
      cases limit with
      | zero => cases le
      | succ limit =>
          exact .object distinct fun member listed =>
            ih member listed (Nat.le_of_succ_le_succ le)

/-! ## Reading within the limit -/

theorem exists_readValue_of_denotes (spaced : Spaced parts text)
    (denotes : Denotes depth parts value) : ∃ rest, readValue depth text = .ok (value, rest) := by
  rw [← List.append_nil parts] at spaced
  obtain ⟨rest, read, -⟩ :=
    (recognizes_readValue depth).complete denotes (by simp [Follows]) spaced
  exact ⟨rest, read⟩

/-- A text denotes one value, however many containers may be nested. -/
theorem eq_of_denotes {others : List Text} {other : Value} (spaced : Spaced parts text)
    (denotes : Denotes depth parts value) (spacedOthers : Spaced others text)
    (denotesOther : Denotes limit others other) : value = other := by
  obtain ⟨rest, read⟩ :=
    exists_readValue_of_denotes spaced (denotes.mono (le_max_left depth limit))
  obtain ⟨restOther, readOther⟩ :=
    exists_readValue_of_denotes spacedOthers (denotesOther.mono (le_max_right depth limit))
  rw [read] at readOther
  cases readOther
  rfl

/-- What is written for a value is read as that value if the value stays within the limit, and is
not read at all otherwise. -/
theorem parse_pretty_eq_ok_iff (fits : value.Fits value.nesting) {result : Value} :
    parse value.pretty = .ok result ↔ result = value ∧ value.nesting ≤ nestingLimit := by
  constructor
  · intro read
    obtain ⟨parts, denotes, written⟩ := fits.exists_written
    obtain ⟨others, spaced, denotesResult⟩ := parse_eq_ok_iff.mp read
    obtain rfl : value = result := eq_of_denotes (written.pretty 0) denotes spaced denotesResult
    exact ⟨rfl, denotesResult.nesting_le⟩
  · rintro ⟨rfl, within⟩
    exact (parse_of_fits (fits.mono within)).1

/-- So printing it again gives the same exactly if the value stays within the limit. -/
theorem reformat_pretty_iff (fits : value.Fits value.nesting) :
    reformat value.pretty = .ok value.pretty ↔ value.nesting ≤ nestingLimit := by
  constructor
  · intro printed
    cases parsed : parse value.pretty with
    | error =>
        rw [reformat, parsed] at printed
        cases printed
    | ok result => exact ((parse_pretty_eq_ok_iff fits).mp parsed).2
  · intro within
    rw [reformat, (parse_pretty_eq_ok_iff fits).mpr ⟨rfl, within⟩]
    rfl

/-! ## Reading what expansion writes -/

namespace Value

/-- What is within a value is met by its expansion, unless it is a string that is expanded. -/
theorem Met.of_within {part : Value} (alone : part.embedded? = none) (within : part.Within value) :
    part.Met value := by
  have opened {inner : Value} (within : part.Within inner) (met : part.Met inner) :
      part.Met inner.opened := by
    cases holds : inner.embedded? with
    | none => rwa [opened_of_embedded?_eq_none holds]
    | some =>
        obtain ⟨text, rfl, -, -⟩ := embedded?_eq_some_iff.mp holds
        rw [(within_iff_of_isScalar rfl).mp within, holds] at alone
        cases alone
  induction within with
  | self => exact .self
  | item listed within ih => exact .content listed (opened within ih)
  | member listed within ih => exact .content (List.mem_map_of_mem listed) (opened within ih)

/-- All numbers that the expansion of a value meets are integers. -/
def MeetsIntegers (value : Value) : Prop :=
  ∀ number, (Value.number number).Met value → ∃ integer, number = .integer integer

theorem meetsIntegers_iff {value : Value} :
    value.MeetsIntegers ↔
      (∀ number, Value.number number = value → ∃ integer, number = .integer integer) ∧
        ∀ content ∈ value.contents, content.opened.MeetsIntegers := by
  constructor
  · intro integers
    constructor
    · rintro number rfl
      exact integers number .self
    · exact fun content listed number met => integers number (.content listed met)
  · rintro ⟨own, each⟩ number met
    rcases met_iff.mp met with same | ⟨content, listed, met⟩
    · exact own number same
    · exact each content listed number met

/-- A container is no number itself. -/
theorem MeetsIntegers.of_contents {value : Value} (container : value.isScalar = false)
    (each : ∀ content ∈ value.contents, content.opened.MeetsIntegers) : value.MeetsIntegers := by
  refine meetsIntegers_iff.mpr ⟨?_, each⟩
  rintro number rfl
  cases container

theorem MeetsIntegers.whole (integers : value.MeetsIntegers) : value.Whole :=
  fun number within => integers number (.of_within rfl within)

/-- What a value stands for can be read again, as it has been read. -/
theorem Fits.exists_fits_opened (fits : value.Fits depth) (integers : value.opened.MeetsIntegers) :
    ∃ limit, value.opened.Fits limit := by
  cases holds : value.embedded? with
  | none =>
      rw [opened_of_embedded?_eq_none holds]
      exact ⟨depth, fits⟩
  | some inner =>
      rw [opened_of_embedded?_eq_some holds] at integers ⊢
      obtain ⟨text, -, read, -⟩ := embedded?_eq_some_iff.mp holds
      obtain ⟨parts, -, denotes⟩ := parse_eq_ok_iff.mp read
      exact ⟨nestingLimit, denotes.fits integers.whole⟩

theorem Fits.expand (fits : value.Fits depth) (integers : value.MeetsIntegers) (mark : Bool) :
    (value.expand mark).Fits (value.expand mark).nesting := by
  induction value using inductOpened generalizing depth with
  | scalar value scalar =>
      rw [expand_of_isScalar scalar]
      cases fits with
      | array => cases scalar
      | object => cases scalar
      | null => exact .null
      | bool value => exact .bool value
      | integer ranged => exact .integer ranged
      | string text => exact .string text
  | array items ih =>
      cases fits with
      | array each =>
          rw [expand_array, nesting]
          refine .array (List.forall_mem_map.mpr fun item listed => ?_)
          have integers := (meetsIntegers_iff.mp integers).2 item listed
          obtain ⟨limit, fits⟩ := (each item listed).exists_fits_opened integers
          refine (ih item listed fits integers).mono ?_
          exact itemsNesting_le_iff.mp le_rfl _ (List.mem_map_of_mem listed)
  | object members ih =>
      cases fits with
      | object distinct each =>
          rw [expand_object, nesting]
          refine .object (nodup_keys_collectMembers _) fun member listed => ?_
          have collected := membersNesting_le_iff.mp le_rfl _ listed
          obtain ⟨original, inMembers, rfl⟩ := List.mem_map.mp (mem_of_mem_collectMembers listed)
          have integers := (meetsIntegers_iff.mp integers).2 _ (List.mem_map_of_mem inMembers)
          obtain ⟨limit, fits⟩ := (each original inMembers).exists_fits_opened integers
          exact (ih original inMembers fits integers).mono collected

end Value

/-- What expansion writes can be read back, as long as no more containers are nested in the expanded
value than the reader opens. Where all numbers that the expansion of a document meets are integers,
its output is then read as the expanded value, and printing it again gives the same output. Where
more containers are nested, the output is not read at all. -/
theorem expandEmbedded_read_back {out : Text} {mark : Bool} (read : parse text = .ok value)
    (integers : value.MeetsIntegers) (expanded : expandEmbedded mark text = .ok out) :
    (∀ result, parse out = .ok result ↔
      result = value.expand mark ∧ (value.expand mark).nesting ≤ nestingLimit) ∧
    (reformat out = .ok out ↔ (value.expand mark).nesting ≤ nestingLimit) := by
  obtain ⟨parts, -, denotes⟩ := parse_eq_ok_iff.mp read
  have fits := (denotes.fits integers.whole).expand integers mark
  obtain rfl : (value.expand mark).pretty = out := by
    rw [expandEmbedded, read] at expanded
    exact Except.ok.inj expanded
  exact ⟨fun result => parse_pretty_eq_ok_iff fits, reformat_pretty_iff fits⟩

/-- A document with an array in a string. -/
theorem expandEmbedded_read_back_of_array :
    parse "\x7b\"a\":[\"[1]\"]\x7d".toList =
      .ok (.object [(['a'], .array [.string ['[', '1', ']']])]) ∧
    Value.MeetsIntegers (.object [(['a'], .array [.string ['[', '1', ']']])]) ∧
    expandEmbedded true "\x7b\"a\":[\"[1]\"]\x7d".toList =
      .ok "\x7b\n    \"a\": [\n        [\n            1\n        ]\n    ]\n\x7d".toList ∧
    reformat "\x7b\n    \"a\": [\n        [\n            1\n        ]\n    ]\n\x7d".toList =
      .ok "\x7b\n    \"a\": [\n        [\n            1\n        ]\n    ]\n\x7d".toList := by
  have read : parse "\x7b\"a\":[\"[1]\"]\x7d".toList =
      .ok (.object [(['a'], .array [.string ['[', '1', ']']])]) := by
    cbv
  have integers : Value.MeetsIntegers (.object [(['a'], .array [.string ['[', '1', ']']])]) := by
    have held : (Value.string ['[', '1', ']']).opened = .array [.number (.integer 1)] := by
      cbv
    have one : (Value.number (.integer 1)).opened.MeetsIntegers :=
      Value.meetsIntegers_iff.mpr ⟨fun _ same => ⟨1, Value.number.inj same⟩, List.forall_mem_nil _⟩
    have array : (Value.string ['[', '1', ']']).opened.MeetsIntegers := by
      rw [held]
      exact .of_contents rfl (List.forall_mem_singleton.mpr one)
    exact .of_contents rfl (List.forall_mem_singleton.mpr
      (.of_contents rfl (List.forall_mem_singleton.mpr array)))
  have result : Value.expand true (.object [(['a'], .array [.string ['[', '1', ']']])]) =
      .object [(['a'], .array [.array [.number (.integer 1)]])] := by
    cbv
  have printed : Value.pretty (.object [(['a'], .array [.array [.number (.integer 1)]])]) =
      "\x7b\n    \"a\": [\n        [\n            1\n        ]\n    ]\n\x7d".toList := by
    cbv
  have expanded : expandEmbedded true "\x7b\"a\":[\"[1]\"]\x7d".toList =
      .ok "\x7b\n    \"a\": [\n        [\n            1\n        ]\n    ]\n\x7d".toList := by
    rw [expandEmbedded, read, Except.map, result, printed]
  refine ⟨read, integers, expanded, ?_⟩
  rw [(expandEmbedded_read_back read integers expanded).2, result]
  decide

/-- A value inside of a number of arrays. -/
def boxed (value : Value) : (count : Nat) → Value
  | 0 => value
  | count + 1 => .array [boxed value count]

theorem compact_boxed (value : Value) (count : Nat) :
    (boxed value count).compact =
      List.replicate count '[' ++ (value.compact ++ List.replicate count ']') := by
  induction count with
  | zero => simp [boxed]
  | succ count ih =>
      rw [boxed, Value.compact, compactItems, compactItems, ih, List.replicate_succ,
        List.replicate_succ']
      simp

theorem nesting_boxed (value : Value) (count : Nat) :
    (boxed value count).nesting = value.nesting + count := by
  induction count with
  | zero => rfl
  | succ count ih => rw [boxed, Value.nesting, itemsNesting, itemsNesting, Nat.max_zero, ih]; rfl

theorem Value.Fits.boxed (fits : value.Fits depth) (count : Nat) :
    (boxed value count).Fits (depth + count) := by
  induction count with
  | zero => exact fits
  | succ count ih => exact .array (List.forall_mem_singleton.mpr ih)

/-- Expansion passes through the arrays around a value. -/
theorem expand_boxed (mark : Bool) (value : Value) (count : Nat) :
    (boxed value count).opened.expand mark = boxed (value.opened.expand mark) count := by
  induction count with
  | zero => rfl
  | succ count ih =>
      rw [boxed, Value.opened_of_embedded?_eq_none rfl, expand_array, List.map_singleton, ih, boxed]

theorem meetsIntegers_boxed (integers : value.opened.MeetsIntegers) (count : Nat) :
    (boxed value count).opened.MeetsIntegers := by
  induction count with
  | zero => exact integers
  | succ count ih =>
      rw [boxed, Value.opened_array]
      exact .of_contents rfl (List.forall_mem_singleton.mpr ih)

/-- Not all that expansion writes can be read back: a document in which as many arrays are nested as
the reader opens, with one more in a string. -/
theorem expandEmbedded_not_read_back :
    let text := List.replicate 127 '[' ++ ("\"[]\"".toList ++ List.replicate 127 ']')
    ∃ value out, parse text = .ok value ∧ value.MeetsIntegers ∧
      expandEmbedded false text = .ok out ∧ reformat out ≠ .ok out := by
  intro text
  have read : parse text = .ok (boxed (.string ['[', ']']) 127) := by
    have fits : (boxed (.string ['[', ']']) 127).Fits nestingLimit :=
      (@Value.Fits.string 0 ['[', ']']).boxed 127
    have parsed := (parse_of_fits fits).2
    rwa [compact_boxed] at parsed
  have held : (Value.string ['[', ']']).opened = .array [] := by
    cbv
  have expanded : (boxed (.string ['[', ']']) 127).expand false = boxed (.array []) 127 := by
    have passed := expand_boxed false (.string ['[', ']']) 127
    rwa [held, expand_array, boxed, Value.opened_array] at passed
  have integers : (boxed (.string ['[', ']']) 127).MeetsIntegers := by
    refine meetsIntegers_boxed ?_ 127
    rw [held]
    exact .of_contents rfl (List.forall_mem_nil _)
  have fits : (boxed (.array []) 127).Fits (boxed (.array []) 127).nesting := by
    rw [nesting_boxed]
    exact (Value.Fits.array (List.forall_mem_nil _)).boxed 127
  refine ⟨_, _, read, integers, by rw [expandEmbedded, read, Except.map, expanded], ?_⟩
  rw [Ne, reformat_pretty_iff fits, nesting_boxed]
  decide

end Reflow.Json
