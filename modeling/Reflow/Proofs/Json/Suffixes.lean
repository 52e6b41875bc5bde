import Reflow.Proofs.Json.Marking

/-!
# Suffixes that stay

Without marks, expansion takes the suffix that marks a key away, but only where the value of the
member is not expanded itself: a member that is expanded keeps its key as it is. So the suffix is
gone from the result exactly if it was on no expanded member. Members that a later one replaces do
not count, and neither does anything inside of them.
-/

namespace Reflow.Json

/-- A member behind expansion. -/
def expandedMember (mark : Bool) (member : Member) : Member :=
  (expandedKey mark member.2.embedded?.isSome member.1, member.2.opened.expand mark)

/-! ## What is left in the result -/

namespace Value

variable {mark : Bool}

/-- A part lasts when a value is expanded if it is the value itself, or if it lasts in what an item
stands for, or in what the value of a member stands for that no later member replaces. -/
inductive Lasts (mark : Bool) (part : Value) : Value → Prop where
  | self : Lasts mark part part
  | item {items : List Value} {item : Value} (listed : item ∈ items)
      (lasts : Lasts mark part item.opened) : Lasts mark part (.array items)
  | member {front back : List Member} {member : Member}
      (latest : ∀ later ∈ back, (expandedMember mark later).1 ≠ (expandedMember mark member).1)
      (lasts : Lasts mark part member.2.opened) :
      Lasts mark part (.object (front ++ member :: back))

@[simp] theorem lasts_iff_of_isScalar {part value : Value} (scalar : value.isScalar = true) :
    part.Lasts mark value ↔ part = value := by
  constructor
  · intro lasts
    cases lasts with
    | self => rfl
    | item => cases scalar
    | member => cases scalar
  · rintro rfl
    exact .self

@[simp] theorem lasts_array_iff {part : Value} {items : List Value} :
    part.Lasts mark (.array items) ↔
      part = .array items ∨ ∃ item ∈ items, part.Lasts mark item.opened := by
  constructor
  · intro lasts
    cases lasts with
    | self => exact .inl rfl
    | item listed lasts => exact .inr ⟨_, listed, lasts⟩
  · rintro (rfl | ⟨item, listed, lasts⟩)
    · exact .self
    · exact .item listed lasts

@[simp] theorem lasts_object_iff {part : Value} {members : List Member} :
    part.Lasts mark (.object members) ↔
      part = .object members ∨ ∃ front member back, members = front ++ member :: back ∧
        (∀ later ∈ back, (expandedMember mark later).1 ≠ (expandedMember mark member).1) ∧
        part.Lasts mark member.2.opened := by
  constructor
  · intro lasts
    cases lasts with
    | self => exact .inl rfl
    | member latest lasts => exact .inr ⟨_, _, _, rfl, latest, lasts⟩
  · rintro (rfl | ⟨front, member, back, rfl, latest, lasts⟩)
    · exact .self
    · exact .member latest lasts

/-- What lasts has been met. -/
theorem Lasts.met {part value : Value} (lasts : part.Lasts mark value) : part.Met value := by
  induction lasts with
  | self => exact .self
  | item listed _ ih => exact .content listed ih
  | member _ _ ih => exact .content (List.mem_map_of_mem List.mem_append_cons_self) ih

end Value

variable {mark : Bool}

theorem expand_object_eq (members : List Member) :
    (Value.object members).expand mark =
      .object (collectMembers (members.map (expandedMember mark))) :=
  expand_object mark members

/-- The members of an object behind expansion are those that no later one replaces. -/
theorem mem_expanded_iff {members : List Member} {expanded : Member} :
    expanded ∈ collectMembers (members.map (expandedMember mark)) ↔
      ∃ front member back, members = front ++ member :: back ∧
        (∀ later ∈ back, (expandedMember mark later).1 ≠ (expandedMember mark member).1) ∧
        expandedMember mark member = expanded := by
  rw [mem_collectMembers_iff]
  constructor
  · rintro ⟨front, back, split, latest⟩
    obtain ⟨front, others, rfl, rfl, behind⟩ := List.map_eq_append_iff.mp split
    obtain ⟨member, back, rfl, rfl, rfl⟩ := List.map_eq_cons_iff.mp behind
    rw [List.forall_mem_map] at latest
    exact ⟨front, member, back, rfl, latest, rfl⟩
  · rintro ⟨front, member, back, rfl, latest, rfl⟩
    refine ⟨front.map (expandedMember mark), back.map (expandedMember mark), by simp, ?_⟩
    rw [List.forall_mem_map]
    exact latest

/-- What is in the result of expansion is what has become of the parts that last. -/
theorem within_expand_iff {part value : Value} :
    part.Within (value.expand mark) ↔
      ∃ source : Value, source.Lasts mark value ∧ source.expand mark = part := by
  induction value using Value.inductOpened with
  | scalar value scalar =>
      rw [expand_of_isScalar scalar, Value.within_iff_of_isScalar scalar]
      simp only [Value.lasts_iff_of_isScalar scalar, exists_eq_left, expand_of_isScalar scalar]
      exact eq_comm
  | array items ih =>
      rw [expand_array, Value.within_array_iff, ← expand_array]
      constructor
      · rintro (rfl | ⟨_, isItem, within⟩)
        · exact ⟨_, .self, rfl⟩
        · obtain ⟨item, listed, rfl⟩ := List.mem_map.mp isItem
          obtain ⟨source, lasts, become⟩ := (ih item listed).mp within
          exact ⟨source, .item listed lasts, become⟩
      · rintro ⟨source, lasts, rfl⟩
        rcases Value.lasts_array_iff.mp lasts with rfl | ⟨item, listed, lasts⟩
        · exact .inl rfl
        · exact .inr ⟨_, List.mem_map_of_mem listed, (ih item listed).mpr ⟨source, lasts, rfl⟩⟩
  | object members ih =>
      rw [expand_object_eq, Value.within_object_iff, ← expand_object_eq]
      constructor
      · rintro (rfl | ⟨_, listed, within⟩)
        · exact ⟨_, .self, rfl⟩
        · obtain ⟨front, member, back, rfl, latest, rfl⟩ := mem_expanded_iff.mp listed
          have isMember : member ∈ front ++ member :: back := List.mem_append_cons_self
          obtain ⟨source, lasts, become⟩ := (ih member isMember).mp within
          exact ⟨source, .member latest lasts, become⟩
      · rintro ⟨source, lasts, rfl⟩
        rcases Value.lasts_object_iff.mp lasts with rfl | ⟨front, member, back, rfl, latest, lasts⟩
        · exact .inl rfl
        · have isMember : member ∈ front ++ member :: back := List.mem_append_cons_self
          exact .inr ⟨_, mem_expanded_iff.mpr ⟨front, member, back, rfl, latest, rfl⟩,
            (ih member isMember).mpr ⟨source, lasts, rfl⟩⟩

/-! ## Keys that end with the suffix -/

theorem mem_keys_expand_object_iff {members : List Member} {key : Text} :
    key ∈ ((Value.object members).expand mark).keys ↔
      ∃ member ∈ members, (expandedMember mark member).1 = key := by
  rw [expand_object_eq, Value.keys, mem_keys_collectMembers_iff, List.map_map, List.mem_map]
  rfl

/-- Without marks, the key of a member that is not expanded ends with the suffix if it did twice. -/
theorem suffix_expandedKey_false_iff {key : Text} :
    expansionMark <:+ expandedKey false false key ↔ expansionMark ++ expansionMark <:+ key := by
  have renamed := @expandedKey_eq_iff key false (expandedKey false false key)
  rcases renamed.mp rfl with same | ⟨same, -, unmarked⟩
  · generalize expandedKey false false key = base at same
    subst same
    constructor
    · rintro ⟨front, rfl⟩
      exact ⟨front, (List.append_assoc _ _ _).symm⟩
    · rintro ⟨front, same⟩
      rw [← List.append_assoc] at same
      exact ⟨front, List.append_cancel_right same⟩
  · refine iff_of_false unmarked fun twice => unmarked ?_
    rw [← same]
    exact (List.suffix_append _ _).trans twice

/-- No key that the expansion of a value meets ends with the suffix more than once. -/
def Value.MarkedOnce (value : Value) : Prop :=
  ∀ part : Value, part.Met value → ∀ key ∈ part.keys, ¬expansionMark ++ expansionMark <:+ key

theorem Value.markedOnce_iff {value : Value} :
    value.MarkedOnce ↔ (∀ key ∈ value.keys, ¬expansionMark ++ expansionMark <:+ key) ∧
      ∀ content ∈ value.contents, content.opened.MarkedOnce :=
  Value.forall_met_keys_iff

/-- Without marks, keys lose the suffix that marks them, except for those of expanded members. Where
no key that the expansion of a value meets carries the suffix more than once, no key in the result
ends with it, exactly if in all objects that last the members that carry the suffix are not expanded
themselves. -/
theorem expand_false_unmarked_iff {value : Value} (once : value.MarkedOnce) :
    (∀ part : Value, part.Within (value.expand false) → ∀ key ∈ part.keys,
      ¬expansionMark <:+ key) ↔
      ∀ members, (Value.object members).Lasts false value → ∀ member ∈ members,
        expansionMark <:+ member.1 → member.2.embedded? = none := by
  constructor
  · intro unmarked members lasts member listed marked
    by_contra embedded
    apply unmarked _ (within_expand_iff.mpr ⟨_, lasts, rfl⟩) member.1 _ marked
    rw [mem_keys_expand_object_iff]
    refine ⟨member, listed, ?_⟩
    rw [expandedMember, Option.isSome_iff_ne_none.mpr embedded]
    rfl
  · intro alone part within key listed marked
    obtain ⟨source, lasts, rfl⟩ := within_expand_iff.mp within
    cases source with
    | object members =>
        obtain ⟨member, isMember, rfl⟩ := mem_keys_expand_object_iff.mp listed
        rw [expandedMember] at marked
        cases holds : member.2.embedded? with
        | none =>
            rw [holds, Option.isSome_none, suffix_expandedKey_false_iff] at marked
            exact once _ lasts.met member.1 (List.mem_map_of_mem isMember) marked
        | some inner =>
            rw [holds, Option.isSome_some] at marked
            rw [alone members lasts member isMember marked] at holds
            cases holds
    | array items =>
        rw [expand_array] at listed
        cases listed
    | _ =>
        rw [expand_of_isScalar rfl] at listed
        cases listed

/-- Two members with the suffix, one of which is expanded. -/
theorem expand_false_unmarked_iff_of_embedded :
    let value : Value := .object [("a [@String]".toList, .string "[1]".toList),
      ("b [@String]".toList, .number (.integer 2))]
    value.MarkedOnce ∧
      value.expand false = .object [("a [@String]".toList, .array [.number (.integer 1)]),
        (['b'], .number (.integer 2))] ∧
      ¬∀ part : Value, part.Within (value.expand false) → ∀ key ∈ part.keys,
        ¬expansionMark <:+ key := by
  intro value
  have held : (Value.string "[1]".toList).opened = .array [.number (.integer 1)] := by
    cbv
  have number (integer : Int) : (Value.number (.integer integer)).opened.MarkedOnce :=
    Value.markedOnce_iff.mpr ⟨List.forall_mem_nil _, List.forall_mem_nil _⟩
  have array : (Value.string "[1]".toList).opened.MarkedOnce := by
    rw [held]
    exact Value.markedOnce_iff.mpr ⟨List.forall_mem_nil _, List.forall_mem_singleton.mpr (number 1)⟩
  have once : value.MarkedOnce :=
    Value.markedOnce_iff.mpr ⟨by decide, List.forall_mem_cons.mpr
      ⟨array, List.forall_mem_singleton.mpr (number 2)⟩⟩
  refine ⟨once, by cbv, ?_⟩
  rw [expand_false_unmarked_iff once]
  intro alone
  have embedded := alone _ .self _ List.mem_cons_self (by decide)
  have opened : (Value.string "[1]".toList).embedded? = some (.array [.number (.integer 1)]) := by
    cbv
  rw [opened] at embedded
  cases embedded

end Reflow.Json
