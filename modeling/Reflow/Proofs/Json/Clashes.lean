import Reflow.Proofs.Json.Suffixes

/-!
# Keys that come to be equal

Expansion renames keys, and it enters the members of an object again under their new names. Two
members with different keys may come to have the same one: a key, and that key with the suffix that
marks expanded members. The later member then takes the place of the earlier one, and whatever the
earlier one held is lost. Where no two keys clash, every object that expansion meets has as many
members in the result as before, and it is found at the same place.
-/

namespace Reflow.Json

variable {mark : Bool}

/-! ## Two members -/

/-- The keys of two members come to be the same in expansion: the second is the first with the
suffix and is not expanded; and the first is expanded, or else there are no marks and it has no
suffix to lose. -/
structure Coincide (mark : Bool) (first second : Member) : Prop where
  suffixed : second.1 = first.1 ++ expansionMark
  alone : second.2.embedded? = none
  plain (unread : first.2.embedded? = none) : mark = false ∧ ¬expansionMark <:+ first.1

theorem Coincide.ne {first second : Member} (coincide : Coincide mark first second) :
    first.1 ≠ second.1 := by
  have marks : expansionMark ≠ [] := by decide
  rw [coincide.suffixed]
  exact fun same => marks (List.self_eq_append_right.mp same)

theorem Coincide.key_eq {first second : Member} (coincide : Coincide mark first second) :
    (expandedMember mark first).1 = (expandedMember mark second).1 := by
  have taken : expandedKey mark false second.1 = expandedKey mark true first.1 :=
    expandedKey_eq_iff.mpr (.inl coincide.suffixed)
  rw [expandedMember, expandedMember, coincide.alone, Option.isSome_none, taken]
  cases holds : first.2.embedded? with
  | none => exact expandedKey_eq_iff.mpr (.inr ⟨rfl, coincide.plain holds⟩)
  | some => rfl

theorem expandedKey_true_injective (mark : Bool) :
    Function.Injective (expandedKey mark true) := by
  intro key other same
  cases mark with
  | true => exact List.append_cancel_right same
  | false => exact same

/-- Of two different keys that come to be the same without being expanded, one is the other with the
suffix. -/
theorem suffixed_of_expandedKey_eq {key other : Text} (different : key ≠ other)
    (same : expandedKey mark false key = expandedKey mark false other) :
    (other = key ++ expansionMark ∧ mark = false ∧ ¬expansionMark <:+ key) ∨
      (key = other ++ expansionMark ∧ mark = false ∧ ¬expansionMark <:+ other) := by
  cases mark with
  | true => exact absurd same different
  | false =>
      have renamed := @expandedKey_eq_iff key false (expandedKey false false other)
      have renamedOther := @expandedKey_eq_iff other false (expandedKey false false other)
      generalize expandedKey false false other = base at *
      rcases renamed.mp same with rfl | ⟨rfl, unmarked⟩
      · rcases renamedOther.mp rfl with rfl | ⟨rfl, unmarked⟩
        · exact absurd rfl different
        · exact .inr ⟨rfl, unmarked⟩
      · rcases renamedOther.mp rfl with rfl | ⟨rfl, -⟩
        · exact .inl ⟨rfl, unmarked⟩
        · exact absurd rfl different

/-- Different keys come to be the same only in this way. -/
theorem coincide_of_key_eq {first second : Member} (different : first.1 ≠ second.1)
    (same : (expandedMember mark first).1 = (expandedMember mark second).1) :
    Coincide mark first second ∨ Coincide mark second first := by
  rw [expandedMember, expandedMember] at same
  cases holds : first.2.embedded? with
  | none =>
      cases holdsSecond : second.2.embedded? with
      | none =>
          rw [holds, holdsSecond] at same
          rcases suffixed_of_expandedKey_eq different same with
            ⟨suffixed, unmarked⟩ | ⟨suffixed, unmarked⟩
          · exact .inl ⟨suffixed, holdsSecond, fun _ => unmarked⟩
          · exact .inr ⟨suffixed, holds, fun _ => unmarked⟩
      | some =>
          rw [holds, holdsSecond] at same
          rcases expandedKey_eq_iff.mp same with suffixed | ⟨sameKey, -⟩
          · exact .inr ⟨suffixed, holds, by simp [holdsSecond]⟩
          · exact absurd sameKey different
  | some =>
      cases holdsSecond : second.2.embedded? with
      | none =>
          rw [holds, holdsSecond] at same
          rcases expandedKey_eq_iff.mp same.symm with suffixed | ⟨sameKey, -⟩
          · exact .inl ⟨suffixed, holdsSecond, by simp [holds]⟩
          · exact absurd sameKey.symm different
      | some =>
          rw [holds, holdsSecond] at same
          exact absurd (expandedKey_true_injective mark same) different

/-! ## The members of an object -/

/-- The keys of some two members come to be the same. -/
def Clash (mark : Bool) (members : List Member) : Prop :=
  ∃ first ∈ members, ∃ second ∈ members, Coincide mark first second

/-- Where no keys clash, the keys behind expansion are different. -/
theorem nodup_expanded_iff {members : List Member} (distinct : (members.map Prod.fst).Nodup) :
    ((members.map (expandedMember mark)).map Prod.fst).Nodup ↔ ¬Clash mark members := by
  rw [List.map_map, List.nodup_map_iff_inj_on distinct.of_map]
  constructor
  · rintro apart ⟨first, isFirst, second, isSecond, coincide⟩
    apply coincide.ne
    rw [apart first isFirst second isSecond coincide.key_eq]
  · intro noClash first isFirst second isSecond same
    by_contra different
    have differentKeys : first.1 ≠ second.1 := fun sameKey =>
      different (List.inj_on_of_nodup_map distinct isFirst isSecond sameKey)
    rcases coincide_of_key_eq differentKeys same with coincide | coincide
    · exact noClash ⟨first, isFirst, second, isSecond, coincide⟩
    · exact noClash ⟨second, isSecond, first, isFirst, coincide⟩

/-! ## Places -/

namespace Value

/-- The value at a place within another one: the place says which of the contents to take, and so on
inside of that one, where `enter` may have put something in its place. -/
def at? (enter : Value → Value) : (place : List Nat) → Value → Option Value
  | [], value => some value
  | index :: place, value =>
      value.contents[index]?.bind fun content => (enter content).at? enter place

/-- Every object that expansion meets, at whatever place, is an object with as many members at the
same place of the result. -/
def KeepsMembers (mark : Bool) (value : Value) : Prop :=
  ∀ place members, value.at? opened place = some (.object members) →
    ∃ kept, (value.expand mark).at? id place = some (.object kept) ∧ kept.length = members.length

/-- The members of a value itself, if it is an object, have different keys behind expansion. -/
def Apart (mark : Bool) (value : Value) : Prop :=
  ∀ members, value = .object members →
    ((members.map (expandedMember mark)).map Prod.fst).Nodup

variable {value part content : Value}

theorem met_of_at? {place : List Nat} (found : value.at? opened place = some part) :
    part.Met value := by
  induction place generalizing value with
  | nil =>
      cases found
      exact .self
  | cons index place ih =>
      obtain ⟨content, listed, found⟩ := Option.bind_eq_some_iff.mp found
      exact .content (List.mem_of_getElem? listed) (ih found)

theorem Keyed.of_content (keyed : value.Keyed) (listed : content ∈ value.contents) :
    content.Keyed :=
  fun members within => keyed members (within_iff.mpr (.inr ⟨content, listed, within⟩))

theorem Keyed.of_met (keyed : value.Keyed) (met : part.Met value) : part.Keyed := by
  induction met with
  | self => exact keyed
  | content listed _ ih => exact ih (keyed.of_content listed).opened

/-- The contents of a value are expanded one by one. -/
theorem contents_expand (apart : value.Apart mark) :
    (value.expand mark).contents =
      value.contents.map fun content => content.opened.expand mark := by
  cases value with
  | array items => rw [expand_array, contents, contents]
  | object members =>
      rw [expand_object_eq, collectMembers_of_nodup (apart members rfl), contents, contents,
        List.map_map, List.map_map]
      rfl
  | _ =>
      rw [expand_of_isScalar rfl]
      rfl

/-- What expansion meets at a place becomes what is found there in the result. -/
theorem at?_expand (apart : ∀ part : Value, part.Met value → part.Apart mark) (place : List Nat) :
    (value.expand mark).at? id place = (value.at? opened place).map (expand mark) := by
  induction place generalizing value with
  | nil => rfl
  | cons index place ih =>
      rw [at?, at?, contents_expand (apart value .self), List.getElem?_map]
      cases found : value.contents[index]? with
      | none => rfl
      | some content =>
          exact ih fun part met => apart part (.content (List.mem_of_getElem? found) met)

theorem KeepsMembers.apart (keeps : value.KeepsMembers mark) : value.Apart mark := by
  rintro members rfl
  obtain ⟨kept, found, complete⟩ := keeps [] members rfl
  rw [at?, expand_object_eq, Option.some.injEq, object.injEq] at found
  rw [← length_collectMembers_eq_iff, found, complete, List.length_map]

theorem KeepsMembers.of_content (keeps : value.KeepsMembers mark)
    (listed : content ∈ value.contents) : content.opened.KeepsMembers mark := by
  obtain ⟨index, found⟩ := List.mem_iff_getElem?.mp listed
  intro place members foundObject
  -- The position of a content is still the same in the result, since no member got lost around it.
  have step := keeps (index :: place) members
  rw [at?, at?, contents_expand keeps.apart, List.getElem?_map, found] at step
  exact step foundObject

theorem KeepsMembers.of_met (keeps : value.KeepsMembers mark) (met : part.Met value) :
    part.KeepsMembers mark := by
  induction met with
  | self => exact keeps
  | content listed _ ih => exact ih (keeps.of_content listed)

end Value

/-- Expansion loses no member of any object that it meets, exactly if in none of these objects two
keys clash. -/
theorem keepsMembers_iff {value : Value} (keyed : value.Keyed) (mark : Bool) :
    value.KeepsMembers mark ↔
      ∀ members, (Value.object members).Met value → ¬Clash mark members := by
  constructor
  · intro keeps members met
    obtain ⟨distinct, -⟩ := Value.keyed_object_iff.mp (keyed.of_met met)
    exact (nodup_expanded_iff distinct).mp ((keeps.of_met met).apart members rfl)
  · intro noClash place members found
    have apart : ∀ part : Value, part.Met value → part.Apart mark := by
      rintro part met members rfl
      obtain ⟨distinct, -⟩ := Value.keyed_object_iff.mp (keyed.of_met met)
      exact (nodup_expanded_iff distinct).mpr (noClash members met)
    have distinct := apart _ (Value.met_of_at? found) members rfl
    refine ⟨_, by rw [Value.at?_expand apart, found, Option.map_some, expand_object_eq], ?_⟩
    rw [length_collectMembers_eq_iff.mpr distinct, List.length_map]

/-- An expanded member beside one with the suffix: with marks the first one takes the key of the
second, and without marks the second one takes that of the first. -/
theorem keepsMembers_iff_of_overtaken :
    let value : Value := .object [(['a'], .string "[1]".toList),
      ("a [@String]".toList, .number (.integer 2))]
    value.Keyed ∧
      value.expand true = .object [("a [@String]".toList, .number (.integer 2))] ∧
      value.expand false = .object [(['a'], .number (.integer 2))] ∧
      ∀ mark, ¬value.KeepsMembers mark := by
  intro value
  have keyed : value.Keyed := by simp [value]
  have held : (Value.string "[1]".toList).embedded? = some (.array [.number (.integer 1)]) := by
    cbv
  refine ⟨keyed, by cbv, by cbv, ?_⟩
  intro mark
  rw [keepsMembers_iff keyed mark]
  intro noClash
  apply noClash _ .self
  refine ⟨_, List.mem_cons_self, _, List.mem_cons_of_mem _ List.mem_cons_self, rfl, rfl, ?_⟩
  intro unread
  rw [held] at unread
  cases unread

end Reflow.Json
