import Reflow.Json.Clean
import Reflow.Proofs.Json.Within

/-!
# What cleaning removes

Cleaning takes away what was asked for and nothing else. The scalars of a value come with the keys
that lead to them; cleaning keeps, in the same order, those that are neither selected nor behind a
matching key, and it leaves nothing behind that it would have to remove. Only if the whole value is
removed an empty string takes its place.
-/

namespace Reflow.Json

namespace CleanOptions

/-! ## What options ask for -/

/-- The scalars that are to be removed. -/
inductive Selects (options : CleanOptions) : Value → Prop where
  | null (chosen : options.null = true) : Selects options .null
  | falseBool (chosen : options.falseBool = true) : Selects options (.bool false)
  | blankString {text : Text} (chosen : options.blankString = true) (blank : text.blank = true) :
      Selects options (.string text)
  | matching {text : Text} {pattern : Pattern} (chosen : options.valuePattern = some pattern)
      (occurs : pattern.occursIn text = true) : Selects options (.string text)

/-- The keys of members that are to be removed. -/
def MatchesKey (options : CleanOptions) (key : Text) : Prop :=
  ∃ pattern, options.keyPattern = some pattern ∧ pattern.occursIn key = true

/-- The values of which nothing is left: selected scalars, and containers that are removed when
empty and in which nothing is left. -/
inductive Removes (options : CleanOptions) : Value → Prop where
  | scalar {value : Value} (selected : options.Selects value) : Removes options value
  | array {items : List Value} (chosen : options.emptyArray = true)
      (all : ∀ item ∈ items, Removes options item) : Removes options (.array items)
  | object {members : List Member} (chosen : options.emptyObject = true)
      (all : ∀ member ∈ members, ¬options.MatchesKey member.1 → Removes options member.2) :
      Removes options (.object members)

/-- Neither a value nor one of its own keys is to be removed, whatever is inside of it. -/
structure Tolerates (options : CleanOptions) (value : Value) : Prop where
  scalar : ¬options.Selects value
  key {members : List Member} (same : value = .object members) {member : Member}
    (listed : member ∈ members) : ¬options.MatchesKey member.1
  array (chosen : options.emptyArray = true) : value ≠ .array []
  object (chosen : options.emptyObject = true) : value ≠ .object []

variable {options : CleanOptions}

theorem dropsKey_iff {key : Text} : options.dropsKey key = true ↔ options.MatchesKey key := by
  simp [dropsKey, MatchesKey, Option.any_eq_true]

/-- Among scalars those are removed that are selected. -/
theorem selects_iff {value : Value} :
    options.Selects value ↔ value.isScalar = true ∧ options.dropsValue value = true := by
  constructor
  · intro selected
    cases selected with
    | null chosen => exact ⟨rfl, chosen⟩
    | falseBool chosen => exact ⟨rfl, by simp [dropsValue, chosen]⟩
    | blankString chosen blank => exact ⟨rfl, by simp [dropsValue, chosen, blank]⟩
    | matching chosen occurs => exact ⟨rfl, by simp [dropsValue, chosen, occurs]⟩
  · rintro ⟨scalar, drops⟩
    cases value with
    | null => exact .null drops
    | bool value =>
        simp only [dropsValue, Bool.and_eq_true, Bool.not_eq_true'] at drops
        rw [drops.2]
        exact .falseBool drops.1
    | number value => cases drops
    | string text =>
        simp only [dropsValue, Bool.or_eq_true, Bool.and_eq_true, Option.any_eq_true] at drops
        rcases drops with ⟨chosen, blank⟩ | ⟨pattern, chosen, occurs⟩
        · exact .blankString chosen blank
        · exact .matching chosen occurs
    | array items => cases scalar
    | object members => cases scalar

theorem tolerates_of_dropsValue_eq_false {value : Value} (keeps : options.dropsValue value = false)
    (unmatched : ∀ members, value = .object members → ∀ member ∈ members,
      ¬options.MatchesKey member.1) : options.Tolerates value where
  scalar selected := Bool.false_ne_true (keeps.symm.trans (selects_iff.mp selected).2)
  key same _ listed := unmatched _ same _ listed
  array chosen := by
    rintro rfl
    simp [dropsValue, chosen] at keeps
  object chosen := by
    rintro rfl
    simp [dropsValue, chosen] at keeps

instance (key : Text) : Decidable (options.MatchesKey key) :=
  decidable_of_iff _ dropsKey_iff

instance (value : Value) : Decidable (options.Selects value) :=
  decidable_of_iff _ selects_iff.symm

end CleanOptions

variable {options : CleanOptions}

/-! ## Cleaning as a pass over lists -/

theorem cleanItems_eq (options : CleanOptions) (items : List Value) :
    cleanItems options items = items.filterMap (Value.clean? options) := by
  induction items with
  | nil => rfl
  | cons item items ih => cases kept : item.clean? options <;> simp [cleanItems, ih, kept]

/-- What is left of a member. -/
def cleanMember? (options : CleanOptions) (member : Member) : Option Member :=
  if options.dropsKey member.1 then none else (member.2.clean? options).map (member.1, ·)

theorem cleanMembers_eq (options : CleanOptions) (members : List Member) :
    cleanMembers options members = members.filterMap (cleanMember? options) := by
  induction members with
  | nil => rfl
  | cons member members ih =>
      obtain ⟨key, value⟩ := member
      rw [cleanMembers, ih, List.filterMap_cons, cleanMember?]
      split
      · rfl
      · cases value.clean? options <;> rfl

theorem cleanMember?_eq_none_iff {member : Member} :
    cleanMember? options member = none ↔
      (¬options.MatchesKey member.1 → member.2.clean? options = none) := by
  rw [← CleanOptions.dropsKey_iff, cleanMember?]
  split
  · next drops => simp [drops]
  · next keeps => simp [keeps]

theorem cleanMember?_eq_some_iff {member left : Member} :
    cleanMember? options member = some left ↔
      ¬options.MatchesKey member.1 ∧ member.1 = left.1 ∧
        member.2.clean? options = some left.2 := by
  rw [← CleanOptions.dropsKey_iff, cleanMember?]
  split
  · next drops => simp [drops]
  · next keeps =>
    rw [Option.map_eq_some_iff]
    constructor
    · rintro ⟨value, cleaned, rfl⟩
      exact ⟨keeps, rfl, cleaned⟩
    · rintro ⟨-, sameKey, cleaned⟩
      exact ⟨left.2, cleaned, by rw [sameKey]⟩

theorem keep_eq_none_iff {value : Value} :
    options.keep value = none ↔ options.dropsValue value = true := by
  simp [CleanOptions.keep]

theorem keep_eq_some_iff {value left : Value} :
    options.keep value = some left ↔ options.dropsValue value = false ∧ value = left := by
  simp [CleanOptions.keep]

@[simp] theorem clean?_of_isScalar {value : Value} (scalar : value.isScalar = true) :
    value.clean? options = options.keep value := by
  cases value with
  | array => cases scalar
  | object => cases scalar
  | _ => rfl

@[simp] theorem clean?_array (items : List Value) :
    (Value.array items).clean? options =
      options.keep (.array (items.filterMap (Value.clean? options))) := by
  rw [Value.clean?, cleanItems_eq]

@[simp] theorem clean?_object (members : List Member) :
    (Value.object members).clean? options =
      options.keep (.object (members.filterMap (cleanMember? options))) := by
  rw [Value.clean?, cleanMembers_eq]

/-! ## What is removed -/

/-- Nothing is left of exactly those values of which nothing is to be left. -/
theorem clean?_eq_none_iff {value : Value} :
    value.clean? options = none ↔ options.Removes value := by
  induction value with
  | scalar value scalar =>
      rw [clean?_of_isScalar scalar, keep_eq_none_iff]
      constructor
      · intro drops
        exact .scalar (CleanOptions.selects_iff.mpr ⟨scalar, drops⟩)
      · intro removed
        cases removed with
        | scalar selected => exact (CleanOptions.selects_iff.mp selected).2
        | array => cases scalar
        | object => cases scalar
  | array items ih =>
      rw [clean?_array, keep_eq_none_iff, CleanOptions.dropsValue, Bool.and_eq_true,
        List.isEmpty_iff, List.filterMap_eq_nil_iff]
      constructor
      · rintro ⟨chosen, all⟩
        exact .array chosen fun item listed => (ih item listed).mp (all item listed)
      · intro removed
        cases removed with
        | scalar selected => cases selected
        | array chosen all =>
            exact ⟨chosen, fun item listed => (ih item listed).mpr (all item listed)⟩
  | object members ih =>
      rw [clean?_object, keep_eq_none_iff, CleanOptions.dropsValue, Bool.and_eq_true,
        List.isEmpty_iff, List.filterMap_eq_nil_iff]
      constructor
      · rintro ⟨chosen, all⟩
        refine .object chosen fun member listed unmatched => ?_
        exact (ih member listed).mp (cleanMember?_eq_none_iff.mp (all member listed) unmatched)
      · intro removed
        cases removed with
        | scalar selected => cases selected
        | object chosen all =>
            refine ⟨chosen, fun member listed => cleanMember?_eq_none_iff.mpr fun unmatched => ?_⟩
            exact (ih member listed).mpr (all member listed unmatched)

/-! ## What is left -/

mutual

/-- The scalars within a value in the order of the document, each with the keys that lead to it. -/
def Value.leaves : Value → List (List Text × Value)
  | .array items => itemLeaves items
  | .object members => memberLeaves members
  | value => [([], value)]

/-- The scalars within items. -/
def itemLeaves : List Value → List (List Text × Value)
  | [] => []
  | item :: items => item.leaves ++ itemLeaves items

/-- The scalars within members. -/
def memberLeaves : List (Text × Value) → List (List Text × Value)
  | [] => []
  | (key, value) :: members =>
      value.leaves.map (fun (keys, scalar) => (key :: keys, scalar)) ++ memberLeaves members

end

@[simp] theorem leaves_of_isScalar {value : Value} (scalar : value.isScalar = true) :
    value.leaves = [([], value)] := by
  cases value with
  | array => cases scalar
  | object => cases scalar
  | _ => rfl

@[simp] theorem leaves_array (items : List Value) :
    (Value.array items).leaves = items.flatMap Value.leaves := by
  rw [Value.leaves]
  induction items with
  | nil => rfl
  | cons item items ih => rw [itemLeaves, ih, List.flatMap_cons]

/-- The scalars within a member. -/
def leavesOfMember (member : Member) : List (List Text × Value) :=
  member.2.leaves.map fun (keys, scalar) => (member.1 :: keys, scalar)

@[simp] theorem leaves_object (members : List Member) :
    (Value.object members).leaves = members.flatMap leavesOfMember := by
  rw [Value.leaves]
  induction members with
  | nil => rfl
  | cons member members ih => rw [memberLeaves, ih, List.flatMap_cons, leavesOfMember]

/-- The scalars that are to be kept: those that are not selected and to which no matching key
leads. -/
def CleanOptions.Keeps (options : CleanOptions) (leaf : List Text × Value) : Prop :=
  (∀ key ∈ leaf.1, ¬options.MatchesKey key) ∧ ¬options.Selects leaf.2

instance (leaf : List Text × Value) : Decidable (options.Keeps leaf) :=
  inferInstanceAs (Decidable (_ ∧ _))

/-- Where for each part those scalars are left that are to be kept, they are for all parts. -/
theorem flatMap_filterMap_eq {α : Type} {parts : List α} {left? : α → Option α}
    {leaves : α → List (List Text × Value)}
    (each : ∀ part ∈ parts, (left? part).elim [] leaves = (leaves part).filter (options.Keeps ·)) :
    (parts.filterMap left?).flatMap leaves = (parts.flatMap leaves).filter (options.Keeps ·) := by
  induction parts with
  | nil => rfl
  | cons part parts ih =>
      have first := each part List.mem_cons_self
      have others := ih fun other listed => each other (List.mem_cons_of_mem part listed)
      rw [List.flatMap_cons, List.filter_append, ← first, ← others, List.filterMap_cons]
      cases left? part <;> rfl

/-- A matching key keeps none of the scalars of its member, and another key all that it is about. -/
theorem elim_cleanMember?_eq {member : Member}
    (value : (member.2.clean? options).elim [] Value.leaves =
      member.2.leaves.filter (options.Keeps ·)) :
    (cleanMember? options member).elim [] leavesOfMember =
      (leavesOfMember member).filter (options.Keeps ·) := by
  have behindKey : (leavesOfMember member).filter (options.Keeps ·) =
      if options.MatchesKey member.1 then []
      else (member.2.leaves.filter (options.Keeps ·)).map
        fun (keys, scalar) => (member.1 :: keys, scalar) := by
    rw [leavesOfMember, List.filter_map]
    split
    · next matching =>
      rw [List.map_eq_nil_iff, List.filter_eq_nil_iff]
      intro leaf _
      simp [CleanOptions.Keeps, matching]
    · next unmatched =>
      have same (leaf : List Text × Value) :
          options.Keeps (member.1 :: leaf.1, leaf.2) ↔ options.Keeps leaf := by
        simp [CleanOptions.Keeps, unmatched]
      simp only [Function.comp_def, same]
  rw [behindKey, ← value, cleanMember?]
  by_cases matching : options.MatchesKey member.1
  · rw [if_pos (CleanOptions.dropsKey_iff.mpr matching), if_pos matching]
    rfl
  · rw [if_neg (mt CleanOptions.dropsKey_iff.mp matching), if_neg matching]
    cases member.2.clean? options <;> rfl

/-- Removing a container takes no scalars along, since only empty ones are removed. -/
theorem elim_keep_eq {value : Value} (container : value.isScalar = false) :
    (options.keep value).elim [] Value.leaves = value.leaves := by
  rw [CleanOptions.keep]
  split
  · next drops =>
    cases value with
    | array items =>
        simp only [CleanOptions.dropsValue, Bool.and_eq_true, List.isEmpty_iff] at drops
        rw [drops.2]
        rfl
    | object members =>
        simp only [CleanOptions.dropsValue, Bool.and_eq_true, List.isEmpty_iff] at drops
        rw [drops.2]
        rfl
    | _ => cases container
  · rfl

/-- What is left of a value has those of its scalars that are to be kept, in the same order. -/
theorem elim_clean?_eq (options : CleanOptions) (value : Value) :
    (value.clean? options).elim [] Value.leaves = value.leaves.filter (options.Keeps ·) := by
  induction value with
  | scalar value scalar =>
      rw [clean?_of_isScalar scalar, leaves_of_isScalar scalar, CleanOptions.keep]
      have judged : options.Keeps ([], value) ↔ options.dropsValue value = false := by
        simp [CleanOptions.Keeps, CleanOptions.selects_iff, scalar]
      cases drops : options.dropsValue value with
      | true => simp [judged, drops]
      | false => simp [judged, drops, leaves_of_isScalar scalar]
  | array items ih =>
      rw [clean?_array, elim_keep_eq rfl, leaves_array, leaves_array, flatMap_filterMap_eq ih]
  | object members ih =>
      rw [clean?_object, elim_keep_eq rfl, leaves_object, leaves_object,
        flatMap_filterMap_eq fun member listed => elim_cleanMember?_eq (ih member listed)]

/-- There is nothing to remove in what is left. -/
theorem tolerates_of_clean? {value left part : Value} (cleaned : value.clean? options = some left)
    (within : part.Within left) : options.Tolerates part := by
  induction value generalizing left with
  | scalar value scalar =>
      rw [clean?_of_isScalar scalar, keep_eq_some_iff] at cleaned
      obtain ⟨keeps, rfl⟩ := cleaned
      rw [Value.within_iff_of_isScalar scalar] at within
      subst within
      apply CleanOptions.tolerates_of_dropsValue_eq_false keeps
      rintro members rfl
      cases scalar
  | array items ih =>
      rw [clean?_array, keep_eq_some_iff] at cleaned
      obtain ⟨keeps, rfl⟩ := cleaned
      rcases Value.within_array_iff.mp within with rfl | ⟨item, listed, within⟩
      · exact CleanOptions.tolerates_of_dropsValue_eq_false keeps nofun
      · obtain ⟨original, inItems, left⟩ := List.mem_filterMap.mp listed
        exact ih original inItems left within
  | object members ih =>
      rw [clean?_object, keep_eq_some_iff] at cleaned
      obtain ⟨keeps, rfl⟩ := cleaned
      rcases Value.within_object_iff.mp within with rfl | ⟨member, listed, within⟩
      · apply CleanOptions.tolerates_of_dropsValue_eq_false keeps
        intro others same member listed
        cases same
        obtain ⟨original, -, left⟩ := List.mem_filterMap.mp listed
        obtain ⟨unmatched, sameKey, -⟩ := cleanMember?_eq_some_iff.mp left
        rwa [← sameKey]
      · obtain ⟨original, inMembers, left⟩ := List.mem_filterMap.mp listed
        obtain ⟨-, -, left⟩ := cleanMember?_eq_some_iff.mp left
        exact ih original inMembers left within

/-- Cleaning removes what was asked for. Either nothing is to be left of a value, and an empty
string takes its place; or the scalars of what is left are those of the value that are to be kept,
in the same order, and nothing in what is left is to be removed: no selected scalar, no member with
a matching key, and no container that is removed when empty. -/
theorem clean_removes_what_is_asked (options : CleanOptions) (value : Value) :
    (options.Removes value ∧ value.clean options = .string []) ∨
      (¬options.Removes value ∧
        (value.clean options).leaves = value.leaves.filter (options.Keeps ·) ∧
        ∀ part, part.Within (value.clean options) → options.Tolerates part) := by
  rw [← clean?_eq_none_iff, Value.clean, ← elim_clean?_eq]
  cases cleaned : value.clean? options with
  | none => exact .inl ⟨rfl, rfl⟩
  | some left => exact .inr ⟨nofun, rfl, fun part => tolerates_of_clean? cleaned⟩

/-- Containers that become empty are removed as well, if empty ones are. -/
example :
    (Value.object [(['a'], .object [(['b'], .null)]), (['c'], .array [.null]),
        (['d'], .array [.bool true])]).clean
      { null := true, emptyObject := true, emptyArray := true } =
      .object [(['d'], .array [.bool true])] := by
  rfl

end Reflow.Json
