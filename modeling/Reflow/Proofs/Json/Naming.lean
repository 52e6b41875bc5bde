import Reflow.Proofs.Json.Querying
import Reflow.Proofs.Json.Reading

/-!
# What query strings tell apart

A name in a query string is the way to a scalar, with brackets around its steps. Where no key holds
a bracket, the name can be taken apart again, so it tells one way: different scalars of a document
have different names, and documents with the same query string have scalars with the same texts at
the same ways. Whether a step has been a key or the number of an item is not told.
-/

namespace Reflow.Json

/-! ## Taking names apart -/

section Names

/-- A text without the signs that are put around steps. -/
def Unbracketed (text : Text) : Prop :=
  '[' ∉ text ∧ ']' ∉ text

instance (text : Text) : Decidable (Unbracketed text) :=
  inferInstanceAs (Decidable (_ ∧ _))

theorem unbracketed_toDigits (index : Nat) : Unbracketed (Nat.toDigits 10 index) := by
  have digits {char : Char} (listed : char ∈ Nat.toDigits 10 index) : char.isDigit = true :=
    Nat.isDigit_of_mem_toDigits (by decide) (by decide) listed
  exact ⟨fun listed => absurd (digits listed) (by decide),
    fun listed => absurd (digits listed) (by decide)⟩

@[simp] theorem bracketed_cons (step : PathStep) (path : List PathStep) :
    bracketed (step :: path) = '[' :: (step.text ++ ']' :: bracketed path) := by
  simp [bracketed]

theorem head?_bracketed {path : List PathStep} {char : Char}
    (first : (bracketed path).head? = some char) : char = '[' := by
  cases path with
  | nil => cases first
  | cons step path =>
      rw [bracketed_cons] at first
      exact (Option.some.inj first).symm

variable {path other : List PathStep} (free : ∀ step ∈ path, Unbracketed step.text)
  (freeOther : ∀ step ∈ other, Unbracketed step.text)
include free freeOther

theorem texts_eq_of_bracketed_eq (same : bracketed path = bracketed other) :
    path.map PathStep.text = other.map PathStep.text := by
  induction path generalizing other with
  | nil =>
      cases other with
      | nil => rfl
      | cons step other =>
          rw [bracketed_cons] at same
          cases same
  | cons step path ih =>
      cases other with
      | nil =>
          rw [bracketed_cons] at same
          cases same
      | cons stepOther other =>
          rw [List.forall_mem_cons] at free freeOther
          rw [bracketed_cons, bracketed_cons, List.cons.injEq] at same
          obtain ⟨sameStep, sameRest⟩ := Text.eq_of_append_eq_of_cut free.1.2 freeOther.1.2
            (by simp) (by simp) same.2
          have samePath := ih free.2 freeOther.2 (List.tail_eq_of_cons_eq sameRest)
          rw [List.map_cons, List.map_cons, sameStep, samePath]

/-- A name tells the steps of a way that has any. -/
theorem texts_eq_of_pathName_eq (steps : path ≠ []) (stepsOther : other ≠ [])
    (same : pathName path = pathName other) :
    path.map PathStep.text = other.map PathStep.text := by
  obtain ⟨step, path, rfl⟩ := List.exists_cons_of_ne_nil steps
  obtain ⟨stepOther, other, rfl⟩ := List.exists_cons_of_ne_nil stepsOther
  rw [List.forall_mem_cons] at free freeOther
  obtain ⟨sameStep, sameRest⟩ := Text.eq_of_append_eq_of_cut free.1.1 freeOther.1.1
    (fun _ => head?_bracketed) (fun _ => head?_bracketed) same
  rw [List.map_cons, List.map_cons, sameStep, texts_eq_of_bracketed_eq free.2 freeOther.2 sameRest]

end Names

/-! ## Ways -/

/-- The way to a scalar: the texts of the steps to it. -/
def Located.way (located : Located) : List Text :=
  located.1.map PathStep.text

/-- A scalar as a query string tells it: the way to it, and its text. -/
def Located.told (located : Located) : List Text × Text :=
  (located.way, located.2.queryText)

theorem locatedItems_eq (index : Nat) (items : List Value) :
    locatedItems index items = (items.zipIdx index).flatMap fun numbered =>
      numbered.1.located.map (Located.behind (.item numbered.2)) := by
  induction items generalizing index with
  | nil => rfl
  | cons item items ih => rw [locatedItems, ih, List.zipIdx_cons, List.flatMap_cons]

theorem locatedMembers_eq (members : List Member) :
    locatedMembers members = members.flatMap fun member =>
      member.2.located.map (Located.behind (.key member.1)) := by
  induction members with
  | nil => rfl
  | cons member members ih => rw [locatedMembers, ih, List.flatMap_cons]

/-- Ways are different if their first steps are, or else the ways behind them. -/
theorem nodup_ways_behind {α : Type} {parts : List α} {step : α → PathStep}
    {inside : α → List Located} (apart : (parts.map fun part => (step part).text).Nodup)
    (each : ∀ part ∈ parts, ((inside part).map Located.way).Nodup) :
    ((parts.flatMap fun part => (inside part).map (Located.behind (step part))).map
      Located.way).Nodup := by
  have ways (part : α) : ((inside part).map (Located.behind (step part))).map Located.way =
      ((inside part).map Located.way).map (List.cons (step part).text) := by
    rw [List.map_map, List.map_map]
    rfl
  rw [List.map_flatMap, List.nodup_flatMap]
  constructor
  · intro part listed
    rw [ways]
    exact (each part listed).map List.cons_injective
  · refine (List.pairwise_map.mp apart).imp fun {one other} different => ?_
    rw [Function.onFun, ways, ways, List.disjoint_left]
    intro way inOne inOther
    obtain ⟨_, -, rfl⟩ := List.mem_map.mp inOne
    obtain ⟨_, -, same⟩ := List.mem_map.mp inOther
    exact different (List.head_eq_of_cons_eq same).symm

theorem toDigits_injective : Function.Injective (Nat.toDigits 10) :=
  Function.LeftInverse.injective Text.decimalValue_toDigits

/-- Different scalars of a value are found on different ways. -/
theorem nodup_ways {value : Value} (keyed : value.Keyed) :
    (value.located.map Located.way).Nodup := by
  induction value with
  | scalar value scalar =>
      rw [located_of_isScalar scalar]
      exact List.nodup_singleton _
  | array items ih =>
      rw [Value.keyed_array_iff] at keyed
      have numbers : (items.zipIdx.map fun numbered => Nat.toDigits 10 numbered.2).Nodup := by
        have apart := (List.nodup_zipIdx_map_snd items).map toDigits_injective
        rwa [List.map_map] at apart
      rw [Value.located, locatedItems_eq]
      apply nodup_ways_behind numbers
      intro numbered listed
      have isItem := List.fst_mem_of_mem_zipIdx listed
      exact ih numbered.1 isItem (keyed numbered.1 isItem)
  | object members ih =>
      obtain ⟨distinct, keyed⟩ := Value.keyed_object_iff.mp keyed
      rw [Value.located, locatedMembers_eq]
      apply nodup_ways_behind distinct
      exact fun member listed => ih member listed (keyed member listed)

/-! ## Documents without brackets in keys -/

/-- No key of an object within a value holds a bracket. -/
def Value.Unbracketed (value : Value) : Prop :=
  ∀ members, (Value.object members).Within value → ∀ member ∈ members,
    Json.Unbracketed member.1

@[simp] theorem Value.unbracketed_of_isScalar {value : Value} (scalar : value.isScalar = true) :
    value.Unbracketed :=
  forall_object_within_of_isScalar scalar

@[simp] theorem Value.unbracketed_array_iff {items : List Value} :
    (Value.array items).Unbracketed ↔ ∀ item ∈ items, item.Unbracketed :=
  forall_object_within_array_iff

@[simp] theorem Value.unbracketed_object_iff {members : List Member} :
    (Value.object members).Unbracketed ↔
      ∀ member ∈ members, Json.Unbracketed member.1 ∧ member.2.Unbracketed := by
  rw [Unbracketed, forall_object_within_object_iff, ← forall₂_and]
  rfl

theorem unbracketed_of_mem_located {value : Value} {located : Located} (free : value.Unbracketed)
    (listed : located ∈ value.located) : ∀ step ∈ located.1, Unbracketed step.text := by
  induction value generalizing located with
  | scalar value scalar =>
      rw [located_of_isScalar scalar, List.mem_singleton] at listed
      rw [listed]
      exact List.forall_mem_nil _
  | array items ih =>
      rw [Value.located, locatedItems_eq] at listed
      obtain ⟨numbered, isNumbered, inside⟩ := List.mem_flatMap.mp listed
      obtain ⟨inner, isInner, rfl⟩ := List.mem_map.mp inside
      have isItem := List.fst_mem_of_mem_zipIdx isNumbered
      have freeItem := Value.unbracketed_array_iff.mp free numbered.1 isItem
      exact List.forall_mem_cons.mpr
        ⟨unbracketed_toDigits numbered.2, ih numbered.1 isItem freeItem isInner⟩
  | object members ih =>
      rw [Value.located, locatedMembers_eq] at listed
      obtain ⟨member, isMember, inside⟩ := List.mem_flatMap.mp listed
      obtain ⟨inner, isInner, rfl⟩ := List.mem_map.mp inside
      obtain ⟨freeKey, freeValue⟩ := Value.unbracketed_object_iff.mp free member isMember
      exact List.forall_mem_cons.mpr ⟨freeKey, ih member isMember freeValue isInner⟩

/-- Every scalar of a container is some steps away. -/
theorem steps_of_mem_located {value : Value} {located : Located}
    (container : value.isScalar = false) (listed : located ∈ value.located) : located.1 ≠ [] := by
  cases value with
  | array items =>
      rw [Value.located, locatedItems_eq] at listed
      obtain ⟨numbered, -, inside⟩ := List.mem_flatMap.mp listed
      obtain ⟨inner, -, rfl⟩ := List.mem_map.mp inside
      exact List.cons_ne_nil _ _
  | object members =>
      rw [Value.located, locatedMembers_eq] at listed
      obtain ⟨member, -, inside⟩ := List.mem_flatMap.mp listed
      obtain ⟨inner, -, rfl⟩ := List.mem_map.mp inside
      exact List.cons_ne_nil _ _
  | _ => cases container

/-- An array or object whose names can be taken apart. -/
structure Value.Tells (value : Value) : Prop where
  container : value.isScalar = false
  free : value.Unbracketed

theorem way_eq_of_name_eq {value other : Value} {located locatedOther : Located}
    (tells : value.Tells) (tellsOther : other.Tells) (listed : located ∈ value.located)
    (listedOther : locatedOther ∈ other.located)
    (same : located.pair.1 = locatedOther.pair.1) : located.way = locatedOther.way :=
  texts_eq_of_pathName_eq (unbracketed_of_mem_located tells.free listed)
    (unbracketed_of_mem_located tellsOther.free listedOther)
    (steps_of_mem_located tells.container listed)
    (steps_of_mem_located tellsOther.container listedOther) same

/-- Different scalars of a document have different names. -/
theorem nodup_names {value : Value} (keyed : value.Keyed) (tells : value.Tells) :
    (value.query.map Prod.fst).Nodup := by
  have apart := List.pairwise_map.mp (nodup_ways keyed)
  rw [query_eq tells.container, List.map_map]
  apply List.pairwise_map.mpr
  apply apart.imp_of_mem
  intro located other listed listedOther different same
  exact different (way_eq_of_name_eq tells tells listed listedOther same)

/-- Documents with the same pairs have scalars with the same texts at the same ways. -/
theorem told_eq_of_pairs_eq {scalars others : List Located}
    (each : ∀ located ∈ scalars, ∀ other ∈ others, located.pair.1 = other.pair.1 →
      located.way = other.way)
    (same : scalars.map Located.pair = others.map Located.pair) :
    scalars.map Located.told = others.map Located.told := by
  induction scalars generalizing others with
  | nil =>
      rw [List.map_eq_nil_iff.mp same.symm]
  | cons located scalars ih =>
      obtain ⟨other, others, rfl, sameFirst, sameRest⟩ := List.map_eq_cons_iff.mp same.symm
      have sameWay := each located List.mem_cons_self other List.mem_cons_self
        (congrArg Prod.fst sameFirst.symm)
      have sameText : located.2.queryText = other.2.queryText := congrArg Prod.snd sameFirst.symm
      rw [List.map_cons, List.map_cons, Located.told, sameWay, sameText, ih ?_ sameRest.symm]
      · rfl
      · intro first isFirst second isSecond
        exact each first (List.mem_cons_of_mem _ isFirst) second (List.mem_cons_of_mem _ isSecond)

/-- Names in a query string identify scalars. For two documents that are arrays or objects and in
which no key holds a bracket, the query string of the first one has one pair for each scalar, and
all names in it are different; and if both documents have the same query string, they have scalars
with the same texts at the same ways, in the same order. -/
theorem query_tells_scalars {text other : Text} {value otherValue : Value}
    (read : parse text = .ok value) (readOther : parse other = .ok otherValue)
    (tells : value.Tells) (tellsOther : otherValue.Tells) :
    toQuery text = .ok (formPairs (value.located.map Located.pair)) ∧
      ((value.located.map Located.pair).map Prod.fst).Nodup ∧
      (toQuery text = toQuery other →
        value.located.map Located.told = otherValue.located.map Located.told) := by
  rw [toQuery, toQuery, read, readOther, ← query_eq tells.container]
  refine ⟨rfl, nodup_names (keyed_of_parse read) tells, ?_⟩
  intro sameQuery
  have samePairs := congrArg formDecodePairs? (Except.ok.inj sameQuery)
  rw [formDecodePairs?_formPairs, formDecodePairs?_formPairs, Option.some.injEq,
    query_eq tells.container, query_eq tellsOther.container] at samePairs
  apply told_eq_of_pairs_eq _ samePairs
  intro located listed locatedOther listedOther
  exact way_eq_of_name_eq tells tellsOther listed listedOther

/-- An array behind an empty key, and an object with the numbers of its items as keys. -/
theorem query_tells_scalars_of_numbers :
    let items : Value := .object [(['a'], .object [([], .array [.number (.integer 1), .null])])]
    let members : Value := .object [(['a'],
      .object [([], .object [(['0'], .string ['1']), (['1'], .string [])])])]
    parse "\x7b\"a\":\x7b\"\":[1,null]\x7d\x7d".toList = .ok items ∧
      parse "\x7b\"a\":\x7b\"\":\x7b\"0\":\"1\",\"1\":\"\"\x7d\x7d\x7d".toList = .ok members ∧
      toQuery "\x7b\"a\":\x7b\"\":[1,null]\x7d\x7d".toList =
        .ok "a%5B%5D%5B0%5D=1&a%5B%5D%5B1%5D=".toList ∧
      items.Tells ∧ members.Tells ∧
      items.located.map Located.told = members.located.map Located.told := by
  intro items members
  have read : parse "\x7b\"a\":\x7b\"\":[1,null]\x7d\x7d".toList = .ok items := by
    cbv
  have readMembers :
      parse "\x7b\"a\":\x7b\"\":\x7b\"0\":\"1\",\"1\":\"\"\x7d\x7d\x7d".toList = .ok members := by
    cbv
  have tells : items.Tells := by
    refine ⟨rfl, ?_⟩
    simp [items, Unbracketed]
  have tellsMembers : members.Tells := by
    refine ⟨rfl, ?_⟩
    simp [members, Unbracketed]
  have query : toQuery "\x7b\"a\":\x7b\"\":[1,null]\x7d\x7d".toList =
      .ok "a%5B%5D%5B0%5D=1&a%5B%5D%5B1%5D=".toList := by
    cbv
  have queryMembers :
      toQuery "\x7b\"a\":\x7b\"\":\x7b\"0\":\"1\",\"1\":\"\"\x7d\x7d\x7d".toList =
        .ok "a%5B%5D%5B0%5D=1&a%5B%5D%5B1%5D=".toList := by
    cbv
  exact ⟨read, readMembers, query, tells, tellsMembers,
    (query_tells_scalars read readMembers tells tellsMembers).2.2
      (query.trans queryMembers.symm)⟩

end Reflow.Json
