import Reflow.Proofs.Json.Sorting

/-!
# The canonical form of a document

Documents that differ in the order of members, and in the order of the items of uniform arrays, are
sorted into the same document. What is put in order is told apart by its order: members by their
keys, strings and booleans by themselves, and numbers by their values as floating point numbers, so
that numbers of the same array must not differ and have the same value.
-/

namespace Reflow.Json

variable {order : SortOrder}

/-! ## One order for the same elements -/

namespace SortOrder

variable {α : Type} {le : α → α → Bool}

/-- Lists of the same elements are put in the same order, if the order tells the elements apart. -/
theorem arrange_eq_of_perm (trans : ∀ left middle right, le left middle = true →
      le middle right = true → le left right = true)
    (total : ∀ left right, (le left right || le right left) = true) {list other : List α}
    (apart : ∀ left ∈ list, ∀ right ∈ list, le left right = true → le right left = true →
      left = right) (permuted : list.Perm other) :
    order.arrange le list = order.arrange le other := by
  have ascending : list.mergeSort le = other.mergeSort le := by
    refine List.Perm.eq_of_pairwise ?_ (List.pairwise_mergeSort trans total list)
      (List.pairwise_mergeSort trans total other) ?_
    · intro left right inList inOther
      apply apart
      · exact List.mem_mergeSort.mp inList
      · exact permuted.mem_iff.mpr (List.mem_mergeSort.mp inOther)
    · exact (list.mergeSort_perm le).trans (permuted.trans (other.mergeSort_perm le).symm)
  cases order with
  | ascending => exact ascending
  | descending => exact congrArg List.reverse ascending

end SortOrder

/-! ## The items of uniform arrays -/

theorem textLe_antisymm {left right : Text} (le : textLe left right = true)
    (ge : textLe right left = true) : left = right := by
  rcases textLe_iff.mp le with same | less
  · exact same
  · rcases textLe_iff.mp ge with same | greater
    · exact same.symm
    · exact absurd greater (List.lt_asymm less)

/-- Lists of values that are all built in the same way. -/
theorem exists_map_eq {α : Type} {build : α → Value} {items : List Value}
    (each : ∀ item ∈ items, ∃ element, build element = item) :
    ∃ list : List α, list.map build = items := by
  have inRange : items ∈ {list | ∀ item ∈ list, item ∈ Set.range build} := each
  rwa [← Set.range_list_map] at inRange

theorem Uniform.exists_map_eq {items : List Value} (uniform : Uniform items) :
    (∃ texts : List Text, texts.map .string = items) ∨
      (∃ bools : List Bool, bools.map .bool = items) ∨
        ∃ numbers : List Number, numbers.map .number = items := by
  obtain ⟨kind, sortable, same⟩ := uniform
  cases kind with
  | string =>
      left
      apply Json.exists_map_eq
      intro item listed
      cases item with
      | string text => exact ⟨text, rfl⟩
      | _ => cases same _ listed
  | bool =>
      right; left
      apply Json.exists_map_eq
      intro item listed
      cases item with
      | bool value => exact ⟨value, rfl⟩
      | _ => cases same _ listed
  | number =>
      right; right
      apply Json.exists_map_eq
      intro item listed
      cases item with
      | number number => exact ⟨number, rfl⟩
      | _ => cases same _ listed
  | _ => cases sortable

/-- Items that are all built in the same way are put in the same order, if what they are built from
is told apart. -/
theorem arrange_map_eq_of_perm {α : Type} {build : α → Value} {le : α → α → Bool}
    (injective : Function.Injective build)
    (compared : ∀ left right, scalarLe (build left) (build right) = le left right)
    (trans : ∀ left middle right, le left middle = true → le middle right = true →
      le left right = true)
    (total : ∀ left right, (le left right || le right left) = true) {list : List α}
    (apart : ∀ left ∈ list, ∀ right ∈ list, le left right = true → le right left = true →
      left = right)
    {others : List Value} (permuted : (list.map build).Perm others) :
    order.arrange scalarLe (list.map build) = order.arrange scalarLe others := by
  obtain ⟨other, rfl⟩ : ∃ other : List α, other.map build = others := by
    apply exists_map_eq
    intro item listed
    obtain ⟨element, -, built⟩ := List.mem_map.mp (permuted.mem_iff.mpr listed)
    exact ⟨element, built⟩
  have arranged (list : List α) :
      order.arrange scalarLe (list.map build) = (order.arrange le list).map build :=
    (SortOrder.map_arrange fun left _ right _ => (compared left right).symm).symm
  have perm : list.Perm other := (List.map_perm_map_iff injective).mp permuted
  rw [arranged, arranged, SortOrder.arrange_eq_of_perm trans total apart perm]

/-- Numbers of an array that have the same value as floating point numbers are the same number. -/
def Value.NumbersApart (value : Value) : Prop :=
  ∀ numbers : List Number, (Value.array (numbers.map .number)).Within value →
    ∀ left ∈ numbers, ∀ right ∈ numbers,
      left.toBinary64.toRat = right.toBinary64.toRat → left = right

namespace Value.NumbersApart

theorem item {items : List Value} (apart : (Value.array items).NumbersApart) {item : Value}
    (listed : item ∈ items) : item.NumbersApart :=
  fun numbers within => apart numbers (.item listed within)

theorem member {members : List Member} (apart : (Value.object members).NumbersApart)
    {member : Member} (listed : member ∈ members) : member.2.NumbersApart :=
  fun numbers within => apart numbers (.member listed within)

end Value.NumbersApart

theorem Uniform.arrange_eq_of_perm {items others : List Value} (uniform : Uniform items)
    (apart : (Value.array items).NumbersApart) (permuted : items.Perm others) :
    order.arrange scalarLe items = order.arrange scalarLe others := by
  rcases uniform.exists_map_eq with ⟨texts, rfl⟩ | ⟨bools, rfl⟩ | ⟨numbers, rfl⟩
  · exact arrange_map_eq_of_perm (fun _ _ => Value.string.inj) (fun _ _ => rfl) textLe_trans
      textLe_total (fun _ _ _ _ => textLe_antisymm) permuted
  · have compared (left right : Bool) :
        scalarLe (.bool left) (.bool right) = (!left || right) := rfl
    have told : ∀ left right : Bool, (!left || right) = true → (!right || left) = true →
        left = right := by decide
    exact arrange_map_eq_of_perm (fun _ _ => Value.bool.inj) compared (by decide) (by decide)
      (fun left _ right _ => told left right) permuted
  · refine arrange_map_eq_of_perm (fun _ _ => Value.number.inj) (fun _ _ => rfl) Number.le_trans
      Number.le_total ?_ permuted
    intro left inLeft right inRight le ge
    apply apart numbers .self left inLeft right inRight
    exact le_antisymm (Number.le_iff.mp le) (Number.le_iff.mp ge)

/-! ## The members of objects -/

theorem arrange_members_eq_of_perm {members others : List Member}
    (distinct : (members.map Prod.fst).Nodup) (permuted : members.Perm others) :
    order.arrange (fun left right => textLe left.1 right.1) members =
      order.arrange (fun left right => textLe left.1 right.1) others := by
  apply SortOrder.arrange_eq_of_perm
  · exact fun left middle right => textLe_trans left.1 middle.1 right.1
  · exact fun left right => textLe_total left.1 right.1
  · intro left inLeft right inRight le ge
    exact List.inj_on_of_nodup_map distinct inLeft inRight (textLe_antisymm le ge)
  · exact permuted

theorem eq_of_keys_of_values {members others : List Member}
    (keys : members.map Prod.fst = others.map Prod.fst)
    (values : members.map Prod.snd = others.map Prod.snd) : members = others :=
  (List.zip_of_prod keys values).trans (List.zip_of_prod rfl rfl).symm

/-! ## What is rearranged -/

theorem Rearranged.kind_eq {value other : Value} (rearranged : Rearranged value other) :
    value.kind = other.kind := by
  cases rearranged <;> rfl

theorem Uniform.of_perm {items others : List Value} (uniform : Uniform items)
    (permuted : items.Perm others) : Uniform others := by
  obtain ⟨kind, sortable, same⟩ := uniform
  exact ⟨kind, sortable, fun item listed => same item (permuted.mem_iff.mpr listed)⟩

/-- Whether items are uniform can be seen from their kinds. -/
theorem Uniform.of_rearranged {items others : List Value}
    (each : List.Forall₂ Rearranged items others) (uniform : Uniform others) : Uniform items := by
  have kinds : items.map Value.kind = others.map Value.kind := by
    rw [← List.forall₂_eq_eq_eq, List.forall₂_map_left_iff, List.forall₂_map_right_iff]
    exact each.imp fun _ _ => Rearranged.kind_eq
  obtain ⟨kind, sortable, same⟩ := uniform
  refine ⟨kind, sortable, fun item listed => ?_⟩
  have inKinds : item.kind ∈ others.map Value.kind := kinds ▸ List.mem_map_of_mem listed
  obtain ⟨other, inOthers, sameKind⟩ := List.mem_map.mp inKinds
  rw [← sameKind]
  exact same other inOthers

/-- Values that are rearranged one by one are sorted into the same values, if each of them is. -/
theorem map_sort_eq_of_forall₂ {values others : List Value}
    (order : SortOrder) (each : List.Forall₂ Rearranged values others)
    (same : ∀ value ∈ values, ∀ other, Rearranged value other →
      value.sort order = other.sort order) :
    values.map (Value.sort order) = others.map (Value.sort order) := by
  induction each with
  | nil => rfl
  | cons rearranged _ ih =>
      rw [List.forall_mem_cons] at same
      rw [List.map_cons, List.map_cons, same.1 _ rearranged, ih same.2]

theorem Rearranged.sort_eq {value other : Value} (rearranged : Rearranged value other)
    (keyed : value.Keyed) (apart : value.NumbersApart) : value.sort order = other.sort order := by
  induction value generalizing other with
  | scalar value scalar =>
      cases rearranged with
      | scalar => rfl
      | uniform => cases scalar
      | array => cases scalar
      | object => cases scalar
  | array items ih =>
      rw [Value.keyed_array_iff] at keyed
      cases rearranged with
      | scalar => rfl
      | uniform uniform permuted =>
          rw [sort_array_of_uniform order uniform,
            sort_array_of_uniform order (uniform.of_perm permuted),
            uniform.arrange_eq_of_perm apart permuted]
      | @array _ others mixed each =>
          have othersMixed : ¬Uniform others := fun uniform => mixed (.of_rearranged each uniform)
          rw [sort_array_of_not_uniform order mixed, sort_array_of_not_uniform order othersMixed,
            map_sort_eq_of_forall₂ order each]
          intro item listed other rearranged
          exact ih item listed rearranged (keyed item listed) (apart.item listed)
  | object members ih =>
      obtain ⟨distinct, keyed⟩ := Value.keyed_object_iff.mp keyed
      cases rearranged with
      | scalar => rfl
      | @object _ inside others keys values permuted =>
          have sortedValues := map_sort_eq_of_forall₂ order values <|
            List.forall_mem_map.mpr fun member listed other rearranged =>
              ih member listed rearranged (keyed member listed) (apart.member listed)
          have same : (members.map fun member => (member.1, member.2.sort order)) =
              inside.map fun member => (member.1, member.2.sort order) := by
            apply eq_of_keys_of_values
            · rw [List.map_map, List.map_map]
              exact keys
            · rw [List.map_map, List.map_map] at sortedValues ⊢
              exact sortedValues
          rw [sort_object, sort_object, same, Value.object.injEq]
          apply arrange_members_eq_of_perm
          · rw [← same, List.map_map]
            exact distinct
          · exact permuted.map _

/-- Sorting yields a canonical form. Values that differ only in the order of members and in the
order of the items of uniform arrays are sorted into the same value, as long as the numbers of an
array are told apart by their values as floating point numbers. So sorting again in the same
direction changes nothing, and having sorted in the other direction before makes no difference. -/
theorem sort_eq_of_rearranged {value other : Value} (keyed : value.Keyed)
    (apart : value.NumbersApart) (rearranged : Rearranged value other) (order : SortOrder) :
    value.sort order = other.sort order ∧ (value.sort order).sort order = value.sort order ∧
      (value.sort .descending).sort .ascending = value.sort .ascending :=
  ⟨rearranged.sort_eq keyed apart, ((rearranged_sort order value).sort_eq keyed apart).symm,
    ((rearranged_sort .descending value).sort_eq keyed apart).symm⟩

/-- A document in two layouts, with an array in which a number comes twice. The half is written as a
floating point number. -/
theorem sort_eq_of_rearranged_of_repeated_number :
    let half : Number := .double { negative := false, magnitude := 0x3FE0000000000000 }
    let value : Value := .object [(['b'], .array [.number (.integer 2), .number half,
      .number (.integer 2)]), (['a'], .array [.null, .object [(['y'], .null), (['x'], .null)]])]
    let other : Value := .object [(['a'], .array [.null, .object [(['x'], .null), (['y'], .null)]]),
      (['b'], .array [.number half, .number (.integer 2), .number (.integer 2)])]
    value.Keyed ∧ value.NumbersApart ∧ Rearranged value other ∧
      value.sort .descending = other.sort .descending ∧
      (value.sort .descending).sort .ascending = other.sort .ascending := by
  intro half value other
  have keyed : value.Keyed := by simp [value]
  have apart : value.NumbersApart := by
    intro numbers within
    have same : numbers.map Value.number =
        [.integer 2, half, .integer 2].map Value.number := by
      simpa [value, List.map_eq_cons_iff] using within
    rw [List.map_injective_iff.mpr (fun _ _ => Value.number.inj) same]
    simp only [← Binary64.key_eq_key_iff]
    decide
  have rearranged : Rearranged value other := by
    have mixed : ¬Uniform [.null, .object [(['y'], .null), (['x'], .null)]] := by
      rintro ⟨kind, sortable, same⟩
      rw [← same .null List.mem_cons_self] at sortable
      cases sortable
    have inner : Rearranged (.object [(['y'], .null), (['x'], .null)])
        (.object [(['x'], .null), (['y'], .null)]) :=
      @Rearranged.object _ [(['y'], .null), (['x'], .null)] _ rfl
        (.cons (.scalar rfl) (.cons (.scalar rfl) .nil)) (List.Perm.swap ..)
    have uniform : Uniform [.number (.integer 2), .number half, .number (.integer 2)] := by
      refine ⟨.number, rfl, ?_⟩
      simp [Value.kind]
    refine @Rearranged.object _ [(['b'], .array [.number half, .number (.integer 2),
      .number (.integer 2)]), (['a'], .array [.null, .object [(['x'], .null), (['y'], .null)]])] _
        rfl (.cons (.uniform uniform ?_) (.cons (.array mixed ?_) .nil)) (List.Perm.swap ..)
    · exact List.Perm.swap ..
    · exact .cons (.scalar rfl) (.cons inner .nil)
  obtain ⟨descending, -, -⟩ := sort_eq_of_rearranged keyed apart rearranged .descending
  obtain ⟨ascending, -, again⟩ := sort_eq_of_rearranged keyed apart rearranged .ascending
  exact ⟨keyed, apart, rearranged, descending, again.trans ascending⟩

end Reflow.Json
