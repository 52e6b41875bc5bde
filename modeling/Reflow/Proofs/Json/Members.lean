import Mathlib.Data.List.Induction
import Mathlib.Data.List.Perm.Subperm
import Reflow.Json.Basic

/-!
# Collected members

The members of an object are entered one after the other. No two of them have the same key in the
end, the members there are then are those that have been entered last under their keys, and members
that have different keys from the start stay as they are.
-/

namespace Reflow.Json

variable {members collected : List Member} {member : Member} {key : Text} {value : Value}

/-- A member that is entered takes the place of the one with its key, and all others stay. -/
theorem mem_insertMember_iff (distinct : (members.map Prod.fst).Nodup) :
    member ∈ insertMember members key value ↔
      member = (key, value) ∨ member ∈ members ∧ member.1 ≠ key := by
  induction members with
  | nil => simp [insertMember]
  | cons first members ih =>
      obtain ⟨other, old⟩ := first
      rw [List.map_cons, List.nodup_cons] at distinct
      rw [insertMember]
      split
      · next same =>
        have apart : member ∈ members → member.1 ≠ key := by
          intro listed isKey
          have known : member.1 ∈ members.map Prod.fst := List.mem_map_of_mem listed
          rw [isKey, ← same] at known
          exact distinct.1 known
        grind
      · next different => grind

/-- A member that is entered keeps the keys there are, and adds its own if it is new. -/
theorem keys_insertMember (members : List Member) (key : Text) (value : Value) :
    (insertMember members key value).map Prod.fst =
      if key ∈ members.map Prod.fst then members.map Prod.fst
      else members.map Prod.fst ++ [key] := by
  induction members with
  | nil => rfl
  | cons first members ih =>
      obtain ⟨other, old⟩ := first
      rw [insertMember]
      by_cases same : other = key
      · simp [same]
      · rw [if_neg same, List.map_cons, ih, List.map_cons]
        by_cases known : key ∈ members.map Prod.fst
        · rw [if_pos known, if_pos (List.mem_cons_of_mem _ known)]
        · rw [if_neg known, if_neg (by simpa [Ne.symm same] using known), List.cons_append]

theorem nodup_keys_insertMember (distinct : (members.map Prod.fst).Nodup) :
    ((insertMember members key value).map Prod.fst).Nodup := by
  rw [keys_insertMember]
  split
  · exact distinct
  · next new =>
    refine List.nodup_append.mpr ⟨distinct, List.pairwise_singleton _ key, ?_⟩
    rintro other listed _ isKey rfl
    exact new (List.mem_singleton.mp isKey ▸ listed)

theorem insertMember_of_not_mem (new : key ∉ members.map Prod.fst) :
    insertMember members key value = members ++ [(key, value)] := by
  induction members with
  | nil => rfl
  | cons first members ih =>
      rw [List.map_cons, List.mem_cons, not_or] at new
      rw [insertMember, if_neg (Ne.symm new.1), ih new.2, List.cons_append]

/-! ## All members -/

@[simp] theorem collectMembers_concat (members : List Member) (member : Member) :
    collectMembers (members ++ [member]) =
      insertMember (collectMembers members) member.1 member.2 := by
  rw [collectMembers, List.foldl_append]
  rfl

theorem nodup_keys_collectMembers (members : List Member) :
    ((collectMembers members).map Prod.fst).Nodup := by
  induction members using List.reverseRecOn with
  | nil => exact List.nodup_nil
  | append_singleton members member ih =>
      rw [collectMembers_concat]
      exact nodup_keys_insertMember ih

theorem mem_keys_collectMembers_iff :
    key ∈ (collectMembers members).map Prod.fst ↔ key ∈ members.map Prod.fst := by
  induction members using List.reverseRecOn with
  | nil => rfl
  | append_singleton members last ih =>
      rw [collectMembers_concat, keys_insertMember, List.map_append, List.mem_append,
        List.map_singleton, List.mem_singleton]
      split
      · next known =>
        rw [ih, or_iff_left_of_imp]
        rintro rfl
        exact ih.mp known
      · rw [List.mem_append, ih, List.mem_singleton]

/-- The members of an object are those of the entered ones that no other with the same key
follows. -/
theorem mem_collectMembers_iff :
    member ∈ collectMembers members ↔
      ∃ front back, members = front ++ member :: back ∧ ∀ later ∈ back, later.1 ≠ member.1 := by
  induction members using List.reverseRecOn with
  | nil => simp [collectMembers]
  | append_singleton members last ih =>
      rw [collectMembers_concat, mem_insertMember_iff (nodup_keys_collectMembers members), ih]
      constructor
      · rintro (rfl | ⟨⟨front, back, rfl, latest⟩, different⟩)
        · exact ⟨members, [], rfl, List.forall_mem_nil _⟩
        · refine ⟨front, back ++ [last], by simp, ?_⟩
          rw [List.forall_mem_append, List.forall_mem_singleton]
          exact ⟨latest, Ne.symm different⟩
      · rintro ⟨front, back, split, latest⟩
        rcases List.eq_nil_or_concat' back with rfl | ⟨others, final, rfl⟩
        · exact .inl (List.singleton_inj.mp (List.append_inj_right' split rfl)).symm
        · rw [← List.cons_append, ← List.append_assoc] at split
          obtain ⟨rfl, same⟩ := List.append_inj' split rfl
          obtain rfl := List.singleton_inj.mp same
          rw [List.forall_mem_append, List.forall_mem_singleton] at latest
          exact .inr ⟨⟨front, others, rfl, latest.1⟩, Ne.symm latest.2⟩

theorem mem_of_mem_collectMembers (listed : member ∈ collectMembers members) :
    member ∈ members := by
  obtain ⟨front, back, rfl, -⟩ := mem_collectMembers_iff.mp listed
  simp

theorem collectMembers_of_nodup (distinct : (members.map Prod.fst).Nodup) :
    collectMembers members = members := by
  induction members using List.reverseRecOn with
  | nil => rfl
  | append_singleton members last ih =>
      rw [List.map_append, List.nodup_append] at distinct
      rw [collectMembers_concat, ih distinct.1, insertMember_of_not_mem]
      exact fun listed => distinct.2.2 _ listed _ List.mem_cons_self rfl

/-- No member gets lost exactly if all keys are different. -/
theorem length_collectMembers_eq_iff :
    (collectMembers members).length = members.length ↔ (members.map Prod.fst).Nodup := by
  constructor
  · intro complete
    have distinct := nodup_keys_collectMembers members
    have within := distinct.subperm fun key => mem_keys_collectMembers_iff.mp
    have asMany : ((collectMembers members).map Prod.fst).length =
        (members.map Prod.fst).length := by
      rw [List.length_map, List.length_map, complete]
    exact (within.perm_of_length_le (Nat.le_of_eq asMany.symm)).nodup distinct
  · intro distinct
    rw [collectMembers_of_nodup distinct]

end Reflow.Json
