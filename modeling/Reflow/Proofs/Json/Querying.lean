import Mathlib
import Reflow.Json.Document
import Reflow.Proofs.Json.FormDecoding
import Reflow.Proofs.Json.Within

/-!
# What a query string says

A query string says what the scalars of a document are and where they stand. Read as form encoding,
it gives one pair for each scalar, in the order of the document: the way to the scalar, and its
text. Containers are only ways, so an empty one leaves nothing behind.
-/

namespace Reflow.Json

/-! ## Scalars and the ways to them -/

/-- One step into a value. -/
inductive PathStep where
  /-- To the member of an object with a key. -/
  | key (key : Text)
  /-- To an item of an array, counted from zero. -/
  | item (index : Nat)
deriving DecidableEq, Repr

/-- The text of a step. -/
def PathStep.text : PathStep → Text
  | .key name => name
  | .item index => Nat.toDigits 10 index

/-- All steps of a path, each in brackets. -/
def bracketed (path : List PathStep) : Text :=
  path.flatMap fun step => '[' :: step.text ++ [']']

/-- The name of a path: its first step as it is, and the others in brackets. -/
def pathName : List PathStep → Text
  | [] => []
  | step :: path => step.text ++ bracketed path

/-- A scalar and the path to it. -/
abbrev Located := List PathStep × Value

/-- What is found behind a step. -/
def Located.behind (step : PathStep) (located : Located) : Located :=
  (step :: located.1, located.2)

mutual

/-- The scalars of a value in the order of the document, with the paths to them. -/
def Value.located : Value → List Located
  | .array items => locatedItems 0 items
  | .object members => locatedMembers members
  | value => [([], value)]

/-- The scalars of items that are counted from `index` on. -/
def locatedItems (index : Nat) : List Value → List Located
  | [] => []
  | item :: items =>
      item.located.map (Located.behind (.item index)) ++ locatedItems (index + 1) items

/-- The scalars of members. -/
def locatedMembers : List (Text × Value) → List Located
  | [] => []
  | (key, value) :: members =>
      value.located.map (Located.behind (.key key)) ++ locatedMembers members

end

/-- The text that a query string has for a scalar: a string as it is, nothing for null, and what is
written in a document for anything else. -/
def Value.queryText : Value → Text
  | .null => []
  | .string text => text
  | value => value.compact

/-- The pair that stands for a scalar. -/
def Located.pair (located : Located) : Pair :=
  (pathName located.1, located.2.queryText)

/-- The pair that stands for a scalar of a value with a name. -/
def Located.pairUnder (name : Text) (located : Located) : Pair :=
  (name ++ bracketed located.1, located.2.queryText)

/-! ## The pairs of a value -/

theorem pairUnder_behind (name : Text) (step : PathStep) (located : Located) :
    (located.behind step).pairUnder name = located.pairUnder (partName name step.text) := by
  simp [Located.behind, Located.pairUnder, partName, bracketed]

theorem pair_behind (step : PathStep) (located : Located) :
    (located.behind step).pair = located.pairUnder step.text := rfl

theorem located_of_isScalar {value : Value} (scalar : value.isScalar = true) :
    value.located = [([], value)] := by
  cases value with
  | array => cases scalar
  | object => cases scalar
  | _ => rfl

theorem pairs_of_isScalar {value : Value} (scalar : value.isScalar = true) (name : Text) :
    value.pairs name = value.located.map (Located.pairUnder name) := by
  rw [located_of_isScalar scalar]
  cases value with
  | array => cases scalar
  | object => cases scalar
  | _ =>
      rw [List.map_singleton, Located.pairUnder, bracketed, List.flatMap_nil, List.append_nil]
      rfl

theorem itemPairs_eq {items : List Value}
    (each : ∀ item ∈ items, ∀ name, item.pairs name = item.located.map (Located.pairUnder name))
    (name : Text) (index : Nat) :
    itemPairs name index items = (locatedItems index items).map (Located.pairUnder name) := by
  induction items generalizing index with
  | nil => rfl
  | cons item items ih =>
      rw [List.forall_mem_cons] at each
      have under : Located.pairUnder name ∘ Located.behind (.item index) =
          Located.pairUnder (partName name (Nat.toDigits 10 index)) :=
        funext (pairUnder_behind name (.item index))
      rw [itemPairs, locatedItems, List.map_append, List.map_map, under, each.1, ih each.2]

theorem memberPairs_eq {members : List Member}
    (each : ∀ member ∈ members, ∀ name,
      member.2.pairs name = member.2.located.map (Located.pairUnder name)) (name : Text) :
    memberPairs name members = (locatedMembers members).map (Located.pairUnder name) := by
  induction members with
  | nil => rfl
  | cons member members ih =>
      obtain ⟨key, value⟩ := member
      rw [List.forall_mem_cons] at each
      have under : Located.pairUnder name ∘ Located.behind (.key key) =
          Located.pairUnder (partName name key) :=
        funext (pairUnder_behind name (.key key))
      rw [memberPairs, locatedMembers, List.map_append, List.map_map, under, each.1, ih each.2]

/-- The pairs of a value with a name are named by the paths behind it. -/
theorem pairs_eq (value : Value) (name : Text) :
    value.pairs name = value.located.map (Located.pairUnder name) := by
  induction value generalizing name with
  | scalar value scalar => exact pairs_of_isScalar scalar name
  | array items ih => rw [Value.pairs, itemPairs_eq ih, Value.located]
  | object members ih => rw [Value.pairs, memberPairs_eq ih, Value.located]

theorem documentItems_eq (items : List Value) (index : Nat) :
    documentItems index items = (locatedItems index items).map Located.pair := by
  induction items generalizing index with
  | nil => rfl
  | cons item items ih =>
      have first : Located.pair ∘ Located.behind (.item index) =
          Located.pairUnder (Nat.toDigits 10 index) :=
        funext (pair_behind (.item index))
      rw [documentItems, locatedItems, List.map_append, List.map_map, first, pairs_eq, ih]

theorem flatMap_pairs_eq (members : List Member) :
    members.flatMap (fun member => member.2.pairs member.1) =
      (locatedMembers members).map Located.pair := by
  induction members with
  | nil => rfl
  | cons member members ih =>
      obtain ⟨key, value⟩ := member
      have first : Located.pair ∘ Located.behind (.key key) = Located.pairUnder key :=
        funext (pair_behind (.key key))
      rw [List.flatMap_cons, locatedMembers, List.map_append, List.map_map, first, pairs_eq, ih]

/-- The pairs of a document are those of its scalars. -/
theorem query_eq {value : Value} (container : value.isScalar = false) :
    value.query = value.located.map Located.pair := by
  cases value with
  | array items => rw [Value.query, documentItems_eq, Value.located]
  | object members =>
      rw [Value.located]
      exact flatMap_pairs_eq members
  | _ => cases container

/-- A query string encodes exactly the scalars of a document. For every text that is read as an
array or an object there is a query string, and read as form encoding it gives, in the order of the
document, one pair for each scalar: the path to it, with brackets around all steps but the first,
and its text. -/
theorem formDecodePairs?_toQuery {text : Text} {value : Value} (read : parse text = .ok value)
    (container : value.isScalar = false) :
    ∃ query, toQuery text = .ok query ∧
      formDecodePairs? query = some (value.located.map Located.pair) := by
  refine ⟨formPairs value.query, by rw [toQuery, read]; rfl, ?_⟩
  rw [formDecodePairs?_formPairs, query_eq container]

/-- A document with signs of the encoding in a key and in a string, an empty key, and an empty
array. -/
theorem formDecodePairs?_toQuery_of_signs :
    parse "\x7b\"a&\":[[],\"+é\",null],\"\":true\x7d".toList =
      .ok (.object [(['a', '&'], .array [.array [], .string ['+', 'é'], .null]),
        ([], .bool true)]) ∧
    ∃ query, toQuery "\x7b\"a&\":[[],\"+é\",null],\"\":true\x7d".toList = .ok query ∧
      formDecodePairs? query =
        some [("a&[1]".toList, "+é".toList), ("a&[2]".toList, []), ([], "true".toList)] := by
  have read : parse "\x7b\"a&\":[[],\"+é\",null],\"\":true\x7d".toList =
      .ok (.object [(['a', '&'], .array [.array [], .string ['+', 'é'], .null]),
        ([], .bool true)]) := by
    cbv
  obtain ⟨query, written, decoded⟩ := formDecodePairs?_toQuery read rfl
  refine ⟨read, query, written, decoded.trans ?_⟩
  cbv

end Reflow.Json
