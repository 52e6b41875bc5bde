import Mathlib
import Reflow.Json.Document
import Reflow.Proofs.Json.Reading

/-!
# Printing and reading

Both forms in which a value is written hold the same parts, and they differ in the blanks between
these. If the value has no other numbers than integers, then its parts denote the value again.
-/

namespace Reflow.Json

/-! ## Values that can be read again -/

/-- A value in which at most `depth` containers are nested, all numbers are integers of 64 bits and
no two members of an object have the same key. -/
inductive Value.Fits : (depth : Nat) → Value → Prop where
  | null {depth : Nat} : Fits depth .null
  | bool {depth : Nat} (value : Bool) : Fits depth (.bool value)
  | integer {depth : Nat} {value : Int} (ranged : (Number.integer value).Ranged) :
      Fits depth (.number (.integer value))
  | string {depth : Nat} (text : Text) : Fits depth (.string text)
  | array {depth : Nat} {items : List Value} (each : ∀ item ∈ items, Fits depth item) :
      Fits (depth + 1) (.array items)
  | object {depth : Nat} {members : List Member} (distinct : (members.map Prod.fst).Nodup)
      (each : ∀ member ∈ members, Fits depth member.2) : Fits (depth + 1) (.object members)

namespace Value

/-- All numbers of a value are integers. -/
def Whole (value : Value) : Prop :=
  ∀ number, (Value.number number).Within value → ∃ integer, number = .integer integer

theorem Whole.item {items : List Value} (whole : (Value.array items).Whole) {item : Value}
    (listed : item ∈ items) : item.Whole :=
  fun number within => whole number (.item listed within)

theorem Whole.member {members : List Member} (whole : (Value.object members).Whole)
    {member : Member} (listed : member ∈ members) : member.2.Whole :=
  fun number within => whole number (.member listed within)

end Value

variable {depth : Nat} {parts : List Text} {value : Value} {text : Text}

/-- Whatever parts denote can be read again, as long as its numbers are integers. -/
theorem Denotes.fits (denotes : Denotes depth parts value) (whole : value.Whole) :
    value.Fits depth := by
  induction denotes with
  | scalar scalar =>
      cases scalar with
      | null => exact .null
      | bool value => exact .bool value
      | string => exact .string _
      | number numeral =>
          obtain ⟨integer, rfl⟩ := whole _ .self
          exact .integer numeral.ranged
  | array _ ih =>
      refine .array (List.forall_mem_map.mpr fun item listed => ih item listed ?_)
      exact whole.item (List.mem_map_of_mem listed)
  | object _ _ ih =>
      refine .object (nodup_keys_collectMembers _) fun member listed => ?_
      obtain ⟨entry, isEntry, rfl⟩ := List.mem_map.mp (mem_of_mem_collectMembers listed)
      exact ih entry isEntry (whole.member listed)

/-! ## The parts of what is written -/

/-- Both forms of a value hold the given parts. -/
structure Written (parts : List Text) (value : Value) : Prop where
  compact : Spaced parts value.compact
  pretty (level : Nat) : Spaced parts (value.prettyAt level)

theorem space_newLine (level : Nat) : Space (newLine level) := by
  refine List.forall_mem_cons.mpr ⟨by decide, fun char listed => ?_⟩
  rw [List.eq_of_mem_replicate listed]
  decide

theorem space_singleton : Space [' '] :=
  List.forall_mem_singleton.mpr (by decide)

theorem spaced_singleton (part : Text) : Spaced [part] part := by
  have spaced := (Spaced.nil Space.nil).start part
  rwa [List.append_nil] at spaced

/-- A comma is written before all but the first. -/
theorem spaced_comma (first : Bool) :
    Spaced (if first then [] else [[',']]) (if first then [] else [',']) := by
  cases first with
  | true => exact .nil Space.nil
  | false => exact spaced_singleton [',']

/-- What is written for a scalar is one part. -/
theorem written_of_isScalar (value : Value) (scalar : value.isScalar = true) :
    Written [value.compact] value := by
  refine ⟨spaced_singleton _, fun level => ?_⟩
  have same : value.prettyAt level = value.compact := by
    cases value with
    | array => cases scalar
    | object => cases scalar
    | _ => rw [Value.prettyAt, Value.compact]
  rw [same]
  exact spaced_singleton _

variable {pairs : List (List Text × Value)} {entries : List Entry}

theorem spaced_compactItems (each : ∀ pair ∈ pairs, Written pair.1 pair.2) (first : Bool) :
    Spaced (listed ']' first (pairs.map Prod.fst)) (compactItems first (pairs.map Prod.snd)) := by
  induction pairs generalizing first with
  | nil => exact spaced_singleton [']']
  | cons pair pairs ih =>
      rw [List.forall_mem_cons] at each
      rw [List.map_cons, List.map_cons, listed, compactItems, List.append_assoc]
      exact (spaced_comma first).append (each.1.compact.append (ih each.2 false))

theorem spaced_prettyItems (each : ∀ pair ∈ pairs, Written pair.1 pair.2) (level : Nat) :
    Spaced (listed ']' false (pairs.map Prod.fst)) (prettyItems level (pairs.map Prod.snd)) := by
  induction pairs with
  | nil => exact (spaced_singleton [']']).space_append (space_newLine level)
  | cons pair pairs ih =>
      rw [List.forall_mem_cons] at each
      rw [List.map_cons, List.map_cons, listed_false_cons, prettyItems, List.append_assoc,
        List.cons_append]
      refine .start [','] (Spaced.space_append (space_newLine (level + 1)) ?_)
      exact (each.1.pretty (level + 1)).append (ih each.2)

theorem written_array (each : ∀ pair ∈ pairs, Written pair.1 pair.2) :
    Written (['['] :: listed ']' true (pairs.map Prod.fst)) (.array (pairs.map Prod.snd)) := by
  constructor
  case compact => exact (spaced_compactItems each true).start ['[']
  case pretty =>
    intro level
    cases pairs with
    | nil => exact (spaced_singleton [']']).start ['[']
    | cons pair pairs =>
        rw [List.forall_mem_cons] at each
        rw [List.map_cons, List.map_cons, listed_true_cons, Value.prettyAt, List.append_assoc,
          List.cons_append]
        refine .start ['['] (Spaced.space_append (space_newLine (level + 1)) ?_)
        exact (each.1.pretty (level + 1)).append (spaced_prettyItems each.2 level)

/-- A member as it is printed. -/
def Entry.printed (printed : List Text × Member) : Entry where
  quoted := quote printed.2.1
  parts := printed.1
  member := printed.2

/-- Whether there are blanks behind the colon makes no difference. -/
theorem spaced_printed {printed : List Text × Member} {space content : Text} (blank : Space space)
    (spaced : Spaced printed.1 content) :
    Spaced (Entry.printed printed).written
      (quote printed.2.1 ++ (':' :: (space ++ content))) :=
  ((spaced.space_append blank).start [':']).start (quote printed.2.1)

variable {members : List (List Text × Member)}

theorem spaced_compactMembers (each : ∀ member ∈ members, Written member.1 member.2.2)
    (first : Bool) :
    Spaced (listed '}' first (members.map fun member => (Entry.printed member).written))
      (compactMembers first (members.map Prod.snd)) := by
  induction members generalizing first with
  | nil => exact spaced_singleton ['}']
  | cons member members ih =>
      rw [List.forall_mem_cons] at each
      rw [List.map_cons, List.map_cons, listed, compactMembers]
      have printed := (spaced_printed Space.nil each.1.compact).append (ih each.2 false)
      simpa only [List.append_assoc, List.nil_append, List.cons_append] using
        (spaced_comma first).append printed

theorem spaced_prettyMembers (each : ∀ member ∈ members, Written member.1 member.2.2)
    (level : Nat) :
    Spaced (listed '}' false (members.map fun member => (Entry.printed member).written))
      (prettyMembers level (members.map Prod.snd)) := by
  induction members with
  | nil => exact (spaced_singleton ['}']).space_append (space_newLine level)
  | cons member members ih =>
      rw [List.forall_mem_cons] at each
      rw [List.map_cons, List.map_cons, listed_false_cons, prettyMembers]
      have printed :=
        (spaced_printed space_singleton (each.1.pretty (level + 1))).append (ih each.2)
      have spaced := (printed.space_append (space_newLine (level + 1))).start [',']
      simpa only [List.append_assoc, List.nil_append, List.cons_append] using spaced

theorem written_object (each : ∀ member ∈ members, Written member.1 member.2.2) :
    Written (['{'] :: listed '}' true (members.map fun member => (Entry.printed member).written))
      (.object (members.map Prod.snd)) := by
  constructor
  case compact => exact (spaced_compactMembers each true).start ['{']
  case pretty =>
    intro level
    cases members with
    | nil => exact (spaced_singleton ['}']).start ['{']
    | cons member members =>
        rw [List.forall_mem_cons] at each
        rw [List.map_cons, List.map_cons, listed_true_cons, Value.prettyAt]
        have printed := (spaced_printed space_singleton (each.1.pretty (level + 1))).append
          (spaced_prettyMembers each.2 level)
        have spaced := (printed.space_append (space_newLine (level + 1))).start ['{']
        simpa only [List.append_assoc, List.nil_append, List.cons_append] using spaced

/-! ## Reading what is written -/

/-- Lists of which every element has a companion. -/
theorem exists_map_snd_eq {α β : Type} {Related : α → β → Prop} {list : List β}
    (each : ∀ element ∈ list, ∃ companion, Related companion element) :
    ∃ pairs : List (α × β), pairs.map Prod.snd = list ∧ ∀ pair ∈ pairs, Related pair.1 pair.2 := by
  induction list with
  | nil => exact ⟨[], rfl, List.forall_mem_nil _⟩
  | cons element list ih =>
      rw [List.forall_mem_cons] at each
      obtain ⟨companion, related⟩ := each.1
      obtain ⟨pairs, rfl, others⟩ := ih each.2
      exact ⟨(companion, element) :: pairs, rfl, List.forall_mem_cons.mpr ⟨related, others⟩⟩

/-- The parts of what is written denote the value. -/
theorem Value.Fits.exists_written (fits : value.Fits depth) :
    ∃ parts, Denotes depth parts value ∧ Written parts value := by
  induction fits with
  | null => exact ⟨_, .scalar .null, written_of_isScalar .null rfl⟩
  | bool value => exact ⟨_, .scalar (.bool value), written_of_isScalar (.bool value) rfl⟩
  | @integer _ value ranged =>
      exact ⟨_, .scalar (.number (numeral_writeInteger ranged)),
        written_of_isScalar (.number (.integer value)) rfl⟩
  | string text =>
      exact ⟨_, .scalar (.string (literal_flatMap_escapeChar text)),
        written_of_isScalar (.string text) rfl⟩
  | array _ ih =>
      obtain ⟨pairs, rfl, each⟩ := exists_map_snd_eq ih
      exact ⟨_, .array fun pair listed => (each pair listed).1,
        written_array fun pair listed => (each pair listed).2⟩
  | object distinct _ ih =>
      obtain ⟨members, rfl, each⟩ := exists_map_snd_eq ih
      refine ⟨_, ?_, written_object fun member listed => (each member listed).2⟩
      have denotes := @Denotes.object _ (members.map Entry.printed)
        (List.forall_mem_map.mpr fun member _ => .string (literal_flatMap_escapeChar member.2.1))
        (List.forall_mem_map.mpr fun member listed => (each member listed).1)
      rw [List.map_map, List.map_map] at denotes
      have same : members.map (Entry.member ∘ Entry.printed) = members.map Prod.snd := rfl
      rw [same, collectMembers_of_nodup distinct] at denotes
      exact denotes

/-- What is written for a value is read as that value. -/
theorem parse_of_fits (fits : value.Fits nestingLimit) :
    parse value.pretty = .ok value ∧ parse value.compact = .ok value := by
  obtain ⟨parts, denotes, written⟩ := fits.exists_written
  exact ⟨parse_eq_ok_iff.mpr ⟨parts, written.pretty 0, denotes⟩,
    parse_eq_ok_iff.mpr ⟨parts, written.compact, denotes⟩⟩

/-- Printing and reading are inverse to each other. Where a document has no other numbers than
integers, both forms in which its value is written are read as the same value, its members in the
same order. Hence printing either form again gives the form that is asked for. -/
theorem printed_forms_are_read_back {text : Text} {value : Value} (read : parse text = .ok value)
    (whole : value.Whole) :
    reformat text = .ok value.pretty ∧ minify text = .ok value.compact ∧
      parse value.pretty = .ok value ∧ parse value.compact = .ok value ∧
      reformat value.pretty = .ok value.pretty ∧ minify value.compact = .ok value.compact ∧
      minify value.pretty = .ok value.compact ∧ reformat value.compact = .ok value.pretty := by
  obtain ⟨parts, -, denotes⟩ := parse_eq_ok_iff.mp read
  obtain ⟨readPretty, readCompact⟩ := parse_of_fits (denotes.fits whole)
  simp only [reformat, minify, read, readPretty, readCompact, Except.map, and_self]

/-- A document in which a key comes twice, with the largest integer there is and an escape. -/
theorem printed_forms_are_read_back_of_repeated_key :
    parse "\x7b\"k\": \"\\u00e9\", \"k\":[18446744073709551615]\x7d".toList =
      .ok (.object [(['k'], .array [.number (.integer 18446744073709551615)])]) ∧
    Value.Whole (.object [(['k'], .array [.number (.integer 18446744073709551615)])]) ∧
    reformat "\x7b\"k\": \"\\u00e9\", \"k\":[18446744073709551615]\x7d".toList =
      .ok "\x7b\n    \"k\": [\n        18446744073709551615\n    ]\n\x7d".toList ∧
    parse "\x7b\n    \"k\": [\n        18446744073709551615\n    ]\n\x7d".toList =
      .ok (.object [(['k'], .array [.number (.integer 18446744073709551615)])]) ∧
    minify "\x7b\n    \"k\": [\n        18446744073709551615\n    ]\n\x7d".toList =
      .ok "\x7b\"k\":[18446744073709551615]\x7d".toList := by
  have read : parse "\x7b\"k\": \"\\u00e9\", \"k\":[18446744073709551615]\x7d".toList =
      .ok (.object [(['k'], .array [.number (.integer 18446744073709551615)])]) := by
    cbv
  have whole :
      Value.Whole (.object [(['k'], .array [.number (.integer 18446744073709551615)])]) := by
    intro number within
    have same : number = .integer 18446744073709551615 := by simpa using within
    exact ⟨_, same⟩
  have pretty : Value.pretty
      (.object [(['k'], .array [.number (.integer 18446744073709551615)])]) =
        "\x7b\n    \"k\": [\n        18446744073709551615\n    ]\n\x7d".toList := by
    cbv
  have compact : Value.compact
      (.object [(['k'], .array [.number (.integer 18446744073709551615)])]) =
        "\x7b\"k\":[18446744073709551615]\x7d".toList := by
    cbv
  obtain ⟨printed, -, readAgain, -, -, -, minified, -⟩ := printed_forms_are_read_back read whole
  rw [pretty] at printed readAgain minified
  rw [compact] at minified
  exact ⟨read, whole, printed, readAgain, minified⟩

end Reflow.Json
