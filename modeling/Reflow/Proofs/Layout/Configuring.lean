import Mathlib.Data.List.Perm.Basic
import Reflow.Layout.Configuration
import Reflow.Proofs.Json.Decoding
import Reflow.Proofs.Json.Nesting

/-!
# What configuration documents say

A configuration document gives some of the options of a layout and leaves the others to the preset
for tags. It is an object with a member for each option that is given. The members may come in any
order, but a member under another name, or one more under the same name, makes it invalid.
-/

namespace Reflow

open Json (Value Member Entry HoldsObject RecordField)

/-- An object may be held with more room for what is nested in it. -/
theorem Json.HoldsObject.mono {depth limit : Nat} {entries : List Entry} {text : Text}
    (holds : HoldsObject depth entries text) (le : depth ≤ limit) :
    HoldsObject limit entries text where
  spaced := holds.spaced
  keys := holds.keys
  values entry isEntry := (holds.values entry isEntry).mono le

/-- One option of a layout with its value. -/
inductive Setting where
  | openTokens (tokens : List Text)
  | closeTokens (tokens : List Text)
  | breakTokens (tokens : List Text)
  | indentWidth (width : Nat)
  | lineEnding (ending : LineEnding)

/-! ## One setting -/

namespace Setting

/-- The name under which a setting is given. -/
def name : Setting → String
  | .openTokens _ => "open_tokens"
  | .closeTokens _ => "close_tokens"
  | .breakTokens _ => "break_tokens"
  | .indentWidth _ => "indent_width"
  | .lineEnding _ => "eol_style"

/-- The value by which a setting is given. -/
def value : Setting → Value
  | .openTokens tokens | .closeTokens tokens | .breakTokens tokens => .array (tokens.map .string)
  | .indentWidth width => .number (.integer width)
  | .lineEnding .crlf => .string "crlf".toList
  | .lineEnding .lf => .string "lf".toList

/-- The member by which a setting is given. -/
def member (setting : Setting) : Member :=
  (setting.name.toList, setting.value)

/-- Options with a setting in place of their own. -/
def enter (options : LayoutOptions) : Setting → LayoutOptions
  | .openTokens tokens => { options with openTokens := tokens }
  | .closeTokens tokens => { options with closeTokens := tokens }
  | .breakTokens tokens => { options with breakTokens := tokens }
  | .indentWidth width => { options with indentWidth := width }
  | .lineEnding ending => { options with lineEnding := ending }

/-- The field that takes a setting. -/
def field : Setting → RecordField LayoutOptions
  | .openTokens _ => LayoutOptions.openTokensField
  | .closeTokens _ => LayoutOptions.closeTokensField
  | .breakTokens _ => LayoutOptions.breakTokensField
  | .indentWidth _ => LayoutOptions.indentWidthField
  | .lineEnding _ => LayoutOptions.lineEndingField

theorem name_field (setting : Setting) : setting.field.name = setting.name := by
  cases setting <;> rfl

theorem find?_fields (setting : Setting) :
    LayoutOptions.shape.fields.find? (·.name.toList == setting.name.toList) =
      some setting.field := by
  cases setting <;> cbv

theorem decodes_texts {depth : Nat} (tokens : List Text) {text rest : Text}
    (read : Json.readValue (depth + 1) text = .ok (.array (tokens.map .string), rest)) :
    Json.decodeList Json.decodeText text = .ok (tokens, rest) := by
  refine (Json.decodes_list Json.decodes_text).complete ⟨_, rfl, ?_⟩ read
  rw [List.forall₂_map_left_iff, List.forall₂_same]
  exact fun _ _ => rfl

/-- Where the reader finds the value of a setting, the field takes the setting. -/
theorem decode_field (setting : Setting) (options : LayoutOptions) {depth : Nat}
    {text rest : Text}
    (read : Json.readValue (depth + 1) text = .ok (setting.value, rest)) :
    setting.field.decode options text = .ok (enter options setting, rest) := by
  cases setting with
  | openTokens tokens => exact Json.bind_eq_ok.mpr ⟨_, decodes_texts tokens read, rfl⟩
  | closeTokens tokens => exact Json.bind_eq_ok.mpr ⟨_, decodes_texts tokens read, rfl⟩
  | breakTokens tokens => exact Json.bind_eq_ok.mpr ⟨_, decodes_texts tokens read, rfl⟩
  | indentWidth width =>
      exact Json.bind_eq_ok.mpr ⟨_, Json.decodes_size.complete rfl read, rfl⟩
  | lineEnding ending =>
      have chosen : Json.decodeChoice [("crlf", .crlf), ("lf", .lf)] text = .ok (ending, rest) := by
        cases ending with
        | crlf => exact (Json.decodes_choice _).complete ⟨_, _, rfl, rfl⟩ read
        | lf => exact (Json.decodes_choice _).complete ⟨_, _, rfl, rfl⟩ read
      exact Json.bind_eq_ok.mpr ⟨_, chosen, rfl⟩

/-- Settings of different options may be entered in either order. -/
theorem enter_comm {first second : Setting} (distinct : first.name ≠ second.name)
    (options : LayoutOptions) :
    enter (enter options first) second = enter (enter options second) first := by
  cases first <;> cases second <;> first | rfl | exact absurd rfl distinct

theorem foldl_enter_of_perm {settings arranged : List Setting}
    (distinct : (settings.map name).Nodup) (perm : settings.Perm arranged)
    (options : LayoutOptions) : settings.foldl enter options = arranged.foldl enter options := by
  refine perm.foldl_eq' (fun first isFirst second isSecond options => ?_) options
  by_cases same : first.name = second.name
  · rw [List.inj_on_of_nodup_map distinct isFirst isSecond same]
  · exact enter_comm same options

/-- Members for settings of different options make a record with all these settings. -/
theorem enters_foldl {settings : List Setting} {seen : List String} {options : LayoutOptions}
    {depth : Nat} (distinct : (settings.map name).Nodup)
    (new : ∀ setting ∈ settings, setting.name ∉ seen) :
    LayoutOptions.shape.Enters (depth + 1) seen options (settings.map member)
      (settings.foldl enter options) := by
  induction settings generalizing seen options with
  | nil => exact .done rfl
  | cons setting settings ih =>
      rw [List.map_cons, List.nodup_cons] at distinct
      rw [List.forall_mem_cons] at new
      refine .member setting.find?_fields ?_ (setting.decode_field options) (ih distinct.2 ?_)
      · rw [name_field, Bool.eq_false_iff, Ne, List.contains_iff_mem]
        exact new.1
      · intro other isOther again
        rcases List.mem_cons.mp again with same | before
        · exact distinct.1 (List.mem_map.mpr ⟨other, isOther, same.trans setting.name_field⟩)
        · exact new.2 other isOther before

end Setting

namespace LayoutOptions

theorem exists_setting {field : RecordField LayoutOptions} (listed : field ∈ shape.fields) :
    ∃ setting : Setting, setting.field = field := by
  simp only [shape, List.mem_cons, List.not_mem_nil, or_false] at listed
  rcases listed with rfl | rfl | rfl | rfl | rfl
  · exact ⟨.openTokens [], rfl⟩
  · exact ⟨.closeTokens [], rfl⟩
  · exact ⟨.breakTokens [], rfl⟩
  · exact ⟨.indentWidth 0, rfl⟩
  · exact ⟨.lineEnding .lf, rfl⟩

theorem readValue_of_decode {depth : Nat} {field : RecordField LayoutOptions}
    (listed : field ∈ shape.fields) {options next : LayoutOptions} {text rest : Text}
    (decoded : field.decode options text = .ok (next, rest)) :
    ∃ value, Json.readValue (depth + 1) text = .ok (value, rest) := by
  simp only [shape, List.mem_cons, List.not_mem_nil, or_false] at listed
  rcases listed with rfl | rfl | rfl | rfl | rfl
  all_goals
    obtain ⟨⟨_, _⟩, first, chosen⟩ := Json.bind_eq_ok.mp decoded
    cases chosen
  · exact (Json.decodes_list Json.decodes_text).sound first
  · exact (Json.decodes_list Json.decodes_text).sound first
  · exact (Json.decodes_list Json.decodes_text).sound first
  · exact Json.decodes_size.sound first
  · exact (Json.decodes_choice _).sound first

/-- A document that holds known options in any order is decoded as the options with them. -/
theorem ofDocument_of_perm {settings : List Setting} {depth : Nat} {entries : List Entry}
    {text : Text} (distinct : (settings.map Setting.name).Nodup)
    (holds : HoldsObject depth entries text)
    (listed : (entries.map Entry.member).Perm (settings.map Setting.member)) :
    ofDocument text = .ok (settings.foldl Setting.enter tags) := by
  obtain ⟨arranged, members, perm⟩ :=
    (congrFun₂ (List.eq_map_comp_perm Setting.member) _ settings).mpr listed
  have enters : shape.Enters (depth + 1) [] tags (entries.map Entry.member)
      (arranged.foldl Setting.enter tags) := by
    rw [members]
    refine Setting.enters_foldl ?_ fun _ _ => List.not_mem_nil
    exact (perm.map Setting.name).nodup_iff.mpr distinct
  rw [Setting.foldl_enter_of_perm distinct perm.symm]
  exact Json.RecordShape.decodeDocument_of_enters (holds.mono (Nat.le_succ depth)) enters

/-- A document that holds an object is refused if a key of it is no option's name, or is there more
than once. -/
theorem exists_ofDocument_eq_error {depth : Nat} {front back : List Entry} {extra : Entry}
    {text : Text} (holds : HoldsObject depth (front ++ extra :: back) text)
    (extraneous : (∀ setting : Setting, extra.member.1 ≠ setting.name.toList) ∨
      ∃ other ∈ front ++ back, other.member.1 = extra.member.1) :
    ∃ error, ofDocument text = .error error := by
  cases decoded : ofDocument text with
  | error error => exact ⟨error, rfl⟩
  | ok options =>
      exfalso
      obtain ⟨distinct, known⟩ := Json.RecordShape.keys_of_decodeDocument rfl
        (fun _ isField => readValue_of_decode isField) (holds.mono (Nat.le_succ depth)) decoded
      rcases extraneous with unknown | ⟨other, isOther, same⟩
      · obtain ⟨field, isField, named⟩ := List.mem_map.mp (known extra (by simp))
        obtain ⟨setting, rfl⟩ := exists_setting isField
        exact unknown setting (named.symm.trans (by rw [Setting.name_field]))
      · have perm : (front ++ extra :: back).Perm (extra :: (front ++ back)) :=
          List.perm_middle
        have distinct := ((perm.map _).nodup_iff.mp distinct)
        rw [List.map_cons, List.nodup_cons] at distinct
        exact distinct.1 (List.mem_map.mpr ⟨other, isOther, same⟩)

end LayoutOptions

/-! ## Some of the settings -/

/-- Options of a layout, some of which may be left open. -/
structure PartialOptions where
  openTokens : Option (List Text)
  closeTokens : Option (List Text)
  breakTokens : Option (List Text)
  indentWidth : Option Nat
  lineEnding : Option LineEnding

namespace PartialOptions

variable (given : PartialOptions)

/-- The settings that are given. -/
def settings : List Setting :=
  [given.openTokens.map .openTokens, given.closeTokens.map .closeTokens,
    given.breakTokens.map .breakTokens, given.indentWidth.map .indentWidth,
    given.lineEnding.map .lineEnding].reduceOption

/-- The members by which the settings are given. -/
def members : List Member :=
  given.settings.map Setting.member

/-- The options that are given, the others being those of the preset for tags. -/
def completed : LayoutOptions where
  openTokens := given.openTokens.getD LayoutOptions.tags.openTokens
  closeTokens := given.closeTokens.getD LayoutOptions.tags.closeTokens
  breakTokens := given.breakTokens.getD LayoutOptions.tags.breakTokens
  indentWidth := given.indentWidth.getD LayoutOptions.tags.indentWidth
  lineEnding := given.lineEnding.getD LayoutOptions.tags.lineEnding

theorem foldl_settings :
    given.settings.foldl Setting.enter LayoutOptions.tags = given.completed := by
  obtain ⟨openTokens, closeTokens, breakTokens, indentWidth, lineEnding⟩ := given
  cases openTokens <;> cases closeTokens <;> cases breakTokens <;> cases indentWidth <;>
    cases lineEnding <;> rfl

theorem nodup_names : (given.settings.map Setting.name).Nodup := by
  obtain ⟨openTokens, closeTokens, breakTokens, indentWidth, lineEnding⟩ := given
  cases openTokens <;> cases closeTokens <;> cases breakTokens <;> cases indentWidth <;>
    cases lineEnding <;> simp [settings, List.reduceOption, Setting.name]

/-- Configuration documents are decoded to what they say. An object with the given settings in any
order, blanks standing wherever they may, stands for these settings and for the preset in all else.
With one more member at any place it is refused if this member is under a name that is none of the
settings', or under the name of a given one. -/
theorem ofDocument_completes_or_refuses (depth : Nat) (text : Text) :
    (∀ entries, HoldsObject depth entries text →
      (entries.map Entry.member).Perm given.members →
      LayoutOptions.ofDocument text = .ok given.completed) ∧
    ∀ front extra back, HoldsObject depth (front ++ extra :: back) text →
      ((front ++ back).map Entry.member).Perm given.members →
      ((∀ setting : Setting, extra.member.1 ≠ setting.name.toList) ∨
        extra.member.1 ∈ given.members.map Prod.fst) →
      ∃ error, LayoutOptions.ofDocument text = .error error := by
  constructor
  · intro entries holds listed
    rw [← foldl_settings]
    exact LayoutOptions.ofDocument_of_perm given.nodup_names holds listed
  · intro front extra back holds listed extraneous
    refine LayoutOptions.exists_ofDocument_eq_error holds (extraneous.imp_right fun again => ?_)
    rw [← (listed.map Prod.fst).mem_iff, List.map_map] at again
    exact List.mem_map.mp again

/-- Two settings with blanks around them, the later field first and a quote written as an escape;
and the same settings with a member between them that is no setting. -/
theorem ofDocument_completes_or_refuses_of_escaped_quote :
    let given : PartialOptions := ⟨some [['"']], none, none, none, some .crlf⟩
    let text := " \x7b\"eol_style\" : \"crlf\",\n\"open_tokens\":[\"\\u0022\" ] \x7d".toList
    let extended :=
      "\x7b\"eol_style\":\"crlf\",\"tabs\":[1],\"open_tokens\":[\"\\\"\"]\x7d".toList
    (∃ entries, HoldsObject 2 entries text ∧ (entries.map Entry.member).Perm given.members ∧
      LayoutOptions.ofDocument text = .ok
        { LayoutOptions.tags with openTokens := [['"']], lineEnding := .crlf }) ∧
    ∃ front extra back, HoldsObject 2 (front ++ extra :: back) extended ∧
      ((front ++ back).map Entry.member).Perm given.members ∧
      extra.member = ("tabs".toList, .array [.number (.integer 1)]) ∧
      ∃ error, LayoutOptions.ofDocument extended = .error error := by
  have readable : ∃ entries, HoldsObject 2 entries
      " \x7b\"eol_style\" : \"crlf\",\n\"open_tokens\":[\"\\u0022\" ] \x7d".toList ∧
      entries.map Entry.member =
        [(Setting.lineEnding .crlf).member, (Setting.openTokens [['"']]).member] := by
    refine Json.exists_holdsObject_iff.mpr
      ⟨"\"eol_style\" : \"crlf\",\n\"open_tokens\":[\"\\u0022\" ] \x7d".toList, [], ?_, ?_, rfl⟩
    · cbv
    · cbv
  have readableExtended : ∃ entries, HoldsObject 2 entries
      "\x7b\"eol_style\":\"crlf\",\"tabs\":[1],\"open_tokens\":[\"\\\"\"]\x7d".toList ∧
      entries.map Entry.member =
        [(Setting.lineEnding .crlf).member, ("tabs".toList, .array [.number (.integer 1)]),
          (Setting.openTokens [['"']]).member] := by
    refine Json.exists_holdsObject_iff.mpr
      ⟨"\"eol_style\":\"crlf\",\"tabs\":[1],\"open_tokens\":[\"\\\"\"]\x7d".toList, [], ?_, ?_, rfl⟩
    · cbv
    · cbv
  have members : [(Setting.lineEnding .crlf).member, (Setting.openTokens [['"']]).member].Perm
      (PartialOptions.members ⟨some [['"']], none, none, none, some .crlf⟩) :=
    .swap _ _ _
  constructor
  · obtain ⟨entries, holds, same⟩ := readable
    have listed := same ▸ members
    exact ⟨entries, holds, listed,
      (ofDocument_completes_or_refuses _ _ _).1 entries holds listed⟩
  · obtain ⟨entries, holds, same⟩ := readableExtended
    obtain ⟨first, entries, rfl, isFirst, same⟩ := List.map_eq_cons_iff.mp same
    obtain ⟨extra, entries, rfl, isExtra, same⟩ := List.map_eq_cons_iff.mp same
    obtain ⟨last, entries, rfl, isLast, same⟩ := List.map_eq_cons_iff.mp same
    cases List.map_eq_nil_iff.mp same
    have listed := isFirst.symm ▸ isLast.symm ▸ members
    have unknown : ∀ setting : Setting, extra.member.1 ≠ setting.name.toList := by
      intro setting
      rw [isExtra]
      cases setting <;> simp [Setting.name]
    exact ⟨[first], extra, [last], holds, listed, isExtra,
      (ofDocument_completes_or_refuses _ _ _).2 [first] extra [last] holds listed (.inl unknown)⟩

end PartialOptions

end Reflow
