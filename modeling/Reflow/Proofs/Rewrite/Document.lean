import Mathlib
import Reflow.Proofs.Json.Printing
import Reflow.Proofs.Rewrite.Rules

/-!
# Records as documents

The page that the rules leave of a record holds, one after the other, the parts of a member: the
name of the record and the object that it stands for. In braces it is a document.
-/

namespace Reflow.Dump

open Json (Spaced Space Denotes Scalar Entry)

/-! ## The parts of a page -/

/-- A comma as a part, where one is due. -/
def commaParts (separated : Bool) : List Text :=
  if separated then [[',']] else []

/-- The parts of a line. -/
def Line.parts : Line → List Text
  | .opening key name => [quoted (key.getD name), [':'], ['{']]
  | .member key word separated => [quoted key, [':'], bare word] ++ commaParts separated
  | .closing separated => ['}'] :: commaParts separated

theorem spaced_comma (separated : Bool) : Spaced (commaParts separated) (comma separated) := by
  cases separated with
  | false => exact .nil Space.nil
  | true => exact Json.spaced_singleton [',']

theorem Line.spaced_parts (line : Line) : Spaced line.parts ((shownBy bare).write line) := by
  have colon {parts : List Text} {text : Text} (label : Label) (spaced : Spaced parts text) :
      Spaced (quoted label :: [':'] :: parts) (quoted label ++ ([':'] ++ ([' '] ++ text))) :=
    ((spaced.space_append Json.space_singleton).start [':']).start (quoted label)
  cases line with
  | opening key name => exact colon (key.getD name) (Json.spaced_singleton ['{'])
  | member key word separated =>
      have spaced := colon key ((Json.spaced_singleton (bare word)).append (spaced_comma separated))
      simpa [Line.parts, Style.write, shownBy] using spaced
  | closing separated => exact (spaced_comma separated).start ['}']

variable {lines : List Line} {text : Text}

theorem Page.spaced (page : Page (shownBy bare) lines text) :
    Spaced (lines.flatMap Line.parts) text := by
  induction page with
  | @last line =>
      rw [List.flatMap_singleton]
      exact line.spaced_parts
  | @cons line _ _ _ _ isMargin _ _ ih =>
      obtain ⟨count, rfl⟩ := isMargin
      have space : Space ('\n' :: List.replicate count ' ') := by
        refine List.forall_mem_cons.mpr ⟨by decide, fun char member => ?_⟩
        rw [List.eq_of_mem_replicate member]
        decide
      exact line.spaced_parts.append (ih.space_append space)

/-! ## The value of a record -/

namespace Content

variable {depth : Nat} {content : Content}

/-- Parts that denote what a content stands for, and that its lines hold behind the key. -/
structure Shows (depth : Nat) (parts : List Text) (content : Content) : Prop where
  denotes : Denotes depth parts content.value
  lines (key : Label) (separated : Bool) : (content.lines key separated).flatMap Line.parts =
    quoted key :: [':'] :: (parts ++ commaParts separated)

theorem scalar_bare (word : Label) : Scalar (bare word) (Content.word word).value := by
  by_cases isTrue : word.text = Json.writeBool true
  · rw [bare, if_pos (.inl isTrue), value, if_pos isTrue, isTrue]
    exact .bool true
  by_cases isFalse : word.text = Json.writeBool false
  · rw [bare, if_pos (.inr isFalse), value, if_neg isTrue, if_pos isFalse, isFalse]
    exact .bool false
  · rw [bare, if_neg (not_or.mpr ⟨isTrue, isFalse⟩), value, if_neg isTrue, if_neg isFalse]
    exact .string word.literal

/-- The entry of a member with its parts. -/
def entry (member : List Text × (Label × Content)) : Entry where
  quoted := quoted member.2.1
  parts := member.1
  member := (member.2.1.text, member.2.2.value)

theorem flatMap_parts_memberLines {members : List (List Text × (Label × Content))}
    (shown : ∀ member ∈ members, Shows depth member.1 member.2.2) :
    (memberLines (members.map Prod.snd)).flatMap Line.parts ++ [['}']] =
      Json.listed '}' true (members.map fun member => (entry member).written) := by
  induction members with
  | nil => rfl
  | cons member members ih =>
      rw [List.forall_mem_cons] at shown
      have behind := ih shown.2
      obtain ⟨parts, key, content⟩ := member
      rw [List.map_cons, memberLines, List.flatMap_append, shown.1.lines, List.map_cons,
        Json.listed_true_cons, List.append_assoc, behind]
      cases members with
      | nil => simp [commaParts, entry, Entry.written, Json.listed]
      | cons second members =>
          simp [commaParts, entry, Entry.written, Json.listed]

theorem Fits.exists_shows (fits : content.Fits depth) : ∃ parts, Shows depth parts content := by
  induction fits with
  | word label =>
      exact ⟨[bare label], .scalar (scalar_bare label), fun key separated => by
        simp [Content.lines, Line.parts]⟩
  | @record depth name members notEmpty distinct _ ih =>
      obtain ⟨pairs, rfl, each⟩ := Json.exists_map_snd_eq ih
      have parts := flatMap_parts_memberLines each
      refine ⟨['{'] :: Json.listed '}' true (pairs.map fun member => (entry member).written),
        ?_, ?_⟩
      · have denotes := @Denotes.object depth (pairs.map entry)
          (List.forall_mem_map.mpr fun member _ => .string member.2.1.literal)
          (List.forall_mem_map.mpr fun member listed => (each member listed).denotes)
        have members : (pairs.map entry).map Entry.member = memberValues (pairs.map Prod.snd) := by
          rw [memberValues_eq_map, List.map_map, List.map_map]
          rfl
        have distinctValues : ((memberValues (pairs.map Prod.snd)).map Prod.fst).Nodup := by
          rw [memberValues_eq_map, List.map_map]
          exact distinct
        rwa [members, Json.collectMembers_of_nodup distinctValues, List.map_map] at denotes
      · intro key separated
        rw [← parts]
        simp [Content.lines, Line.parts]

/-- In braces, the parts of a record denote the object with its name as the only key. -/
theorem Fits.denotes {name : Label} {members : List (Label × Content)}
    (fits : (Content.record name members).Fits depth) :
    Denotes (depth + 1) (['{'] :: ((recordLines name members).flatMap Line.parts ++ [['}']]))
      (.object [(name.text, (Content.record name members).value)]) := by
  obtain ⟨parts, shown⟩ := fits.exists_shows
  have sameLines : (recordLines name members).flatMap Line.parts =
      ((Content.record name members).lines name false).flatMap Line.parts := rfl
  have single (member : Json.Member) : Json.collectMembers [member] = [member] := rfl
  have denotes := @Denotes.object depth [entry (parts, name, .record name members)]
    (List.forall_mem_singleton.mpr (.string name.literal))
    (List.forall_mem_singleton.mpr shown.denotes)
  rw [sameLines, shown.lines]
  simpa [commaParts, Json.listed, Entry.written, entry, single] using denotes

end Content

/-! ## The document of a record -/

/-- A page ends with its last line. -/
theorem Page.exists_append_eq {style : Style} (page : Page style lines text) {last : Line}
    (ends : lines.getLast? = some last) : ∃ front, text = front ++ style.write last := by
  induction page with
  | last =>
      obtain rfl := Option.some.inj (List.getLast?_singleton.symm.trans ends)
      exact ⟨[], rfl⟩
  | @cons line _ _ margin _ _ _ _ ih =>
      rw [List.getLast?_cons_cons] at ends
      obtain ⟨front, rfl⟩ := ih ends
      exact ⟨style.write line ++ (margin ++ front), by simp only [List.append_assoc]⟩

/-- The page of a record starts with a quote and ends with a brace. -/
theorem Page.wrap_trim {name : Label} {members : List (Label × Content)}
    (page : Page (shownBy bare) (Content.recordLines name members) text) :
    wrap text.trim = ['{'] ++ (text ++ ['}']) := by
  obtain ⟨rest, startEq⟩ := page.exists_eq_append
  have ends : (Content.recordLines name members).getLast? = some (.closing false) := by
    rw [Content.recordLines, ← List.cons_append, List.getLast?_concat]
  obtain ⟨front, endEq⟩ := page.exists_append_eq ends
  have solid : Json.Solid text :=
    ⟨⟨'"', _, startEq, by decide⟩, ⟨front, '}', endEq, by decide⟩⟩
  rw [solid.trim_eq, startEq]
  rfl

/-- Every dump of a record with labels as names, keys and words is turned into the document of the
object that it stands for. -/
theorem toDocument_write {name : Label} {members : List (Label × Content)}
    (fits : (Content.record name members).Fits 126) :
    toDocument (Content.record name members).write =
      .ok (Json.Value.object [(name.text, (Content.record name members).value)]).pretty := by
  obtain ⟨laidOut, reflowed, page⟩ := fits.exists_reflow?
  obtain ⟨result, rewritten, page⟩ := page.exists_rewrite
  have spaced : Spaced (['{'] :: ((Content.recordLines name members).flatMap Line.parts ++ [['}']]))
      (wrap result.trim) := by
    rw [page.wrap_trim]
    exact (page.spaced.append (Json.spaced_singleton ['}'])).start ['{']
  have parsed := Json.parse_eq_ok_iff.mpr ⟨_, spaced, fits.denotes⟩
  have formatted : Json.reformat (wrap result.trim) =
      .ok (Json.Value.object [(name.text, (Content.record name members).value)]).pretty := by
    rw [Json.reformat, parsed, Except.map]
  simp only [toDocument, reflowed, rewritten, formatted, Except.mapError, bind, Except.bind]

/-- A record in a record. The word `null` is a string, the word `true` is not. -/
theorem toDocument_write_user :
    let user : Label := ⟨['U', 's', 'e', 'r'], List.cons_ne_nil _ _, List.all_eq_true.mp rfl⟩
    let home : Label := ⟨['h', 'o', 'm', 'e'], List.cons_ne_nil _ _, List.all_eq_true.mp rfl⟩
    let zip : Label := ⟨['z', 'i', 'p'], List.cons_ne_nil _ _, List.all_eq_true.mp rfl⟩
    let own : Label := ⟨['o', 'w', 'n'], List.cons_ne_nil _ _, List.all_eq_true.mp rfl⟩
    let null : Label := ⟨['n', 'u', 'l', 'l'], List.cons_ne_nil _ _, List.all_eq_true.mp rfl⟩
    let yes : Label := ⟨['t', 'r', 'u', 'e'], List.cons_ne_nil _ _, List.all_eq_true.mp rfl⟩
    let members := [(home, .record home [(zip, .word null)]), (own, .word yes)]
    (Content.record user members).Fits 126 ∧
      (Content.record user members).write =
        "User\x7bhome=home\x7bzip=null\x7d, own=true\x7d".toList ∧
      toDocument "User\x7bhome=home\x7bzip=null\x7d, own=true\x7d".toList = .ok
        ("\x7b\n    \"User\": \x7b\n        \"home\": \x7b\n            \"zip\": \"null\"\n" ++
          "        \x7d,\n        \"own\": true\n    \x7d\n\x7d").toList := by
  intro user home zip own null yes members
  have inner : (Content.record home [(zip, .word null)]).Fits 125 :=
    .record home (List.cons_ne_nil _ _) (List.nodup_singleton _)
      (List.forall_mem_singleton.mpr (.word null))
  have fits : (Content.record user members).Fits 126 :=
    .record user (List.cons_ne_nil _ _) (by decide)
      (List.forall_mem_cons.mpr ⟨inner, List.forall_mem_singleton.mpr (.word yes)⟩)
  have written : (Content.record user members).write =
      "User\x7bhome=home\x7bzip=null\x7d, own=true\x7d".toList := by
    cbv
  have document := toDocument_write fits
  rw [written] at document
  refine ⟨fits, written, document.trans (congrArg Except.ok ?_)⟩
  cbv

end Reflow.Dump
