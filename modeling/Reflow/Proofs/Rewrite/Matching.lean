import Reflow.Proofs.Pattern.Confinement
import Reflow.Proofs.Pattern.Parts
import Reflow.Proofs.Rewrite.Page

/-!
# Rules on pages

A rule that takes each line from one style to another one, whatever may be behind the line, takes
pages to pages of the same lines. Behind a line comes the end of the page or the margin of the next
line, so a match can be followed from line to line.
-/

namespace Reflow

open Pattern

variable {text rest result : Text}

/-! ## Rules match by match -/

namespace RewriteRule

/-- What a rule without named groups puts in the place of a match. -/
def filled (rule : RewriteRule) (found : Found) : Text :=
  (Template.read rule.replacement).flatMap (found.fill [])

/-- A rule rewrites a text match by match. -/
theorem apply_eq_ok {rule : RewriteRule} {pattern : Pattern}
    (read : Expression.read rule.pattern = .ok { pattern, names := [] })
    (rewrites : pattern.Rewrites rule.filled text result) : rule.apply text = .ok result := by
  have steady : ∀ found skipped, rule.filled { found with skipped } = rule.filled found := by
    intro found skipped
    have part : Found.fill { found with skipped } [] = found.fill [] := by
      funext part
      cases part <;> rfl
    rw [filled, part]
    rfl
  rw [apply, read]
  exact congrArg Except.ok (rewrites.replaceAll_eq steady)

end RewriteRule

namespace Dump

/-! ## Pages line by line -/

theorem Margin.isBlank {margin : Text} (isMargin : Margin margin) :
    ∀ char ∈ margin, Text.isBlank char = true := by
  obtain ⟨count, rfl⟩ := isMargin
  refine List.forall_mem_cons.mpr ⟨by decide, fun char member => ?_⟩
  rw [List.eq_of_mem_replicate member]
  decide

/-- What may be behind a line of a page: nothing, or a margin and a line that may follow. -/
inductive Behind (style : Style) (line : Line) : Text → Prop where
  | nothing (ends : line.goesOn = false) : Behind style line []
  | line {next : Line} {margin rest : Text} (isMargin : Margin margin)
      (follows : next.closes = !line.goesOn) :
      Behind style line (margin ++ (style.write next ++ rest))

namespace Behind

variable {style : Style} {line : Line}

/-- A line ends with a line feed, or with the page. -/
theorem eq_of_head? (behind : Behind style line rest) {char : Char}
    (first : rest.head? = some char) : char = '\n' := by
  cases behind with
  | nothing => cases first
  | line isMargin =>
      obtain ⟨count, rfl⟩ := isMargin
      exact (Option.some.inj first).symm

/-- Behind the last member of a record comes the brace that closes the record. -/
theorem exists_space_append (behind : Behind style line rest)
    (notOpening : line.goesOn = line.separated) :
    ∃ space after, comma line.separated ++ rest = space ++ after ∧
      (∀ char ∈ space, Text.isBlank char = true) ∧
      ∀ char, after.head? = some char → char ∈ [',', '}'] := by
  cases separated : line.separated with
  | true => exact ⟨[], ',' :: rest, rfl, List.forall_mem_nil _, by simp⟩
  | false =>
      cases behind with
      | nothing => exact ⟨[], [], rfl, List.forall_mem_nil _, by simp⟩
      | @line next margin rest isMargin follows =>
          rw [notOpening, separated] at follows
          cases next with
          | opening | member => cases follows
          | closing more =>
              exact ⟨margin, style.write (.closing more) ++ rest, rfl, isMargin.isBlank,
                by simp [Style.write]⟩

/-- A text without characters that a match needs is kept if a line ends behind it. -/
theorem rewrites_append {pattern : Pattern} {fill : Found → Text} {Property Needed : Char → Prop}
    {front : Text} (behind : Behind style line rest) (needs : pattern.Needs Needed)
    (holds : pattern.Holds Property) (breaks : ¬Property '\n')
    (lacking : ∀ char ∈ front, ¬Needed char) (others : Rewrites pattern fill rest result) :
    Rewrites pattern fill (front ++ rest) (front ++ result) := by
  have lacksAll : ∀ char ∈ front ++ [], ¬Needed char := by rwa [List.append_nil]
  refine needs.rewrites_append holds lacksAll (fun char first => ?_) others
  rwa [behind.eq_of_head? first]

end Behind

theorem Page.exists_eq_append {style : Style} {line : Line} {others : List Line}
    (page : Page style (line :: others) text) : ∃ rest, text = style.write line ++ rest := by
  cases page with
  | last => exact ⟨[], (List.append_nil _).symm⟩
  | cons => exact ⟨_, rfl⟩

variable {style other : Style} {lines : List Line}

/-- If a rule takes every line from one style to another one, whatever may be behind it, then it
takes pages from one style to the other one. -/
theorem Page.exists_apply {rule : RewriteRule} {pattern : Pattern} {First Needed : Char → Prop}
    (page : Page style lines text)
    (read : Expression.read rule.pattern = .ok { pattern, names := [] })
    (starts : pattern.Starts First) (needs : pattern.Needs Needed)
    (inked : ∀ char, Text.isBlank char = true → ¬First char)
    (each : ∀ (line : Line) (rest result : Text), Behind style line rest →
      Rewrites pattern rule.filled rest result →
      Rewrites pattern rule.filled (style.write line ++ rest) (other.write line ++ result)) :
    ∃ result, rule.apply text = .ok result ∧ Page other lines result := by
  suffices rewritten : ∃ result, Rewrites pattern rule.filled text result ∧
      Page other lines result by
    obtain ⟨result, rewrites, written⟩ := rewritten
    exact ⟨result, RewriteRule.apply_eq_ok read rewrites, written⟩
  induction page with
  | last ends =>
      have rewrites := each _ _ _ (.nothing ends) needs.rewrites_nil
      rw [List.append_nil, List.append_nil] at rewrites
      exact ⟨_, rewrites, .last ends⟩
  | cons isMargin follows more ih =>
      obtain ⟨result, rewrites, written⟩ := ih
      obtain ⟨rest, rfl⟩ := more.exists_eq_append
      refine ⟨_, each _ _ _ (.line isMargin follows) ?_, .cons isMargin follows written⟩
      exact starts.rewrites_append (fun char member => inked char (isMargin.isBlank char member))
        rewrites

/-- A match that is preferred wherever it stands is replaced. -/
theorem rewrites_match {pattern : Pattern} {fill : Found → Text} {taken : Text}
    {groups : List (Nat × Text)} (isMatch : pattern.Matches taken rest groups) (replacement : Text)
    (notEmpty : taken ≠ [])
    (filled : ∀ last : Cursor, last.groups = groups →
      fill { skipped := [], text := taken, last } = replacement)
    (others : Rewrites pattern fill rest result) :
    Rewrites pattern fill (taken ++ rest) (replacement ++ result) := by
  refine .hit notEmpty (fun before => ?_) others
  obtain ⟨last, here, lastRest, place, remembered⟩ := isMatch.matchHere? before
  exact ⟨last, here, lastRest, place, filled last remembered⟩

/-! ## The characters of lines -/

/-- A text of words and some signs. -/
def Made (signs : List Char) (text : Text) : Prop :=
  ∀ char ∈ text, Unicode.isWord char = true ∨ char ∈ signs

namespace Made

variable {signs others : List Char} {left right : Text} {sign : Char}

theorem label (label : Label) : Made signs label.text :=
  fun char member => .inl (label.isWord char member)

theorem mono (made : Made signs text) (among : signs ⊆ others) : Made others text :=
  fun char member => (made char member).imp_right (among ·)

theorem append (first : Made signs left) (second : Made signs right) : Made signs (left ++ right) :=
  List.forall_mem_append.mpr ⟨first, second⟩

theorem cons (listed : sign ∈ signs) (made : Made signs text) : Made signs (sign :: text) :=
  List.forall_mem_cons.mpr ⟨.inr listed, made⟩

theorem comma (listed : ',' ∈ signs) (separated : Bool) : Made signs (Dump.comma separated) := by
  cases separated with
  | false => exact List.forall_mem_nil _
  | true => exact .cons listed (List.forall_mem_nil _)

theorem body (listed : '=' ∈ signs) (line : Line) : Made signs line.body :=
  fun _ member => (Line.mem_body member).imp_right fun equal => by rwa [equal]

/-- Signs that are neither in words nor among those of a text are not in the text. -/
theorem lacks (made : Made signs text)
    (apart : (others.all fun sign => !Unicode.isWord sign && !signs.contains sign) = true) :
    ∀ char ∈ text, char ∉ others := by
  intro char member listed
  have outside := List.all_eq_true.mp apart char listed
  rw [Bool.and_eq_true, Bool.not_eq_true', Bool.not_eq_true'] at outside
  rcases made char member with word | isSign
  · cases outside.1.symm.trans word
  · rw [List.contains_iff_mem.mpr isSign] at outside
    cases outside.2

end Made

/-- No word is in the closing of a record. -/
theorem not_isWord_closing (separated : Bool) :
    ∀ char ∈ style.write (.closing separated), ¬Unicode.isWord char = true := by
  have signs : ∀ sign ∈ ['}', ','], ¬Unicode.isWord sign = true :=
    List.forall_iff_forall_mem.mp (by decide)
  cases separated with
  | false => exact List.forall_mem_singleton.mpr (signs '}' (by decide))
  | true => exact signs

theorem not_isWord_of_isBlank (char : Char) (blank : Text.isBlank char = true) :
    ¬Unicode.isWord char = true := by
  rw [Text.isWord_eq_false_of_isBlank blank]
  exact Bool.false_ne_true

theorem ne_feed_of_isWord (char : Char) (word : Unicode.isWord char = true) : char ≠ '\n' :=
  Unicode.ne_of_isWord word (by decide)

/-- Signs are not blank. -/
theorem not_mem_of_isBlank {signs : List Char}
    (inked : (signs.all fun sign => !Text.isBlank sign) = true) (char : Char)
    (blank : Text.isBlank char = true) : char ∉ signs := by
  intro listed
  have seen := List.all_eq_true.mp inked char listed
  rw [blank] at seen
  cases seen

/-! ## Words and lines -/

/-- The characters that do not end a line. -/
def inLine : CharSet :=
  .complement (.only '\n')

theorem inLine_of_lacks {taken : Text} (lacks : ∀ char ∈ taken, char ∉ ['\n']) :
    ∀ char ∈ taken, inLine.contains char = true := by
  intro char member
  simpa [inLine, CharSet.contains] using lacks char member

theorem inLine_eq_false {after : Text} (stops : ∀ char, after.head? = some char → char = '\n') :
    ∀ char, after.head? = some char → inLine.contains char = false := by
  intro char first
  rw [stops char first]
  rfl

theorem matches_label {label : Label} {after : Text}
    (stops : ∀ char, after.head? = some char → Unicode.isWord char = false) :
    (run 1 .word).Matches label.text after [] :=
  matches_run (List.length_pos_iff.mpr label.notEmpty) label.isWord stops

end Dump

end Reflow
