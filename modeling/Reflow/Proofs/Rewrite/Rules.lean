import Reflow.Proofs.Rewrite.Matching

/-!
# The rules on a page

Each of the rules for dumps takes a page in one style to a page of the same lines in another style:
one opens objects, two quote members, one bares booleans. The rule about null and those about commas
find nothing, and the one that closes objects puts in the place of what it finds just that.
-/

namespace Reflow.Dump

open Pattern

variable {text rest result : Text} {style : Style} {lines : List Line}

/-! ## Nothing is null -/

def nullPattern : Pattern :=
  sequence [run 0 inLine, sign '=', maybe '"', sign 'n', sign 'u', sign 'l', sign 'l', maybe '"',
    sign ';', maybe '\n']

theorem read_dropNull :
    Expression.read dropNull.pattern = .ok { pattern := nullPattern, names := [] } :=
  rfl

theorem needs_nullPattern : nullPattern.Needs (· ∈ [';']) := by
  simp [nullPattern, Pattern.sequence, followedBy, run, sign, maybe, Needs, CharSet.contains]

/-- A page as it is laid out has no semicolon. -/
theorem Page.not_mem (page : Page plain lines text) : ∀ char ∈ text, char ∉ [';'] := by
  have line (line : Line) : ∀ char ∈ plain.write line, char ∉ [';'] :=
    Made.lacks (fun _ => mem_write_plain) (by decide)
  induction page with
  | last => exact line _
  | cons isMargin _ _ ih =>
      rw [List.forall_mem_append, List.forall_mem_append]
      refine ⟨line _, fun char member semicolon => ?_, ih⟩
      have blank := isMargin.isBlank char member
      rw [List.mem_singleton.mp semicolon] at blank
      revert blank
      decide

theorem Page.apply_dropNull (page : Page plain lines text) : dropNull.apply text = .ok text :=
  RewriteRule.apply_eq_ok read_dropNull (needs_nullPattern.rewrites_self page.not_mem)

/-! ## Opening objects -/

def openPattern : Pattern :=
  sequence [.group 1 (run 1 .word), maybe '=', run 0 .word, run 0 .space, either '[' '{']

theorem read_openObject :
    Expression.read openObject.pattern = .ok { pattern := openPattern, names := [] } :=
  rfl

theorem starts_openPattern : openPattern.Starts (Unicode.isWord · = true) :=
  ⟨Nat.one_pos, fun _ => id⟩

theorem holds_openPattern :
    openPattern.Holds fun char =>
      Unicode.isWord char = true ∨ Text.isBlank char = true ∨ char ∈ ['=', '[', '{'] := by
  simp +contextual [openPattern, Pattern.sequence, followedBy, run, maybe, either, Holds,
    CharSet.contains]

theorem needs_openPattern : openPattern.Needs (· ∈ ['[', '{']) := by
  simp [openPattern, Pattern.sequence, followedBy, run, maybe, either, Needs, CharSet.contains]

/-- A label, perhaps with a type behind an equals sign, and a brace. -/
theorem matches_openPattern (label : Label) {equals type : Text} (after : Text)
    (typed : equals = [] ∧ type = [] ∨
      equals = ['='] ∧ ∀ char ∈ type, Unicode.isWord char = true) :
    openPattern.Matches (label.text ++ equals ++ type ++ [] ++ ['{']) after [(1, label.text)] := by
  have isName : (run 1 .word).Matches label.text
      (equals ++ (type ++ ([] ++ (['{'] ++ after)))) [] := by
    refine matches_label fun char first => ?_
    rcases typed with ⟨rfl, rfl⟩ | ⟨rfl, -⟩ <;> cases first <;> decide
  have isEquals : (maybe '=').Matches equals (type ++ ([] ++ (['{'] ++ after))) [] := by
    apply Matches.run
    rcases typed with ⟨rfl, rfl⟩ | ⟨rfl, -⟩
    · refine { inside := by simp, enough := Nat.le_refl 0, bounded := by simp, stops := .inr ?_ }
      rintro char first
      cases first
      decide
    · exact { inside := by simp [CharSet.contains], enough := Nat.zero_le 1, bounded := by simp,
              stops := .inl rfl }
  have isType : (run 0 .word).Matches type ([] ++ (['{'] ++ after)) [] := by
    refine matches_run (Nat.zero_le _) ?_ ?_
    · rcases typed with ⟨-, rfl⟩ | ⟨-, isWord⟩
      · exact List.forall_mem_nil _
      · exact isWord
    · rintro char first
      cases first
      decide
  have isSpace : (run 0 .space).Matches [] (['{'] ++ after) [] := by
    refine matches_run (Nat.zero_le _) (List.forall_mem_nil _) ?_
    rintro char first
    cases first
    decide
  have isBrace : (either '[' '{').Matches ['{'] after [] := .oneOf rfl
  exact ((((isName.group 1).seq isEquals).seq isType).seq isSpace).seq isBrace

/-- A label in quotes. -/
def quoted (label : Label) : Text :=
  '"' :: (label.text ++ ['"'])

/-- Lines whose names are quoted, and which drop the names of records that are members. -/
def opened : Style :=
  { plain with opening := fun key name => quoted (key.getD name) ++ [':', ' ', '{'] }

theorem rewrites_opening {key : Option Label} {name : Label}
    (others : Rewrites openPattern openObject.filled rest result) :
    Rewrites openPattern openObject.filled (plain.write (.opening key name) ++ rest)
      (opened.write (.opening key name) ++ result) := by
  have template : Template.read openObject.replacement =
      [.char '"', .number 1, .char '"', .char ':', .char ' ', .char '{'] := rfl
  have filled (label : Label) (taken : Text) (last : Cursor)
      (remembered : last.groups = [(1, label.text)]) :
      openObject.filled { skipped := [], text := taken, last } =
        quoted label ++ [':', ' ', '{'] := by
    simp [RewriteRule.filled, template, Found.fill, Cursor.group?, remembered, quoted]
  cases key with
  | none =>
      have isMatch := matches_openPattern name rest (.inl ⟨rfl, rfl⟩)
      have rewrites := rewrites_match isMatch _ (by simp) (filled name _) others
      simpa [Style.write, plain, opened, Line.body] using rewrites
  | some key =>
      have isMatch := matches_openPattern key rest (.inr ⟨rfl, name.isWord⟩)
      have rewrites := rewrites_match isMatch _ (by simp) (filled key _) others
      simpa [Style.write, plain, opened, Line.body] using rewrites

/-- A member with a word has no bracket, and nor has what is behind it, up to a comma or the brace
on the next line. -/
theorem rewrites_word {key word : Label} {separated : Bool}
    (behind : Behind plain (.member key word separated) rest)
    (others : Rewrites openPattern openObject.filled rest result) :
    Rewrites openPattern openObject.filled (plain.write (.member key word separated) ++ rest)
      (opened.write (.member key word separated) ++ result) := by
  have stop : ∀ sign ∈ [',', '}'], ¬(Unicode.isWord sign = true ∨ Text.isBlank sign = true ∨
      sign ∈ ['=', '[', '{']) := List.forall_iff_forall_mem.mp (by decide)
  have withComma : Rewrites openPattern openObject.filled (comma separated ++ rest)
      (comma separated ++ result) := by
    refine starts_openPattern.rewrites_append ?_ others
    cases separated <;> exact List.forall_iff_forall_mem.mp (by decide)
  obtain ⟨space, after, equal, blank, stops⟩ := behind.exists_space_append rfl
  rw [Line.separated] at equal
  rw [equal] at withComma
  rw [Style.write, Style.write, List.append_assoc, List.append_assoc, equal]
  refine needs_openPattern.rewrites_append holds_openPattern ?_
    (fun char first => stop char (stops char first)) withComma
  refine List.forall_mem_append.mpr ⟨?_, fun char member => ?_⟩
  · have made : Made ['='] (Line.member key word separated).body := .body (by decide) _
    exact made.lacks (by decide)
  · exact not_mem_of_isBlank (by decide) char (blank char member)

theorem Page.apply_openObject (page : Page plain lines text) :
    ∃ result, openObject.apply text = .ok result ∧ Page opened lines result := by
  refine page.exists_apply read_openObject starts_openPattern needs_openPattern
    not_isWord_of_isBlank ?_
  intro line rest result behind others
  cases line with
  | opening key name => exact rewrites_opening others
  | member key word separated => exact rewrites_word behind others
  | closing separated =>
      exact starts_openPattern.rewrites_append (not_isWord_closing separated) others

/-! ## Closing objects -/

def closePattern : Pattern :=
  sequence [either ']' '}', either ';' ',']

theorem read_closeObject :
    Expression.read closeObject.pattern = .ok { pattern := closePattern, names := [] } :=
  rfl

theorem starts_closePattern : closePattern.Starts (· ∈ [']', '}']) := by
  simp [closePattern, Pattern.sequence, followedBy, either, Starts, CharSet.contains]

theorem holds_closePattern : closePattern.Holds (· ∈ [']', '}', ';', ',']) := by
  simp +contextual [closePattern, Pattern.sequence, followedBy, either, Holds, CharSet.contains]

theorem needs_closePattern : closePattern.Needs (· ∈ [';', ',']) := by
  simp [closePattern, Pattern.sequence, followedBy, either, Needs, CharSet.contains]

theorem made_quoted (label : Label) {signs : List Char} (listed : '"' ∈ signs) :
    Made signs (quoted label) :=
  .cons listed (.append (.label label) (.cons listed (List.forall_mem_nil _)))

theorem made_opened (key : Option Label) (name : Label) :
    Made ['"', ':', ' ', '{'] (opened.write (.opening key name)) :=
  (made_quoted _ (by decide)).append fun char member => .inr (List.mem_cons_of_mem _ member)

theorem made_member (key word : Label) (separated : Bool) :
    Made ['=', ','] (opened.write (.member key word separated)) :=
  (Made.body (by decide) (.member key word separated)).append (.comma (by decide) separated)

theorem made_lastMember (key word : Label) : Made ['='] (opened.write (.member key word false)) :=
  (Made.body (by decide) (.member key word false)).append (List.forall_mem_nil _)

/-- Braces that close objects are left as they are. -/
theorem Page.apply_closeObject (page : Page opened lines text) :
    ∃ result, closeObject.apply text = .ok result ∧ Page opened lines result := by
  refine page.exists_apply read_closeObject starts_closePattern needs_closePattern
    (not_mem_of_isBlank (by decide)) ?_
  intro line rest result behind others
  cases line with
  | opening key name =>
      exact starts_closePattern.rewrites_append ((made_opened key name).lacks (by decide)) others
  | member key word separated =>
      refine starts_closePattern.rewrites_append ?_ others
      exact (made_member key word separated).lacks (by decide)
  | closing separated =>
      cases separated with
      | false =>
          have lacking : ∀ char ∈ ['}'], char ∉ [';', ','] :=
            List.forall_mem_singleton.mpr (by decide)
          exact behind.rewrites_append needs_closePattern holds_closePattern (by decide) lacking
            others
      | true =>
          have isBrace : (either ']' '}').Matches ['}'] ([','] ++ rest) [] := .oneOf rfl
          have isMatch : closePattern.Matches ['}', ','] rest [] := isBrace.seq (.oneOf rfl)
          exact rewrites_match isMatch ['}', ','] (List.cons_ne_nil _ _) (fun _ _ => rfl) others

/-! ## Quoting members -/

def memberPattern : Pattern :=
  sequence [.group 1 (run 1 .word), sign '=', .group 2 (run 0 inLine), either ';' ',']

theorem read_quoteMember :
    Expression.read quoteMember.pattern = .ok { pattern := memberPattern, names := [] } :=
  rfl

theorem starts_memberPattern : memberPattern.Starts (Unicode.isWord · = true) :=
  ⟨Nat.one_pos, fun _ => id⟩

theorem holds_memberPattern : memberPattern.Holds (· ≠ '\n') := by
  simp +contextual [memberPattern, Pattern.sequence, followedBy, run, sign, inLine, either, Holds,
    CharSet.contains, ne_feed_of_isWord]

theorem needs_memberPattern : memberPattern.Needs (· ∈ [';', ',']) := by
  simp [memberPattern, Pattern.sequence, followedBy, run, sign, inLine, either, Needs,
    CharSet.contains]

/-- A member with its key and its word in quotes. -/
def quotedMember (key word : Label) : Text :=
  quoted key ++ ([':', ' '] ++ quoted word)

/-- Lines on which the members that are separated from the next one are quoted. -/
def halfQuoted : Style :=
  { opened with
    member := fun key word separated =>
      if separated then quotedMember key word else (Line.member key word separated).body }

/-- The greedy rest of the line takes the comma as well, and gives it back. -/
theorem matches_memberPattern (key word : Label) {after : Text}
    (stops : ∀ char, after.head? = some char → char = '\n') :
    memberPattern.Matches (key.text ++ ['='] ++ word.text ++ [',']) after
      [(2, word.text), (1, key.text)] := by
  have isKey : (run 1 .word).Matches key.text (['='] ++ (word.text ++ [','] ++ after)) [] := by
    refine matches_label fun char first => ?_
    cases first
    decide
  have isLeft : (Pattern.seq (.group 1 (run 1 .word)) (sign '=')).Matches (key.text ++ ['='])
      (word.text ++ [','] ++ after) [(1, key.text)] :=
    (isKey.group 1).seq (matches_sign '=' _)
  have separates : CharSet.contains (.union (.union .none (.only ';')) (.only ',')) ',' = true :=
    rfl
  have isRest : Run inLine 0 none (word.text ++ [',']) after := by
    have made : Made [','] (word.text ++ [',']) :=
      (Made.label word).append (.comma (by decide) true)
    exact { inside := inLine_of_lacks (made.lacks (by decide)), enough := Nat.zero_le _,
            bounded := by simp, stops := .inr (inLine_eq_false stops) }
  refine isLeft.run_back isRest (Nat.zero_le _) separates fun char first => ?_
  rw [stops char first]
  rfl

theorem rewrites_separated {key word : Label} (behind : Behind opened (.member key word true) rest)
    (others : Rewrites memberPattern quoteMember.filled rest result) :
    Rewrites memberPattern quoteMember.filled (opened.write (.member key word true) ++ rest)
      (halfQuoted.write (.member key word true) ++ result) := by
  have template : Template.read quoteMember.replacement =
      [.char '"', .number 1, .char '"', .char ':', .char ' ', .char '"', .number 2, .char '"',
        .char ','] := rfl
  have isMatch := matches_memberPattern key word fun char => behind.eq_of_head?
  have rewrites := rewrites_match isMatch (quotedMember key word ++ [',']) (by simp)
    (fun last remembered => ?_) others
  · simpa [Style.write, opened, plain, Line.body, halfQuoted, comma] using rewrites
  · simp [RewriteRule.filled, template, Found.fill, Cursor.group?, remembered, List.lookup,
      quotedMember, quoted]

theorem Page.apply_quoteMember (page : Page opened lines text) :
    ∃ result, quoteMember.apply text = .ok result ∧ Page halfQuoted lines result := by
  refine page.exists_apply read_quoteMember starts_memberPattern needs_memberPattern
    not_isWord_of_isBlank ?_
  intro line rest result behind others
  cases line with
  | opening key name =>
      exact behind.rewrites_append needs_memberPattern holds_memberPattern (by simp)
        ((made_opened key name).lacks (by decide)) others
  | member key word separated =>
      cases separated with
      | true => exact rewrites_separated behind others
      | false =>
          exact behind.rewrites_append needs_memberPattern holds_memberPattern (by simp)
            ((made_lastMember key word).lacks (by decide)) others
  | closing separated =>
      exact starts_memberPattern.rewrites_append (not_isWord_closing separated) others

/-! ## Quoting last members -/

def lastMemberPattern : Pattern :=
  sequence [.group 1 (run 1 .word), sign '=', .group 2 (run 0 inLine)]

theorem read_quoteLastMember :
    Expression.read quoteLastMember.pattern = .ok { pattern := lastMemberPattern, names := [] } :=
  rfl

theorem starts_lastMemberPattern : lastMemberPattern.Starts (Unicode.isWord · = true) :=
  ⟨Nat.one_pos, fun _ => id⟩

theorem holds_lastMemberPattern : lastMemberPattern.Holds (· ≠ '\n') := by
  simp +contextual [lastMemberPattern, Pattern.sequence, followedBy, run, sign, inLine, Holds,
    CharSet.contains, ne_feed_of_isWord]

theorem needs_lastMemberPattern : lastMemberPattern.Needs (· ∈ ['=']) := by
  simp [lastMemberPattern, Pattern.sequence, followedBy, run, sign, inLine, Needs,
    CharSet.contains]

/-- Lines on which all keys are quoted, and the words of members are shown in some way. -/
def shownBy (shown : Label → Text) : Style :=
  { opened with member := fun key word _ => quoted key ++ ([':', ' '] ++ shown word) }

/-- Lines on which all members are quoted. -/
def allQuoted : Style :=
  shownBy quoted

theorem matches_lastMemberPattern (key word : Label) {after : Text}
    (stops : ∀ char, after.head? = some char → char = '\n') :
    lastMemberPattern.Matches (key.text ++ ['='] ++ word.text) after
      [(2, word.text), (1, key.text)] := by
  have isKey : (run 1 .word).Matches key.text (['='] ++ (word.text ++ after)) [] := by
    refine matches_label fun char first => ?_
    cases first
    decide
  have made : Made [] word.text := .label word
  have isWord : (run 0 inLine).Matches word.text after [] :=
    matches_run (Nat.zero_le _) (inLine_of_lacks (made.lacks (by decide))) (inLine_eq_false stops)
  exact ((isKey.group 1).seq (matches_sign '=' _)).seq (isWord.group 2)

theorem rewrites_last {key word : Label} (behind : Behind halfQuoted (.member key word false) rest)
    (others : Rewrites lastMemberPattern quoteLastMember.filled rest result) :
    Rewrites lastMemberPattern quoteLastMember.filled
      (halfQuoted.write (.member key word false) ++ rest)
      (allQuoted.write (.member key word false) ++ result) := by
  have template : Template.read quoteLastMember.replacement =
      [.char '"', .number 1, .char '"', .char ':', .char ' ', .char '"', .number 2, .char '"'] :=
    rfl
  have isMatch := matches_lastMemberPattern key word fun char => behind.eq_of_head?
  have rewrites := rewrites_match isMatch (quotedMember key word) (by simp)
    (fun last remembered => ?_) others
  · simpa [Style.write, Line.body, halfQuoted, allQuoted, shownBy, quotedMember, comma]
      using rewrites
  · simp [RewriteRule.filled, template, Found.fill, Cursor.group?, remembered, List.lookup,
      quotedMember, quoted]

theorem made_quotedMember (key word : Label) (separated : Bool) :
    Made ['"', ':', ' ', ','] (quotedMember key word ++ comma separated) := by
  have between : Made ['"', ':', ' ', ','] [':', ' '] := fun char member => by
    simp only [List.mem_cons, List.not_mem_nil, or_false] at member
    rcases member with rfl | rfl <;> exact .inr (by decide)
  have shown := between.append (made_quoted word (by decide))
  exact ((made_quoted key (by decide)).append shown).append (.comma (by decide) separated)

theorem Page.apply_quoteLastMember (page : Page halfQuoted lines text) :
    ∃ result, quoteLastMember.apply text = .ok result ∧ Page allQuoted lines result := by
  refine page.exists_apply read_quoteLastMember starts_lastMemberPattern needs_lastMemberPattern
    not_isWord_of_isBlank ?_
  intro line rest result behind others
  cases line with
  | opening key name =>
      exact behind.rewrites_append needs_lastMemberPattern holds_lastMemberPattern (by simp)
        ((made_opened key name).lacks (by decide)) others
  | member key word separated =>
      cases separated with
      | true =>
          exact behind.rewrites_append needs_lastMemberPattern holds_lastMemberPattern (by simp)
            ((made_quotedMember key word true).lacks (by decide)) others
      | false => exact rewrites_last behind others
  | closing separated =>
      exact starts_lastMemberPattern.rewrites_append (not_isWord_closing separated) others

/-! ## No comma before a closing brace -/

/-- A comma at the end of a line, then some characters out of a set, and a sign that closes. -/
def danglingPattern (between closing : CharSet) : Pattern :=
  sequence [sign ',', .group 1 (Pattern.sequence [sign '\n', run 0 between, .oneOf closing])]

/-- Styles in which all names and keys are quoted, and commas only separate members. -/
def Style.Quotes (style : Style) : Prop :=
  ∀ line : Line, line.closes = false → ∃ front,
    style.write line = '"' :: front ++ comma line.separated ∧ ∀ char ∈ '"' :: front, char ∉ [',']

section Dangling

variable {between closing : CharSet}

theorem starts_danglingPattern : (danglingPattern between closing).Starts (· ∈ [',']) := by
  simp [danglingPattern, Pattern.sequence, followedBy, sign, Starts, CharSet.contains]

variable (spaces : ∀ char, between.contains char = true →
    Unicode.isDigit char = true ∨ Text.isBlank char = true)
  (closes : ∀ char, closing.contains char = true → char ∈ ['}', ']'])

include closes in
theorem needs_danglingPattern : (danglingPattern between closing).Needs (· ∈ ['}', ']']) :=
  .inr (.inr closes)

include spaces closes in
theorem holds_danglingPattern :
    (danglingPattern between closing).Holds fun char =>
      (Unicode.isDigit char = true ∨ Text.isBlank char = true) ∨ char ∈ [',', '}', ']'] := by
  have isSign (sign : Char) (has : (Unicode.isDigit sign = true ∨ Text.isBlank sign = true) ∨
      sign ∈ [',', '}', ']']) (char : Char) (same : (char == sign) = true) :
      (Unicode.isDigit char = true ∨ Text.isBlank char = true) ∨ char ∈ [',', '}', ']'] :=
    eq_of_beq same ▸ has
  exact ⟨isSign ',' (by decide),
    ⟨isSign '\n' (by decide), fun char inside => .inl (spaces char inside)⟩,
    fun char inside => .inr (List.mem_cons_of_mem _ (closes char inside))⟩

include spaces closes in
/-- Behind a comma at the end of a line comes a quote. -/
theorem Page.apply_dangling {rule : RewriteRule}
    (read : Expression.read rule.pattern =
      .ok { pattern := danglingPattern between closing, names := [] })
    (quotes : style.Quotes) (page : Page style lines text) :
    ∃ result, rule.apply text = .ok result ∧ Page style lines result := by
  have starts := @starts_danglingPattern between closing
  have needs := @needs_danglingPattern between closing closes
  have holds := holds_danglingPattern spaces closes
  refine page.exists_apply read starts needs (not_mem_of_isBlank (by decide)) ?_
  intro line rest result behind others
  obtain ⟨front, equal, lacking⟩ : ∃ front, style.write line = front ++ comma line.separated ∧
      ∀ char ∈ front, char ∉ [','] := by
    cases closes : line.closes with
    | false =>
        obtain ⟨front, equal, lacking⟩ := quotes line closes
        exact ⟨_, equal, lacking⟩
    | true =>
        cases line with
        | opening | member => cases closes
        | closing separated => exact ⟨['}'], rfl, List.forall_mem_singleton.mpr (by decide)⟩
  rw [equal, List.append_assoc, List.append_assoc]
  refine starts.rewrites_append lacking ?_
  cases separated : line.separated with
  | false => exact others
  | true =>
      have goesOn : line.goesOn = true := by
        cases line with
        | opening => rfl
        | member | closing => exact separated
      cases behind with
      | nothing ends => cases goesOn.symm.trans ends
      | @line _ margin _ isMargin follows =>
          rw [goesOn] at follows
          obtain ⟨next, startsNext, -⟩ := quotes _ follows
          rw [startsNext] at others ⊢
          have lacks : ∀ char ∈ [','] ++ margin, char ∉ ['}', ']'] :=
            List.forall_mem_cons.mpr ⟨by decide, fun char member =>
              not_mem_of_isBlank (by decide) char (isMargin.isBlank char member)⟩
          refine needs.rewrites_append holds lacks ?_ others
          rintro char first
          cases first
          decide

end Dangling

theorem quotes_shownBy {shown : Label → Text} (made : ∀ word, Made ['"'] (shown word)) :
    (shownBy shown).Quotes := by
  intro line opens
  cases line with
  | opening key name =>
      refine ⟨(key.getD name).text ++ ['"', ':', ' ', '{'], ?_, ?_⟩
      · simp [Style.write, shownBy, opened, quoted, comma, Line.separated]
      · have lacking : ∀ char ∈ opened.write (.opening key name), char ∉ [','] :=
          (made_opened key name).lacks (by decide)
        simpa [Style.write, opened, quoted] using lacking
  | member key word separated =>
      refine ⟨key.text ++ ('"' :: [':', ' '] ++ shown word), ?_, ?_⟩
      · simp [Style.write, shownBy, quoted, Line.separated]
      · have isWord : Made ['"', ':', ' '] (shown word) := (made word).mono (by decide)
        have isRest : Made ['"', ':', ' '] ('"' :: ':' :: ' ' :: shown word) :=
          .cons (by decide) (.cons (by decide) (.cons (by decide) isWord))
        exact (Made.cons (by decide) ((Made.label key).append isRest)).lacks (by decide)
  | closing => cases opens

theorem read_dropComma :
    Expression.read dropComma.pattern =
      .ok { pattern := danglingPattern .digit (.only '}'), names := [] } :=
  rfl

theorem Page.apply_dropComma (page : Page allQuoted lines text) :
    ∃ result, dropComma.apply text = .ok result ∧ Page allQuoted lines result := by
  refine page.apply_dangling ?_ ?_ read_dropComma
    (quotes_shownBy fun word => made_quoted word (by decide))
  · exact fun char digit => .inl digit
  · intro char same
    rw [eq_of_beq same]
    decide

/-! ## Bare booleans -/

def booleanPattern : Pattern :=
  sequence [sign ':', sign ' ', sign '"',
    .group 1 (.alt (spelled (Json.writeBool true)) (spelled (Json.writeBool false))), sign '"']

theorem read_bareBoolean :
    Expression.read bareBoolean.pattern = .ok { pattern := booleanPattern, names := [] } :=
  rfl

theorem starts_booleanPattern : booleanPattern.Starts (· ∈ [':']) := by
  simp [booleanPattern, Pattern.sequence, followedBy, sign, Starts, CharSet.contains]

theorem needs_booleanPattern : booleanPattern.Needs (· ∈ ['"']) :=
  .inr (by simp [sign, Needs, CharSet.contains])

theorem holds_booleanPattern : booleanPattern.Holds (· ∉ ['{']) := by
  simp [booleanPattern, spelled, Json.writeBool, Pattern.sequence, followedBy, sign, Holds,
    CharSet.contains]

theorem describes_booleanPattern (isDescribed : booleanPattern.Describes text) :
    ∃ value, text = [':', ' ', '"'] ++ (Json.writeBool value ++ ['"']) := by
  have shape : ∃ inner, text = [':', ' ', '"'] ++ (inner ++ ['"']) ∧
      (inner = Json.writeBool true ∨ inner = Json.writeBool false) := by
    simpa [booleanPattern, Pattern.sequence, followedBy, Describes] using isDescribed
  obtain ⟨inner, equal, rfl | rfl⟩ := shape
  · exact ⟨true, equal⟩
  · exact ⟨false, equal⟩

theorem matches_booleanPattern (value : Bool) (after : Text) :
    booleanPattern.Matches ([':'] ++ [' '] ++ ['"'] ++ Json.writeBool value ++ ['"']) after
      [(1, Json.writeBool value)] := by
  have isValue :
      (Pattern.alt (spelled (Json.writeBool true)) (spelled (Json.writeBool false))).Matches
        (Json.writeBool value) (['"'] ++ after) [] := by
    cases value with
    | true => exact (matches_spelled _ _).alt_left _
    | false =>
        refine Matches.alt_right (fun first ahead => ?_) (matches_spelled _ _)
        rw [List.eq_nil_iff_forall_not_mem]
        intro last member
        obtain ⟨taken, takes, isDescribed⟩ := exists_describes_of_mem_ends member
        rw [describes_spelled_iff] at isDescribed
        rw [isDescribed] at takes
        cases takes.rest.symm.trans ahead
  have isFront := ((matches_sign ':' _).seq (matches_sign ' ' _)).seq (matches_sign '"'
    (Json.writeBool value ++ (['"'] ++ after)))
  exact (isFront.seq (isValue.group 1)).seq (matches_sign '"' after)

/-- A word as a value: booleans are bare, all others in quotes. -/
def bare (word : Label) : Text :=
  if word.text = Json.writeBool true ∨ word.text = Json.writeBool false then word.text
  else quoted word

theorem made_bare (word : Label) : Made ['"'] (bare word) := by
  rw [bare]
  split
  · exact .label word
  · exact made_quoted word (by decide)

/-- Behind a key, a word is bared if it is a boolean, and otherwise nothing is found. -/
theorem rewrites_shown (word : Label)
    (others : Rewrites booleanPattern bareBoolean.filled rest result) :
    Rewrites booleanPattern bareBoolean.filled ([':', ' '] ++ quoted word ++ rest)
      ([':', ' '] ++ bare word ++ result) := by
  by_cases boolean : ∃ value, word.text = Json.writeBool value
  · obtain ⟨value, equal⟩ := boolean
    have isBare : bare word = Json.writeBool value := by
      cases value <;> simp [bare, equal]
    have template : Template.read bareBoolean.replacement = [.char ':', .char ' ', .number 1] :=
      rfl
    have rewrites := rewrites_match (matches_booleanPattern value rest)
      ([':', ' '] ++ Json.writeBool value) (by simp) (fun last remembered => ?_) others
    · simpa [quoted, equal, isBare] using rewrites
    · simp [RewriteRule.filled, template, Found.fill, Cursor.group?, remembered]
  · have isBare : bare word = quoted word := by
      rw [bare, if_neg]
      rintro (isTrue | isFalse)
      · exact boolean ⟨true, isTrue⟩
      · exact boolean ⟨false, isFalse⟩
    have behindColon : Rewrites booleanPattern bareBoolean.filled (' ' :: quoted word ++ rest)
        (' ' :: quoted word ++ result) := by
      have made : Made [' ', '"'] (' ' :: quoted word) :=
        .cons (by decide) (made_quoted word (by decide))
      exact starts_booleanPattern.rewrites_append (made.lacks (by decide)) others
    rw [isBare]
    refine .skip (fun before => matchHere?_eq_none (fun taken start isDescribed => ?_) before)
      behindColon
    obtain ⟨value, rfl⟩ := describes_booleanPattern isDescribed
    obtain ⟨more, equal⟩ := start
    have isWord : ∀ char ∈ Json.writeBool value, (char != '"') = true :=
      List.all_eq_true.mp (by cases value <;> rfl)
    have alsoWord : ∀ char ∈ word.text, (char != '"') = true := by
      intro char member
      rw [bne_iff_ne]
      rintro rfl
      cases word.isWord '"' member
    have same : Json.writeBool value ++ '"' :: more = word.text ++ '"' :: rest := by
      simpa [quoted] using equal
    have front := congrArg (List.takeWhile (· != '"')) same
    rw [List.takeWhile_append_of_pos isWord, List.takeWhile_append_of_pos alsoWord] at front
    exact boolean ⟨value, by simpa using front.symm⟩

/-- What opens an object is no member with a word. -/
theorem rewrites_brace (others : Rewrites booleanPattern bareBoolean.filled rest result) :
    Rewrites booleanPattern bareBoolean.filled ([':', ' ', '{'] ++ rest)
      ([':', ' ', '{'] ++ result) := by
  have noColon : ∀ char ∈ [' ', '{'], char ∉ [':'] := List.forall_iff_forall_mem.mp (by decide)
  have noQuote : ∀ char ∈ [':'] ++ [' '], char ∉ ['"'] := List.forall_iff_forall_mem.mp (by decide)
  have behindColon := starts_booleanPattern.rewrites_append noColon others
  refine needs_booleanPattern.rewrites_append holds_booleanPattern noQuote ?_ behindColon
  rintro char first
  cases first
  decide

theorem Page.apply_bareBoolean (page : Page allQuoted lines text) :
    ∃ result, bareBoolean.apply text = .ok result ∧ Page (shownBy bare) lines result := by
  have noColon (label : Label) : ∀ char ∈ quoted label, char ∉ [':'] := by
    have made : Made ['"'] (quoted label) := made_quoted label (by decide)
    exact made.lacks (by decide)
  refine page.exists_apply read_bareBoolean starts_booleanPattern needs_booleanPattern
    (not_mem_of_isBlank (by decide)) ?_
  intro line rest result behind others
  cases line with
  | opening key name =>
      simp only [Style.write, allQuoted, shownBy, opened, List.append_assoc]
      exact starts_booleanPattern.rewrites_append (noColon _) (rewrites_brace others)
  | member key word separated =>
      have made : Made [','] (comma separated) := .comma (by decide) separated
      have withComma := starts_booleanPattern.rewrites_append (made.lacks (by decide)) others
      have shown := starts_booleanPattern.rewrites_append (noColon key)
        (rewrites_shown word withComma)
      simpa only [Style.write, allQuoted, shownBy, List.append_assoc] using shown
  | closing separated =>
      have made : Made ['}', ','] (allQuoted.write (.closing separated)) :=
        .cons (by decide) (.comma (by decide) separated)
      exact starts_booleanPattern.rewrites_append (made.lacks (by decide)) others

/-! ## All rules -/

theorem read_dropIndentedComma :
    Expression.read dropIndentedComma.pattern =
      .ok { pattern := danglingPattern .space (.union (.union .none (.only '}')) (.only ']')),
            names := [] } :=
  rfl

theorem Page.apply_dropIndentedComma (page : Page (shownBy bare) lines text) :
    ∃ result, dropIndentedComma.apply text = .ok result ∧ Page (shownBy bare) lines result := by
  refine page.apply_dangling ?_ ?_ read_dropIndentedComma (quotes_shownBy made_bare)
  · exact fun char blank => .inr blank
  · simp [CharSet.contains]

theorem foldlM_cons_eq {rule : RewriteRule} {others : List RewriteRule}
    (applied : rule.apply text = .ok result) :
    (rule :: others).foldlM (fun text rule => rule.apply text) text =
      others.foldlM (fun text rule => RewriteRule.apply rule text) result := by
  rw [List.foldlM_cons, applied]
  rfl

/-- The rules take a page as it is laid out to a page of members. -/
theorem Page.exists_rewrite (page : Page plain lines text) :
    ∃ result, rewrite rules text = .ok result ∧ Page (shownBy bare) lines result := by
  have enabled : rules.filter (·.enabled) = [dropNull, openObject, closeObject, quoteMember,
      quoteLastMember, dropComma, bareBoolean, dropIndentedComma] := rfl
  have nulls := page.apply_dropNull
  obtain ⟨_, opens, page⟩ := page.apply_openObject
  obtain ⟨_, closes, page⟩ := page.apply_closeObject
  obtain ⟨_, quotes, page⟩ := page.apply_quoteMember
  obtain ⟨_, quotesLast, page⟩ := page.apply_quoteLastMember
  obtain ⟨_, drops, page⟩ := page.apply_dropComma
  obtain ⟨_, bares, page⟩ := page.apply_bareBoolean
  obtain ⟨result, dropsIndented, page⟩ := page.apply_dropIndentedComma
  refine ⟨result, ?_, page⟩
  rw [rewrite, enabled, foldlM_cons_eq nulls, foldlM_cons_eq opens, foldlM_cons_eq closes,
    foldlM_cons_eq quotes, foldlM_cons_eq quotesLast, foldlM_cons_eq drops, foldlM_cons_eq bares,
    foldlM_cons_eq dropsIndented, List.foldlM_nil]
  rfl

end Reflow.Dump
