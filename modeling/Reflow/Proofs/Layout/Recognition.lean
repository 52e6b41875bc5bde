import Reflow.Proofs.Layout.Tag

/-!
# What the preset for tags recognises

The tokens of the preset for tags can be told by a look at the characters ahead, without candidates
and patterns: a bracket or a separator is a token of one character, and what stands between an angle
and the next closing angle decides about a tag.
-/

namespace Reflow

namespace TagToken

variable {role : TokenClass} {token : Token} {text inside name after : Text}

/-! ## The characters ahead -/

/-- The role of a bracket or of a separator. -/
def signRole? (char : Char) : Option TokenClass :=
  if char ∈ ['{', '[', '('] then some .opening
  else if char ∈ ['}', ']', ')'] then some .closing
  else if char ∈ [';', ','] then some .breaking
  else none

/-- The role of a tag and its name, by what stands between its angles. -/
def roleAndName : Text → TokenClass × Text
  | '/' :: name => (.closing, name)
  | name => (.opening, name)

/-- Whether a text is one or more characters of words. -/
def isName (name : Text) : Bool :=
  !name.isEmpty && name.all Unicode.isWord

theorem isName_iff :
    isName name = true ↔ name ≠ [] ∧ ∀ char ∈ name, Unicode.isWord char = true := by
  simp [isName]

/-- How a tag is recognised by its name: the one that is a candidate as it is written, and any word
by a pattern. -/
def nameKind? (name : Text) : Option TokenKind :=
  if name = ['\\', 'w', '+'] then some .literal
  else if isName name then some .pattern
  else none

/-- The tag at an angle that `rest` follows. It goes up to the first closing angle. -/
def tag? (rest : Text) : Option (TokenClass × Token) :=
  if '>' ∈ rest then
    let inside := rest.takeWhile (· != '>')
    (nameKind? (roleAndName inside).2).map fun kind =>
      ((roleAndName inside).1, { text := '<' :: (inside ++ ['>']), kind })
  else none

/-- The token at the start of a text with its role. -/
def recognise? : Text → Option (TokenClass × Token)
  | [] => none
  | '<' :: rest => tag? rest
  | char :: _ => (signRole? char).map fun role => (role, { text := [char], kind := .literal })

/-! ## What is recognised is a token -/

theorem mem_candidates_of_signRole? {char : Char} (known : signRole? char = some role) :
    [char] ∈ LayoutOptions.tags.candidates role := by
  simp only [signRole?, List.mem_cons, List.not_mem_nil, or_false] at known
  split at known
  · next sign =>
    cases known
    rcases sign with rfl | rfl | rfl <;> decide
  · split at known
    · next sign =>
      cases known
      rcases sign with rfl | rfl | rfl <;> decide
    · split at known
      · next sign =>
        cases known
        rcases sign with rfl | rfl <;> decide
      · cases known

/-- A tag is the start for its role and then its name. -/
theorem exists_start_append_name (inside : Text) :
    ∃ start, tagStart? (roleAndName inside).1 = some start ∧
      start ++ (roleAndName inside).2 = '<' :: inside := by
  rw [roleAndName.eq_def]
  split
  · exact ⟨['<', '/'], rfl, rfl⟩
  · exact ⟨['<'], rfl, rfl⟩

/-- A text with a closing angle is what stands before the first one, and what follows it. -/
theorem exists_eq_takeWhile_append (listed : '>' ∈ text) :
    ∃ after, text = text.takeWhile (· != '>') ++ '>' :: after := by
  induction text with
  | nil => cases listed
  | cons char rest ih =>
      by_cases same : char = '>'
      · exact ⟨rest, by simp [same]⟩
      · have behind : '>' ∈ rest := (List.mem_cons.mp listed).resolve_left (Ne.symm same)
        obtain ⟨after, equal⟩ := ih behind
        refine ⟨after, ?_⟩
        rw [List.takeWhile_cons_of_pos (by simpa using same), List.cons_append, ← equal]

theorem of_tag? (found : tag? text = some (role, token)) :
    TagToken role token ∧ token.text <+: '<' :: text := by
  rw [tag?] at found
  split at found
  · next listed =>
    obtain ⟨after, equal⟩ := exists_eq_takeWhile_append listed
    obtain ⟨kind, known, same⟩ := Option.map_eq_some_iff.mp found
    obtain ⟨start, isStart, whole⟩ := exists_start_append_name (text.takeWhile (· != '>'))
    cases same
    constructor
    · rw [← List.cons_append, ← whole]
      rw [nameKind?] at known
      split at known
      · next name =>
        cases known
        rw [name]
        apply TagToken.literal
        generalize (roleAndName (text.takeWhile (· != '>'))).1 = role at isStart
        cases role <;> cases isStart <;> decide
      · split at known
        · next word =>
          cases known
          obtain ⟨notEmpty, words⟩ := isName_iff.mp word
          exact .named isStart notEmpty words
        · cases known
    · refine ⟨after, ?_⟩
      conv_rhs => rw [equal]
      simp
  · cases found

theorem of_recognise? (found : recognise? text = some (role, token)) :
    TagToken role token ∧ token.text <+: text := by
  rw [recognise?.eq_def] at found
  split at found
  · cases found
  · exact of_tag? found
  · next char rest _ =>
    obtain ⟨_, known, same⟩ := Option.map_eq_some_iff.mp found
    cases same
    exact ⟨.literal (mem_candidates_of_signRole? known), rest, rfl⟩

/-! ## Every token is recognised -/

theorem isSome_nameKind? (notEmpty : name ≠ [])
    (words : ∀ char ∈ name, Unicode.isWord char = true) : (nameKind? name).isSome := by
  rw [nameKind?]
  split
  · rfl
  · rw [if_pos (isName_iff.mpr ⟨notEmpty, words⟩)]
    rfl

/-- A tag with a name is recognised. -/
theorem isSome_recognise?_of_named {start : Text} (known : tagStart? role = some start)
    (notEmpty : name ≠ []) (words : ∀ char ∈ name, Unicode.isWord char = true) (after : Text) :
    (recognise? (start ++ (name ++ '>' :: after))).isSome := by
  have noAngle : '>' ∉ name := fun member => absurd (words '>' member) (by decide)
  have tag (slash : Text) (outside : '>' ∉ slash) (named : (roleAndName (slash ++ name)).2 = name) :
      (tag? (slash ++ (name ++ '>' :: after))).isSome := by
    have inside : '>' ∉ slash ++ name := by simp [outside, noAngle]
    rw [← List.append_assoc, tag?, if_pos (by simp), Text.takeWhile_append_of_cut inside (by simp)]
    simp only [named, Option.isSome_map]
    exact isSome_nameKind? notEmpty words
  cases role <;> cases known
  · apply tag [] List.not_mem_nil
    rw [List.nil_append, roleAndName.eq_def]
    split
    · have slash := words '/' List.mem_cons_self
      exact absurd slash (by decide)
    · rfl
  · exact tag ['/'] (by decide) rfl

/-- A token that starts a text is recognised. -/
theorem isSome_recognise? (isToken : TagToken role token) (starts : token.text <+: text) :
    (recognise? text).isSome := by
  obtain ⟨after, rfl⟩ := starts
  cases isToken with
  | literal listed =>
      cases role <;>
        simp only [LayoutOptions.candidates, LayoutOptions.tags, List.mem_cons, List.not_mem_nil,
          or_false] at listed <;>
        rcases listed with rfl | rfl | rfl | rfl <;>
        simp [recognise?, signRole?, tag?, roleAndName, nameKind?]
  | named known notEmpty words =>
      simpa using isSome_recognise?_of_named known notEmpty words after

theorem recognise?_eq_some_iff :
    recognise? text = some (role, token) ↔ TagToken role token ∧ token.text <+: text := by
  constructor
  · exact of_recognise?
  · rintro ⟨isToken, starts⟩
    obtain ⟨⟨otherRole, other⟩, found⟩ :=
      Option.isSome_iff_exists.mp (isToken.isSome_recognise? starts)
    obtain ⟨otherIsToken, otherStarts⟩ := of_recognise? found
    obtain ⟨rfl, rfl⟩ := isToken.eq_of_prefix otherIsToken starts otherStarts
    exact found

end TagToken

/-- At every offset the preset for tags recognises exactly the brackets, the separators, the tags of
any name and the two candidates for tags as they are written. -/
theorem Layout.classifyAt?_tags (text : Text) (offset : Nat) :
    (ofOptions LayoutOptions.tags).classifyAt? text offset =
      (text.dropBytes? offset).bind TagToken.recognise? := by
  have same : (ofOptions LayoutOptions.tags).classify? = TagToken.recognise? := by
    funext ahead
    apply Option.ext
    rintro ⟨role, token⟩
    exact classify?_tags_eq_some_iff.trans TagToken.recognise?_eq_some_iff.symm
  rw [classifyAt?, same]

end Reflow
