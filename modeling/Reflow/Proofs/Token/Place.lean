import Reflow.Proofs.Pattern.Search
import Reflow.Token

/-!
# Where a token is found

A token of the literal phase is a start of the text. A token that a pattern finds may stand further
on, but only where a candidate closes the group that its pattern is wrapped in: the rest of such a
candidate is an alternative that is not anchored.
-/

namespace Reflow

namespace Candidate

/-- The match that decides about a token: what the candidate, as a pattern, finds in a text, if that
is not empty. -/
def found? (candidate : Candidate) (text : Text) : Option Pattern.Found := do
  let found ← (← candidate.pattern).find? none text
  if found.text.isEmpty then none else some found

theorem matchPattern?_eq (candidate : Candidate) (text : Text) :
    candidate.matchPattern? text =
      (candidate.found? text).map fun found => { text := found.text, kind := .pattern } := by
  cases pattern : candidate.pattern with
  | none => simp [matchPattern?, found?, pattern]
  | some pattern' =>
      cases search : pattern'.find? none text with
      | none => simp [matchPattern?, found?, pattern, search]
      | some found =>
          simp only [matchPattern?, found?, pattern, search, bind, Option.bind_some]
          split <;> rfl

theorem find?_of_found? {candidate : Candidate} {text : Text} {found : Pattern.Found}
    (decided : candidate.found? text = some found) :
    ∃ pattern, candidate.pattern = some pattern ∧ pattern.find? none text = some found ∧
      found.text ≠ [] := by
  simp only [found?, bind, Option.bind_eq_some_iff] at decided
  obtain ⟨pattern, compiled, match', search, chosen⟩ := decided
  split at chosen
  · cases chosen
  · next notEmpty =>
    cases chosen
    exact ⟨pattern, compiled, search, by simpa using notEmpty⟩

end Candidate

namespace Candidates

/-- The match that decides about a token of the second phase: that of the first candidate with one.
-/
def found? (candidates : Candidates) (text : Text) : Option Pattern.Found :=
  candidates.findSome? (·.found? text)

/-- Candidates whose patterns all keep to the start of a text. -/
def KeepToStart (candidates : Candidates) : Prop :=
  ∀ candidate ∈ candidates, ∀ pattern, candidate.pattern = some pattern → pattern.KeepsToStart

/-- The second phase goes astray: the match that decides stands further on in the text, and its
characters are not those at the start. -/
def Astray (candidates : Candidates) (text : Text) : Prop :=
  candidates.matchLiteral? text = none ∧
    ∃ found, candidates.found? text = some found ∧ ¬found.text <+: text

theorem matchPattern?_eq (candidates : Candidates) (text : Text) :
    candidates.matchPattern? text =
      (candidates.found? text).map fun found => { text := found.text, kind := .pattern } := by
  induction candidates with
  | nil => rfl
  | cons candidate candidates ih =>
      simp only [matchPattern?, found?, List.findSome?_cons, Candidate.matchPattern?_eq] at ih ⊢
      cases candidate.found? text with
      | none => exact ih
      | some found => rfl

theorem prefix_of_narrow {live : List Text} {text found : Text}
    (narrowed : narrow live text = some found) : found <+: text := by
  induction text generalizing live found with
  | nil =>
      simp only [narrow] at narrowed
      split at narrowed <;> cases narrowed
      exact List.nil_prefix
  | cons char rest ih =>
      simp only [narrow] at narrowed
      split at narrowed
      · split at narrowed <;> cases narrowed
        exact List.nil_prefix
      · obtain ⟨others, further, rfl⟩ := Option.map_eq_some_iff.mp narrowed
        exact List.cons_prefix_cons.mpr ⟨rfl, ih further⟩

theorem prefix_of_matchLiteral? {candidates : Candidates} {text : Text} {token : Token}
    (found : candidates.matchLiteral? text = some token) :
    token.text <+: text ∧ token.kind = .literal := by
  obtain ⟨literal, narrowed, rfl⟩ := Option.map_eq_some_iff.mp found
  exact ⟨prefix_of_narrow narrowed, rfl⟩

/-- A token comes from the literal phase or, if that finds none, from the match that decides. -/
theorem match?_eq_some {candidates : Candidates} {text : Text} {token : Token}
    (found : candidates.match? text = some token) :
    candidates.matchLiteral? text = some token ∨
      candidates.matchLiteral? text = none ∧
        ∃ decider, candidates.found? text = some decider ∧
          token = { text := decider.text, kind := .pattern } := by
  simp only [match?] at found
  split at found
  · cases found
  · rcases Option.or_eq_some_iff.mp found with literal | ⟨noLiteral, byPattern⟩
    · exact .inl literal
    · rw [matchPattern?_eq, Option.map_eq_some_iff] at byPattern
      obtain ⟨decider, decided, rfl⟩ := byPattern
      exact .inr ⟨noLiteral, decider, decided, rfl⟩

/-- A token starts the text exactly where the second phase does not go astray. -/
theorem prefix_iff_not_astray {candidates : Candidates} {text : Text} {token : Token}
    (found : candidates.match? text = some token) :
    token.text <+: text ↔ ¬candidates.Astray text := by
  rcases match?_eq_some found with literal | ⟨noLiteral, decider, decided, rfl⟩
  · refine iff_of_true (prefix_of_matchLiteral? literal).1 ?_
    rintro ⟨noLiteral, -⟩
    cases literal.symm.trans noLiteral
  · constructor
    · rintro starts ⟨-, other, otherDecided, elsewhere⟩
      cases decided.symm.trans otherDecided
      exact elsewhere starts
    · intro straight
      apply Classical.byContradiction
      exact fun elsewhere => straight ⟨noLiteral, decider, decided, elsewhere⟩

theorem not_astray_of_keepToStart {candidates : Candidates} (keep : candidates.KeepToStart)
    (text : Text) : ¬candidates.Astray text := by
  rintro ⟨-, found, decided, elsewhere⟩
  obtain ⟨candidate, member, decided⟩ := List.exists_of_findSome?_eq_some decided
  obtain ⟨pattern, compiled, search, -⟩ := Candidate.find?_of_found? decided
  obtain ⟨behind, equal⟩ := Pattern.exists_append_of_find? search
  rw [keep candidate member pattern compiled text found search, List.nil_append] at equal
  exact elsewhere ⟨behind, equal.symm⟩

theorem prefix_of_match? {candidates : Candidates} (keep : candidates.KeepToStart) {text : Text}
    {token : Token} (found : candidates.match? text = some token) : token.text <+: text :=
  (prefix_iff_not_astray found).mpr (not_astray_of_keepToStart keep text)

end Candidates

/-! ## The wrapper of a candidate -/

namespace Candidate

/-- Whether a candidate closes the group that its pattern is wrapped in, so that the parenthesis
behind the candidate is not the one that ends the group. -/
def closesWrapper (candidate : Text) : Bool :=
  match Expression.readBranches (candidate.length + 4) {} {} {} (candidate ++ [')']) with
  | some (_, _, rest) => rest != [')']
  | none => false

/-- What reading a wrapped candidate comes to: the candidate is read as the body of a group, and the
reader goes on behind the parenthesis that ends the group. -/
theorem readBranches_wrapper (fuel : Nat) (rest : Text) :
    Expression.readBranches (fuel + 2) {} {} {} (['^', '(', '?', ':'] ++ rest) =
      match Expression.readBranches fuel {} {} {} rest with
      | some (body, groups, ')' :: rest) =>
          Expression.readBranches fuel {} groups { items := [.plain body, .look .textStart] } rest
      | _ => none := by
  have opening : Expression.readOpening {} {} ('?' :: ':' :: rest) = some (.plain {}, {}, rest) :=
    rfl
  simp only [List.cons_append, List.nil_append]
  rw [Expression.readBranches]
  simp only [Expression.Modes.skip, Bool.false_eq_true, if_false]
  rw [Expression.readBranches]
  simp only [Expression.Modes.skip, Bool.false_eq_true, if_false, opening]
  rfl

theorem readBranches_anchoredNotation (candidate : Text) :
    Expression.readBranches ((anchoredNotation candidate).length + 1) {} {} {}
        (anchoredNotation candidate) =
      match Expression.readBranches (candidate.length + 4) {} {} {} (candidate ++ [')']) with
      | some (body, groups, ')' :: rest) =>
          Expression.readBranches (candidate.length + 4) {} groups
            { items := [.plain body, .look .textStart] } rest
      | _ => none := by
  have length : (anchoredNotation candidate).length + 1 = candidate.length + 4 + 2 := by
    simp [anchoredNotation]
  rw [length, anchoredNotation, List.append_assoc, readBranches_wrapper]

/-- A candidate that leaves its wrapper alone is the body of a group at the start of a text. -/
theorem read?_anchoredNotation {candidate : Text} {body : Notation} {groups : Expression.Groups}
    (enclosed : Expression.readBranches (candidate.length + 4) {} {} {} (candidate ++ [')']) =
      some (body, groups, [')'])) :
    Expression.read? (anchoredNotation candidate) =
      let written := Notation.sequence [.look .textStart, .plain body]
      if written.depth ≤ Expression.depthLimit && written.fits then
        some { pattern := written.pattern, names := groups.names }
      else none := by
  -- Nothing follows the group, so the whole pattern is the sign for the start and the group.
  have ended : Expression.readBranches (candidate.length + 4) {} groups
      { items := [.plain body, .look .textStart] } [] =
        some (.sequence [.look .textStart, .plain body], groups, []) := rfl
  simp only [Expression.read?, readBranches_anchoredNotation, enclosed, ended]

/-- The pattern of a candidate that leaves its wrapper alone is anchored. -/
theorem anchored_of_closesWrapper_eq_false {candidate : Text}
    (enclosed : closesWrapper candidate = false) {pattern : Pattern}
    (compiled : (ofText candidate).pattern = some pattern) : pattern.anchored = true := by
  simp only [ofText] at compiled
  split at compiled
  · cases compiled
  · obtain ⟨expression, read, rfl⟩ := Option.map_eq_some_iff.mp compiled
    rw [closesWrapper] at enclosed
    cases inner : Expression.readBranches (candidate.length + 4) {} {} {} (candidate ++ [')']) with
    | none => simp [Expression.read?, readBranches_anchoredNotation, inner] at read
    | some whole =>
        obtain ⟨body, groups, rest⟩ := whole
        obtain rfl : rest = [')'] := by simpa [inner] using enclosed
        rw [read?_anchoredNotation inner] at read
        dsimp only at read
        split at read
        · cases read
          rfl
        · cases read

/-- Whether the pattern of a candidate may get out of its wrapper. Single characters are no
patterns, and a candidate that leaves the wrapper alone stays inside of it. -/
def escapes (candidate : Text) : Bool :=
  1 < candidate.length && closesWrapper candidate

theorem keepsToStart_of_escapes_eq_false {candidate : Text} (enclosed : escapes candidate = false)
    {pattern : Pattern} (compiled : (ofText candidate).pattern = some pattern) :
    pattern.KeepsToStart := by
  have long : 1 < candidate.length := by
    apply Classical.byContradiction
    intro short
    simp only [ofText, if_pos (Nat.le_of_not_lt short)] at compiled
    cases compiled
  apply Pattern.keepsToStart_of_anchored
  apply anchored_of_closesWrapper_eq_false _ compiled
  simpa [escapes, long] using enclosed

end Candidate

theorem Candidates.keepToStart_ofTexts {texts : List Text}
    (enclosed : ∀ candidate ∈ texts, Candidate.escapes candidate = false) :
    (ofTexts texts).KeepToStart := by
  intro candidate member pattern compiled
  obtain ⟨text, listed, rfl⟩ := List.mem_map.mp member
  exact Candidate.keepsToStart_of_escapes_eq_false (enclosed text listed) compiled

end Reflow
