import Reflow.Proofs.Pattern.Tag
import Reflow.Proofs.Pattern.Verbatim
import Reflow.Proofs.Token.Literal

/-!
# Patterns without signs

A candidate without signs of the notation is the pattern that spells it, so the pattern phase asks
whether the candidate is a prefix of the text. Single characters are passed over, and so are
candidates whose automata would be too large.
-/

namespace Reflow

open Expression (Verbatim letter longestVerbatim)

theorem Pattern.find?_spelled (start text : Text) :
    ((Pattern.seq (.look .textStart) (.spelled start)).find? none text).map (·.text) =
      if start.isPrefixOf text then some start else none := by
  rw [find?_of_anchored rfl, matchHere?_textStart]
  split
  · next isPrefix =>
    obtain ⟨after, rfl⟩ := List.isPrefixOf_iff_prefix.mp isPrefix
    obtain ⟨last, here, -, place, -⟩ := (matches_spelled start after).matchHere? none
    have taken : (start ++ after).take last.place = start := by simp [place]
    rw [here, Option.map_some, Option.map_some, taken]
  · next notPrefix =>
    have nothing : (spelled start).matchHere? none text = none := by
      apply matchHere?_eq_none
      intro taken isTaken isDescribed
      rw [describes_spelled_iff] at isDescribed
      subst isDescribed
      exact notPrefix (List.isPrefixOf_iff_prefix.mpr isTaken)
    rw [nothing]
    rfl

namespace Candidate

/-- Whether a candidate that stands for itself has a pattern: it holds more than one character, and
its automata stay within the limit. -/
def isSpelled (candidate : Text) : Bool :=
  2 ≤ candidate.length && candidate.byteLength ≤ longestVerbatim

variable {candidate : Text} (verbatim : Verbatim candidate)
include verbatim

theorem readBranches_verbatim (long : 2 ≤ candidate.length) :
    Expression.readBranches (candidate.length + 4) {} {} {} (candidate ++ [')']) =
      some (.sequence (candidate.map letter), {}, [')']) := by
  have body : Notation.ofParts (candidate.map letter) = .sequence (candidate.map letter) := by
    match candidate, long with
    | _ :: _ :: _, _ => rfl
  have ended (items : List Notation) : Expression.readBranches 4 {} {} { items } [')'] =
      some (.ofParts items.reverse, {}, [')']) := rfl
  rw [Expression.readBranches_append verbatim, ended, List.append_nil, List.reverse_reverse, body]

theorem pattern_ofText :
    (ofText candidate).pattern =
      if isSpelled candidate then some (.seq (.look .textStart) (.spelled candidate))
      else none := by
  by_cases long : 2 ≤ candidate.length
  · have notEmpty : candidate ≠ [] := by
      rintro rfl
      cases long
    have shallow : (Notation.anchored candidate).depth ≤ Expression.depthLimit :=
      Nat.le_trans (Notation.depth_anchored candidate) (by decide)
    have read := read?_anchoredNotation (readBranches_verbatim verbatim long)
    rw [← Notation.anchored] at read
    simp only [shallow, decide_true, Bool.true_and, Notation.fits_anchored notEmpty,
      Notation.pattern_anchored] at read
    simp only [ofText, read, isSpelled, long, decide_true, Bool.true_and, Nat.not_le.mpr long,
      if_false]
    split <;> rfl
  · simp [ofText, isSpelled, long, Nat.le_of_lt_succ (Nat.lt_of_not_le long)]

theorem matchPattern?_ofText (text : Text) :
    (ofText candidate).matchPattern? text =
      if isSpelled candidate && candidate.isPrefixOf text then
        some { text := candidate, kind := .pattern }
      else none := by
  rw [matchPattern?, pattern_ofText verbatim]
  by_cases spelled : isSpelled candidate = true
  · have notEmpty : candidate ≠ [] := by
      rintro rfl
      cases spelled
    have searched := Pattern.find?_spelled candidate text
    rw [if_pos spelled]
    by_cases isPrefix : candidate.isPrefixOf text = true
    · rw [if_pos isPrefix, Option.map_eq_some_iff] at searched
      obtain ⟨found, search, same⟩ := searched
      simp [search, same, notEmpty, spelled, isPrefix]
    · rw [if_neg isPrefix, Option.map_eq_none_iff] at searched
      simp [searched, isPrefix]
  · simp [spelled]

end Candidate

namespace Candidates

section Verbatim

variable {texts : List Text} (verbatim : ∀ candidate ∈ texts, Verbatim candidate)
include verbatim

theorem matchPattern?_ofTexts (text : Text) :
    (ofTexts texts).matchPattern? text =
      (texts.find? fun candidate => Candidate.isSpelled candidate && candidate.isPrefixOf text).map
        fun found => { text := found, kind := .pattern } := by
  induction texts with
  | nil => rfl
  | cons candidate texts ih =>
      rw [List.forall_mem_cons] at verbatim
      have others := ih verbatim.2
      rw [matchPattern?, ofTexts] at others ⊢
      rw [List.map_cons, List.findSome?_cons, Candidate.matchPattern?_ofText verbatim.1, others,
        List.find?_cons]
      cases Candidate.isSpelled candidate && candidate.isPrefixOf text <;> rfl

/-- Where the literal phase finds nothing, the token is the first candidate that has a pattern and
is a prefix of the text. -/
theorem match?_of_matchLiteral?_eq_none {text : Text}
    (noLiteral : (ofTexts texts).matchLiteral? text = none) :
    (ofTexts texts).match? text =
      (texts.find? fun candidate => Candidate.isSpelled candidate && candidate.isPrefixOf text).map
        fun found => { text := found, kind := .pattern } := by
  cases text with
  | cons char rest =>
      rw [match?, noLiteral, Option.none_or, matchPattern?_ofTexts verbatim]
      rfl
  | nil =>
      -- No candidate with a pattern is empty, so at the end of a text none is found.
      have nothing : (texts.find? fun candidate =>
          Candidate.isSpelled candidate && candidate.isPrefixOf []) = none := by
        rw [List.find?_eq_none]
        rintro (_ | _) - <;> simp [Candidate.isSpelled, List.isPrefixOf]
      rw [nothing]
      rfl

theorem isSome_match?_iff {text : Text}
    (spelled : ∀ candidate ∈ texts, Candidate.isSpelled candidate = true) :
    ((ofTexts texts).match? text).isSome ↔ ∃ candidate ∈ texts, candidate <+: text := by
  cases literal : (ofTexts texts).matchLiteral? text with
  | none =>
      rw [match?_of_matchLiteral?_eq_none verbatim literal, Option.isSome_map, List.find?_isSome]
      simp only [Bool.and_eq_true, List.isPrefixOf_iff_prefix]
      constructor
      · rintro ⟨candidate, listed, -, isPrefix⟩
        exact ⟨candidate, listed, isPrefix⟩
      · rintro ⟨candidate, listed, isPrefix⟩
        exact ⟨candidate, listed, spelled candidate listed, isPrefix⟩
  | some token =>
      obtain ⟨-, notEmpty, isPrefix, alone⟩ := matchLiteral?_ofTexts_eq_some_iff.mp literal
      have listed := mem_of_filter_isPrefixOf_eq alone
      have goesOn : text.isEmpty = false := by
        rw [List.isEmpty_eq_false_iff]
        rintro rfl
        exact notEmpty (List.prefix_nil.mp isPrefix)
      refine iff_of_true ?_ ⟨token.text, listed, isPrefix⟩
      rw [match?, goesOn, literal]
      rfl

end Verbatim

/-- The fallback in closed form. At a place where the literal phase finds nothing, the token is the
first candidate that is a prefix of the text ahead, of those that hold more than one character and
are short enough to have a pattern. So if all candidates are such, there is a token exactly where
one of them is a prefix. -/
theorem matchAt?_ofTexts_of_verbatim (texts : List Text)
    (verbatim : ∀ candidate ∈ texts, Verbatim candidate) (text : Text) (offset : Nat) (ahead : Text)
    (cut : text.dropBytes? offset = some ahead) :
    ((ofTexts texts).matchLiteral? ahead = none →
      (ofTexts texts).matchAt? text offset =
        (texts.find? fun candidate =>
          Candidate.isSpelled candidate && candidate.isPrefixOf ahead).map
            fun found => { text := found, kind := .pattern }) ∧
    ((∀ candidate ∈ texts, Candidate.isSpelled candidate = true) →
      (((ofTexts texts).matchAt? text offset).isSome ↔
        ∃ candidate ∈ texts, candidate <+: ahead)) := by
  rw [matchAt?, cut, Option.bind_some]
  exact ⟨match?_of_matchLiteral?_eq_none verbatim, isSome_match?_iff verbatim⟩

/-- The candidates share a start, so the literal phase follows the longer one and finds nothing. The
shorter one is a prefix. -/
theorem matchAt?_ofTexts_of_verbatim_of_shared_start :
    (∀ candidate ∈ ["end".toList, "endif".toList], Verbatim candidate) ∧
    Text.dropBytes? 2 "éendi".toList = some "endi".toList ∧
    (ofTexts ["end".toList, "endif".toList]).matchLiteral? "endi".toList = none ∧
    (ofTexts ["end".toList, "endif".toList]).matchAt? "éendi".toList 2 =
      some { text := "end".toList, kind := .pattern } ∧
    (∀ candidate ∈ ["end".toList, "endif".toList], Candidate.isSpelled candidate = true) ∧
    ∃ candidate ∈ ["end".toList, "endif".toList], candidate <+: "endi".toList := by
  have verbatim : ∀ candidate ∈ ["end".toList, "endif".toList], Verbatim candidate := by
    simp [Verbatim, Expression.signs]
  have cut : Text.dropBytes? 2 "éendi".toList = some "endi".toList := by decide
  have noLiteral : (ofTexts ["end".toList, "endif".toList]).matchLiteral? "endi".toList = none := by
    decide
  have spelled : ∀ candidate ∈ ["end".toList, "endif".toList],
      Candidate.isSpelled candidate = true := by decide
  obtain ⟨found, isSome⟩ := matchAt?_ofTexts_of_verbatim ["end".toList, "endif".toList] verbatim
    "éendi".toList 2 "endi".toList cut
  have token := found noLiteral
  refine ⟨verbatim, cut, noLiteral, token, spelled, (isSome spelled).mp ?_⟩
  rw [token]
  rfl

/-! ## Texts that are too long -/

theorem matchLiteral?_of_twice (candidate text : Text) :
    (ofTexts [candidate, candidate]).matchLiteral? text = none := by
  rw [Option.eq_none_iff_forall_ne_some]
  intro token literal
  obtain ⟨-, -, -, alone⟩ := matchLiteral?_ofTexts_eq_some_iff.mp literal
  cases starts : token.text.isPrefixOf candidate <;> simp [starts] at alone

/-- A candidate without signs that is listed twice and is too long to be a pattern is no token. -/
theorem matchAt?_of_twice {candidate : Text} (verbatim : Verbatim candidate)
    (long : longestVerbatim < candidate.byteLength) (text : Text) (offset : Nat) :
    (ofTexts [candidate, candidate]).matchAt? text offset = none := by
  have both : ∀ other ∈ [candidate, candidate], Verbatim other :=
    List.forall_mem_cons.mpr ⟨verbatim, List.forall_mem_singleton.mpr verbatim⟩
  have unspelled : Candidate.isSpelled candidate = false := by
    simp [Candidate.isSpelled, long]
  cases cut : text.dropBytes? offset with
  | none => rw [matchAt?, cut, Option.bind_none]
  | some ahead =>
      rw [matchAt?, cut, Option.bind_some,
        match?_of_matchLiteral?_eq_none both (matchLiteral?_of_twice candidate ahead)]
      simp [unspelled]

/-- A candidate without signs may be the whole text, and yet there is no token. -/
theorem matchAt?_of_twice_of_replicate :
    (∀ candidate ∈ [List.replicate 330000 'a', List.replicate 330000 'a'], Verbatim candidate) ∧
    (ofTexts [List.replicate 330000 'a', List.replicate 330000 'a']).matchLiteral?
      (List.replicate 330000 'a') = none ∧
    2 ≤ (List.replicate 330000 'a').length ∧
    List.replicate 330000 'a' <+: List.replicate 330000 'a' ∧
    (ofTexts [List.replicate 330000 'a', List.replicate 330000 'a']).matchAt?
      (List.replicate 330000 'a') 0 = none := by
  have verbatim : Verbatim (List.replicate 330000 'a') := by
    intro char member
    rw [List.eq_of_mem_replicate member]
    decide
  have long : longestVerbatim < Text.byteLength (List.replicate 330000 'a') := by
    have single : ∀ char ∈ List.replicate 330000 'a', char.utf8Size = 1 := by
      intro char member
      rw [List.eq_of_mem_replicate member]
      rfl
    rw [Text.byteLength_eq_length single, List.length_replicate]
    decide
  have longer : 2 ≤ (List.replicate 330000 'a').length := by
    rw [List.length_replicate]
    decide
  exact ⟨List.forall_mem_cons.mpr ⟨verbatim, List.forall_mem_singleton.mpr verbatim⟩,
    matchLiteral?_of_twice _ _, longer, List.prefix_refl _, matchAt?_of_twice verbatim long _ 0⟩

end Candidates

end Reflow
