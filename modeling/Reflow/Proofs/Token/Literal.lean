import Reflow.Proofs.Token.Place

/-!
# The literal phase

Narrowing the candidates one character at a time comes to a condition on the list as a whole: the
literal that is found starts the text, and it is the one candidate that starts with it. The order of
the candidates does not matter.
-/

namespace Reflow.Candidates

theorem filter_isPrefixOf_cons (char : Char) (found : Text) (live : List Text) :
    live.filter (List.isPrefixOf (char :: found)) =
      ((live.filterMap (Text.dropStart? [char])).filter found.isPrefixOf).map (char :: ·) := by
  induction live with
  | nil => rfl
  | cons candidate live ih =>
      cases candidate with
      | nil =>
          rw [List.filterMap_cons_none rfl, ← ih]
          rfl
      | cons first rest =>
          by_cases same : char = first
          · subst same
            cases starts : found.isPrefixOf rest with
            | true => simp [Text.dropStart?, List.isPrefixOf, starts, ih]
            | false => simp [Text.dropStart?, List.isPrefixOf, starts, ih]
          · simp [Text.dropStart?, List.isPrefixOf, same, ih]

/-! ## Narrowing -/

@[simp] theorem narrow_nil (text : Text) : narrow [] text = none := by
  cases text <;> simp [narrow]

theorem narrow_eq_some_nil_iff {live : List Text} {text : Text} :
    narrow live text = some [] ↔ live = [[]] := by
  cases text with
  | nil => simp [narrow]
  | cons char rest =>
      simp only [narrow]
      split
      · simp
      · next goesOn =>
        constructor
        · intro narrowed
          simp at narrowed
        · rintro rfl
          exact absurd rfl goesOn

theorem narrow_eq_some_cons_iff {live : List Text} {char first : Char} {rest found : Text} :
    narrow live (char :: rest) = some (first :: found) ↔
      char = first ∧ narrow (live.filterMap (Text.dropStart? [char])) rest = some found := by
  simp only [narrow]
  split
  · next empty =>
    rw [List.isEmpty_iff.mp empty, narrow_nil]
    split <;> simp
  · rw [Option.map_eq_some_iff]
    constructor
    · rintro ⟨tail, narrowed, equal⟩
      cases equal
      exact ⟨rfl, narrowed⟩
    · rintro ⟨rfl, narrowed⟩
      exact ⟨found, narrowed, rfl⟩

/-- What narrowing finds starts the text, and only one candidate starts with it: itself. -/
theorem narrow_eq_some_iff {live : List Text} {text found : Text} :
    narrow live text = some found ↔ found <+: text ∧ live.filter found.isPrefixOf = [found] := by
  induction found generalizing live text with
  | nil =>
      have all : live.filter (List.isPrefixOf []) = live := by simp [List.isPrefixOf]
      rw [narrow_eq_some_nil_iff, all]
      exact (and_iff_right List.nil_prefix).symm
  | cons first found ih =>
      cases text with
      | nil => simp [narrow]
      | cons char rest =>
          rw [narrow_eq_some_cons_iff, List.cons_prefix_cons, and_assoc, eq_comm]
          apply and_congr_right
          rintro rfl
          rw [ih, filter_isPrefixOf_cons, List.map_eq_singleton_iff]
          simp

/-! ## The literal phase -/

/-- The literal phase in one condition. -/
theorem matchLiteral?_ofTexts_eq_some_iff {texts : List Text} {text : Text} {token : Token} :
    (ofTexts texts).matchLiteral? text = some token ↔
      token.kind = .literal ∧ token.text ≠ [] ∧ token.text <+: text ∧
        texts.filter token.text.isPrefixOf = [token.text] := by
  have literals : (ofTexts texts).map (·.literal) = texts := by
    simp [ofTexts, Candidate.ofText, Function.comp_def]
  have pending (found : Text) (notEmpty : found ≠ []) :
      (texts.filter fun candidate => !candidate.isEmpty).filter found.isPrefixOf =
        texts.filter found.isPrefixOf := by
    rw [List.filter_filter]
    congr 1
    funext candidate
    cases found with
    | nil => exact absurd rfl notEmpty
    | cons first found => cases candidate <;> simp [List.isPrefixOf]
  rw [matchLiteral?, literals, Option.map_eq_some_iff]
  constructor
  · rintro ⟨found, narrowed, rfl⟩
    have notEmpty : found ≠ [] := ne_nil_of_narrow (by simp) narrowed
    obtain ⟨starts, single⟩ := narrow_eq_some_iff.mp narrowed
    rw [pending found notEmpty] at single
    exact ⟨rfl, notEmpty, starts, single⟩
  · rintro ⟨literal, notEmpty, starts, single⟩
    refine ⟨token.text, narrow_eq_some_iff.mpr ⟨starts, ?_⟩, ?_⟩
    · rw [pending token.text notEmpty, single]
    · rw [← literal]

theorem mem_of_filter_isPrefixOf_eq {texts : List Text} {found : Text}
    (alone : texts.filter found.isPrefixOf = [found]) : found ∈ texts :=
  (List.mem_filter.mp (alone ▸ List.mem_singleton_self found)).1

/-- A text that is listed once, and that no other entry of the list starts with. -/
theorem filter_isPrefixOf_eq_singleton_iff {texts : List Text} {found : Text} :
    texts.filter found.isPrefixOf = [found] ↔
      texts.count found = 1 ∧ ∀ other ∈ texts.erase found, ¬found <+: other := by
  have apart (listed : found ∈ texts) : (texts.filter found.isPrefixOf).Perm
      (found :: (texts.erase found).filter found.isPrefixOf) := by
    have perm := (List.perm_cons_erase listed).filter found.isPrefixOf
    rwa [List.filter_cons_of_pos (by simp)] at perm
  constructor
  · intro alone
    have listed := mem_of_filter_isPrefixOf_eq alone
    constructor
    · rw [← List.count_filter (p := found.isPrefixOf) (by simp), alone]
      exact List.count_singleton_self
    · have others := apart listed
      rw [alone, List.singleton_perm, List.cons.injEq, eq_comm (a := []),
        List.filter_eq_nil_iff] at others
      intro other member starts
      exact others.2 other member (List.isPrefixOf_iff_prefix.mpr starts)
  · rintro ⟨once, others⟩
    have listed : found ∈ texts := List.count_pos_iff.mp (once ▸ Nat.one_pos)
    have nothing : (texts.erase found).filter found.isPrefixOf = [] := by
      rw [List.filter_eq_nil_iff]
      intro other member
      rw [List.isPrefixOf_iff_prefix]
      exact others other member
    have alone := apart listed
    rw [nothing, List.perm_singleton] at alone
    exact alone

/-- Where no candidate starts with another one, every candidate that starts the text is found. -/
theorem matchLiteral?_ofTexts_of_alone {texts : List Text}
    (alone : ∀ candidate ∈ texts, candidate ≠ [] ∧ texts.filter candidate.isPrefixOf = [candidate])
    {text : Text} {token : Token} :
    (ofTexts texts).matchLiteral? text = some token ↔
      token.kind = .literal ∧ token.text ∈ texts ∧ token.text <+: text := by
  rw [matchLiteral?_ofTexts_eq_some_iff]
  constructor
  · rintro ⟨literal, -, starts, single⟩
    exact ⟨literal, mem_of_filter_isPrefixOf_eq single, starts⟩
  · rintro ⟨literal, listed, starts⟩
    obtain ⟨notEmpty, single⟩ := alone token.text listed
    exact ⟨literal, notEmpty, starts, single⟩

/-! ## The literal at a place -/

/-- The literal that a list of candidates has at the start of a text: a text that is not empty and
starts the text, is one entry of the list, and starts no other entry. -/
structure IsLiteral (texts : List Text) (text found : Text) : Prop where
  notEmpty : found ≠ []
  starts : found <+: text
  once : texts.count found = 1
  others : ∀ other ∈ texts.erase found, ¬found <+: other

theorem matchLiteral?_ofTexts_iff_isLiteral {texts : List Text} {text found : Text} :
    (ofTexts texts).matchLiteral? text = some { text := found, kind := .literal } ↔
      IsLiteral texts text found := by
  rw [matchLiteral?_ofTexts_eq_some_iff, filter_isPrefixOf_eq_singleton_iff]
  constructor
  · rintro ⟨-, notEmpty, starts, once, others⟩
    exact { notEmpty, starts, once, others }
  · intro isLiteral
    exact ⟨rfl, isLiteral.notEmpty, isLiteral.starts, isLiteral.once, isLiteral.others⟩

theorem match?_eq_some_literal_iff {candidates : Candidates} {text found : Text}
    (goesOn : text ≠ []) :
    candidates.match? text = some { text := found, kind := .literal } ↔
      candidates.matchLiteral? text = some { text := found, kind := .literal } := by
  constructor
  · intro matched
    rcases match?_eq_some matched with literal | ⟨-, decider, -, other⟩
    · exact literal
    · cases other
  · intro literal
    rw [match?, if_neg (by simpa using goesOn), literal]
    rfl

theorem IsLiteral.perm {texts others : List Text} {text found : Text} (perm : texts.Perm others)
    (isLiteral : IsLiteral texts text found) : IsLiteral others text found where
  notEmpty := isLiteral.notEmpty
  starts := isLiteral.starts
  once := by rw [← perm.count_eq, isLiteral.once]
  others other member := isLiteral.others other ((perm.erase found).mem_iff.mpr member)

theorem IsLiteral.eq {texts : List Text} {text first second : Text}
    (isFirst : IsLiteral texts text first) (isSecond : IsLiteral texts text second) :
    first = second := by
  rw [← matchLiteral?_ofTexts_iff_isLiteral] at isFirst isSecond
  cases isFirst.symm.trans isSecond
  rfl

/-- The literal phase in closed form. At a place before the end of a text, a literal token is found
exactly if it is the literal there; there is one literal at most, and it stays the same when the
candidates are put in another order. -/
theorem matchAt?_eq_some_literal_iff (texts : List Text) (text : Text) (offset : Nat)
    (ahead : Text) (cut : text.dropBytes? offset = some ahead) (goesOn : ahead ≠ []) :
    (∀ found, (ofTexts texts).matchAt? text offset = some { text := found, kind := .literal } ↔
      IsLiteral texts ahead found) ∧
    (∀ first second, IsLiteral texts ahead first → IsLiteral texts ahead second →
      first = second) ∧
    ∀ others, texts.Perm others → ∀ found,
      (ofTexts others).matchAt? text offset = some { text := found, kind := .literal } ↔
        (ofTexts texts).matchAt? text offset = some { text := found, kind := .literal } := by
  have closedForm (texts : List Text) (found : Text) :
      (ofTexts texts).matchAt? text offset = some { text := found, kind := .literal } ↔
        IsLiteral texts ahead found := by
    rw [matchAt?, cut, Option.bind_some, match?_eq_some_literal_iff goesOn,
      matchLiteral?_ofTexts_iff_isLiteral]
  refine ⟨closedForm texts, fun first second => IsLiteral.eq, ?_⟩
  intro others perm found
  rw [closedForm, closedForm]
  constructor
  · exact IsLiteral.perm perm.symm
  · exact IsLiteral.perm perm

/-- Candidates that start with each other, with an empty one and one that is listed twice: the
longest is the literal, whatever the order. -/
theorem matchAt?_eq_some_literal_iff_of_nested :
    Text.dropBytes? 2 "é<<<".toList = some "<<<".toList ∧ "<<<".toList ≠ [] ∧
    (ofTexts ["<".toList, "<<<".toList, [], "<<".toList, "<".toList]).matchAt? "é<<<".toList 2 =
      some { text := "<<<".toList, kind := .literal } ∧
    List.Perm ["<".toList, "<<<".toList, [], "<<".toList, "<".toList]
      ["<<".toList, "<".toList, "<".toList, "<<<".toList, []] ∧
    (ofTexts ["<<".toList, "<".toList, "<".toList, "<<<".toList, []]).matchAt? "é<<<".toList 2 =
      some { text := "<<<".toList, kind := .literal } := by
  have cut : Text.dropBytes? 2 "é<<<".toList = some "<<<".toList := by decide
  have perm : List.Perm ["<".toList, "<<<".toList, [], "<<".toList, "<".toList]
      ["<<".toList, "<".toList, "<".toList, "<<<".toList, []] := by decide
  have isLiteral : IsLiteral ["<".toList, "<<<".toList, [], "<<".toList, "<".toList]
      "<<<".toList "<<<".toList :=
    { notEmpty := by decide, starts := by decide, once := by decide, others := by decide }
  obtain ⟨closedForm, -, ordered⟩ := matchAt?_eq_some_literal_iff
    ["<".toList, "<<<".toList, [], "<<".toList, "<".toList] "é<<<".toList 2 "<<<".toList cut
    (by decide)
  have found := (closedForm "<<<".toList).mpr isLiteral
  exact ⟨cut, by decide, found, perm, (ordered _ perm _).mpr found⟩

/-! ## Single characters -/

section Singles

variable {texts : List Text} (single : ∀ candidate ∈ texts, ∃ char, candidate = [char])
include single

theorem matchPattern?_of_single (text : Text) : (ofTexts texts).matchPattern? text = none := by
  rw [matchPattern?, List.findSome?_eq_none_iff]
  intro candidate member
  obtain ⟨literal, listed, rfl⟩ := List.mem_map.mp member
  obtain ⟨char, rfl⟩ := single literal listed
  rfl

theorem filter_isPrefixOf_of_single (char : Char) :
    texts.filter (List.isPrefixOf [char]) = List.replicate (texts.count [char]) [char] := by
  rw [← List.filter_beq]
  apply List.filter_congr
  intro candidate listed
  obtain ⟨other, rfl⟩ := single candidate listed
  rw [Bool.eq_iff_iff, List.isPrefixOf_iff_prefix, beq_iff_eq]
  simp [eq_comm]

/-- A character that is listed once is a token. One that is listed several times is none, as the
literal phase is left with several candidates. -/
theorem match?_of_single (char : Char) (rest : Text) :
    (ofTexts texts).match? (char :: rest) =
      if texts.count [char] = 1 then some { text := [char], kind := .literal } else none := by
  rw [match?, List.isEmpty_cons, if_neg Bool.false_ne_true, matchPattern?_of_single single,
    Option.or_none]
  apply Option.ext
  intro token
  rw [matchLiteral?_ofTexts_eq_some_iff]
  constructor
  · rintro ⟨literal, -, starts, alone⟩
    have listed := mem_of_filter_isPrefixOf_eq alone
    obtain ⟨other, equal⟩ := single token.text listed
    rw [equal, List.cons_prefix_cons] at starts
    obtain rfl := starts.1
    have once : texts.count [other] = 1 := by
      have length := congrArg List.length alone
      rwa [equal, filter_isPrefixOf_of_single single, List.length_replicate] at length
    rw [if_pos once, ← equal, ← literal]
  · intro found
    split at found
    · next once =>
      cases found
      refine ⟨rfl, by simp, by simp, ?_⟩
      rw [filter_isPrefixOf_of_single single, once]
      rfl
    · cases found

end Singles

end Reflow.Candidates
