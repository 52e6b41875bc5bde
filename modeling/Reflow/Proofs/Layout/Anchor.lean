import Reflow.Proofs.Layout.Content

/-!
# Tokens that go astray

A candidate is read as a pattern inside of a group behind the sign for the start of a text. A
candidate that closes this group by itself, as in `a)|(?:b`, gets out of it, and its pattern may
match further on in the text. Such a token need not start the text that it was looked for in, and
behind it the scan may come to stand inside of a character. Nothing else goes wrong: without such
candidates tokens start where the scan stands, and every text has a layout.
-/

namespace Reflow

namespace Candidates

theorem exists_escapes_of_astray {texts : List Text} {text : Text}
    (astray : (ofTexts texts).Astray text) :
    ∃ candidate ∈ texts, Candidate.escapes candidate = true := by
  apply Classical.byContradiction
  intro enclosed
  apply not_astray_of_keepToStart _ text astray
  apply keepToStart_ofTexts
  intro candidate listed
  cases escapes : Candidate.escapes candidate with
  | false => rfl
  | true => exact absurd ⟨candidate, listed, escapes⟩ enclosed

end Candidates

namespace Layout

variable {layout : Layout} {text : Text} {walker next : Walker}

/-- Only behind a token may a walker come to stand inside of a character. -/
theorem Move.exists_classify? {rest : Text} (cut : text.dropBytes? walker.offset = some rest)
    (move : Move layout walker rest next) (inside : text.dropBytes? next.offset = none) :
    ∃ role token, layout.classify? rest = some (role, token) ∧
      rest.dropBytes? token.byteLength = none := by
  cases move with
  | token found => exact ⟨_, _, found, (Text.dropBytes?_add cut).symm.trans inside⟩
  | skip notFound behind =>
      have passed := Text.dropBytes?_byteLength (rest.takeWhile (· == ' '))
        (rest.dropWhile (· == ' '))
      rw [List.takeWhile_append_dropWhile, ← Text.dropBytes?_add cut] at passed
      cases passed.symm.trans inside
  | @copy char ahead notFound behind =>
      have passed := Text.dropBytes?_cons 0 char ahead
      rw [Nat.add_zero, ← Text.dropBytes?_add cut, Text.dropBytes?_zero] at passed
      cases passed.symm.trans inside

theorem reflow?_eq_none_iff_exists_classify? :
    layout.reflow? text = none ↔
      ∃ walker rest role token, layout.Reaches text.unbroken .start walker ∧
        text.unbroken.dropBytes? walker.offset = some rest ∧
        layout.classify? rest = some (role, token) ∧
        rest.dropBytes? token.byteLength = none := by
  rw [reflow?_eq_none_iff]
  constructor
  · rintro ⟨last, reached, inside⟩
    cases reached with
    | refl => simp [Walker.start] at inside
    | @tail walker _ reached stepped =>
        obtain ⟨rest, cut, -, move⟩ := steps_iff.mp stepped
        obtain ⟨role, token, found, ends⟩ := move.exists_classify? cut inside
        exact ⟨walker, rest, role, token, reached, cut, found, ends⟩
  · rintro ⟨walker, rest, role, token, reached, cut, found, ends⟩
    have notEmpty : rest ≠ [] := by
      rintro rfl
      simp at found
    refine ⟨_, reached.tail (steps_iff.mpr ⟨rest, cut, notEmpty, .token found⟩), ?_⟩
    exact (Text.dropBytes?_add cut).trans ends

end Layout

/-- Tokens start where the scan stands, unless they go astray. A token is never empty, and it starts
the text ahead exactly if the candidates do not go astray there, which takes a candidate that gets
out of its wrapper. A text has no layout exactly if the walk finds a token whose length ends inside
of a character; without a candidate that gets out of its wrapper every text has a layout. -/
theorem matchAt?_starts_iff_not_astray (texts : List Text) (options : LayoutOptions)
    (text : Text) :
    (∀ (offset : Nat) (rest : Text) (token : Token), text.dropBytes? offset = some rest →
      (Candidates.ofTexts texts).matchAt? text offset = some token →
        token.text ≠ [] ∧ (token.text <+: rest ↔ ¬(Candidates.ofTexts texts).Astray rest) ∧
        ((Candidates.ofTexts texts).Astray rest →
          ∃ candidate ∈ texts, Candidate.escapes candidate = true)) ∧
    ((Layout.ofOptions options).reflow? text = none ↔
      ∃ walker rest role token, (Layout.ofOptions options).Reaches text.unbroken .start walker ∧
        text.unbroken.dropBytes? walker.offset = some rest ∧
        (Layout.ofOptions options).classify? rest = some (role, token) ∧
        rest.dropBytes? token.byteLength = none) ∧
    ((∀ candidate ∈ options.openTokens ++ options.closeTokens ++ options.breakTokens,
        Candidate.escapes candidate = false) →
      (∀ walker, (Layout.ofOptions options).Reaches text.unbroken .start walker →
        (text.unbroken.dropBytes? walker.offset).isSome) ∧
      ∃ output, (Layout.ofOptions options).reflow? text = some output) := by
  refine ⟨?_, Layout.reflow?_eq_none_iff_exists_classify?, ?_⟩
  · intro offset rest token cut found
    rw [Candidates.matchAt?, cut, Option.bind_some] at found
    exact ⟨Candidates.text_ne_nil_of_match? found, Candidates.prefix_iff_not_astray found,
      Candidates.exists_escapes_of_astray⟩
  · intro enclosed
    have starts := Layout.tokensStart_ofOptions
      (LayoutOptions.keepToStart_of_escapes_eq_false enclosed)
    obtain ⟨_, output, _, _, drawn, _⟩ := Layout.exists_reflow?_of_tokensStart starts text
    exact ⟨fun walker reached => (Layout.faithful_of_reaches starts reached).isSome_dropBytes?,
      output, drawn⟩

/-- The candidate `a)|(?:b` is read as `^(?:a)|(?:b)`, whose second alternative is not anchored:
before `xb` its token is the `b` further on. The token `é` that `a)|(?:é` finds before `→é` is
shorter than the arrow, so behind it the scan stands inside of the arrow. The candidates for tags
stay inside of their wrappers. -/
theorem matchAt?_starts_iff_not_astray_of_escaping :
    (∃ token, (Candidates.ofTexts ["a)|(?:b".toList]).matchAt? "xb".toList 0 = some token ∧
      token.text = ['b'] ∧ ¬token.text <+: "xb".toList) ∧
    Candidate.escapes "a)|(?:b".toList = true ∧
    (Layout.ofOptions { LayoutOptions.tags with openTokens := ["a)|(?:é".toList] }).reflow?
      "→é".toList = none ∧
    (Text.dropBytes? Walker.start.offset (Text.unbroken "<→>;é".toList)).isSome ∧
    ∃ output, (Layout.ofOptions .tags).reflow? "<→>;é".toList = some output := by
  have astray : (Candidates.ofTexts ["a)|(?:b".toList]).Astray "xb".toList := by
    refine ⟨by decide, ⟨['x'], ['b'], ?_⟩, by rfl, by decide⟩
  have found : (Candidates.ofTexts ["a)|(?:b".toList]).matchAt? "xb".toList 0 =
      some { text := ['b'], kind := .pattern } := by
    decide
  obtain ⟨-, starts, escapes⟩ := (matchAt?_starts_iff_not_astray ["a)|(?:b".toList] .tags
    "xb".toList).1 0 "xb".toList { text := ['b'], kind := .pattern } rfl found
  have noLayout := (matchAt?_starts_iff_not_astray []
    { LayoutOptions.tags with openTokens := ["a)|(?:é".toList] } "→é".toList).2.1
  have enclosed : ∀ candidate ∈ LayoutOptions.tags.openTokens ++ LayoutOptions.tags.closeTokens ++
      LayoutOptions.tags.breakTokens, Candidate.escapes candidate = false := by
    decide
  have withTags := (matchAt?_starts_iff_not_astray [] .tags "<→>;é".toList).2.2 enclosed
  refine ⟨⟨_, found, rfl, fun isStart => starts.mp isStart astray⟩, ?_, ?_,
    withTags.1 .start .refl, withTags.2⟩
  · obtain ⟨candidate, listed, getsOut⟩ := escapes astray
    rwa [List.mem_singleton.mp listed] at getsOut
  · rw [noLayout]
    exact ⟨.start, "→é".toList, .opening, { text := ['é'], kind := .pattern }, .refl, by decide,
      by decide, by decide⟩

end Reflow
