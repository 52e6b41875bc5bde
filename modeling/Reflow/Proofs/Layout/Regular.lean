import Reflow.Proofs.Layout.Content

/-!
# Regular tokens

What a layout may rely on where blanks are moved about. A token is a text without blanks that is
recognised wherever it stands, whatever follows it, and neither the end of a token nor the start of
a closing one occurs inside of another token. So no token lies across the seam of two lines, and
taking blanks out makes no new tokens.
-/

namespace Reflow.Layout

/-- A token that a layout recognises somewhere, in its role. -/
def HasToken (layout : Layout) (role : TokenClass) (token : Token) : Prop :=
  ∃ text, layout.classify? text = some (role, token)

/-- A layout with regular tokens. -/
structure Regular (layout : Layout) : Prop where
  starts : layout.TokensStart
  /-- A token is recognised before any other text as well. -/
  carries {role : TokenClass} {token : Token} (known : layout.HasToken role token) (after : Text) :
    layout.classify? (token.text ++ after) = some (role, token)
  inked {role : TokenClass} {token : Token} (known : layout.HasToken role token) :
    token.text.Inked
  /-- The last character of a token is in no token before its end. -/
  lastOutside {role otherRole : TokenClass} {token other : Token} {front : Text} {char : Char}
    (known : layout.HasToken role token) (ends : token.text = front ++ [char])
    (otherKnown : layout.HasToken otherRole other) : char ∉ other.text.dropLast
  /-- The first character of a closing token is in no token behind its start. -/
  firstOutside {otherRole : TokenClass} {token other : Token} {char : Char} {rest : Text}
    (known : layout.HasToken .closing token) (begins : token.text = char :: rest)
    (otherKnown : layout.HasToken otherRole other) : char ∉ other.text.tail

variable {layout : Layout} {role : TokenClass} {token : Token}

theorem HasToken.ne_nil (known : layout.HasToken role token) : token.text ≠ [] := by
  obtain ⟨text, found⟩ := known
  exact text_ne_nil_of_classify? found

namespace Regular

variable (regular : layout.Regular)
include regular

theorem exists_append {text : Text} (found : layout.classify? text = some (role, token)) :
    ∃ rest, text = token.text ++ rest := by
  obtain ⟨rest, equal⟩ := regular.starts text role token found
  exact ⟨rest, equal.symm⟩

/-- Behind a known token the scan goes on with what follows. -/
theorem scan_token (known : layout.HasToken role token) (level : Int) (behindToken : Bool)
    (rest : Text) :
    layout.scan level behindToken (token.text ++ rest) =
      (layout.scan (role.levelBehind level) true rest).map (role.marks level token.text ++ ·) := by
  rw [scan_of_classify? (regular.carries known rest), Token.byteLength, Text.dropBytes?_byteLength,
    Option.bind_some]

theorem classify?_eq_none_of_isBlank {char : Char} (isBlank : Text.isBlank char = true)
    (rest : Text) : layout.classify? (char :: rest) = none := by
  cases found : layout.classify? (char :: rest) with
  | none => rfl
  | some match' =>
      obtain ⟨role, token⟩ := match'
      have known : layout.HasToken role token := ⟨_, found⟩
      obtain ⟨behind, equal⟩ := regular.exists_append found
      cases start : token.text with
      | nil => exact absurd start known.ne_nil
      | cons first others =>
          rw [start, List.cons_append, List.cons.injEq] at equal
          have inked := regular.inked known first (start ▸ List.mem_cons_self)
          rw [← equal.1, isBlank] at inked
          cases inked

theorem head?_ne_space (known : layout.HasToken role token) (rest : Text) :
    (token.text ++ rest).head? ≠ some ' ' := by
  rw [List.head?_append_of_ne_nil _ known.ne_nil]
  intro space
  have inked := regular.inked known ' ' (List.mem_of_mem_head? space)
  exact absurd inked (by decide)

/-- Spaces behind a token are skipped, up to something else. -/
theorem scan_gap {level : Int} {gap rest : Text} (spaces : ∀ char ∈ gap, char = ' ')
    (stops : rest.head? ≠ some ' ') :
    layout.scan level true (gap ++ rest) = layout.scan level false rest := by
  cases found : layout.classify? (gap ++ rest) with
  | none =>
      rw [scan_behindToken found, List.dropWhile_append_of_pos (by simpa using spaces)]
      congr 1
      cases rest with
      | nil => rfl
      | cons char rest =>
          have other : char ≠ ' ' := by simpa using stops
          simp [other]
  | some match' =>
      cases gap with
      | nil =>
          rw [List.nil_append] at found ⊢
          rw [scan_of_classify? found, scan_of_classify? found]
      | cons char gap =>
          have space := spaces char List.mem_cons_self
          subst space
          rw [List.cons_append, regular.classify?_eq_none_of_isBlank (by decide)] at found
          cases found

/-- Behind a token all spaces are skipped. -/
theorem scan_skip (level : Int) (text : Text) :
    layout.scan level true text = layout.scan level false (text.dropWhile (· == ' ')) := by
  have spaces : ∀ char ∈ text.takeWhile (· == ' '), char = ' ' := fun char listed => by
    simpa using List.all_eq_true.mp (List.all_takeWhile (l := text)) char listed
  have stops : (text.dropWhile (· == ' ')).head? ≠ some ' ' := by
    intro space
    have first := List.head?_dropWhile_not (· == ' ') text
    rw [space] at first
    cases first
  have skipped : layout.scan level true _ = _ := regular.scan_gap spaces stops
  rwa [List.takeWhile_append_dropWhile] at skipped

theorem scan_of_head?_ne {level : Int} {rest : Text} (stops : rest.head? ≠ some ' ') :
    layout.scan level true rest = layout.scan level false rest := by
  have nothing : ∀ char ∈ ([] : Text), char = ' ' := by simp
  simpa using regular.scan_gap nothing stops

end Regular

end Reflow.Layout
