import Reflow.Layout.Mark
import Reflow.Layout.Options
import Reflow.Token

/-!
# Scanning for structure

A layout walks through a text and looks for a token at every place. An opening token ends its line
and goes down a level, a closing one starts a line one level up, a breaking one ends its line.
Spaces behind a token are skipped; everything else is copied. Nothing is ever rejected: levels below
zero are drawn like level zero.
-/

namespace Reflow

/-- The role of a token. -/
inductive TokenClass where
  | opening
  | closing
  | breaking
deriving DecidableEq, Repr

namespace TokenClass

/-- The level behind a token of a class. -/
def levelBehind (level : Int) : TokenClass → Int
  | .opening => level + 1
  | .closing => level - 1
  | .breaking => level

/-- What a token of a class puts on paper. -/
def marks (level : Int) (text : Text) : TokenClass → List Mark
  | .opening => [.write text, .turn (level + 1)]
  | .closing => [.turn (level - 1), .write text]
  | .breaking => [.write text, .turn level]

end TokenClass

/-- Options with their candidates prepared. -/
structure Layout where
  options : LayoutOptions
  opening : Candidates
  closing : Candidates
  breaking : Candidates

namespace Layout

/-- Prepare the candidates of options. -/
def ofOptions (options : LayoutOptions) : Layout where
  options := options
  opening := .ofTexts options.openTokens
  closing := .ofTexts options.closeTokens
  breaking := .ofTexts options.breakTokens

/-- The token at the start of a text with its role. Opening tokens win over closing ones, and these
over breaking ones. -/
def classify? (layout : Layout) (text : Text) : Option (TokenClass × Token) :=
  ((layout.opening.match? text).map (TokenClass.opening, ·)).or
    (((layout.closing.match? text).map (TokenClass.closing, ·)).or
      ((layout.breaking.match? text).map (TokenClass.breaking, ·)))

/-- The token at a byte offset of a text with its role. -/
def classifyAt? (layout : Layout) (text : Text) (offset : Nat) : Option (TokenClass × Token) :=
  (text.dropBytes? offset).bind layout.classify?

/-- A token found at the start of a text holds at least one character. -/
theorem text_ne_nil_of_classify? {layout : Layout} {text : Text} {role : TokenClass} {token : Token}
    (found : layout.classify? text = some (role, token)) : token.text ≠ [] := by
  simp only [classify?, Option.or_eq_some_iff, Option.map_eq_some_iff] at found
  rcases found with ⟨_, found, equal⟩ | ⟨_, ⟨_, found, equal⟩ | ⟨_, ⟨_, found, equal⟩⟩⟩ <;>
    cases equal <;> exact Candidates.text_ne_nil_of_match? found

/-- What is left of a text behind a token is shorter than the text. -/
theorem length_lt_of_classify? {layout : Layout} {text rest : Text} {role : TokenClass}
    {token : Token} (found : layout.classify? text = some (role, token))
    (left : text.dropBytes? token.byteLength = some rest) : rest.length < text.length :=
  Text.length_lt_of_dropBytes? (Token.byteLength_pos (text_ne_nil_of_classify? found)) left

/-- The marks for a text, scanned on a level. `behindToken` tells whether the latest thing scanned
was a token. There are no marks if a token, counted in bytes, ends inside of a character: this takes
a pattern that matches further on in the text. -/
def scan (layout : Layout) (level : Int) (behindToken : Bool) (text : Text) : Option (List Mark) :=
  match text with
  | [] => some []
  | char :: rest =>
      match _ : layout.classify? (char :: rest) with
      | some (role, token) =>
          match _ : Text.dropBytes? token.byteLength (char :: rest) with
          | none => none
          | some rest =>
              (scan layout (role.levelBehind level) true rest).map
                (role.marks level token.text ++ ·)
      | none =>
          if behindToken then scan layout level false ((char :: rest).dropWhile (· == ' '))
          else (scan layout level false rest).map (.write [char] :: ·)
termination_by (text.length, behindToken.toNat)
decreasing_by
  · exact Prod.Lex.left _ _ (length_lt_of_classify? (by assumption) (by assumption))
  · rename_i behind
    subst behind
    rcases Nat.lt_or_eq_of_le (List.dropWhile_suffix (l := char :: rest) (· == ' ')).length_le with
      shorter | equal
    · exact Prod.Lex.left _ _ shorter
    · rw [equal]
      exact Prod.Lex.right _ (by decide)
  · exact Prod.Lex.left _ _ (Nat.lt_succ_self _)

/-- The lines of a text, laid out anew. The layout that the text came with does not matter: line
breaks and the blanks around them are removed first. -/
def lines? (layout : Layout) (text : Text) : Option (List Text) :=
  (layout.scan 0 false (text.withoutBreaks Text.isLineBreak)).map
    (Mark.lines layout.options.indentation)

/-- Lay a text out anew. -/
def reflow? (layout : Layout) (text : Text) : Option Text :=
  (layout.lines? text).map (Text.joinWith layout.options.lineEnding.text)

end Layout

end Reflow
