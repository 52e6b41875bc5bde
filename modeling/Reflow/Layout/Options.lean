import Reflow.Text.Basic

/-!
# Options of a layout

Three lists of candidates say which tokens open a level, close one or only end a line. Two more
options say how wide a level is indented and how lines are ended.
-/

namespace Reflow

/-- How lines are ended. -/
inductive LineEnding where
  /-- By a carriage return and a line feed. -/
  | crlf
  /-- By a line feed. -/
  | lf
deriving DecidableEq, Repr

namespace LineEnding

/-- The characters between two lines. -/
def text : LineEnding → Text
  | .crlf => ['\r', '\n']
  | .lf => ['\n']

end LineEnding

/-- What a layout is derived from. -/
structure LayoutOptions where
  /-- Candidates for tokens that open a level. -/
  openTokens : List Text
  /-- Candidates for tokens that close a level. -/
  closeTokens : List Text
  /-- Candidates for tokens after which a line ends on the same level. -/
  breakTokens : List Text
  /-- Number of spaces for each level. -/
  indentWidth : Nat
  lineEnding : LineEnding
deriving DecidableEq, Repr

namespace LayoutOptions

/-- Brackets of three kinds and tags of any name. -/
def tags : LayoutOptions where
  openTokens := [['{'], ['['], ['('], "<\\w+>".toList]
  closeTokens := [['}'], [']'], [')'], "</\\w+>".toList]
  breakTokens := [[';'], [',']]
  indentWidth := 4
  lineEnding := .lf

/-- Brackets of three kinds. -/
def brackets : LayoutOptions :=
  { tags with
    openTokens := [['{'], ['['], ['(']]
    closeTokens := [['}'], [']'], [')']] }

/-- The largest width of a level; wider levels are drawn with this width. -/
def largestIndentWidth : Nat := 64

/-- The largest number of spaces before a line; deeper levels are drawn with this number. -/
def largestIndentation : Nat := 0xFFFFFFFFFFFFFFFF

/-- The spaces before a line on a level. Levels below zero have none. -/
def indentation (options : LayoutOptions) (level : Int) : Text :=
  List.replicate
    (min (level.toNat * min options.indentWidth largestIndentWidth) largestIndentation) ' '

end LayoutOptions

end Reflow
