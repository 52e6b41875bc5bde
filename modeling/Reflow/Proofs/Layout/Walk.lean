import Mathlib.Logic.Relation
import Reflow.Layout.Scan
import Reflow.Proofs.Text.Bytes
import Reflow.Proofs.Text.Lines

/-!
# The scan as a walk

A scan taken one step at a time. A walker stands at a byte offset of the text and carries what has
been put on paper so far. It moves behind the token that it stands before, behind spaces or behind
one character, and it is stuck at the end of the text or where its offset is inside of a character.
Every walk ends, and the scan gives marks exactly if the walk ends at the end of the text.
-/

namespace Reflow

/-- Where a scan stands, with what it has put on paper so far. -/
structure Walker where
  /-- The number of bytes before the walker. -/
  offset : Nat
  level : Int
  /-- Whether the latest thing scanned was a token. -/
  behindToken : Bool
  marks : List Mark

/-- The walker before a text. -/
def Walker.start : Walker where
  offset := 0
  level := 0
  behindToken := false
  marks := []

namespace Layout

variable {layout : Layout} {text : Text}

/-! ## Equations of the scan -/

@[simp] theorem classify?_nil : layout.classify? [] = none := by
  simp [classify?, Candidates.match?]

@[simp] theorem scan_nil (level : Int) (behindToken : Bool) :
    layout.scan level behindToken [] = some [] := by
  rw [scan]

/-- Behind a token the scan goes on as many bytes further as the token has. -/
theorem scan_of_classify? {level : Int} {behindToken : Bool} {role : TokenClass} {token : Token}
    (found : layout.classify? text = some (role, token)) :
    layout.scan level behindToken text =
      (text.dropBytes? token.byteLength).bind fun rest =>
        (layout.scan (role.levelBehind level) true rest).map
          (role.marks level token.text ++ ·) := by
  cases text with
  | nil => simp at found
  | cons char rest =>
      rw [scan]
      split
      · next otherRole otherToken otherFound =>
        cases found.symm.trans otherFound
        split
        · next noCut => rw [noCut, Option.bind_none]
        · next left cut => rw [cut, Option.bind_some]
      · next notFound => cases found.symm.trans notFound

theorem scan_behindToken {level : Int} (notFound : layout.classify? text = none) :
    layout.scan level true text = layout.scan level false (text.dropWhile (· == ' ')) := by
  cases text with
  | nil => simp
  | cons char rest =>
      rw [scan]
      split
      · next found => cases notFound.symm.trans found
      · rfl

theorem scan_cons {level : Int} {char : Char} {rest : Text}
    (notFound : layout.classify? (char :: rest) = none) :
    layout.scan level false (char :: rest) =
      (layout.scan level false rest).map (.write [char] :: ·) := by
  rw [scan]
  split
  · next found => cases notFound.symm.trans found
  · rfl

/-! ## Steps -/

/-- The walker after one step, or nothing if it is stuck. -/
def step? (layout : Layout) (text : Text) (walker : Walker) : Option Walker :=
  match layout.classifyAt? text walker.offset with
  | some (role, token) =>
      some {
        offset := walker.offset + token.byteLength
        level := role.levelBehind walker.level
        behindToken := true
        marks := walker.marks ++ role.marks walker.level token.text }
  | none =>
      match text.dropBytes? walker.offset with
      | none | some [] => none
      | some (char :: rest) =>
          if walker.behindToken then
            let spaces : Text := (char :: rest).takeWhile (· == ' ')
            some { walker with offset := walker.offset + spaces.byteLength, behindToken := false }
          else
            some { walker with
              offset := walker.offset + char.utf8Size
              marks := walker.marks ++ [.write [char]] }

/-- One step leads from a walker to another. -/
def Steps (layout : Layout) (text : Text) (walker next : Walker) : Prop :=
  layout.step? text walker = some next

/-- Some number of steps lead from a walker to another. -/
def Reaches (layout : Layout) (text : Text) : Walker → Walker → Prop :=
  Relation.ReflTransGen (layout.Steps text)

/-- What a walker with the text `rest` ahead may do. -/
inductive Move (layout : Layout) (walker : Walker) : (rest : Text) → Walker → Prop where
  | token {role : TokenClass} {token : Token} {rest : Text}
      (found : layout.classify? rest = some (role, token)) :
      Move layout walker rest {
        offset := walker.offset + token.byteLength
        level := role.levelBehind walker.level
        behindToken := true
        marks := walker.marks ++ role.marks walker.level token.text }
  | skip {rest : Text} (notFound : layout.classify? rest = none)
      (behind : walker.behindToken = true) :
      Move layout walker rest { walker with
        offset := walker.offset + Text.byteLength (rest.takeWhile (· == ' '))
        behindToken := false }
  | copy {char : Char} {rest : Text} (notFound : layout.classify? (char :: rest) = none)
      (behind : walker.behindToken = false) :
      Move layout walker (char :: rest) { walker with
        offset := walker.offset + char.utf8Size
        marks := walker.marks ++ [.write [char]] }

/-- A walker steps exactly if text is ahead of it, and then it makes one of the three moves. -/
theorem steps_iff {walker next : Walker} :
    layout.Steps text walker next ↔
      ∃ rest, text.dropBytes? walker.offset = some rest ∧ rest ≠ [] ∧
        Move layout walker rest next := by
  cases cut : text.dropBytes? walker.offset with
  | none => simp [Steps, step?, classifyAt?, cut]
  | some rest =>
      cases rest with
      | nil => simp [Steps, step?, classifyAt?, cut]
      | cons char rest =>
          simp only [Steps, step?, classifyAt?, cut, Option.bind_some, Option.some.injEq,
            exists_eq_left', ne_eq, reduceCtorEq, not_false_eq_true, true_and]
          constructor
          · intro stepped
            split at stepped
            · next found =>
              cases stepped
              exact .token found
            · next notFound =>
              split at stepped
              · next behind =>
                cases stepped
                exact .skip notFound behind
              · next behind =>
                cases stepped
                exact .copy notFound (Bool.eq_false_iff.mpr behind)
          · intro move
            cases move with
            | token found => simp [found]
            | skip notFound behind => simp [notFound, behind]
            | copy notFound behind => simp [notFound, behind]

/-- A walker that is stuck has nothing ahead, or is inside of a character. -/
theorem step?_eq_none_iff {walker : Walker} :
    layout.step? text walker = none ↔
      text.dropBytes? walker.offset = none ∨ text.dropBytes? walker.offset = some [] := by
  cases cut : text.dropBytes? walker.offset with
  | none => simp [step?, classifyAt?, cut]
  | some rest =>
      cases rest with
      | nil => simp [step?, classifyAt?, cut]
      | cons char rest =>
          simp only [reduceCtorEq, Option.some.injEq, or_self, iff_false]
          simp only [step?, classifyAt?, cut, Option.bind_some]
          split
          · simp
          · split <;> simp

/-! ## Whole walks -/

/-- The marks of the whole scan as a walker foretells them: its own, and those of what is ahead. -/
def resume (layout : Layout) (text : Text) (walker : Walker) : Option (List Mark) :=
  (text.dropBytes? walker.offset).bind fun rest =>
    (layout.scan walker.level walker.behindToken rest).map (walker.marks ++ ·)

/-- A step does not change what the walker foretells. -/
theorem resume_of_steps {walker next : Walker} (stepped : layout.Steps text walker next) :
    layout.resume text next = layout.resume text walker := by
  obtain ⟨rest, cut, -, move⟩ := steps_iff.mp stepped
  cases move with
  | @token role token _ found =>
      simp only [resume, Text.dropBytes?_add cut, cut, scan_of_classify? found, Option.bind_some]
      cases rest.dropBytes? token.byteLength with
      | none => rfl
      | some left =>
          simp only [Option.bind_some, Option.map_map]
          congr 1
          funext marks
          exact List.append_assoc ..
  | skip notFound behind =>
      have passed :
          rest.dropBytes? (Text.byteLength (rest.takeWhile (· == ' '))) =
            some (rest.dropWhile (· == ' ')) := by
        rw [Text.dropBytes?_eq_some_iff]
        exact ⟨_, List.takeWhile_append_dropWhile.symm, rfl⟩
      simp only [resume, Text.dropBytes?_add cut, cut, passed, behind, scan_behindToken notFound,
        Option.bind_some]
  | @copy char rest notFound behind =>
      have passed : Text.dropBytes? char.utf8Size (char :: rest) = some rest := by
        simpa using Text.dropBytes?_cons 0 char rest
      simp only [resume, Text.dropBytes?_add cut, cut, passed, behind, scan_cons notFound,
        Option.bind_some, Option.map_map]
      congr 1
      funext marks
      exact List.append_assoc ..

theorem resume_of_reaches {walker last : Walker} (reached : layout.Reaches text walker last) :
    layout.resume text last = layout.resume text walker := by
  induction reached with
  | refl => rfl
  | tail _ stepped ih => exact (resume_of_steps stepped).trans ih

@[simp] theorem resume_start : layout.resume text .start = layout.scan 0 false text := by
  simp [resume, Walker.start]

/-- How far a walker is from the end of the text. Spaces that are skipped may be none at all, so a
walker behind a token counts as a little further away. -/
def distance (text : Text) (walker : Walker) : Nat :=
  2 * (text.byteLength - walker.offset) + walker.behindToken.toNat

/-- Every step brings the walker closer to the end. -/
theorem distance_lt_of_steps {walker next : Walker} (stepped : layout.Steps text walker next) :
    distance text next < distance text walker := by
  obtain ⟨rest, cut, notEmpty, move⟩ := steps_iff.mp stepped
  have ahead := Text.byteLength_eq_of_dropBytes? cut
  have positive := Text.byteLength_pos notEmpty
  cases move with
  | @token role token _ found =>
      have forward := Token.byteLength_pos (text_ne_nil_of_classify? found)
      cases behind : walker.behindToken <;> simp [distance, behind] <;> omega
  | skip notFound behind =>
      simp only [distance, behind, Bool.toNat_true, Bool.toNat_false]
      omega
  | @copy char rest notFound behind =>
      have forward := char.utf8Size_pos
      simp only [distance, behind, Bool.toNat_false]
      omega

theorem exists_reaches_stuck (layout : Layout) (text : Text) (walker : Walker) :
    ∃ last, layout.Reaches text walker last ∧ layout.step? text last = none := by
  induction far : distance text walker using Nat.strongRecOn generalizing walker with
  | ind far' ih =>
      cases next : layout.step? text walker with
      | none => exact ⟨walker, .refl, next⟩
      | some walker' =>
          obtain ⟨last, reached, stuck⟩ := ih (distance text walker')
            (far ▸ distance_lt_of_steps next) walker' rfl
          exact ⟨last, .head next reached, stuck⟩

/-- A walk that never comes to stand inside of a character ends at the end of the text, with the
marks of the scan. -/
theorem exists_reaches_end
    (whole : ∀ walker, layout.Reaches text .start walker →
      (text.dropBytes? walker.offset).isSome) :
    ∃ last, layout.Reaches text .start last ∧ last.offset = text.byteLength ∧
      layout.scan 0 false text = some last.marks := by
  obtain ⟨last, reached, stuck⟩ := exists_reaches_stuck layout text .start
  have left : text.dropBytes? last.offset = some [] := by
    rcases step?_eq_none_iff.mp stuck with inside | atEnd
    · have onBoundary := whole last reached
      rw [inside] at onBoundary
      cases onBoundary
    · exact atEnd
  refine ⟨last, reached, ?_, ?_⟩
  · simpa using (Text.byteLength_eq_of_dropBytes? left).symm
  · rw [← resume_start, ← resume_of_reaches reached, resume, left]
    simp

/-- A layout gives no lines exactly if the walk comes to stand inside of a character. -/
theorem reflow?_eq_none_iff :
    layout.reflow? text = none ↔
      ∃ walker, layout.Reaches text.unbroken .start walker ∧
        text.unbroken.dropBytes? walker.offset = none := by
  rw [reflow?, Option.map_eq_none_iff, lines?, Option.map_eq_none_iff]
  constructor
  · intro noMarks
    apply Classical.byContradiction
    intro whole
    have onBoundary : ∀ walker,
        layout.Reaches text.unbroken .start walker →
          (text.unbroken.dropBytes? walker.offset).isSome := by
      intro walker reached
      rw [Option.isSome_iff_ne_none]
      exact fun inside => whole ⟨walker, reached, inside⟩
    obtain ⟨last, _, _, marks⟩ := exists_reaches_end onBoundary
    cases noMarks.symm.trans marks
  · rintro ⟨walker, reached, inside⟩
    rw [← resume_start, ← resume_of_reaches reached, resume, inside, Option.bind_none]

end Layout

end Reflow
