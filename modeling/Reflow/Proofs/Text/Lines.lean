import Reflow.Proofs.Text.Ink
import Reflow.Text.Lines

/-!
# Cutting and joining lines

Two cuts of a text. One cuts at every line break and joins the trimmed pieces: only blanks get lost,
and what is joined neither holds a line break nor has blanks at its ends. The other reads back the
lines that a separator joins.
-/

namespace Reflow.Text

variable {isBreak : Char → Bool}

/-! ## The text in front of a sign -/

section Cut

variable {sign : Char} {front behind other rest : Text}

/-- A text without a sign is told by what stands in front of the first sign in a longer text. -/
theorem takeWhile_append_of_cut (outside : sign ∉ front)
    (cut : ∀ char, behind.head? = some char → char = sign) :
    (front ++ behind).takeWhile (· != sign) = front := by
  have each : ∀ char ∈ front, (char != sign) = true := by
    intro char listed
    rw [bne_iff_ne]
    rintro rfl
    exact outside listed
  rw [List.takeWhile_append_of_pos each]
  cases behind with
  | nil => exact List.append_nil front
  | cons char behind => rw [cut char rfl, List.takeWhile_cons_of_neg (by simp), List.append_nil]

/-- So a text is cut in one way into a text without a sign and what starts with that sign. -/
theorem eq_of_append_eq_of_cut (outside : sign ∉ front) (outsideOther : sign ∉ other)
    (cut : ∀ char, behind.head? = some char → char = sign)
    (cutRest : ∀ char, rest.head? = some char → char = sign)
    (same : front ++ behind = other ++ rest) : front = other ∧ behind = rest := by
  have sameFront : front = other := by
    rw [← takeWhile_append_of_cut outside cut, same, takeWhile_append_of_cut outsideOther cutRest]
  rw [sameFront] at same
  exact ⟨sameFront, List.append_cancel_left same⟩

end Cut

/-! ## Segments -/

theorem segments_append_cons {char : Char} (isSeparator : isBreak char = true)
    (left right : Text) :
    segments isBreak (left ++ char :: right) =
      ((segments isBreak left).1, (segments isBreak left).2 ++ splitAt isBreak right) := by
  induction left with
  | nil => simp [segments, isSeparator, splitAt]
  | cons first left ih =>
      simp only [List.cons_append, segments, ih]
      split <;> rfl

/-- A cut at a separator. -/
theorem splitAt_append_cons {char : Char} (isSeparator : isBreak char = true)
    (left right : Text) :
    splitAt isBreak (left ++ char :: right) = splitAt isBreak left ++ splitAt isBreak right := by
  rw [splitAt, segments_append_cons isSeparator]
  rfl

/-- A text without separators goes on the first segment of what is behind it. -/
theorem splitAt_append_of_not_mem {front : Text}
    (unbroken : ∀ char ∈ front, isBreak char = false) (text : Text) :
    splitAt isBreak (front ++ text) =
      (front ++ (segments isBreak text).1) :: (segments isBreak text).2 := by
  induction front with
  | nil => rfl
  | cons char front ih =>
      rw [List.forall_mem_cons] at unbroken
      have behind := List.cons.inj (ih unbroken.2)
      simp [splitAt, segments, unbroken.1, behind.1, behind.2]

theorem splitAt_of_not_mem {text : Text} (unbroken : ∀ char ∈ text, isBreak char = false) :
    splitAt isBreak text = [text] := by
  have alone := splitAt_append_of_not_mem unbroken []
  rwa [List.append_nil, segments, List.append_nil] at alone

theorem isBreak_eq_false_of_mem_splitAt {text segment : Text}
    (member : segment ∈ splitAt isBreak text) : ∀ char ∈ segment, isBreak char = false := by
  induction text generalizing segment with
  | nil =>
      simp only [splitAt, segments, List.mem_singleton] at member
      subst member
      intro char within
      cases within
  | cons first rest ih =>
      by_cases separates : isBreak first = true
      · rw [show first :: rest = [] ++ first :: rest from rfl,
          splitAt_append_cons separates] at member
        rcases List.mem_append.mp member with member | member
        · simp only [splitAt, segments, List.mem_singleton] at member
          subst member
          intro char within
          cases within
        · exact ih member
      · simp only [splitAt, segments, separates, Bool.false_eq_true, if_false,
          List.mem_cons] at member
        rcases member with rfl | member
        · intro char within
          rcases List.mem_cons.mp within with rfl | within
          · exact Bool.eq_false_iff.mpr separates
          · exact ih List.mem_cons_self char within
        · exact ih (List.mem_cons_of_mem _ member)

/-! ## Texts without line breaks -/

theorem withoutBreaks_append_cons {char : Char} (isSeparator : isBreak char = true)
    (left right : Text) :
    withoutBreaks isBreak (left ++ char :: right) =
      withoutBreaks isBreak left ++ withoutBreaks isBreak right := by
  simp [withoutBreaks, splitAt_append_cons isSeparator]

theorem withoutBreaks_of_not_mem {text : Text} (unbroken : ∀ char ∈ text, isBreak char = false) :
    withoutBreaks isBreak text = trim text := by
  simp [withoutBreaks, splitAt_of_not_mem unbroken]

/-- Blanks at the start are trimmed, and line breaks among them taken out. -/
theorem withoutBreaks_blank_append {space : Text} (isBlank : space.blank = true) (text : Text) :
    withoutBreaks isBreak (space ++ text) = withoutBreaks isBreak text := by
  induction space with
  | nil => rfl
  | cons char space ih =>
      rw [blank, List.all_cons, Bool.and_eq_true] at isBlank
      rw [← ih isBlank.2, List.cons_append]
      by_cases breaks : isBreak char = true
      · exact withoutBreaks_append_cons breaks [] _
      · have isBlank : blank [char] = true := by simp [blank, isBlank.1]
        have trimmed (rest : Text) : trim (char :: rest) = trim rest :=
          trim_append_of_blank isBlank rest
        simp only [withoutBreaks, splitAt, segments, breaks, Bool.false_eq_true,
          if_false, List.map_cons, trimmed]

/-- Only blanks get lost where line breaks are blanks. -/
theorem ink_withoutBreaks (breaksBlank : ∀ char, isBreak char = true → isBlank char = true)
    (text : Text) : ink (withoutBreaks isBreak text) = ink text := by
  induction text with
  | nil => rfl
  | cons char rest ih =>
      by_cases separates : isBreak char = true
      · rw [ink_cons_of_blank (breaksBlank char separates), ← ih,
          show char :: rest = [] ++ char :: rest from rfl, withoutBreaks_append_cons separates]
        rfl
      · have inner : ∀ text : Text,
            ink (withoutBreaks isBreak text) = (splitAt isBreak text).flatMap ink := by
          intro text
          simp [withoutBreaks, List.flatMap_def, Function.comp_def]
        rw [inner] at ih ⊢
        simp only [splitAt, segments, separates, Bool.false_eq_true, if_false,
          List.flatMap_cons] at ih ⊢
        rw [← List.singleton_append, ink_append, List.append_assoc, ih, ← ink_append,
          List.singleton_append]

theorem isBreak_eq_false_of_mem_withoutBreaks {text : Text} :
    ∀ char ∈ withoutBreaks isBreak text, isBreak char = false := by
  intro char member
  simp only [withoutBreaks, List.mem_flatten, List.mem_map] at member
  obtain ⟨_, ⟨segment, inSplit, rfl⟩, member⟩ := member
  apply isBreak_eq_false_of_mem_splitAt inSplit char
  have started := (List.mem_reverse.mp member)
  exact (List.dropWhile_suffix _).mem
    (List.mem_reverse.mp ((List.dropWhile_suffix _).mem started))

/-- Trimmed texts in a row begin with ink, if there is any. -/
theorem trimStart_flatten_trim (texts : List Text) :
    trimStart (texts.map trim).flatten = (texts.map trim).flatten := by
  induction texts with
  | nil => rfl
  | cons text texts ih =>
      rw [List.map_cons, List.flatten_cons]
      cases start : trim text with
      | nil => simpa using ih
      | cons char rest =>
          have again : trimStart (trim text) = char :: rest := by
            rw [trim, trimStart_trimEnd_of_trimStart (trimStart_trimStart text)]
            exact start
          simp [trimStart, isBlank_eq_false_of_trimStart again]

theorem trimStart_withoutBreaks (text : Text) :
    trimStart (withoutBreaks isBreak text) = withoutBreaks isBreak text :=
  trimStart_flatten_trim _

/-- The text that a scan walks through: without line breaks and the blanks around them. -/
abbrev unbroken (text : Text) : Text :=
  text.withoutBreaks isLineBreak

theorem isBlank_of_isLineBreak {char : Char} (isBreak : isLineBreak char = true) :
    isBlank char = true := by
  simp only [isLineBreak, Bool.or_eq_true, beq_iff_eq] at isBreak
  rcases isBreak with rfl | rfl <;> decide

theorem ink_unbroken (text : Text) : text.unbroken.ink = text.ink :=
  ink_withoutBreaks (fun _ => isBlank_of_isLineBreak) text

/-! ## Joined lines -/

theorem joinWith_cons {separator line : Text} {lines : List Text} (more : lines ≠ []) :
    joinWith separator (line :: lines) = line ++ separator ++ joinWith separator lines := by
  cases lines with
  | nil => exact absurd rfl more
  | cons second lines => rfl

/-- What a separator joins has the ink of the lines, if the separator has none. -/
theorem ink_joinWith {separator : Text} (noInk : ink separator = []) (lines : List Text) :
    ink (joinWith separator lines) = (lines.map ink).flatten := by
  induction lines with
  | nil => rfl
  | cons line lines ih =>
      by_cases more : lines = []
      · subst more
        simp [joinWith]
      · rw [joinWith_cons more, ink_append, ink_append, noInk, List.append_nil, ih]
        rfl

/-- What is cut at a separator are the texts that it has joined, if none of them holds it. -/
theorem splitAt_joinWith {separator : Char} (separates : isBreak separator = true)
    {texts : List Text} (notEmpty : texts ≠ [])
    (unbroken : ∀ text ∈ texts, ∀ char ∈ text, isBreak char = false) :
    splitAt isBreak (joinWith [separator] texts) = texts := by
  induction texts with
  | nil => exact absurd rfl notEmpty
  | cons text texts ih =>
      rw [List.forall_mem_cons] at unbroken
      by_cases more : texts = []
      · rw [more]
        exact splitAt_of_not_mem unbroken.1
      · rw [joinWith_cons more, List.append_assoc, List.singleton_append,
          splitAt_append_cons separates, splitAt_of_not_mem unbroken.1, ih more unbroken.2]
        rfl

theorem flatten_map_trim_filter (lines : List Text) :
    ((lines.filter fun line => !line.blank).map trim).flatten = (lines.map trim).flatten := by
  induction lines with
  | nil => rfl
  | cons line lines ih =>
      cases isBlank : line.blank with
      | true => simp [isBlank, ih, trim_eq_nil_iff.mpr isBlank]
      | false => simp [isBlank, ih]

/-! ## Reading the lines back -/

/-- The number of spaces at the start of a text. -/
def leadingSpaces (text : Text) : Nat :=
  (text.takeWhile (· == ' ')).length

theorem leadingSpaces_append {text : Text} (stops : text.head? ≠ some ' ') (count : Nat) :
    leadingSpaces (List.replicate count ' ' ++ text) = count := by
  have nothing : text.takeWhile (· == ' ') = [] := by
    cases text with
    | nil => rfl
    | cons char rest =>
        have other : char ≠ ' ' := by simpa using stops
        simp [other]
  rw [leadingSpaces, List.takeWhile_append_of_pos (by simp), nothing, List.append_nil,
    List.length_replicate]

/-- The pieces of a text between the places where `separator` stands: the first one and those
behind it. The next `skip` characters belong to a separator already seen. -/
def piecesBy (separator : Text) : (skip : Nat) → Text → Text × List Text
  | _, [] => ([], [])
  | skip + 1, _ :: rest => piecesBy separator skip rest
  | 0, char :: rest =>
      if separator.isPrefixOf (char :: rest) then
        let (first, others) := piecesBy separator (separator.length - 1) rest
        ([], first :: others)
      else
        let (first, others) := piecesBy separator 0 rest
        (char :: first, others)

/-- The lines of a text that `separator` divides. The empty text has none. -/
def linesBy (separator text : Text) : List Text :=
  if text.isEmpty then []
  else (piecesBy separator 0 text).1 :: (piecesBy separator 0 text).2

/-- A separator already seen is passed over. -/
theorem piecesBy_skip (separator seen rest : Text) :
    piecesBy separator seen.length (seen ++ rest) = piecesBy separator 0 rest := by
  induction seen with
  | nil => rfl
  | cons char seen ih => exact ih

/-- A line that does not hold the first character of the separator is read as it stands. -/
theorem piecesBy_append {char : Char} {line : Text} (absent : char ∉ line)
    (separator rest : Text) :
    piecesBy (char :: separator) 0 (line ++ rest) =
      (line ++ (piecesBy (char :: separator) 0 rest).1,
        (piecesBy (char :: separator) 0 rest).2) := by
  induction line with
  | nil => rfl
  | cons first line ih =>
      have different : (char == first) = false := by
        rw [beq_eq_false_iff_ne]
        rintro rfl
        exact absent List.mem_cons_self
      rw [List.cons_append, piecesBy, ih fun member => absent (List.mem_cons_of_mem first member)]
      simp [List.isPrefixOf, different]

theorem piecesBy_separator {char : Char} (separator rest : Text) :
    piecesBy (char :: separator) 0 (char :: separator ++ rest) =
      ([], (piecesBy (char :: separator) 0 rest).1 ::
        (piecesBy (char :: separator) 0 rest).2) := by
  have seen : (char :: separator).isPrefixOf (char :: (separator ++ rest)) = true := by
    rw [List.isPrefixOf_iff_prefix, ← List.cons_append]
    exact List.prefix_append ..
  rw [List.cons_append, piecesBy, if_pos seen, List.length_cons, Nat.add_sub_cancel,
    piecesBy_skip]

/-- Reading lines back undoes joining them, if no line is empty or holds the first character of the
separator. -/
theorem linesBy_joinWith {char : Char} {separator : Text} {lines : List Text}
    (proper : ∀ line ∈ lines, line ≠ [] ∧ char ∉ line) :
    linesBy (char :: separator) (joinWith (char :: separator) lines) = lines := by
  induction lines with
  | nil => rfl
  | cons line lines ih =>
      obtain ⟨notEmpty, absent⟩ := proper line List.mem_cons_self
      have rest := ih fun other member => proper other (List.mem_cons_of_mem line member)
      by_cases more : lines = []
      · subst more
        have alone := piecesBy_append absent separator []
        rw [List.append_nil] at alone
        simp [joinWith, linesBy, alone, piecesBy, notEmpty]
      · have joined : joinWith (char :: separator) lines ≠ [] := by
          intro empty
          rw [empty] at rest
          exact more rest.symm
        rw [linesBy, if_neg (by simpa using joined)] at rest
        rw [joinWith_cons more, linesBy, if_neg (by simp), List.append_assoc,
          piecesBy_append absent, piecesBy_separator, List.append_nil, rest]

end Reflow.Text
