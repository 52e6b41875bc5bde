import Reflow.Json.Printer
import Reflow.Json.Weight
import Reflow.Proofs.Text.Ink

/-!
# Numerals

A reader of numbers takes a numeral from the start of a text, and which number it gives depends on
the numeral alone: anything else that cannot go on a number may stand behind it. The integers among
these numbers are those of 64 bits, with or without a sign, and they are read as they are written.
-/

namespace Reflow.Json

/-! ## Numerals and what ends them -/

/-- Whether a character may stand in a numeral. -/
def isNumeral (char : Char) : Bool :=
  char.isDigit || char == '-' || char == '+' || char == '.' || char == 'e' || char == 'E'

/-- A text that does not go on a numeral before it. -/
def Stops (text : Text) : Prop :=
  ∀ char ∈ text.head?, isNumeral char = false

/-- The integers are those of 64 bits, with or without a sign. -/
def Number.Ranged : Number → Prop
  | .integer value => -0x8000000000000000 ≤ value ∧ value ≤ gatherLimit
  | .double _ => True

/-- The readers for what follows some part of a number. -/
abbrev NumberReader := Text → Except (ReadError Fault) (Number × Text)

/-- A reader takes a numeral for a number, whatever stands behind the numeral. -/
structure Takes (reader : NumberReader) (numeral : Text) (number : Number) : Prop where
  numerals : ∀ char ∈ numeral, isNumeral char = true
  ranged : number.Ranged
  reads : ∀ rest, Stops rest → reader (numeral ++ rest) = .ok (number, rest)

/-- What a reader takes from a text is a numeral. -/
def TakesNumerals (reader : NumberReader) : Prop :=
  ∀ ⦃text rest : Text⦄ ⦃number : Number⦄, reader text = .ok (number, rest) →
    ∃ numeral, text = numeral ++ rest ∧ Takes reader numeral number

variable {reader inner : NumberReader} {numeral text rest : Text} {number : Number} {char : Char}

theorem isNumeral_of_isDigit (digit : char.isDigit = true) : isNumeral char = true := by
  simp [isNumeral, digit]

theorem ne_of_isNumeral {sign : Char} (numeral : isNumeral sign = true)
    (other : isNumeral char = false) : char ≠ sign := by
  rintro rfl
  rw [numeral] at other
  cases other

theorem toNat_of_isDigit (digit : char.isDigit = true) :
    48 ≤ char.toNat ∧ char.toNat ≤ 57 := by
  simp only [Char.isDigit, Bool.and_eq_true, decide_eq_true_eq] at digit
  exact digit

theorem isBlank_eq_false_of_isDigit (digit : char.isDigit = true) : Text.isBlank char = false := by
  have between := toNat_of_isDigit digit
  rw [Bool.eq_false_iff, Text.isBlank, Unicode.CodeRanges.contains, Ne, List.any_eq_true]
  simp only [Text.blankRanges, List.mem_cons, Bool.and_eq_true, decide_eq_true_eq]
  grind

theorem isBlank_eq_false_of_isNumeral (numeral : isNumeral char = true) :
    Text.isBlank char = false := by
  simp only [isNumeral, Bool.or_eq_true, beq_iff_eq] at numeral
  rcases numeral with ((((digit | rfl) | rfl) | rfl) | rfl) | rfl
  · exact isBlank_eq_false_of_isDigit digit
  all_goals decide

theorem isDigit_eq_false_of_isNumeral (other : isNumeral char = false) : char.isDigit = false := by
  simp only [isNumeral, Bool.or_eq_false_iff] at other
  exact other.1.1.1.1.1

/-- What holds of the first character behind a numeral, and of all characters that end one, also
holds when something else stands behind it. -/
theorem Stops.head?_append {Property : Char → Prop} (stops : Stops rest)
    (implied : ∀ char, isNumeral char = false → Property char) {others : Text}
    (given : ∀ char ∈ (numeral ++ others).head?, Property char) :
    ∀ char ∈ (numeral ++ rest).head?, Property char := by
  cases numeral with
  | nil => exact fun char first => implied char (stops char first)
  | cons => exact given

/-- Digits end where no further digit stands. -/
theorem dropWhile_isDigit_append
    (ends : ∀ char ∈ rest.head?, char.isDigit = false) :
    (text.takeWhile Char.isDigit ++ rest).dropWhile Char.isDigit = rest := by
  rw [List.dropWhile_append_of_pos (List.all_eq_true.mp List.all_takeWhile)]
  cases rest with
  | nil => rfl
  | cons char rest => rw [List.dropWhile_cons_of_neg (by simp [ends char rfl])]

namespace Takes

theorem nil (ranged : number.Ranged)
    (reads : ∀ rest, Stops rest → reader rest = .ok (number, rest)) : Takes reader [] number where
  numerals := List.forall_mem_nil _
  ranged := ranged
  reads := reads

theorem cons (same : ∀ rest, reader (char :: rest) = inner rest) (first : isNumeral char = true)
    (takes : Takes inner numeral number) : Takes reader (char :: numeral) number where
  numerals := List.forall_mem_cons.mpr ⟨first, takes.numerals⟩
  ranged := takes.ranged
  reads rest stops := (same _).trans (takes.reads rest stops)

theorem congr (same : ∀ rest, Stops rest → reader (numeral ++ rest) = inner (numeral ++ rest))
    (takes : Takes inner numeral number) : Takes reader numeral number where
  numerals := takes.numerals
  ranged := takes.ranged
  reads rest stops := (same rest stops).trans (takes.reads rest stops)

end Takes

/-- A reader that goes on with another one behind the first character. -/
theorem TakesNumerals.cons (takesNumerals : TakesNumerals inner)
    (same : ∀ rest, reader (char :: rest) = inner rest) (first : isNumeral char = true)
    (read : reader (char :: text) = .ok (number, rest)) :
    ∃ numeral, char :: text = numeral ++ rest ∧ Takes reader numeral number := by
  rw [same] at read
  obtain ⟨numeral, rfl, takes⟩ := takesNumerals read
  exact ⟨char :: numeral, rfl, takes.cons same first⟩

/-- A reader that does what another one does, unless the text starts with certain characters. -/
theorem TakesNumerals.head? (takesNumerals : TakesNumerals inner) {Property : Char → Prop}
    (implied : ∀ char, isNumeral char = false → Property char)
    (same : ∀ text, (∀ char ∈ text.head?, Property char) → reader text = inner text)
    (given : ∀ char ∈ text.head?, Property char) (read : inner text = .ok (number, rest)) :
    ∃ numeral, text = numeral ++ rest ∧ Takes reader numeral number := by
  obtain ⟨numeral, rfl, takes⟩ := takesNumerals read
  exact ⟨numeral, rfl, takes.congr fun rest stops =>
    same _ (stops.head?_append implied given)⟩

/-- A reader that goes on with another one behind all digits. -/
theorem TakesNumerals.digits (takesNumerals : TakesNumerals inner)
    (same : ∀ rest, reader (char :: rest) = inner (rest.dropWhile Char.isDigit))
    (first : isNumeral char = true) (read : reader (char :: text) = .ok (number, rest)) :
    ∃ numeral, char :: text = numeral ++ rest ∧ Takes reader numeral number := by
  rw [same] at read
  obtain ⟨numeral, equal, takes⟩ := takesNumerals read
  have ends : ∀ char ∈ (text.dropWhile Char.isDigit).head?, char.isDigit = false := by
    intro char first
    have stopped := List.head?_dropWhile_not Char.isDigit text
    rw [Option.mem_def.mp first] at stopped
    simpa using stopped
  rw [equal] at ends
  refine ⟨char :: (text.takeWhile Char.isDigit ++ numeral), ?_, ?_, takes.ranged, ?_⟩
  · rw [List.cons_append, List.append_assoc, ← equal, List.takeWhile_append_dropWhile]
  · rw [List.forall_mem_cons, List.forall_mem_append]
    exact ⟨first, fun char listed =>
      isNumeral_of_isDigit (List.all_eq_true.mp List.all_takeWhile char listed), takes.numerals⟩
  · intro rest stops
    rw [List.cons_append, List.append_assoc, same, dropWhile_isDigit_append
      (stops.head?_append (fun _ => isDigit_eq_false_of_isNumeral) ends)]
    exact takes.reads rest stops

/-! ## Numbers with a point or an exponent -/

namespace Gathered

variable {gathered : Gathered} {negative seen : Bool} {value : Nat}

theorem takesNumerals_finish (gathered : Gathered) : TakesNumerals gathered.finish := by
  intro text rest number read
  unfold finish at read
  split at read
  · next scaled =>
    cases read
    refine ⟨[], rfl, .nil trivial fun rest _ => ?_⟩
    rw [finish, scaled]
  · cases read

/-- An exponent ends where no further digit stands. -/
theorem readExponentDigits_of_head? (text : Text)
    (ends : ∀ char ∈ text.head?, char.isDigit = false) :
    gathered.readExponentDigits negative value text =
      readExponentDigits.finishExponent gathered negative value text := by
  cases text with
  | nil => rfl
  | cons char text => rw [readExponentDigits, if_pos (by simp [ends char rfl])]

theorem takesNumerals_readExponentDigits :
    TakesNumerals (gathered.readExponentDigits negative value) := by
  have finished (value : Nat) :
      TakesNumerals (readExponentDigits.finishExponent gathered negative value) :=
    takesNumerals_finish _
  intro text rest number read
  induction text generalizing value with
  | nil =>
      exact (finished value).head? (fun _ => isDigit_eq_false_of_isNumeral)
        readExponentDigits_of_head? (by simp) read
  | cons char text ih =>
      by_cases digit : char.isDigit = true
      · by_cases fits : 10 * value + Text.digitValue char ≤ exponentLimit
        · have same (rest : Text) : gathered.readExponentDigits negative value (char :: rest) =
              gathered.readExponentDigits negative (10 * value + Text.digitValue char) rest := by
            rw [readExponentDigits, if_neg (by simp [digit]), if_pos fits]
          rw [same] at read
          obtain ⟨numeral, rfl, takes⟩ := ih read
          exact ⟨char :: numeral, rfl, takes.cons same (isNumeral_of_isDigit digit)⟩
        · by_cases tooLarge : (gathered.digits != 0 && !negative) = true
          · rw [readExponentDigits, if_neg (by simp [digit]), if_neg fits, if_pos tooLarge] at read
            cases read
          · -- The exponent is out of all proportion: the number is zero whatever digits follow.
            let zero : NumberReader := fun rest =>
              .ok (.double { negative := gathered.negative, magnitude := 0 }, rest)
            have zeroes : TakesNumerals zero := by
              intro text rest number read
              cases read
              exact ⟨[], rfl, .nil trivial fun _ _ => rfl⟩
            refine zeroes.digits (fun rest => ?_) (isNumeral_of_isDigit digit) read
            rw [readExponentDigits, if_neg (by simp [digit]), if_neg fits, if_neg tooLarge]
      · rw [readExponentDigits, if_pos (by simp [digit])] at read
        exact (finished value).head? (fun _ => isDigit_eq_false_of_isNumeral)
          readExponentDigits_of_head? (by simpa using digit) read

theorem takesNumerals_readExponentValue :
    TakesNumerals (gathered.readExponentValue negative) := by
  intro text rest number read
  cases text with
  | nil => cases read
  | cons char text =>
      by_cases digit : char.isDigit = true
      · have same (rest : Text) : gathered.readExponentValue negative (char :: rest) =
            gathered.readExponentDigits negative (Text.digitValue char) rest := by
          rw [readExponentValue, if_pos digit]
        exact takesNumerals_readExponentDigits.cons same (isNumeral_of_isDigit digit) read
      · rw [readExponentValue, if_neg digit] at read
        cases read

/-- An exponent may come without a sign. -/
theorem readExponent_of_head? (text : Text)
    (unsigned : ∀ char ∈ text.head?, char ≠ '+' ∧ char ≠ '-') :
    gathered.readExponent text = gathered.readExponentValue false text := by
  unfold readExponent
  split
  · exact absurd rfl (unsigned _ rfl).1
  · exact absurd rfl (unsigned _ rfl).2
  · rfl

theorem takesNumerals_readExponent : TakesNumerals gathered.readExponent := by
  intro text rest number read
  unfold readExponent at read
  split at read
  · exact takesNumerals_readExponentValue.cons (fun _ => rfl) (by decide) read
  · exact takesNumerals_readExponentValue.cons (fun _ => rfl) (by decide) read
  · next noPlus noMinus =>
    refine takesNumerals_readExponentValue.head? (fun char other => ?_) readExponent_of_head?
      ?_ read
    · exact ⟨ne_of_isNumeral (by decide) other, ne_of_isNumeral (by decide) other⟩
    · intro char first
      obtain ⟨others, rfl⟩ := List.head?_eq_some_iff.mp first
      exact ⟨fun same => noPlus others (same ▸ rfl), fun same => noMinus others (same ▸ rfl)⟩

/-- A number without an exponent ends where none starts. -/
theorem readTail_of_head? (text : Text) (ends : ∀ char ∈ text.head?, char ≠ 'e' ∧ char ≠ 'E') :
    gathered.readTail text = gathered.finish text := by
  unfold readTail
  split
  · exact absurd rfl (ends _ rfl).1
  · exact absurd rfl (ends _ rfl).2
  · rfl

theorem takesNumerals_readTail : TakesNumerals gathered.readTail := by
  intro text rest number read
  unfold readTail at read
  split at read
  · exact takesNumerals_readExponent.cons (fun _ => rfl) (by decide) read
  · exact takesNumerals_readExponent.cons (fun _ => rfl) (by decide) read
  · next noLower noUpper =>
    refine (takesNumerals_finish gathered).head? (fun char other => ?_) readTail_of_head? ?_ read
    · exact ⟨ne_of_isNumeral (by decide) other, ne_of_isNumeral (by decide) other⟩
    · intro char first
      obtain ⟨others, rfl⟩ := List.head?_eq_some_iff.mp first
      exact ⟨fun same => noLower others (same ▸ rfl), fun same => noUpper others (same ▸ rfl)⟩

/-- A fraction ends where no further digit stands. -/
theorem readFraction_of_head? (text : Text) (ends : ∀ char ∈ text.head?, char.isDigit = false) :
    gathered.readFraction true text = gathered.readTail text := by
  cases text with
  | nil => rfl
  | cons char text => rw [readFraction, if_neg (by simp [ends char rfl]), if_pos rfl]

theorem takesNumerals_readFraction : TakesNumerals (gathered.readFraction seen) := by
  intro text rest number read
  induction text generalizing gathered seen with
  | nil =>
      cases seen with
      | false => cases read
      | true =>
          exact takesNumerals_readTail.head? (fun _ => isDigit_eq_false_of_isNumeral)
            readFraction_of_head? (by simp) read
  | cons char text ih =>
      by_cases digit : char.isDigit = true
      · by_cases fits : 10 * gathered.digits + Text.digitValue char ≤ gatherLimit
        · have same (rest : Text) := readFraction.eq_2 gathered seen char rest
          simp only [if_pos digit, if_pos fits] at same
          rw [same] at read
          obtain ⟨numeral, rfl, takes⟩ := ih read
          exact ⟨char :: numeral, rfl, takes.cons same (isNumeral_of_isDigit digit)⟩
        · have same (rest : Text) : gathered.readFraction seen (char :: rest) =
              gathered.readTail (rest.dropWhile Char.isDigit) := by
            rw [readFraction, if_pos digit, if_neg fits]
          exact takesNumerals_readTail.digits same (isNumeral_of_isDigit digit) read
      · rw [readFraction, if_neg digit] at read
        cases seen with
        | false => cases read
        | true =>
            exact takesNumerals_readTail.head? (fun _ => isDigit_eq_false_of_isNumeral)
              readFraction_of_head? (by simpa using digit) read

/-- An integer part ends where neither a digit nor a point stands. -/
theorem readLong_of_head? (text : Text)
    (ends : ∀ char ∈ text.head?, char.isDigit = false ∧ char ≠ '.') :
    gathered.readLong text = gathered.readTail text := by
  unfold readLong
  split
  · rfl
  · exact absurd rfl (ends _ rfl).2
  · rw [if_neg (by simp [(ends _ rfl).1])]

theorem takesNumerals_readLong : TakesNumerals gathered.readLong := by
  intro text rest number read
  have implied (char : Char) (other : isNumeral char = false) :
      char.isDigit = false ∧ char ≠ '.' :=
    ⟨isDigit_eq_false_of_isNumeral other, ne_of_isNumeral (by decide) other⟩
  fun_induction readLong gathered text with
  | case1 => exact takesNumerals_readTail.head? implied readLong_of_head? (by simp) read
  | case2 => exact takesNumerals_readFraction.cons (fun _ => rfl) (by decide) read
  | case3 gathered char text noPoint digit ih =>
      have same (rest : Text) : gathered.readLong (char :: rest) =
          { gathered with exponent := gathered.exponent + 1 }.readLong rest := by
        rw [readLong, if_pos digit]
        exact noPoint
      obtain ⟨numeral, rfl, takes⟩ := ih read
      exact ⟨char :: numeral, rfl, takes.cons same (isNumeral_of_isDigit digit)⟩
  | case4 gathered char text noPoint other =>
      exact takesNumerals_readTail.head? implied readLong_of_head?
        (by simpa using ⟨Bool.eq_false_iff.mpr other, noPoint⟩) read

end Gathered

/-! ## Numbers -/

variable {negative : Bool} {digits : Nat}

/-- An integer part that fits denotes an integer of 64 bits, or no integer. -/
theorem ranged_wholeNumber (fits : digits ≤ gatherLimit) :
    (wholeNumber negative digits).Ranged := by
  unfold wholeNumber
  split
  · exact ⟨by omega, by exact_mod_cast fits⟩
  · split
    · trivial
    · next least =>
      rw [not_or, Nat.not_lt] at least
      exact ⟨by omega, by rw [gatherLimit]; omega⟩

/-- An integer part alone is a number where neither point nor exponent stands behind it. -/
theorem readNumberTail_of_stops (stops : Stops rest) :
    readNumberTail negative digits rest = .ok (wholeNumber negative digits, rest) := by
  unfold readNumberTail
  dsimp only
  split
  · exact absurd (stops _ rfl) (by decide)
  · exact absurd (stops _ rfl) (by decide)
  · exact absurd (stops _ rfl) (by decide)
  · rfl

theorem takesNumerals_readNumberTail (fits : digits ≤ gatherLimit) :
    TakesNumerals (readNumberTail negative digits) := by
  intro text rest number read
  unfold readNumberTail at read
  dsimp only at read
  split at read
  · exact Gathered.takesNumerals_readFraction.cons (fun _ => rfl) (by decide) read
  · exact Gathered.takesNumerals_readExponent.cons (fun _ => rfl) (by decide) read
  · exact Gathered.takesNumerals_readExponent.cons (fun _ => rfl) (by decide) read
  · cases read
    exact ⟨[], rfl, .nil (ranged_wholeNumber fits) fun _ => readNumberTail_of_stops⟩

theorem readWhole_of_head? (text : Text) (ends : ∀ char ∈ text.head?, char.isDigit = false) :
    readWhole negative digits text = readNumberTail negative digits text := by
  cases text with
  | nil => rfl
  | cons char text => rw [readWhole, if_neg (by simp [ends char rfl])]

theorem readWhole_cons (digit : char.isDigit = true)
    (fits : 10 * digits + Text.digitValue char ≤ gatherLimit) (rest : Text) :
    readWhole negative digits (char :: rest) =
      readWhole negative (10 * digits + Text.digitValue char) rest := by
  rw [readWhole, if_pos digit, if_pos fits]

theorem takesNumerals_readWhole (fits : digits ≤ gatherLimit) :
    TakesNumerals (readWhole negative digits) := by
  intro text rest number read
  induction text generalizing digits with
  | nil =>
      exact (takesNumerals_readNumberTail fits).head? (fun _ => isDigit_eq_false_of_isNumeral)
        readWhole_of_head? (by simp) read
  | cons char text ih =>
      by_cases digit : char.isDigit = true
      · by_cases fits : 10 * digits + Text.digitValue char ≤ gatherLimit
        · rw [readWhole_cons digit fits] at read
          obtain ⟨numeral, rfl, takes⟩ := ih fits read
          exact ⟨char :: numeral, rfl,
            takes.cons (readWhole_cons digit fits) (isNumeral_of_isDigit digit)⟩
        · have noPoint : char ≠ '.' := by
            rintro rfl
            cases digit
          have same (rest : Text) : readWhole negative digits (char :: rest) =
              { negative, digits, exponent := 0 + 1 : Gathered }.readLong rest := by
            rw [readWhole, if_pos digit, if_neg fits, Gathered.readLong, if_pos digit]
            exact noPoint
          exact Gathered.takesNumerals_readLong.cons same (isNumeral_of_isDigit digit) read
      · rw [readWhole, if_neg digit] at read
        exact (takesNumerals_readNumberTail fits).head? (fun _ => isDigit_eq_false_of_isNumeral)
          readWhole_of_head? (by simpa using digit) read

theorem digitValue_le (digit : char.isDigit = true) : Text.digitValue char ≤ 9 := by
  have between := toNat_of_isDigit digit
  have zero : '0'.toNat = 48 := rfl
  rw [Text.digitValue]
  omega

/-- Behind a leading zero no digit may stand. -/
theorem readUnsigned_zero (text : Text) (ends : ∀ char ∈ text.head?, char.isDigit = false) :
    readUnsigned negative ('0' :: text) = readNumberTail negative 0 text := by
  rw [readUnsigned, if_neg]
  cases text with
  | nil => simp
  | cons char text => simp [ends char rfl]

theorem readUnsigned_cons (digit : char.isDigit = true) (notZero : char ≠ '0') (text : Text) :
    readUnsigned negative (char :: text) = readWhole negative (Text.digitValue char) text := by
  rw [readUnsigned, if_pos digit]
  exact notZero

/-- A number starts with a digit. -/
theorem exists_of_readUnsigned (read : readUnsigned negative text = .ok (number, rest)) :
    ∃ char others, text = char :: others ∧ char.isDigit = true := by
  unfold readUnsigned at read
  split at read
  · cases read
  · exact ⟨_, _, rfl, by decide⟩
  · split at read
    · next digit => exact ⟨_, _, rfl, digit⟩
    · cases read

theorem takesNumerals_readUnsigned : TakesNumerals (readUnsigned negative) := by
  intro text rest number read
  obtain ⟨char, others, rfl, digit⟩ := exists_of_readUnsigned read
  by_cases zero : char = '0'
  · subst zero
    have behindZero : TakesNumerals fun text => readUnsigned negative ('0' :: text) := by
      intro text rest number read
      change readUnsigned negative ('0' :: text) = _ at read
      by_cases follows : text.head?.any Char.isDigit = true
      · rw [readUnsigned, if_pos follows] at read
        cases read
      · have ends : ∀ char ∈ text.head?, char.isDigit = false := by
          simpa [Option.any_eq_true] using follows
        rw [readUnsigned_zero text ends] at read
        exact (takesNumerals_readNumberTail (by decide)).head?
          (fun _ => isDigit_eq_false_of_isNumeral) readUnsigned_zero ends read
    exact behindZero.cons (fun _ => rfl) (by decide) read
  · have fits : Text.digitValue char ≤ gatherLimit := Nat.le_trans (digitValue_le digit) (by decide)
    exact (takesNumerals_readWhole fits).cons (readUnsigned_cons digit zero)
      (isNumeral_of_isDigit digit) read

/-- What the reader of values takes for a number. -/
inductive Numeral : Text → Number → Prop where
  | unsigned {digits : Text} {number : Number} (takes : Takes (readUnsigned false) digits number) :
      Numeral digits number
  | negative {digits : Text} {number : Number} (takes : Takes (readUnsigned true) digits number) :
      Numeral ('-' :: digits) number

/-- A numeral starts with a sign or a digit. -/
theorem Numeral.exists_eq (numeral : Numeral text number) :
    ∃ char others, text = char :: others ∧ (char = '-' ∨ char.isDigit = true) := by
  cases numeral with
  | unsigned takes =>
      have read := takes.reads [] (by simp [Stops])
      rw [List.append_nil] at read
      obtain ⟨char, others, rfl, digit⟩ := exists_of_readUnsigned read
      exact ⟨char, others, rfl, .inr digit⟩
  | negative takes => exact ⟨'-', _, rfl, .inl rfl⟩

theorem Numeral.isNumeral (numeral : Numeral text number) :
    ∀ char ∈ text, isNumeral char = true := by
  cases numeral with
  | unsigned takes => exact takes.numerals
  | negative takes => exact List.forall_mem_cons.mpr ⟨by decide, takes.numerals⟩

theorem Numeral.ranged (numeral : Numeral text number) : number.Ranged := by
  cases numeral with
  | unsigned takes => exact takes.ranged
  | negative takes => exact takes.ranged

/-! ## Written integers -/

/-- Further digits make a number larger. -/
theorem le_ofDigitChars (digits : List Char) (value : Nat) :
    value ≤ Nat.ofDigitChars 10 digits value := by
  induction digits generalizing value with
  | nil => simp
  | cons char digits ih =>
      rw [Nat.ofDigitChars_cons]
      exact Nat.le_trans (by omega) (ih _)

theorem readWhole_append {digits : List Char} (areDigits : ∀ char ∈ digits, char.isDigit = true)
    {value : Nat} (fits : Nat.ofDigitChars 10 digits value ≤ gatherLimit) (stops : Stops rest) :
    readWhole negative value (digits ++ rest) =
      .ok (wholeNumber negative (Nat.ofDigitChars 10 digits value), rest) := by
  induction digits generalizing value with
  | nil =>
      rw [List.nil_append, Nat.ofDigitChars_nil,
        readWhole_of_head? rest fun char first => isDigit_eq_false_of_isNumeral (stops char first)]
      exact readNumberTail_of_stops stops
  | cons char digits ih =>
      rw [List.forall_mem_cons] at areDigits
      rw [Nat.ofDigitChars_cons] at fits ⊢
      rw [List.cons_append, readWhole_cons areDigits.1 (Nat.le_trans (le_ofDigitChars _ _) fits)]
      exact ih areDigits.2 fits

/-- A positive number is written without a leading zero. -/
theorem exists_toDigits_eq {number : Nat} (positive : 0 < number) :
    ∃ char digits, Nat.toDigits 10 number = char :: digits ∧ char ≠ '0' := by
  induction number using Nat.strongRecOn with
  | ind number ih =>
      by_cases small : number < 10
      · refine ⟨number.digitChar, [], Nat.toDigits_of_lt_base small, ?_⟩
        have notZero : ∀ digit < 10, 0 < digit → Nat.digitChar digit ≠ '0' := by decide
        exact notZero number small positive
      · obtain ⟨char, digits, equal, notZero⟩ := ih (number / 10) (by omega) (by omega)
        rw [Nat.toDigits_of_base_le (by decide) (by omega), equal]
        exact ⟨char, _, rfl, notZero⟩

/-- The digits of a number that fits are read as that number. -/
theorem takes_toDigits {number : Nat} (fits : number ≤ gatherLimit) :
    Takes (readUnsigned negative) (Nat.toDigits 10 number) (wholeNumber negative number) where
  numerals _ listed :=
    isNumeral_of_isDigit (Nat.isDigit_of_mem_toDigits (by decide) (by decide) listed)
  ranged := ranged_wholeNumber fits
  reads rest stops := by
    rcases Nat.eq_zero_or_pos number with rfl | positive
    · rw [Nat.toDigits_zero, List.singleton_append, readUnsigned_zero rest
        fun char first => isDigit_eq_false_of_isNumeral (stops char first)]
      exact readNumberTail_of_stops stops
    · obtain ⟨char, digits, equal, notZero⟩ := exists_toDigits_eq positive
      have areDigits : ∀ char ∈ Nat.toDigits 10 number, char.isDigit = true :=
        fun char => Nat.isDigit_of_mem_toDigits (by decide) (by decide)
      have value : Nat.ofDigitChars 10 digits (Text.digitValue char) = number := by
        have whole := Text.decimalValue_toDigits number
        rw [equal, Text.decimalValue, Nat.ofDigitChars_cons, Nat.mul_zero, Nat.zero_add] at whole
        exact whole
      rw [equal, List.forall_mem_cons] at areDigits
      rw [equal, List.cons_append, readUnsigned_cons areDigits.1 notZero,
        readWhole_append areDigits.2 (value.symm ▸ fits) stops, value]

/-- An integer of 64 bits is read as it is written. -/
theorem numeral_writeInteger {value : Int} (ranged : (Number.integer value).Ranged) :
    Numeral (writeInteger value) (.integer value) := by
  obtain ⟨least, greatest⟩ := ranged
  rw [gatherLimit] at greatest
  have fits : value.natAbs ≤ gatherLimit := by
    rw [gatherLimit]
    omega
  unfold writeInteger
  split
  · next below =>
    have takes : Takes (readUnsigned true) _ _ := takes_toDigits fits
    have same : -(value.natAbs : Int) = value := by omega
    rw [wholeNumber, if_neg (by simp), if_neg (by omega), same] at takes
    exact .negative takes
  · next nonneg =>
    have takes : Takes (readUnsigned false) _ _ := takes_toDigits fits
    have same : (value.natAbs : Int) = value := by omega
    rw [wholeNumber, if_pos (by simp), same] at takes
    exact .unsigned takes

/-! ## The characters of numbers -/

/-- A text that holds no other characters than those of numerals. -/
def Numeric (text : Text) : Prop :=
  ∀ char ∈ text, isNumeral char = true

namespace Numeric

variable {left right : Text}

instance (text : Text) : Decidable (Numeric text) :=
  decidable_of_iff (text.all isNumeral = true) List.all_eq_true

theorem append (first : Numeric left) (second : Numeric right) : Numeric (left ++ right) :=
  List.forall_mem_append.mpr ⟨first, second⟩

theorem cons (first : isNumeral char = true) (others : Numeric text) : Numeric (char :: text) :=
  List.forall_mem_cons.mpr ⟨first, others⟩

theorem subset (numeric : Numeric left) (within : right ⊆ left) : Numeric right :=
  fun char listed => numeric char (within listed)

theorem zeros (count : Nat) : Numeric (List.replicate count '0') := by
  intro char listed
  rw [List.eq_of_mem_replicate listed]
  decide

theorem toDigits (number : Nat) : Numeric (Nat.toDigits 10 number) := fun _ listed =>
  isNumeral_of_isDigit (Nat.isDigit_of_mem_toDigits (by decide) (by decide) listed)

/-- Whatever the style, digits are written with the signs of numerals. -/
theorem styled {digits : Text} (numeric : Numeric digits) (style : Binary64.DecimalStyle)
    (power : Int) : Numeric (style.write digits power) := by
  have front (count : Nat) := numeric.subset (List.take_subset count digits)
  have back (count : Nat) := numeric.subset (List.drop_subset count digits)
  have point : Numeric ['.'] := by decide
  have zero : Numeric ['0'] := by decide
  have letter : Numeric ['e'] := by decide
  unfold Binary64.DecimalStyle.write
  split
  · split
    · exact ((zero.append point).append (zeros _)).append numeric
    · refine (((front _).append (zeros _)).append point).append ?_
      split
      · exact zero
      · exact back _
  · refine ((((front 1).append ?_).append letter).append ?_).append (toDigits _)
    · split
      · exact List.forall_mem_nil _
      · exact (back 1).cons (by decide)
    · split <;> decide

/-- Numbers are written with the signs of numerals. -/
theorem write (number : Number) : Numeric number.write := by
  have sign (negative : Prop) [Decidable negative] : Numeric (if negative then ['-'] else []) := by
    split <;> decide
  cases number with
  | integer value => exact (sign _).append (toDigits _)
  | double value =>
      refine (sign _).append ?_
      split
      · decide
      · have digits := toDigits (Binary64.shortest value.magnitude).digits
        refine styled (digits.subset fun char listed => ?_) numberStyle _
        have kept := (List.dropWhile_subset _) (List.mem_reverse.mp listed)
        exact List.mem_reverse.mp kept

end Numeric

end Reflow.Json
