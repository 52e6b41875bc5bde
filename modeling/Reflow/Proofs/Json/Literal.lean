import Reflow.Json.Printer
import Reflow.Json.Weight

/-!
# String literals

What may stand between the quotes of a string, and which text it denotes. The reader accepts exactly
these literals, and the printer writes one of them.
-/

namespace Reflow.Json

/-! ## The grammar of literals -/

/-- Whether a character stands for itself in a literal. -/
def isPlain (char : Char) : Bool :=
  char != '"' && char != '\\' && !isControl char

/-- The letters of short escapes and the characters that these denote. -/
def shortEscapes : List (Char × Char) :=
  [('"', '"'), ('\\', '\\'), ('/', '/'), ('b', '\x08'), ('f', '\x0c'), ('n', '\n'), ('r', '\r'),
   ('t', '\t')]

/-- What stands behind the backslash of an escape, and the character that it denotes. A character
beyond the first 65536 is written in two halves. -/
inductive Escape : (taken : Text) → Char → Prop where
  | short {letter char : Char} (known : (letter, char) ∈ shortEscapes) : Escape [letter] char
  | code {first second third fourth : Char} {code : Nat}
      (value : hexValue? first second third fourth = some code)
      (whole : code < 0xD800 ∨ 0xDFFF < code) :
      Escape ['u', first, second, third, fourth] (.ofNat code)
  | halves {first second third fourth fifth sixth seventh eighth char : Char} {high low : Nat}
      (highValue : hexValue? first second third fourth = some high)
      (isHigh : 0xD800 ≤ high ∧ high ≤ 0xDBFF)
      (lowValue : hexValue? fifth sixth seventh eighth = some low)
      (isLow : 0xDC00 ≤ low ∧ low ≤ 0xDFFF)
      (together : char = .ofNat (0x10000 + 0x400 * (high - 0xD800) + (low - 0xDC00))) :
      Escape ['u', first, second, third, fourth, '\\', 'u', fifth, sixth, seventh, eighth] char

/-- What stands between the quotes of a string, and the text that it denotes. -/
inductive Literal : (body : Text) → Text → Prop where
  | nil : Literal [] []
  | plain {char : Char} {body text : Text} (plain : isPlain char = true)
      (others : Literal body text) : Literal (char :: body) (char :: text)
  | escape {char : Char} {taken body text : Text} (escaped : Escape taken char)
      (others : Literal body text) : Literal ('\\' :: (taken ++ body)) (char :: text)

/-! ## The characters of literals -/

theorem isPlain_of_hexDigit? {char : Char} {value : Nat}
    (digit : Text.hexDigit? char = some value) : isPlain char = true := by
  have notQuote : char ≠ '"' := by
    rintro rfl
    cases digit
  have notEscape : char ≠ '\\' := by
    rintro rfl
    cases digit
  have notControl : isControl char = false := by
    rw [isControl, decide_eq_false_iff_not]
    intro control
    simp [Text.hexDigit?, Char.isDigit, Char.le_def, UInt32.le_iff_toNat_le] at digit
    grind
  simp [isPlain, notQuote, notEscape, notControl]

theorem isPlain_of_hexValue? {first second third fourth : Char} {value : Nat}
    (digits : hexValue? first second third fourth = some value) :
    ∀ char ∈ [first, second, third, fourth], isPlain char = true := by
  simp only [hexValue?, Option.bind_eq_bind, Option.bind_eq_some_iff] at digits
  obtain ⟨_, isFirst, _, isSecond, _, isThird, _, isFourth, -⟩ := digits
  simp [isPlain_of_hexDigit? isFirst, isPlain_of_hexDigit? isSecond, isPlain_of_hexDigit? isThird,
    isPlain_of_hexDigit? isFourth]

theorem isControl_eq_false_of_isPlain {char : Char} (plain : isPlain char = true) :
    isControl char = false := by
  simp only [isPlain, Bool.and_eq_true, Bool.not_eq_true'] at plain
  exact plain.2

/-- Neither escapes nor literals hold control characters. -/
theorem Escape.isControl_eq_false {taken : Text} {char : Char} (escape : Escape taken char) :
    ∀ char ∈ taken, isControl char = false := by
  cases escape with
  | short known =>
      simp only [shortEscapes, List.mem_cons, List.not_mem_nil, or_false, Prod.mk.injEq] at known
      rw [List.forall_mem_singleton]
      rcases known with ⟨rfl, -⟩ | ⟨rfl, -⟩ | ⟨rfl, -⟩ | ⟨rfl, -⟩ | ⟨rfl, -⟩ | ⟨rfl, -⟩ | ⟨rfl, -⟩ |
        ⟨rfl, -⟩ <;> decide
  | code value =>
      rw [List.forall_mem_cons]
      exact ⟨by decide, fun char listed =>
        isControl_eq_false_of_isPlain (isPlain_of_hexValue? value char listed)⟩
  | halves highValue _ lowValue =>
      have plain := isPlain_of_hexValue? highValue
      have alsoPlain := isPlain_of_hexValue? lowValue
      simp only [List.forall_mem_cons, List.not_mem_nil, false_implies, implies_true,
        and_true] at plain alsoPlain ⊢
      have letter : isControl 'u' = false := rfl
      have backslash : isControl '\\' = false := rfl
      simp [isControl_eq_false_of_isPlain, plain, alsoPlain, letter, backslash]

theorem Literal.isControl_eq_false {body text : Text} (literal : Literal body text) :
    ∀ char ∈ body, isControl char = false := by
  induction literal with
  | nil => exact List.forall_mem_nil _
  | plain plain _ ih => exact List.forall_mem_cons.mpr ⟨isControl_eq_false_of_isPlain plain, ih⟩
  | escape escaped _ ih =>
      rw [List.forall_mem_cons, List.forall_mem_append]
      exact ⟨by decide, escaped.isControl_eq_false, ih⟩

/-! ## Reading literals -/

variable {text rest : Text} {char : Char}

theorem readHex_eq_ok_iff {code : Nat} :
    readHex text = .ok (code, rest) ↔ ∃ first second third fourth,
      text = first :: second :: third :: fourth :: rest ∧
        hexValue? first second third fourth = some code := by
  constructor
  · intro read
    simp only [readHex] at read
    split at read
    · cases read
    · split at read
      · split at read
        · next value =>
          cases read
          exact ⟨_, _, _, _, rfl, value⟩
        · cases read
      · cases read
  · rintro ⟨first, second, third, fourth, rfl, value⟩
    have enough : ¬Text.byteLength (first :: second :: third :: fourth :: rest) < 4 := by
      have := first.utf8Size_pos
      have := second.utf8Size_pos
      have := third.utf8Size_pos
      have := fourth.utf8Size_pos
      simp only [Text.byteLength]
      omega
    simp only [readHex, if_neg enough, value]

theorem readSecondHalf_eq_ok_iff {high : Nat} :
    readSecondHalf high text = .ok (char, rest) ↔ ∃ first second third fourth low,
      text = '\\' :: 'u' :: first :: second :: third :: fourth :: rest ∧
        hexValue? first second third fourth = some low ∧ (0xDC00 ≤ low ∧ low ≤ 0xDFFF) ∧
        char = .ofNat (0x10000 + 0x400 * (high - 0xD800) + (low - 0xDC00)) := by
  constructor
  · intro read
    unfold readSecondHalf at read
    split at read <;> try cases read
    obtain ⟨⟨low, behind⟩, hex, chosen⟩ := bind_eq_ok.mp read
    obtain ⟨first, second, third, fourth, rfl, value⟩ := readHex_eq_ok_iff.mp hex
    dsimp only at chosen
    split at chosen
    · next isLow =>
      simp only [pure, Except.pure, Except.ok.injEq, Prod.mk.injEq] at chosen
      obtain ⟨together, rfl⟩ := chosen
      exact ⟨first, second, third, fourth, low, rfl, value, isLow, together.symm⟩
    · cases chosen
  · rintro ⟨first, second, third, fourth, low, rfl, value, isLow, together⟩
    refine bind_eq_ok.mpr ⟨(low, rest), readHex_eq_ok_iff.mpr ⟨_, _, _, _, rfl, value⟩, ?_⟩
    dsimp only
    rw [if_pos isLow, together]
    rfl

/-- The reader takes exactly the escapes. -/
theorem readEscape_eq_ok_iff :
    readEscape text = .ok (char, rest) ↔ ∃ taken, text = taken ++ rest ∧ Escape taken char := by
  constructor
  · intro read
    unfold readEscape at read
    split at read <;> try (cases read; done)
    case h_10 =>
      obtain ⟨⟨code, behind⟩, hex, chosen⟩ := bind_eq_ok.mp read
      obtain ⟨first, second, third, fourth, rfl, value⟩ := readHex_eq_ok_iff.mp hex
      dsimp only at chosen
      split at chosen
      · cases chosen
      · next notLow =>
        split at chosen
        · next isHigh =>
          obtain ⟨fifth, sixth, seventh, eighth, low, rfl, lowValue, isLow, together⟩ :=
            readSecondHalf_eq_ok_iff.mp chosen
          exact ⟨_, rfl, .halves value isHigh lowValue isLow together⟩
        · next notHigh =>
          cases chosen
          exact ⟨_, rfl, .code value (by omega)⟩
    all_goals
      cases read
      exact ⟨_, rfl, .short (by decide)⟩
  · rintro ⟨taken, rfl, escape⟩
    cases escape with
    | short known =>
        simp only [shortEscapes, List.mem_cons, List.not_mem_nil, or_false, Prod.mk.injEq] at known
        rcases known with ⟨rfl, rfl⟩ | ⟨rfl, rfl⟩ | ⟨rfl, rfl⟩ | ⟨rfl, rfl⟩ | ⟨rfl, rfl⟩ |
          ⟨rfl, rfl⟩ | ⟨rfl, rfl⟩ | ⟨rfl, rfl⟩ <;> rfl
    | code value whole =>
        refine bind_eq_ok.mpr ⟨_, readHex_eq_ok_iff.mpr ⟨_, _, _, _, rfl, value⟩, ?_⟩
        dsimp only
        rw [if_neg (by omega), if_neg (by omega)]
        rfl
    | halves highValue isHigh lowValue isLow together =>
        refine bind_eq_ok.mpr ⟨_, readHex_eq_ok_iff.mpr ⟨_, _, _, _, rfl, highValue⟩, ?_⟩
        dsimp only
        rw [if_neg (by omega), if_pos isHigh]
        exact readSecondHalf_eq_ok_iff.mpr ⟨_, _, _, _, _, rfl, lowValue, isLow, together⟩

theorem Literal.readStringUpTo {body : Text} (literal : Literal body text) {fuel : Nat}
    (enough : body.length < fuel) (rest : Text) :
    readStringUpTo fuel (body ++ '"' :: rest) = .ok (text, rest) := by
  induction literal generalizing fuel with
  | nil =>
      cases fuel with
      | zero => cases enough
      | succ fuel => rfl
  | @plain char body text plain _ ih =>
      cases fuel with
      | zero => cases enough
      | succ fuel =>
          simp only [isPlain, Bool.and_eq_true, bne_iff_ne, Bool.not_eq_true'] at plain
          obtain ⟨⟨notQuote, notEscape⟩, notControl⟩ := plain
          rw [List.cons_append, Json.readStringUpTo, notControl]
          · exact bind_eq_ok.mpr ⟨_, ih (Nat.lt_of_succ_lt_succ enough), rfl⟩
          · exact fun same => notQuote same
          · exact fun same => notEscape same
  | escape escaped _ ih =>
      cases fuel with
      | zero => cases enough
      | succ fuel =>
          rw [List.cons_append, List.append_assoc, Json.readStringUpTo]
          refine bind_eq_ok.mpr ⟨_, readEscape_eq_ok_iff.mpr ⟨_, rfl, escaped⟩, ?_⟩
          refine bind_eq_ok.mpr ⟨_, ih ?_, rfl⟩
          simp only [List.length_cons, List.length_append] at enough
          omega

theorem exists_literal_of_readStringUpTo {fuel : Nat} {result : Text}
    (read : readStringUpTo fuel text = .ok (result, rest)) :
    ∃ body, text = body ++ '"' :: rest ∧ Literal body result := by
  fun_induction readStringUpTo fuel text generalizing result rest with
  | case1 => cases read
  | case2 => cases read
  | case3 =>
      cases read
      exact ⟨[], rfl, .nil⟩
  | case4 fuel text ih =>
      obtain ⟨⟨char, behind⟩, escape, read⟩ := bind_eq_ok.mp read
      obtain ⟨⟨others, last⟩, string, chosen⟩ := bind_eq_ok.mp read
      obtain ⟨taken, rfl, escaped⟩ := readEscape_eq_ok_iff.mp escape
      obtain ⟨body, rfl, literal⟩ := ih _ string
      cases chosen
      exact ⟨'\\' :: (taken ++ body), by simp, .escape escaped literal⟩
  | case5 => cases read
  | case6 fuel char text notQuote notEscape notControl ih =>
      obtain ⟨⟨others, last⟩, string, chosen⟩ := bind_eq_ok.mp read
      obtain ⟨body, rfl, literal⟩ := ih string
      cases chosen
      refine ⟨char :: body, rfl, .plain ?_ literal⟩
      simpa [isPlain, notControl] using ⟨fun same => notQuote same, fun same => notEscape same⟩

/-- The reader takes exactly the literals. -/
theorem readString_eq_ok_iff {result : Text} :
    readString text = .ok (result, rest) ↔
      ∃ body, text = body ++ '"' :: rest ∧ Literal body result := by
  constructor
  · exact exists_literal_of_readStringUpTo
  · rintro ⟨body, rfl, literal⟩
    refine literal.readStringUpTo ?_ rest
    simp only [List.length_append, List.length_cons]
    omega

/-! ## Writing literals -/

/-- A code below 32 in hexadecimal digits. -/
theorem hexValue?_hexDigit : ∀ code < 0x20,
    hexValue? '0' '0' (hexDigit (code / 16)) (hexDigit (code % 16)) = some code := by
  decide

/-- The printer writes a character as one that stands for itself or as an escape. -/
theorem Literal.escapeChar_append {body : Text} (char : Char) (literal : Literal body text) :
    Literal (escapeChar char ++ body) (char :: text) := by
  have short {letter : Char} (known : (letter, char) ∈ shortEscapes) :
      Literal ('\\' :: letter :: body) (char :: text) :=
    .escape (.short known) literal
  unfold escapeChar
  iterate 7
    split
    · next same => exact short (by rw [same]; decide)
  split
  · next control =>
    have escaped := Escape.code (hexValue?_hexDigit char.toNat control) (by omega)
    rw [Char.ofNat_toNat] at escaped
    exact .escape escaped literal
  · next notQuote notEscape _ _ _ _ _ notControl =>
    exact .plain (by simp [isPlain, isControl, notQuote, notEscape, notControl]) literal

/-- The printer writes a literal that denotes what it was given. -/
theorem literal_flatMap_escapeChar (text : Text) : Literal (text.flatMap escapeChar) text := by
  induction text with
  | nil => exact .nil
  | cons char text ih => exact ih.escapeChar_append char

end Reflow.Json
