import Reflow.Json.Query
import Reflow.Proofs.Text.Lines
import Reflow.Text.Digits

/-!
# Reading form encoding

The reader of query strings: pairs are separated by ampersands, a name ends at the first equals
sign, a plus sign is a space, and a percent sign with two hexadecimal digits is a byte of UTF-8. It
gives back the pairs that have been written, whatever characters they hold.
-/

namespace Reflow.Json

/-! ## The reader -/

/-- The bytes that a part of a query string stands for. A percent sign without two digits behind it
stands for itself. -/
def formBytes : Text → List UInt8
  | [] => []
  | '+' :: rest => 0x20 :: formBytes rest
  | '%' :: high :: low :: rest =>
      match Text.hexDigit? high, Text.hexDigit? low with
      | some highValue, some lowValue => .ofNat (16 * highValue + lowValue) :: formBytes rest
      | _, _ => String.utf8EncodeChar '%' ++ formBytes (high :: low :: rest)
  | char :: rest => String.utf8EncodeChar char ++ formBytes rest

/-- The text that a part of a query string stands for, if its bytes are UTF-8. -/
def formDecode? (text : Text) : Option Text :=
  (formBytes text).toByteArray.utf8Decode?.map Array.toList

/-- The name and the value of a pair. Without an equals sign all of it is the name. -/
def formDecodePair? (text : Text) : Option Pair := do
  let name ← formDecode? (text.takeWhile (· != '='))
  let value ← formDecode? ((text.dropWhile (· != '=')).drop 1)
  return (name, value)

/-- The pairs of a query string. The empty one has none. -/
def formDecodePairs? (query : Text) : Option (List Pair) :=
  if query.isEmpty then some [] else (Text.splitAt (· == '&') query).mapM formDecodePair?

/-! ## Bytes -/

theorem toNat_lt (char : Char) : char.toNat < 0x110000 := by
  have valid := char.valid
  simp only [UInt32.isValidChar, Nat.isValidChar] at valid
  change char.val.toNat < _
  omega

/-- The bytes of a character are those of its encoding. -/
theorem utf8Bytes_eq (char : Char) :
    utf8Bytes char = (String.utf8EncodeChar char).map UInt8.toNat := by
  have bounded := toNat_lt char
  have same : char.val.toNat = char.toNat := rfl
  simp only [utf8Bytes, String.utf8EncodeChar, same]
  generalize char.toNat = code at bounded
  -- Both sides divide the code points in the same four ranges.
  split_ifs <;> simp <;> omega

theorem hexDigit?_percentDigit {value : Nat} (digit : value < 16) :
    Text.hexDigit? (percentDigit value) = some value := by
  revert value
  decide

theorem formBytes_percentByte {byte : Nat} (bounded : byte < 256) (rest : Text) :
    formBytes (percentByte byte ++ rest) = .ofNat byte :: formBytes rest := by
  have high := hexDigit?_percentDigit (show byte / 16 < 16 by omega)
  have low := hexDigit?_percentDigit (show byte % 16 < 16 by omega)
  simp [percentByte, formBytes, high, low, Nat.div_add_mod]

theorem formBytes_percentBytes (bytes : List UInt8) (rest : Text) :
    formBytes ((bytes.map UInt8.toNat).flatMap percentByte ++ rest) = bytes ++ formBytes rest := by
  induction bytes with
  | nil => rfl
  | cons byte bytes ih =>
      rw [List.map_cons, List.flatMap_cons, List.append_assoc,
        formBytes_percentByte byte.toNat_lt, ih, UInt8.ofNat_toNat, List.cons_append]

/-- A character that stands for itself. -/
theorem formBytes_cons_of_isUnreserved {char : Char} (unreserved : isUnreserved char = true)
    (rest : Text) : formBytes (char :: rest) = String.utf8EncodeChar char ++ formBytes rest := by
  rw [formBytes]
  · rintro rfl
    cases unreserved
  · rintro high low others rfl
    cases unreserved

/-- The bytes of a text are read back from its encoding, whatever follows it. -/
theorem formBytes_formEncode_append (text rest : Text) :
    formBytes (formEncode text ++ rest) =
      text.flatMap String.utf8EncodeChar ++ formBytes rest := by
  induction text with
  | nil => rfl
  | cons char text ih =>
      rw [formEncode, List.flatMap_cons, List.append_assoc, ← formEncode, List.flatMap_cons,
        List.append_assoc, ← ih]
      split
      · next space =>
        rw [space]
        rfl
      · split
        · next unreserved => exact formBytes_cons_of_isUnreserved unreserved _
        · rw [utf8Bytes_eq, formBytes_percentBytes]

theorem formDecode?_formEncode (text : Text) : formDecode? (formEncode text) = some text := by
  have bytes := formBytes_formEncode_append text []
  rw [List.append_nil, formBytes, List.append_nil] at bytes
  have decoded := @List.utf8Decode?_utf8Encode text
  rw [formDecode?, bytes, ← List.utf8Encode, decoded]
  rfl

/-! ## Signs -/

/-- Whether a character may come up in an encoded text. -/
def isEncoded (char : Char) : Bool :=
  isUnreserved char || char == '+' || char == '%'

theorem isEncoded_of_mem_formEncode {text : Text} :
    ∀ char ∈ formEncode text, isEncoded char = true := by
  have digits : ∀ value < 16, isEncoded (percentDigit value) = true := by
    decide
  have byteEncoded : ∀ byte < 256, ∀ char ∈ percentByte byte, isEncoded char = true := by
    intro byte bounded
    simp only [percentByte, List.forall_mem_cons]
    exact ⟨rfl, digits _ (by omega), digits _ (by omega), List.forall_mem_nil _⟩
  intro char listed
  obtain ⟨original, -, within⟩ := List.mem_flatMap.mp listed
  split at within
  · rw [List.mem_singleton.mp within]
    rfl
  · split at within
    · next unreserved =>
      rw [List.mem_singleton.mp within, isEncoded, unreserved]
      rfl
    · rw [utf8Bytes_eq] at within
      obtain ⟨byte, isByte, within⟩ := List.mem_flatMap.mp within
      obtain ⟨unsigned, -, rfl⟩ := List.mem_map.mp isByte
      exact byteEncoded _ unsigned.toNat_lt char within

/-- The signs between names, values and pairs do not come up inside of them. -/
theorem ne_of_mem_formEncode {text : Text} {sign : Char} (isSign : isEncoded sign = false) :
    ∀ char ∈ formEncode text, char ≠ sign := by
  rintro char listed rfl
  rw [isEncoded_of_mem_formEncode char listed] at isSign
  cases isSign

theorem formDecodePair?_formPair (pair : Pair) : formDecodePair? (formPair pair) = some pair := by
  have unsigned : ∀ char ∈ formEncode pair.1, (char != '=') = true := fun char listed =>
    bne_iff_ne.mpr (ne_of_mem_formEncode (by decide) char listed)
  have name : (formPair pair).takeWhile (· != '=') = formEncode pair.1 := by
    rw [formPair, List.takeWhile_append_of_pos unsigned]
    simp
  have value : ((formPair pair).dropWhile (· != '=')).drop 1 = formEncode pair.2 := by
    rw [formPair, List.dropWhile_append_of_pos unsigned]
    simp
  rw [formDecodePair?, name, value, formDecode?_formEncode, formDecode?_formEncode]
  rfl

theorem ampersand_not_mem_formPair (pair : Pair) :
    ∀ char ∈ formPair pair, (char == '&') = false := by
  rw [formPair, List.forall_mem_append, List.forall_mem_cons]
  have apart (text : Text) : ∀ char ∈ formEncode text, (char == '&') = false := fun char listed =>
    beq_eq_false_iff_ne.mpr (ne_of_mem_formEncode (by decide) char listed)
  exact ⟨apart pair.1, by decide, apart pair.2⟩

/-- Reading form encoding undoes writing it. -/
theorem formDecodePairs?_formPairs (pairs : List Pair) :
    formDecodePairs? (formPairs pairs) = some pairs := by
  by_cases empty : pairs = []
  · rw [empty]
    rfl
  · have split : Text.splitAt (· == '&') (formPairs pairs) = pairs.map formPair :=
      Text.splitAt_joinWith rfl (by simpa using empty)
        (List.forall_mem_map.mpr fun pair _ => ampersand_not_mem_formPair pair)
    have inked : (formPairs pairs).isEmpty = false := by
      obtain ⟨pair, others, rfl⟩ := List.exists_cons_of_ne_nil empty
      cases others <;> simp [formPairs, Text.joinWith, formPair]
    have each : (formDecodePair? ∘ formPair) = fun pair => pure (id pair) :=
      funext formDecodePair?_formPair
    rw [formDecodePairs?, inked, split, List.mapM_map, each, List.mapM_pure, List.map_id]
    rfl

end Reflow.Json
