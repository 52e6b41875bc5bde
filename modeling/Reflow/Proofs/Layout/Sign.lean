import Mathlib.Data.List.Nodup
import Reflow.Proofs.Layout.Document
import Reflow.Proofs.Layout.Preset

/-!
# Rows of single signs

Where the candidates are single characters, each listed once, a character is a token in a role
exactly if it is listed for it. A row then has a closing sign at its start at most, and an opening
or breaking one at its end at most, and how it changes the level can be counted in what is written
for it.
-/

namespace Reflow

namespace LayoutOptions

/-- Whether a character is listed for a role. -/
def isSign (options : LayoutOptions) (role : TokenClass) (char : Char) : Bool :=
  (options.candidates role).contains [char]

/-- Options whose candidates are single characters other than blanks, each listed once. -/
structure DistinctSigns (options : LayoutOptions) : Prop where
  signs : options.SingleSigns
  distinct : (options.openTokens ++ options.closeTokens ++ options.breakTokens).Nodup

variable {options : LayoutOptions} {role otherRole : TokenClass} {char : Char}

theorem isSign_iff : options.isSign role char = true ↔ [char] ∈ options.candidates role :=
  List.contains_iff_mem

theorem SingleSigns.isBlank_eq_false (signs : options.SingleSigns)
    (sign : options.isSign role char = true) : Text.isBlank char = false := by
  obtain ⟨_, equal, inked⟩ := signs [char] (mem_of_mem_candidates (isSign_iff.mp sign))
  cases equal
  exact inked

namespace DistinctSigns

variable (distinctSigns : options.DistinctSigns)
include distinctSigns

theorem role_eq (sign : options.isSign role char = true)
    (otherSign : options.isSign otherRole char = true) : role = otherRole := by
  have apart := distinctSigns.distinct
  rw [isSign_iff] at sign otherSign
  simp only [List.nodup_append, List.mem_append] at apart
  obtain ⟨⟨-, -, openClose⟩, -, others⟩ := apart
  cases role <;> cases otherRole <;> simp only [candidates] at sign otherSign
  · rfl
  · exact absurd rfl (openClose _ sign _ otherSign)
  · exact absurd rfl (others _ (.inl sign) _ otherSign)
  · exact absurd rfl (openClose _ otherSign _ sign)
  · rfl
  · exact absurd rfl (others _ (.inr sign) _ otherSign)
  · exact absurd rfl (others _ (.inl otherSign) _ sign)
  · exact absurd rfl (others _ (.inr otherSign) _ sign)
  · rfl

theorem isSome_classify?_of_isSign (sign : options.isSign role char = true) (rest : Text) :
    ((Layout.ofOptions options).classify? (char :: rest)).isSome := by
  have apart : (options.candidates role).Nodup := by
    have all := distinctSigns.distinct
    simp only [List.nodup_append] at all
    cases role
    · exact all.1.1
    · exact all.1.2.1
    · exact all.2.1
  have once : (options.candidates role).count [char] = 1 :=
    List.count_eq_one_of_mem apart (isSign_iff.mp sign)
  have matched : ((Candidates.ofTexts (options.candidates role)).match? (char :: rest)).isSome := by
    rw [Candidates.match?_of_single (distinctSigns.signs.single role), if_pos once]
    rfl
  exact Layout.isSome_classify? matched

end DistinctSigns

theorem SingleSigns.isSign_of_hasToken (signs : options.SingleSigns) {token : Token}
    (known : (Layout.ofOptions options).HasToken role token) :
    ∃ char, token.text = [char] ∧ options.isSign role char = true := by
  obtain ⟨char, equal, -, found⟩ := signs.exists_of_hasToken known
  obtain ⟨-, once⟩ := signs.eq_of_classify? (found [])
  exact ⟨char, equal, isSign_iff.mpr (List.count_pos_iff.mp (once ▸ Nat.one_pos))⟩

end LayoutOptions

/-- A row whose signs are at its start and at its end only. -/
structure Row.Signed (options : LayoutOptions) (row : Row) : Prop where
  closing {token : Token} (has : row.closing = some token) :
    ∃ char, row.closingText = [char] ∧ options.isSign .closing char = true
  body : ∀ char ∈ row.body, ∀ role, options.isSign role char = false
  ending {role : TokenClass} {token : Token} (has : row.ending = some (role, token)) :
    role ≠ .closing ∧ ∃ char, row.endingText = [char] ∧ options.isSign role char = true

namespace Row

section

variable {options : LayoutOptions} {row : Row} (signed : row.Signed options)
include signed

/-- At most one sign is at the start of a row. -/
theorem Signed.closingText_eq : row.closingText = [] ∧ row.closing = none ∨
    ∃ char, row.closingText = [char] ∧ row.closing.isSome ∧
      options.isSign .closing char = true := by
  cases closes : row.closing with
  | none => exact .inl ⟨by rw [closingText, closes]; rfl, rfl⟩
  | some token =>
      obtain ⟨char, equal, sign⟩ := signed.closing closes
      exact .inr ⟨char, equal, rfl, sign⟩

/-- At most one sign is at the end of a row. -/
theorem Signed.endingText_eq : row.endingText = [] ∧ row.ending = none ∨
    ∃ role char, row.endingText = [char] ∧ row.ending.isSome ∧ role ≠ .closing ∧
      options.isSign role char = true := by
  cases ends : row.ending with
  | none => exact .inl ⟨by rw [endingText, ends]; rfl, rfl⟩
  | some match' =>
      obtain ⟨role, token⟩ := match'
      obtain ⟨opens, char, equal, sign⟩ := signed.ending ends
      exact .inr ⟨role, char, equal, rfl, opens, sign⟩

end

end Row

namespace Layout

open LayoutOptions Row

variable {options : LayoutOptions} {rows : List Row}

theorem Lays.signed (distinctSigns : options.DistinctSigns) (lays : (ofOptions options).Lays rows)
    {row : Row} (member : row ∈ rows) : row.Signed options := by
  induction lays with
  | nil => cases member
  | @cons first rest fits plain meets others ih =>
      rcases List.mem_cons.mp member with rfl | member
      · constructor
        case closing =>
          intro token has
          obtain ⟨char, equal, sign⟩ := distinctSigns.signs.isSign_of_hasToken (fits.closing has)
          exact ⟨char, by rw [closingText, has, ← equal]; rfl, sign⟩
        case body =>
          intro char within role
          obtain ⟨front, back, equal⟩ := List.append_of_mem within
          have notFound := plain front char back equal
          cases sign : options.isSign role char with
          | false => rfl
          | true =>
              have found := distinctSigns.isSome_classify?_of_isSign sign
                (back ++ (row.endingText ++ sources rest))
              rw [List.cons_append] at notFound
              rw [notFound] at found
              cases found
        case ending =>
          intro role token has
          obtain ⟨known, opens⟩ := fits.ending has
          obtain ⟨char, equal, sign⟩ := distinctSigns.signs.isSign_of_hasToken known
          exact ⟨opens, char, by rw [endingText, has, ← equal]; rfl, sign⟩
      · exact ih member

end Layout

namespace Row

open LayoutOptions

variable {options : LayoutOptions} (distinctSigns : options.DistinctSigns) {row : Row}
  (signed : row.Signed options)
include distinctSigns signed

omit signed in
/-- A sign counts for its role only. -/
theorem countP_sign {role otherRole : TokenClass} {char : Char}
    (sign : options.isSign role char = true) :
    [char].countP (options.isSign otherRole) = if role = otherRole then 1 else 0 := by
  rw [List.countP_singleton]
  by_cases same : role = otherRole
  · simp [← same, sign]
  · have other : options.isSign otherRole char = false := by
      rw [← Bool.not_eq_true]
      exact fun also => same (distinctSigns.role_eq sign also)
    simp [same, other]

/-- How many signs for a role are written for a row. -/
theorem Signed.countP_written (role : TokenClass) :
    row.written.countP (options.isSign role) =
      (if row.closing.isSome ∧ role = .closing then 1 else 0) +
        (if row.ending.any (·.1 = role) then 1 else 0) := by
  have nothing : row.body.countP (options.isSign role) = 0 := by
    rw [List.countP_eq_zero]
    intro char member
    simp [signed.body char member role]
  rw [written, List.countP_append, List.countP_append, nothing, Nat.add_zero]
  congr 1
  · cases closes : row.closing with
    | none => simp [closingText, closes]
    | some token =>
        obtain ⟨char, equal, sign⟩ := signed.closing closes
        rw [equal, countP_sign distinctSigns sign]
        simp [eq_comm]
  · cases ends : row.ending with
    | none => simp [endingText, ends]
    | some match' =>
        obtain ⟨-, char, equal, sign⟩ := signed.ending ends
        rw [equal, countP_sign distinctSigns sign]
        simp

/-- A row changes the level by what is written for it. -/
theorem Signed.levelBehind_eq (before : Int) :
    row.levelBehind before =
      before + row.written.countP (options.isSign .opening) -
        row.written.countP (options.isSign .closing) := by
  rw [signed.countP_written distinctSigns, signed.countP_written distinctSigns]
  cases closes : row.closing.isSome <;> cases ends : row.ending with
  | none => simp [levelBehind, level, closes, ends]
  | some match' =>
      obtain ⟨role, token⟩ := match'
      obtain ⟨opens, -⟩ := signed.ending ends
      cases role with
      | closing => exact absurd rfl opens
      | opening => simp [levelBehind, level, closes, ends, TokenClass.levelBehind]
      | breaking => simp [levelBehind, level, closes, ends, TokenClass.levelBehind]

end Row

end Reflow
