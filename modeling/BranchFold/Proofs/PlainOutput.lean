import BranchFold.Command.Outcome
import BranchFold.Json.Writer
import BranchFold.Text.Digit
import Mathlib.Tactic.Common

/-!
# Written values are plain text

What a command writes loses its control sequences unless it goes to a terminal.  A structured value
that is written holds no control character but the line break, so it reaches its reader whole,
wherever it goes.

Main definitions:

- {lit}`Text.IsPlain`: a text has no control characters but line breaks.

Main results:

- Theorem {lit}`Json.isPlain_write`: a written value is plain.
- Theorem {lit}`Command.linesText_write`: a written value is shown as it is.
-/

namespace BranchFold

/-! ## Plain text -/

namespace Text

/-- Each character is a line break or no control character of ASCII. -/
def IsPlain (text : Text) : Prop :=
  ∀ c ∈ text, c = '\n' ∨ 32 ≤ c.toNat

@[simp]
theorem isPlain_nil : IsPlain [] := by
  simp [IsPlain]

@[simp]
theorem isPlain_cons {c : Char} {text : Text} :
    IsPlain (c :: text) ↔ (c = '\n' ∨ 32 ≤ c.toNat) ∧ IsPlain text := by
  simp [IsPlain]

@[simp]
theorem isPlain_append {text text' : Text} :
    IsPlain (text ++ text') ↔ IsPlain text ∧ IsPlain text' := by
  simp [IsPlain, or_imp, forall_and]

theorem IsPlain.subset {text text' : Text} (h : text'.IsPlain) (hsubset : text ⊆ text') :
    text.IsPlain :=
  fun c hc => h c (hsubset hc)

theorem isPlain_flatMap {α : Type} {write : α → Text} {items : List α}
    (h : ∀ a ∈ items, (write a).IsPlain) : IsPlain (items.flatMap write) := by
  intro c hc
  rcases List.mem_flatMap.1 hc with ⟨a, ha, hc⟩
  exact h a ha c hc

theorem isPlain_intercalate {separator : Text} {parts : List Text} (hseparator : separator.IsPlain)
    (hparts : ∀ part ∈ parts, part.IsPlain) : IsPlain (separator.intercalate parts) := by
  induction parts with
  | nil => simp
  | cons part parts ih =>
    rcases List.forall_mem_cons.1 hparts with ⟨hpart, hrest⟩
    cases parts with
    | nil => simpa using hpart
    | cons next parts => simpa [hpart, hseparator] using ih hrest

theorem isPlain_replicate {c : Char} (h : 32 ≤ c.toNat) (count : Nat) :
    IsPlain (List.replicate count c) := by
  intro d hd
  rw [List.eq_of_mem_replicate hd]
  exact Or.inr h

/-- Plain text has no control sequences to lose. -/
theorem IsPlain.withoutSequences_eq {text : Text} (h : text.IsPlain) :
    withoutSequences text = text := by
  refine withoutSequences_of_notMem fun hmem => ?_
  have hescape := h escape hmem
  exact absurd hescape (by decide)

end Text

/-! ## Numbers -/

namespace Decimal

open Text (IsPlain)

/-- The digits of a number are plain. -/
theorem isPlain_digitsOf (n : Nat) : IsPlain (digitsOf n) := by
  intro c hc
  have hrange := Text.toNat_of_isDigit (Nat.isDigit_of_mem_toDigits (by decide) (by decide) hc)
  omega

/-- Zeros are plain. -/
theorem isPlain_zeros (count : Int) : IsPlain (zeros count) :=
  Text.isPlain_replicate (by decide) count.toNat

theorem isPlain_dropTrailingZeros {digits : Text} (h : digits.IsPlain) :
    IsPlain (dropTrailingZeros digits) := by
  refine h.subset fun c hc => ?_
  rw [dropTrailingZeros, List.mem_reverse] at hc
  exact List.mem_reverse.1 ((List.dropWhile_sublist _).subset hc)

/-- The digits of the shortest decimal are plain. -/
theorem isPlain_shortest (mantissa : Nat) (exponent : Int) :
    IsPlain (shortest mantissa exponent).digits := by
  unfold shortest
  dsimp only
  split
  · exact isPlain_dropTrailingZeros (isPlain_digitsOf _)
  · simp

variable {d : Decimal}

/-- A decimal with its point in place is plain. -/
theorem isPlain_positional (h : IsPlain d.digits) : IsPlain d.positional := by
  have htake := h.subset (List.take_subset d.point.toNat d.digits)
  have hdrop := h.subset (List.drop_subset d.point.toNat d.digits)
  unfold positional
  split
  · simp [h, isPlain_zeros]
  · split
    · simp [h, isPlain_zeros]
    · simp [htake, hdrop]

/-- An exponent is plain. -/
theorem isPlain_exponentText (exponent : Int) : IsPlain (exponentText exponent) := by
  have hdigits := isPlain_digitsOf exponent.natAbs
  unfold exponentText
  dsimp only
  split <;> split <;> simp [hdigits]

/-- A decimal with an exponent is plain. -/
theorem isPlain_scientific (h : IsPlain d.digits) : IsPlain d.scientific := by
  have hexponent := isPlain_exponentText (d.point - 1)
  unfold scientific
  split <;> simp_all

/-- A decimal in its usual form is plain. -/
theorem isPlain_usual (h : IsPlain d.digits) : IsPlain d.usual := by
  unfold usual
  split
  · exact isPlain_positional h
  · exact isPlain_scientific h

end Decimal

/-- The text of a number is plain. -/
theorem Binary64.isPlain_toText (x : Binary64) : Text.IsPlain x.toText := by
  cases x with
  | finite negative mantissa exponent =>
    have hsize : Text.IsPlain (if mantissa = 0 then ['0', '.', '0']
        else (Decimal.shortest mantissa exponent).usual) := by
      split
      · simp
      · exact Decimal.isPlain_usual (Decimal.isPlain_shortest mantissa exponent)
    cases negative <;> simpa [toText] using hsize
  | infinite negative => cases negative <;> simp [toText]
  | undefined => simp [toText]

/-- The numeral of an integer is plain. -/
theorem isPlain_toString (n : Int) : Text.IsPlain (toString n).toList := by
  cases n with
  | ofNat n =>
    change Text.IsPlain (Nat.repr n).toList
    rw [Nat.toList_repr]
    exact Decimal.isPlain_digitsOf n
  | negSucc n =>
    change Text.IsPlain ("-" ++ Nat.repr (n + 1)).toList
    rw [String.toList_append, Nat.toList_repr, Text.isPlain_append]
    exact ⟨by simp, Decimal.isPlain_digitsOf (n + 1)⟩

/-! ## Values -/

namespace Json

open Text (IsPlain)

/-- Hexadecimal digits are plain. -/
theorem isPlain_hexDigits (width n : Nat) : IsPlain (Text.hexDigits width n) := by
  induction width generalizing n with
  | zero => simp [Text.hexDigits]
  | succ width ih =>
    have hdigit : ∀ digit < 16, 32 ≤ (Text.hexDigit digit).toNat := by decide
    have hlast := hdigit (n % 16) (Nat.mod_lt n (by decide))
    simp [Text.hexDigits, ih, hlast]

/-- Escapes are plain. -/
theorem isPlain_escapeCode (code : Nat) : IsPlain (escapeCode code) := by
  unfold escapeCode escapeUnit
  split <;> simp [isPlain_hexDigits]

/-- Each character is written in plain text. -/
theorem isPlain_writeChar (alphabet : Alphabet) (c : Char) : IsPlain (writeChar alphabet c) := by
  have hescapes : ∀ entry ∈ shortEscapes, IsPlain ['\\', entry.2] := by simp [shortEscapes]
  unfold writeChar
  split
  · rename_i short hlookup
    rcases List.lookup_eq_some_iff.1 hlookup with ⟨before, after, hentries, -⟩
    exact hescapes (c, short) (by simp [hentries])
  · split
    · rename_i hshows
      cases alphabet <;> simp_all [Alphabet.shows]
    · exact isPlain_escapeCode c.toNat

/-- A text between quotes is plain. -/
theorem isPlain_writeText (alphabet : Alphabet) (s : String) :
    IsPlain (writeText alphabet s).toList := by
  have hinside := Text.isPlain_flatMap fun c (_ : c ∈ s.toList) => isPlain_writeChar alphabet c
  simp [writeText, hinside]

/-- A number is written in plain text. -/
theorem isPlain_writeReal (x : Binary64) : IsPlain (writeReal x).toList := by
  cases x with
  | finite negative mantissa exponent => simpa [writeReal] using Binary64.isPlain_toText _
  | infinite | undefined => simp [writeReal]

/-- A new line is plain at any depth. -/
theorem isPlain_newLine (depth : Nat) : IsPlain (newLine depth).toList := by
  simp [newLine, Text.isPlain_replicate]

/-- Plain parts are plain inside plain brackets. -/
theorem isPlain_writeParts {opening closing : String} (hopening : IsPlain opening.toList)
    (hclosing : IsPlain closing.toList) (depth : Nat) {parts : List String}
    (hparts : ∀ part ∈ parts, IsPlain part.toList) :
    IsPlain (writeParts opening closing depth parts).toList := by
  have hseparator : IsPlain (',' :: (newLine (depth + 1)).toList) := by
    simp [isPlain_newLine]
  have hjoined := Text.isPlain_intercalate hseparator (List.forall_mem_map.2 hparts)
  unfold writeParts
  split
  · simp [hopening, hclosing]
  · simp [hopening, hclosing, isPlain_newLine, hjoined]

mutual
/-- A value is written in plain text. -/
theorem isPlain_writeAt (alphabet : Alphabet) (depth : Nat) :
    ∀ value, IsPlain (writeAt alphabet depth value).toList
  | .null => by simp [writeAt]
  | .bool value => by cases value <;> simp [writeAt]
  | .int value => by simpa [writeAt] using isPlain_toString value
  | .real value => by simpa [writeAt] using isPlain_writeReal value
  | .text value => by simpa [writeAt] using isPlain_writeText alphabet value
  | .array items => by
    rw [writeAt]
    exact isPlain_writeParts (by simp) (by simp) depth
      (isPlain_writeItems alphabet (depth + 1) items)
  | .object members => by
    rw [writeAt]
    exact isPlain_writeParts (by simp) (by simp) depth
      (isPlain_writeMembers alphabet (depth + 1) members)

/-- The items of an array are written in plain text. -/
theorem isPlain_writeItems (alphabet : Alphabet) (depth : Nat) :
    ∀ items, ∀ part ∈ writeItems alphabet depth items, IsPlain part.toList
  | [] => by simp [writeItems]
  | value :: rest => by
    rw [writeItems, List.forall_mem_cons]
    exact ⟨isPlain_writeAt alphabet depth value, isPlain_writeItems alphabet depth rest⟩

/-- The members of an object are written in plain text. -/
theorem isPlain_writeMembers (alphabet : Alphabet) (depth : Nat) :
    ∀ members, ∀ part ∈ writeMembers alphabet depth members, IsPlain part.toList
  | [] => by simp [writeMembers]
  | (key, value) :: rest => by
    have hkey := isPlain_writeText alphabet key
    have hvalue := isPlain_writeAt alphabet depth value
    rw [writeMembers, List.forall_mem_cons]
    exact ⟨by simp [hkey, hvalue], isPlain_writeMembers alphabet depth rest⟩
end

/-- A value that is written is plain. -/
theorem isPlain_write (alphabet : Alphabet) (value : Value) :
    IsPlain (write alphabet value).toList :=
  isPlain_writeAt alphabet 0 value

end Json

/-- A written value is shown as it is, on a terminal or not. -/
theorem Command.linesText_write (toTerminal : Bool) (alphabet : Json.Alphabet)
    (value : Json.Value) :
    linesText toTerminal [Json.write alphabet value] = Json.write alphabet value ++ "\n" := by
  have hplain : Text.IsPlain ((Json.write alphabet value).toList ++ ['\n']) := by
    simp [Json.isPlain_write]
  cases toTerminal with
  | true => simp [linesText]
  | false =>
    simp [linesText, hplain.withoutSequences_eq, String.ofList_append]

end BranchFold
