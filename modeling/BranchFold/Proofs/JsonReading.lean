import BranchFold.Json.Reader
import BranchFold.Json.Writer
import Mathlib.Tactic.Common
import Mathlib.Tactic.SplitIfs

/-!
# Reading inverts writing

A structured value that is written in either alphabet is read back as the value, whatever stands
behind it.  Real numbers are read back as their texts say; a number that is not finite has no text
and is read back as no value.

Main definition:

- {lit}`Json.Value.reread`: a value with its real numbers as they are read back.

Main results:

- Theorem {lit}`Json.readText_flatMap_writeChar`: what is read of a written text.
- Theorem {lit}`Json.readNumber_toText`: what is read of a written real number.
- Theorem {lit}`Json.read_write`: what is read of a written value.
-/

namespace BranchFold
namespace Json

/-! ## Texts -/

section Texts

variable {opened position : Nat} {done rest : Text}

/-- Characters of an escape that has been read are passed over. -/
theorem readText_pass (opened position : Nat) (done passed rest : Text) :
    readText opened position passed.length done (passed ++ rest) =
      readText opened (position + passed.length) 0 done rest := by
  induction passed generalizing position with
  | nil => rfl
  | cons c passed ih =>
    rw [List.cons_append, readText.eq_def]
    simp only [List.length_cons, Nat.zero_lt_succ, if_true, Nat.add_sub_cancel, ih]
    congr 1
    omega

/-- Each escape by one letter stands for its character. -/
theorem readText_short {c short : Char} (h : shortEscapes.lookup c = some short) :
    readText opened position 0 done ('\\' :: short :: rest) =
      readText opened (position + 2) 0 (c :: done) rest := by
  have hall : ∀ entry ∈ shortEscapes,
      entry.2 ≠ 'u' ∧ shortEscape? entry.2 = some entry.1 := by decide
  rcases List.lookup_eq_some_iff.1 h with ⟨before, after, hentries, -⟩
  rcases hall (c, short) (by simp [hentries]) with ⟨hne, hescape⟩
  have hpass := readText_pass opened (position + 1) (c :: done) [short] rest
  simp only [List.singleton_append, List.length_singleton] at hpass
  rw [readText.eq_def]
  simp [hescape, hpass]

/-- The value of a digit in base sixteen. -/
theorem hexValue?_hexDigit {n : Nat} (h : n < 16) : hexValue? (Text.hexDigit n) = some n := by
  have hall : ∀ n < 16, hexValue? (Text.hexDigit n) = some n := by decide
  exact hall n h

/-- Four digits in base sixteen stand for their number, if anything follows them. -/
theorem unit?_hexDigits {unit : Nat} (h : unit < 0x10000) (hrest : rest ≠ []) :
    unit? (Text.hexDigits 4 unit ++ rest) = some unit := by
  rcases List.exists_cons_of_ne_nil hrest with ⟨c, more, rfl⟩
  have hvalue : 4096 * (unit / 16 / 16 / 16 % 16) + 256 * (unit / 16 / 16 % 16) +
      16 * (unit / 16 % 16) + unit % 16 = unit := by omega
  simp [Text.hexDigits, unit?, hexValue?_hexDigit, Nat.mod_lt, hvalue]

theorem length_hexDigits (width n : Nat) : (Text.hexDigits width n).length = width := by
  induction width generalizing n with
  | zero => rfl
  | succ width ih => simp [Text.hexDigits, ih]

/-- An escape of four digits stands for its character. -/
theorem unitEscape_hexDigits {unit : Nat} (h : unit < 0x10000) (hhigh : isHighUnit unit = false)
    (hrest : rest ≠ []) :
    unitEscape (Text.hexDigits 4 unit ++ rest) = .ok (charOfUnit unit, 5) := by
  rw [unitEscape, unit?_hexDigits h hrest]
  dsimp only
  split
  · simp [hhigh]
  · rfl

/-- Two escapes of four digits stand for a character beyond the first plane. -/
theorem unitEscape_pair {high low : Nat} (hhigh : isHighUnit high = true)
    (hlow : isLowUnit low = true) (hrest : rest ≠ []) :
    unitEscape (Text.hexDigits 4 high ++ '\\' :: 'u' :: (Text.hexDigits 4 low ++ rest)) =
      .ok (charOfPair high low, 11) := by
  have hhigh' : high < 0x10000 := by
    simp [isHighUnit] at hhigh
    omega
  have hlow' : low < 0x10000 := by
    simp [isLowUnit] at hlow
    omega
  have hlength : 4 < (Text.hexDigits 4 low ++ rest).length := by
    rw [List.length_append, length_hexDigits]
    have hpos := List.length_pos_iff.2 hrest
    omega
  have hdrop : (Text.hexDigits 4 high ++ '\\' :: 'u' :: (Text.hexDigits 4 low ++ rest)).drop 4 =
      '\\' :: 'u' :: (Text.hexDigits 4 low ++ rest) :=
    List.drop_left' (length_hexDigits 4 high)
  rw [unitEscape, unit?_hexDigits hhigh' (by simp), hdrop]
  simp only [hhigh, hlength, decide_true, Bool.and_self, if_true, unit?_hexDigits hlow' hrest, hlow]

/-- An escape that stands for a character is read as the character. -/
theorem readText_unitEscape {c : Char} {escape : Text}
    (h : unitEscape (escape ++ rest) = .ok (c, escape.length + 1)) :
    readText opened position 0 done ('\\' :: 'u' :: (escape ++ rest)) =
      readText opened (position + escape.length + 2) 0 (c :: done) rest := by
  have hpass := readText_pass opened (position + 1) (c :: done) ('u' :: escape) rest
  rw [List.length_cons, List.cons_append] at hpass
  rw [readText.eq_def]
  simp only [Nat.lt_irrefl, if_false, h, hpass]
  rw [if_neg (by decide), if_pos (by decide)]
  congr 1
  omega

/-- An escaped character is read as the character. -/
theorem readText_escapeCode (c : Char) (hrest : rest ≠ []) :
    ∃ position', readText opened position 0 done (escapeCode c.toNat ++ rest) =
      readText opened position' 0 (c :: done) rest := by
  have hvalid : c.toNat < 0xD800 ∨ 0xDFFF < c.toNat ∧ c.toNat < 0x110000 := c.valid
  unfold escapeCode
  split_ifs with hplane
  · have hchar : charOfUnit c.toNat = c := by
      have hunit : (isHighUnit c.toNat || isLowUnit c.toNat) = false := by
        simp [isHighUnit, isLowUnit]
        omega
      rw [charOfUnit, hunit]
      exact Char.ofNat_toNat c
    have hhigh : isHighUnit c.toNat = false := by
      simp [isHighUnit]
      omega
    have hescape := unitEscape_hexDigits hplane hhigh hrest
    rw [hchar] at hescape
    exact ⟨_, readText_unitEscape (by rwa [length_hexDigits])⟩
  · -- Beyond the first plane two escapes are written, and they are read as one character.
    dsimp only
    generalize hhigh : 0xD800 + (c.toNat - 0x10000) / 0x400 = high
    generalize hlow : 0xDC00 + (c.toNat - 0x10000) % 0x400 = low
    have hchar : charOfPair high low = c := by
      have hcode : 0x10000 + 0x400 * (high - 0xD800) + (low - 0xDC00) = c.toNat := by omega
      rw [charOfPair, hcode, Char.ofNat_toNat]
    have hhalves : isHighUnit high = true ∧ isLowUnit low = true := by
      simp [isHighUnit, isLowUnit]
      omega
    have hescape := unitEscape_pair hhalves.1 hhalves.2 hrest
    have hsplit : escapeUnit high ++ escapeUnit low ++ rest = '\\' :: 'u' ::
        ((Text.hexDigits 4 high ++ '\\' :: 'u' :: Text.hexDigits 4 low) ++ rest) := by
      simp [escapeUnit]
    rw [hsplit]
    refine ⟨_, readText_unitEscape ?_⟩
    rw [hchar] at hescape
    simpa [length_hexDigits] using hescape

/-- A written character is read as the character. -/
theorem readText_writeChar (alphabet : Alphabet) (opened position : Nat) (done : Text) (c : Char)
    (hrest : rest ≠ []) :
    ∃ position', readText opened position 0 done (writeChar alphabet c ++ rest) =
      readText opened position' 0 (c :: done) rest := by
  unfold writeChar
  split
  · rename_i short hlookup
    exact ⟨_, readText_short hlookup⟩
  · rename_i hlookup
    have hspecial : (c == '"') = false ∧ (c == '\\') = false := by
      have hnot := List.lookup_eq_none_iff.1 hlookup
      have hquote := hnot ('"', '"') (by simp [shortEscapes])
      have hbackslash := hnot ('\\', '\\') (by simp [shortEscapes])
      simpa using And.intro hquote hbackslash
    split_ifs with hshows
    · have hcontrol : ¬ c.toNat < 32 := by
        cases alphabet <;> simp [Alphabet.shows] at hshows <;> omega
      refine ⟨position + 1, ?_⟩
      rw [List.singleton_append, readText.eq_def]
      simp [hspecial, hcontrol]
    · exact readText_escapeCode c hrest

/-- A written text is read up to its closing quote. -/
theorem readText_flatMap_writeChar (alphabet : Alphabet) (opened position : Nat)
    (done text rest : Text) :
    ∃ position', readText opened position 0 done
      (text.flatMap (writeChar alphabet) ++ '"' :: rest) =
        .ok (String.ofList (done.reverse ++ text), ⟨position', rest⟩) := by
  induction text generalizing position done with
  | nil => exact ⟨position + 1, by simp [readText]⟩
  | cons c text ih =>
    rw [List.flatMap_cons, List.append_assoc]
    have hmore : text.flatMap (writeChar alphabet) ++ '"' :: rest ≠ [] := by simp
    rcases readText_writeChar alphabet opened position done c hmore with ⟨position', hchar⟩
    rcases ih position' (c :: done) with ⟨position'', htext⟩
    refine ⟨position'', ?_⟩
    rw [hchar, htext]
    simp

end Texts

/-! ## Numbers -/

section Numbers

variable {rest : Text}

/-- No digit stands at the start of the text. -/
def NoDigit (text : Text) : Prop :=
  ∀ c ∈ text.head?, c.isDigit = false

/-- The text does not continue a number. -/
def EndsNumber (text : Text) : Prop :=
  NoDigit text ∧ ∀ c ∈ text.head?, c ≠ '.' ∧ c ≠ 'e' ∧ c ≠ 'E'

theorem noDigit_cons {c : Char} : NoDigit (c :: rest) ↔ c.isDigit = false := by
  simp [NoDigit]

theorem endsNumber_nil : EndsNumber [] := by
  simp [EndsNumber, NoDigit]

theorem endsNumber_cons {c : Char} :
    EndsNumber (c :: rest) ↔ c.isDigit = false ∧ c ≠ '.' ∧ c ≠ 'e' ∧ c ≠ 'E' := by
  simp [EndsNumber, NoDigit]

/-- Digits end where no digit follows. -/
theorem leadingDigits_append {digits : Text} (hdigits : ∀ c ∈ digits, c.isDigit = true)
    (hrest : NoDigit rest) : leadingDigits (digits ++ rest) = digits := by
  rw [leadingDigits, List.takeWhile_append_of_pos hdigits]
  cases rest with
  | nil => simp
  | cons c rest => simp [noDigit_cons.1 hrest]

/-- The digits are those of a whole part: a zero, or digits the first of which is none. -/
structure IsWholePart (digits : Text) : Prop where
  nonempty : digits ≠ []
  digit : ∀ c ∈ digits, c.isDigit = true
  noZero : digits = ['0'] ∨ digits.head? ≠ some '0'

/-- The whole part of a number ends where no digit follows. -/
theorem IsWholePart.wholePart_append {digits : Text} (h : IsWholePart digits)
    (hrest : NoDigit rest) : wholePart (digits ++ rest) = digits := by
  rcases h.noZero with rfl | hhead
  · rfl
  · rcases List.exists_cons_of_ne_nil h.nonempty with ⟨c, more, rfl⟩
    have hne : c ≠ '0' := by simpa using hhead
    have hdigits := leadingDigits_append h.digit hrest
    rw [List.cons_append] at hdigits ⊢
    unfold wholePart
    split
    · rename_i heq
      exact absurd (List.cons.inj heq).1 hne
    · exact hdigits

/-- The sign of a number. -/
def signText (negative : Bool) : Text :=
  if negative then ['-'] else []

/-- What is read of a number depends on its sign, its whole part and what stands behind that. -/
theorem readNumber_append {whole : Text} (hwhole : IsWholePart whole) (negative : Bool)
    (position : Nat) (hrest : NoDigit rest) :
    readNumber {} ⟨position, signText negative ++ (whole ++ rest)⟩ =
      let fraction := fractionPart rest
      let fractionLength := if fraction.isEmpty then 0 else fraction.length + 1
      let exponent := exponentPart (rest.drop fractionLength)
      let exponentLength := (exponent.map (·.2)).getD 0
      let position' := position + ((signText negative).length + whole.length + fractionLength +
        exponentLength)
      let after : Rest := ⟨position', rest.drop (fractionLength + exponentLength)⟩
      if fraction.isEmpty && exponent.isNone then
        let size : Int := Text.ofAsciiDigits whole
        .ok (.int (if negative then -size else size), after)
      else
        let scale : Int := (exponent.map (·.1)).getD 0 - fraction.length
        let digits := Text.ofAsciiDigits (whole ++ fraction)
        .ok (.real (Binary64.ofDecimal negative digits scale), after) := by
  have hsign : ((signText negative ++ (whole ++ rest)).head? == some '-') = negative := by
    rcases List.exists_cons_of_ne_nil hwhole.nonempty with ⟨c, more, rfl⟩
    have hdigit := Text.toNat_of_isDigit (hwhole.digit c (by simp))
    cases negative with
    | true => rfl
    | false =>
      have hne : c ≠ '-' := by
        rintro rfl
        exact absurd hdigit (by decide)
      simpa [signText] using hne
  have hlength : (if negative then 1 else 0) = (signText negative).length := by
    cases negative <;> rfl
  have hempty : whole.isEmpty = false := by simpa using hwhole.nonempty
  have hdrop (count count' : Nat) :
      (signText negative ++ (whole ++ rest)).drop
        ((signText negative).length + whole.length + count + count') =
          rest.drop (count + count') := by
    rw [← List.append_assoc, ← List.length_append, Nat.add_assoc, List.drop_append]
    simp
  simp only [readNumber, hsign, hlength, List.drop_left, hwhole.wholePart_append hrest, hempty,
    Rest.advance, hdrop, Option.any_none, Bool.false_eq_true, if_false]

/-- What does not continue a number is no fraction of it. -/
theorem EndsNumber.fractionPart_eq (h : EndsNumber rest) : fractionPart rest = [] := by
  unfold fractionPart
  split
  · exact absurd rfl (endsNumber_cons.1 h).2.1
  · rfl

/-- What does not continue a number is no exponent of it. -/
theorem EndsNumber.exponentPart_eq (h : EndsNumber rest) : exponentPart rest = none := by
  cases rest with
  | nil => rfl
  | cons c rest =>
    rcases endsNumber_cons.1 h with ⟨-, -, hlower, hupper⟩
    simp [exponentPart, hlower, hupper]

/-! ### Integers -/

/-- The first digit of a positive number is no zero. -/
theorem head?_digitsOf_ne {n : Nat} (h : 0 < n) : (Decimal.digitsOf n).head? ≠ some '0' := by
  induction n using Nat.strongRecOn with
  | ind n ih =>
    rcases Nat.lt_or_ge n 10 with hlt | hge
    · have hall : ∀ n < 10, 0 < n → Nat.digitChar n ≠ '0' := by decide
      rw [Decimal.digitsOf, Nat.toDigits_of_lt_base hlt]
      simpa using hall n hlt h
    · have hfront := ih (n / 10) (by omega) (by omega)
      rw [Decimal.digitsOf] at hfront ⊢
      rw [Nat.toDigits_of_base_le (by decide) hge]
      rcases List.exists_cons_of_ne_nil (Nat.toDigits_ne_nil (n := n / 10) (b := 10)) with
        ⟨c, more, hdigits⟩
      rw [hdigits] at hfront ⊢
      simpa using hfront

theorem isDigit_of_mem_digitsOf {n : Nat} {c : Char} (h : c ∈ Decimal.digitsOf n) :
    c.isDigit = true :=
  Nat.isDigit_of_mem_toDigits (by decide) (by decide) h

/-- The digits of a number are a whole part. -/
theorem isWholePart_digitsOf (n : Nat) : IsWholePart (Decimal.digitsOf n) where
  nonempty := Nat.toDigits_ne_nil
  digit _ := isDigit_of_mem_digitsOf
  noZero := by
    rcases Nat.eq_zero_or_pos n with rfl | hpos
    · exact Or.inl (by decide)
    · exact Or.inr (head?_digitsOf_ne hpos)

/-- The digits of a number stand for the number. -/
theorem ofAsciiDigits_digitsOf (n : Nat) : Text.ofAsciiDigits (Decimal.digitsOf n) = n := by
  rw [Text.ofAsciiDigits, Text.ofDigits, List.foldl_map]
  exact Nat.ofDigitChars_ten_toDigits

/-- The numeral of an integer is its sign and the digits of its size. -/
theorem toList_toString (n : Int) :
    (toString n).toList = signText (n < 0) ++ Decimal.digitsOf n.natAbs := by
  cases n with
  | ofNat n =>
    change (Nat.repr n).toList = _
    have hsign : decide (Int.ofNat n < 0) = false := by simp
    rw [Nat.toList_repr, hsign]
    rfl
  | negSucc n =>
    change ("-" ++ Nat.repr (n + 1)).toList = _
    have hsign : decide (Int.negSucc n < 0) = true := by simp
    rw [String.toList_append, Nat.toList_repr, hsign]
    rfl

/-- The numeral of an integer is read as the integer. -/
theorem readNumber_toString (n : Int) (position : Nat) (hrest : EndsNumber rest) :
    ∃ position', readNumber {} ⟨position, (toString n).toList ++ rest⟩ =
      .ok (.int n, ⟨position', rest⟩) := by
  have hread := readNumber_append (isWholePart_digitsOf n.natAbs) (n < 0) position hrest.1
  have hvalue : (if decide (n < 0) = true then -(n.natAbs : Int) else n.natAbs) = n := by
    simp only [decide_eq_true_eq]
    split_ifs <;> omega
  rw [hrest.fractionPart_eq] at hread
  simp only [List.isEmpty_nil, if_true, List.drop_zero, hrest.exponentPart_eq, Option.isNone_none,
    Bool.and_self, Option.map_none, Option.getD_none, ofAsciiDigits_digitsOf, hvalue] at hread
  rw [toList_toString, List.append_assoc, hread]
  exact ⟨_, rfl⟩

/-! ### Real numbers -/

/-- A fraction behind its point, if there is one. -/
def pointText (fraction : Text) : Text :=
  if fraction.isEmpty then [] else '.' :: fraction

/-- An exponent behind its mark, if there is one. -/
def powerText : Option Int → Text
  | none => []
  | some exponent => 'e' :: Decimal.exponentText exponent

/-- The text is a whole part with a fraction, an exponent or both. -/
def IsRealText (text : Text) : Prop :=
  ∃ whole fraction power, IsWholePart whole ∧ (∀ c ∈ fraction, c.isDigit = true) ∧
    (fraction ≠ [] ∨ power.isSome = true) ∧ text = whole ++ (pointText fraction ++ powerText power)

/-- Neither a digit nor a point stands behind a fraction. -/
theorem noDigit_powerText (power : Option Int) (hrest : EndsNumber rest) :
    NoDigit (powerText power ++ rest) ∧ ∀ c ∈ (powerText power ++ rest).head?, c ≠ '.' := by
  cases power with
  | none => exact ⟨hrest.1, fun c hc => (hrest.2 c hc).1⟩
  | some exponent => simp [powerText, NoDigit]

/-- A fraction is read up to its end. -/
theorem fractionPart_pointText {fraction : Text} (hfraction : ∀ c ∈ fraction, c.isDigit = true)
    (hrest : NoDigit rest) (hpoint : ∀ c ∈ rest.head?, c ≠ '.') :
    fractionPart (pointText fraction ++ rest) = fraction := by
  cases fraction with
  | nil =>
    change fractionPart rest = []
    unfold fractionPart
    split
    · exact absurd rfl (hpoint '.' rfl)
    · rfl
  | cons c fraction => exact leadingDigits_append hfraction hrest

/-- A zero in front changes no number. -/
theorem ofAsciiDigits_zero_cons (digits : Text) :
    Text.ofAsciiDigits ('0' :: digits) = Text.ofAsciiDigits digits := rfl

/-- A written exponent is read as the exponent. -/
theorem exponentPart_powerText (power : Option Int) (hrest : EndsNumber rest) :
    exponentPart (powerText power ++ rest) =
      power.map fun exponent => (exponent, (powerText power).length) := by
  cases power with
  | none => exact hrest.exponentPart_eq
  | some exponent =>
    generalize hsize : exponent.natAbs = size
    generalize hdigits : (if (Decimal.digitsOf size).length < 2 then
      '0' :: Decimal.digitsOf size else Decimal.digitsOf size) = digits
    have hdigit : ∀ c ∈ digits, c.isDigit = true := by
      rw [← hdigits]
      intro c hc
      split_ifs at hc
      · rcases List.mem_cons.1 hc with rfl | hc
        · rfl
        · exact isDigit_of_mem_digitsOf hc
      · exact isDigit_of_mem_digitsOf hc
    have hvalue : Text.ofAsciiDigits digits = size := by
      rw [← hdigits]
      split_ifs
      · rw [ofAsciiDigits_zero_cons, ofAsciiDigits_digitsOf]
      · exact ofAsciiDigits_digitsOf _
    have hnonempty : digits.isEmpty = false := by
      rw [← hdigits]
      split_ifs
      · rfl
      · simpa using (isWholePart_digitsOf size).nonempty
    have hlead := leadingDigits_append hdigit hrest.1
    rw [powerText, Decimal.exponentText, hsize, hdigits]
    by_cases hneg : exponent < 0
    · have hsign : -(size : Int) = exponent := by omega
      simp [exponentPart, hneg, hlead, hnonempty, hvalue, hsign]
      omega
    · have hsign : (size : Int) = exponent := by omega
      simp [exponentPart, hneg, hlead, hnonempty, hvalue, hsign]
      omega

/-- The text of a real number is read as a real number. -/
theorem readNumber_of_isRealText {text : Text} (h : IsRealText text) (negative : Bool) :
    ∃ y, ∀ (position : Nat) (rest : Text), EndsNumber rest → ∃ position',
      readNumber {} ⟨position, signText negative ++ text ++ rest⟩ =
        .ok (.real y, ⟨position', rest⟩) := by
  rcases h with ⟨whole, fraction, power, hwhole, hfraction, hpart, rfl⟩
  refine ⟨Binary64.ofDecimal negative (Text.ofAsciiDigits (whole ++ fraction))
    (power.getD 0 - fraction.length), ?_⟩
  intro position rest hrest
  rcases noDigit_powerText power hrest with ⟨hdigit, hpoint⟩
  have hafter : NoDigit (pointText fraction ++ (powerText power ++ rest)) := by
    cases fraction with
    | nil => exact hdigit
    | cons c fraction => simp [pointText, NoDigit]
  have hread := readNumber_append hwhole negative position hafter
  have hlength : (if fraction.isEmpty then 0 else fraction.length + 1) =
      (pointText fraction).length := by
    cases fraction <;> rfl
  have hpower : ((power.map fun exponent =>
      (exponent, (powerText power).length)).map (·.2)).getD 0 = (powerText power).length := by
    cases power <;> rfl
  have hscale : ((power.map fun exponent =>
      (exponent, (powerText power).length)).map (·.1)).getD 0 = power.getD 0 := by
    cases power <;> rfl
  have hreal : (fraction.isEmpty &&
      (power.map fun exponent => (exponent, (powerText power).length)).isNone) = false := by
    rcases hpart with hpart | hpart
    · simp [hpart]
    · rcases Option.isSome_iff_exists.1 hpart with ⟨exponent, rfl⟩
      simp
  have hdrop : (pointText fraction ++ (powerText power ++ rest)).drop
      ((pointText fraction).length + (powerText power).length) = rest := by
    rw [← List.append_assoc, ← List.length_append, List.drop_left]
  simp only [fractionPart_pointText hfraction hdigit hpoint, hlength, List.drop_left,
    exponentPart_powerText power hrest, hpower, hscale, hreal, hdrop, Bool.false_eq_true,
    if_false] at hread
  rw [List.append_assoc, List.append_assoc, List.append_assoc, hread]
  exact ⟨_, rfl⟩

/-- The digits of a decimal: at least one, and the first is no zero. -/
structure IsSignificant (digits : Text) : Prop where
  digit : ∀ c ∈ digits, c.isDigit = true
  head : ∃ c more, digits = c :: more ∧ c ≠ '0'

/-- Zeros at the end do not count as digits, and those in front are not there. -/
theorem isSignificant_dropTrailingZeros {n : Nat} (h : 0 < n) :
    IsSignificant (Decimal.dropTrailingZeros (Decimal.digitsOf n)) := by
  constructor
  · intro c hc
    rw [Decimal.dropTrailingZeros, List.mem_reverse] at hc
    exact isDigit_of_mem_digitsOf (List.mem_reverse.1 ((List.dropWhile_sublist _).subset hc))
  · have hhead := head?_digitsOf_ne h
    rcases List.exists_cons_of_ne_nil (isWholePart_digitsOf n).nonempty with ⟨c, more, hdigits⟩
    rw [hdigits] at hhead ⊢
    have hne : c ≠ '0' := by simpa using hhead
    rw [Decimal.dropTrailingZeros, List.reverse_cons, List.dropWhile_append]
    split_ifs
    · exact ⟨c, [], by simp [hne], hne⟩
    · exact ⟨c, _, by rw [List.reverse_append, List.reverse_singleton, List.singleton_append], hne⟩

/-- Zero lies in no interval above it. -/
theorem holds_zero {interval : Decimal.Interval} (h : 0 < interval.low) (exponent : Int) :
    interval.holds 0 exponent = false := by
  have hparts : (Decimal.timesTen 0 1 exponent).1 = 0 ∧ 0 < (Decimal.timesTen 0 1 exponent).2 := by
    unfold Decimal.timesTen
    split_ifs
    · simp
    · exact ⟨rfl, Nat.mul_pos Nat.one_pos (Nat.pow_pos (by decide))⟩
  have hlow := Nat.mul_pos h hparts.2
  unfold Decimal.Interval.holds
  simp only [hparts.1, Nat.zero_mul]
  split_ifs
  · simp only [Bool.and_eq_false_iff, decide_eq_false_iff_not]
    omega
  · simp

/-- What is picked from an interval above zero is positive. -/
theorem pos_of_pick {interval : Decimal.Interval} (h : 0 < interval.low) {exponent : Int} {n : Nat}
    (hpick : interval.pick exponent = some n) : 0 < n := by
  have hholds : interval.holds n exponent = true := by
    unfold Decimal.Interval.pick at hpick
    dsimp only at hpick
    split_ifs at hpick <;> (cases hpick; assumption)
  by_contra hzero
  rw [Nat.eq_zero_of_not_pos hzero, holds_zero h] at hholds
  cases hholds

/-- What is found in an interval above zero is positive. -/
theorem pos_of_search {interval : Decimal.Interval} (h : 0 < interval.low) {leading : Int}
    {more n : Nat} {count unit : Int}
    (hfound : interval.search leading more count = some (n, unit)) : 0 < n := by
  induction more generalizing count with
  | zero => cases hfound
  | succ more ih =>
    rw [Decimal.Interval.search] at hfound
    split at hfound
    · rename_i picked hpick
      rw [Option.some.injEq, Prod.mk.injEq] at hfound
      exact pos_of_pick h (hfound.1 ▸ hpick)
    · exact ih hfound

/-- Zeros are digits. -/
theorem isDigit_of_mem_zeros {count : Int} {c : Char} (h : c ∈ Decimal.zeros count) :
    c.isDigit = true := by
  rw [List.eq_of_mem_replicate h]
  rfl

theorem isWholePart_zero : IsWholePart ['0'] :=
  ⟨by simp, by simp, Or.inl rfl⟩

/-- Digits that begin with no zero are a whole part. -/
theorem isWholePart_cons {c : Char} {more : Text} (hc : c ≠ '0')
    (h : ∀ digit ∈ c :: more, digit.isDigit = true) : IsWholePart (c :: more) :=
  ⟨by simp, h, Or.inr (by simpa using hc)⟩

/-- A decimal with its point in place is the text of a real number. -/
theorem isRealText_positional {d : Decimal} (h : IsSignificant d.digits) :
    IsRealText d.positional := by
  rcases h.head with ⟨c, more, hdigits, hc⟩
  have hdigit := h.digit
  rw [hdigits] at hdigit
  unfold Decimal.positional
  split_ifs with hsmall hlarge
  · refine ⟨['0'], Decimal.zeros (-d.point) ++ d.digits, none, isWholePart_zero, ?_, ?_, ?_⟩
    · intro digit hmem
      rcases List.mem_append.1 hmem with hmem | hmem
      · exact isDigit_of_mem_zeros hmem
      · exact h.digit digit hmem
    · simp [hdigits]
    · simp [pointText, powerText, hdigits]
  · refine ⟨d.digits ++ Decimal.zeros (d.point - d.digits.length), ['0'], none, ?_, by simp,
      by simp, rfl⟩
    rw [hdigits]
    refine isWholePart_cons hc fun digit hmem => ?_
    rcases List.mem_append.1 (show digit ∈ (c :: more) ++ _ from hmem) with hmem | hmem
    · exact hdigit digit hmem
    · exact isDigit_of_mem_zeros hmem
  · have hnonempty : d.digits.drop d.point.toNat ≠ [] := by
      rw [ne_eq, List.drop_eq_nil_iff]
      omega
    refine ⟨d.digits.take d.point.toNat, d.digits.drop d.point.toNat, none, ?_,
      fun digit hmem => h.digit digit (List.mem_of_mem_drop hmem), Or.inl hnonempty, ?_⟩
    · obtain ⟨count, hcount⟩ : ∃ count, d.point.toNat = count + 1 := ⟨d.point.toNat - 1, by omega⟩
      rw [hdigits, hcount, List.take_succ_cons]
      refine isWholePart_cons hc fun digit hmem => hdigit digit ?_
      rcases List.mem_cons.1 hmem with rfl | hmem
      · exact List.mem_cons_self
      · exact List.mem_cons_of_mem _ (List.mem_of_mem_take hmem)
    · simp [pointText, powerText, hnonempty]

/-- A decimal with an exponent is the text of a real number. -/
theorem isRealText_scientific {d : Decimal} (h : IsSignificant d.digits) :
    IsRealText d.scientific := by
  rcases h.head with ⟨c, more, hdigits, hc⟩
  have hdigit := h.digit
  rw [hdigits] at hdigit
  refine ⟨[c], more, some (d.point - 1), isWholePart_cons hc ?_, ?_, Or.inr rfl, ?_⟩
  · exact fun digit hmem => hdigit digit (List.mem_cons.2 (Or.inl (List.mem_singleton.1 hmem)))
  · exact fun digit hmem => hdigit digit (List.mem_cons_of_mem _ hmem)
  · rw [Decimal.scientific, hdigits]
    cases more <;> rfl

/-- A decimal in its usual form is the text of a real number. -/
theorem isRealText_usual {d : Decimal} (h : IsSignificant d.digits) : IsRealText d.usual := by
  unfold Decimal.usual
  split
  · exact isRealText_positional h
  · exact isRealText_scientific h

/-- The shortest decimal of a positive number is the text of a real number. -/
theorem isRealText_shortest {mantissa : Nat} (h : mantissa ≠ 0) (exponent : Int) :
    IsRealText (Decimal.shortest mantissa exponent).usual := by
  have hlow : 0 < (Decimal.Interval.of mantissa exponent).low := by
    unfold Decimal.Interval.of
    dsimp only
    refine Nat.mul_pos ?_ ?_
    · split_ifs <;> omega
    · split_ifs
      · exact Nat.pow_pos (by decide)
      · exact Nat.one_pos
  unfold Decimal.shortest
  dsimp only
  split
  · rename_i n unit hfound
    exact isRealText_usual (isSignificant_dropTrailingZeros (pos_of_search hlow hfound))
  · exact ⟨['0'], ['0'], none, isWholePart_zero, by simp, by simp, by decide⟩

/-- The value that is read where a real number was written. -/
def rereadReal (x : Binary64) : Value :=
  match readNumber {} (Rest.start (writeReal x).toList) with
  | .ok (value, _) => value
  | .error _ => .null

/-- The text of a finite number is a sign and the text of a real number. -/
theorem isRealText_toText (negative : Bool) (mantissa : Nat) (exponent : Int) :
    ∃ size, IsRealText size ∧
      (Binary64.finite negative mantissa exponent).toText = signText negative ++ size := by
  refine ⟨if mantissa = 0 then ['0', '.', '0'] else (Decimal.shortest mantissa exponent).usual, ?_,
    by cases negative <;> rfl⟩
  split_ifs with hzero
  · exact ⟨['0'], ['0'], none, isWholePart_zero, by simp, by simp, rfl⟩
  · exact isRealText_shortest hzero exponent

/-- A finite number is read back as a real number, whatever stands behind its text. -/
theorem readNumber_toText (negative : Bool) (mantissa : Nat) (exponent : Int) :
    ∃ y, rereadReal (.finite negative mantissa exponent) = .real y ∧
      ∀ (position : Nat) (rest : Text), EndsNumber rest → ∃ position',
        readNumber {} ⟨position, (Binary64.finite negative mantissa exponent).toText ++ rest⟩ =
          .ok (.real y, ⟨position', rest⟩) := by
  rcases isRealText_toText negative mantissa exponent with ⟨size, hsize, htext⟩
  rcases readNumber_of_isRealText hsize negative with ⟨y, hread⟩
  rw [← htext] at hread
  refine ⟨y, ?_, hread⟩
  rcases hread 0 [] endsNumber_nil with ⟨position', hstart⟩
  rw [List.append_nil] at hstart
  simp [rereadReal, writeReal, Rest.start, hstart]

end Numbers

/-! ## Values -/

namespace Value

mutual
/-- The value with its real numbers as they are read back. -/
def reread : Value → Value
  | real x => rereadReal x
  | array items => array (rereadItems items)
  | object members => object (rereadMembers members)
  | value => value

/-- The items of an array as they are read back. -/
def rereadItems : List Value → List Value
  | [] => []
  | value :: rest => reread value :: rereadItems rest

/-- The members of an object as they are read back. -/
def rereadMembers : List (String × Value) → List (String × Value)
  | [] => []
  | (key, value) :: rest => (key, reread value) :: rereadMembers rest
end

/-- The items are read back one by one. -/
theorem rereadItems_eq_map (items : List Value) : rereadItems items = items.map reread := by
  induction items with
  | nil => rfl
  | cons value rest ih => rw [rereadItems, ih, List.map_cons]

end Value

section Values

variable {alphabet : Alphabet} {depth position fuel : Nat} {rest : Text}

/-- Blanks are passed over, up to the first other character. -/
theorem skipSpace_append (position : Nat) {blanks : Text} (hblanks : ∀ c ∈ blanks, Rest.isSpace c = true)
    {c : Char} (hc : Rest.isSpace c = false) (rest : Text) :
    Rest.skipSpace ⟨position, blanks ++ c :: rest⟩ = ⟨position + blanks.length, c :: rest⟩ := by
  have hlength : ((blanks ++ c :: rest).takeWhile Rest.isSpace) = blanks := by
    rw [List.takeWhile_append_of_pos hblanks]
    simp [hc]
  simp [Rest.skipSpace, Rest.advance, hlength]

/-- The blanks of a new line. -/
theorem isSpace_of_mem_newLine (depth : Nat) {c : Char} (h : c ∈ (newLine depth).toList) :
    Rest.isSpace c = true := by
  rw [newLine, String.toList_ofList] at h
  rcases List.mem_cons.1 h with rfl | h
  · rfl
  · rw [List.eq_of_mem_replicate h]
    rfl

/-- The text of parts behind the first one, and of the closing bracket behind them. -/
def laterParts (depth : Nat) (closing : Text) (parts : List String) : Text :=
  parts.flatMap (fun part => ',' :: ((newLine (depth + 1)).toList ++ part.toList)) ++
    ((newLine depth).toList ++ closing)

/-- The text of parts inside brackets, part by part. -/
theorem toList_writeParts (opening closing : String) (depth : Nat) (part : String)
    (parts : List String) :
    (writeParts opening closing depth (part :: parts)).toList =
      opening.toList ++ ((newLine (depth + 1)).toList ++ (part.toList ++
        laterParts depth closing.toList parts)) := by
  have hjoin : (("," ++ newLine (depth + 1)).intercalate (part :: parts)).toList = part.toList ++
      parts.flatMap fun part => ',' :: ((newLine (depth + 1)).toList ++ part.toList) := by
    rw [String.toList_intercalate, List.map_cons]
    induction parts generalizing part with
    | nil => simp
    | cons next parts ih =>
      rw [List.map_cons, List.intercalate_cons_cons, ih next]
      simp
  unfold writeParts laterParts
  simp [hjoin]

/-- Behind a part a number ends. -/
theorem endsNumber_laterParts (closing : Text) (parts : List String) :
    EndsNumber (laterParts depth closing parts ++ rest) := by
  cases parts with
  | nil => simp [laterParts, newLine, endsNumber_cons]
  | cons part parts => simp [laterParts, endsNumber_cons]

/-- A text between quotes, character by character. -/
theorem toList_writeText (alphabet : Alphabet) (s : String) :
    (writeText alphabet s).toList =
      '"' :: (s.toList.flatMap (writeChar alphabet) ++ ['"']) := by
  simp [writeText]

/-- A text begins as a value may: with a character that is no blank and closes nothing. -/
def BeginsValue (text : Text) : Prop :=
  ∃ c more, text = c :: more ∧ Rest.isSpace c = false ∧ c ≠ ']' ∧ c ≠ '\x7d'

/-- A whole part behind a sign may begin a value. -/
theorem IsWholePart.beginsValue {whole : Text} (h : IsWholePart whole) (negative : Bool)
    (rest : Text) :
    BeginsValue (signText negative ++ (whole ++ rest)) := by
  rcases List.exists_cons_of_ne_nil h.nonempty with ⟨c, more, rfl⟩
  have hdigit := h.digit c (by simp)
  cases negative with
  | true => exact ⟨'-', c :: more ++ rest, rfl, by decide, by decide⟩
  | false =>
    refine ⟨c, more ++ rest, rfl, ?_, ?_, ?_⟩
    · rw [Bool.eq_false_iff]
      intro hspace
      simp only [Rest.isSpace, Bool.or_eq_true, beq_iff_eq] at hspace
      rcases hspace with ((rfl | rfl) | rfl) | rfl <;> exact absurd hdigit (by decide)
    · rintro rfl
      exact absurd hdigit (by decide)
    · rintro rfl
      exact absurd hdigit (by decide)

/-- A written value begins as a value may. -/
theorem beginsValue_writeAt (alphabet : Alphabet) (depth : Nat) (value : Value) :
    BeginsValue (writeAt alphabet depth value).toList := by
  have hparts (opening closing : String) (c : Char) (hopening : opening.toList = [c])
      (hc : Rest.isSpace c = false ∧ c ≠ ']' ∧ c ≠ '\x7d') (parts : List String) :
      BeginsValue (writeParts opening closing depth parts).toList := by
    cases parts with
    | nil => exact ⟨c, closing.toList, by simp [writeParts, hopening], hc⟩
    | cons part parts => exact ⟨c, _, by rw [toList_writeParts, hopening]; rfl, hc⟩
  cases value with
  | null => exact ⟨'n', "ull".toList, by simp [writeAt], by decide, by decide⟩
  | bool value =>
    cases value
    · exact ⟨'f', "alse".toList, by simp [writeAt], by decide, by decide⟩
    · exact ⟨'t', "rue".toList, by simp [writeAt], by decide, by decide⟩
  | int value =>
    have hbegins := (isWholePart_digitsOf value.natAbs).beginsValue (value < 0) []
    rwa [List.append_nil, ← toList_toString] at hbegins
  | real value =>
    cases value with
    | finite negative mantissa exponent =>
      rcases isRealText_toText negative mantissa exponent with ⟨size, hsize, htext⟩
      rcases hsize with ⟨whole, fraction, power, hwhole, -, -, rfl⟩
      have hbegins := hwhole.beginsValue negative (pointText fraction ++ powerText power)
      rw [← htext] at hbegins
      simpa [writeAt, writeReal] using hbegins
    | infinite | undefined =>
      exact ⟨'n', "ull".toList, by simp [writeAt, writeReal], by decide, by decide⟩
  | text value =>
    rw [writeAt, toList_writeText]
    exact ⟨'"', _, rfl, by decide, by decide⟩
  | array items => exact hparts "[" "]" '[' rfl (by decide) _
  | object members => exact hparts "\x7b" "\x7d" '\x7b' rfl (by decide) _

/-- A written text is read back. -/
theorem readValue_writeText (alphabet : Alphabet) (limits : Limits) (fuel position : Nat)
    (s : String) (rest : Text) :
    ∃ position', readValue (fuel + 1) limits ⟨position, (writeText alphabet s).toList ++ rest⟩ =
      .ok (.text s, ⟨position', rest⟩) := by
  rcases readText_flatMap_writeChar alphabet position (position + 1) [] s.toList rest
    with ⟨position', htext⟩
  refine ⟨position', ?_⟩
  have hsimple : readSimple limits ⟨position, (writeText alphabet s).toList ++ rest⟩ =
      .ok (.text s, ⟨position', rest⟩) := by
    rw [toList_writeText]
    simp [readSimple, words, Text.startsWith, htext, Except.map]
  rw [← hsimple, toList_writeText]
  rfl

/-- What begins with a sign and a whole part is read as a number. -/
theorem readValue_number {whole : Text} (hwhole : IsWholePart whole) (negative : Bool)
    (limits : Limits) (fuel position : Nat) (rest : Text) :
    readValue (fuel + 1) limits ⟨position, signText negative ++ (whole ++ rest)⟩ =
      readNumber limits ⟨position, signText negative ++ (whole ++ rest)⟩ := by
  rcases List.exists_cons_of_ne_nil hwhole.nonempty with ⟨c, more, rfl⟩
  have hdigit := Text.toNat_of_isDigit (hwhole.digit c (by simp))
  have hne (d : Char) (hd : d.toNat < 48 ∨ 58 ≤ d.toNat) : c ≠ d := by
    rintro rfl
    omega
  have hfirst : ∃ first later, signText negative ++ (c :: more ++ rest) = first :: later ∧
      first ≠ '[' ∧ first ≠ '\x7b' ∧ first ≠ '"' := by
    cases negative with
    | true => exact ⟨'-', c :: more ++ rest, rfl, by decide⟩
    | false =>
      exact ⟨c, more ++ rest, rfl, hne _ (by decide), hne _ (by decide), hne _ (by decide)⟩
  have hwords : (words.find? fun word =>
      Text.startsWith (signText negative ++ (c :: more ++ rest)) word.1) = none := by
    have hletter (d : Char) (hd : d.toNat < 48 ∨ 58 ≤ d.toNat) : d ≠ c := Ne.symm (hne d hd)
    cases negative <;>
      simp [words, Text.startsWith, signText, hletter 'n', hletter 't', hletter 'f', hletter 'N',
        hletter 'I', hletter '-']
  rcases hfirst with ⟨first, later, htext, harray, hobject, hquote⟩
  rw [htext] at hwords ⊢
  have hsimple : readSimple limits ⟨position, first :: later⟩ =
      readNumber limits ⟨position, first :: later⟩ := by
    simp only [readSimple, hwords]
    split
    · rename_i heq
      exact absurd (List.cons.inj heq).1 hquote
    · rfl
  rw [readValue, ← hsimple]
  split
  · rename_i heq
    exact absurd (List.cons.inj heq).1 harray
  · rename_i heq
    exact absurd (List.cons.inj heq).1 hobject
  · rfl

/-- Behind a new line stands the next part. -/
theorem skipSpace_newLine (depth position : Nat) {text : Text} (h : BeginsValue text)
    (rest : Text) :
    ∃ position', Rest.skipSpace ⟨position, (newLine depth).toList ++ (text ++ rest)⟩ =
      ⟨position', text ++ rest⟩ := by
  rcases h with ⟨c, more, rfl, hc, -⟩
  exact ⟨_, skipSpace_append _ (fun d => isSpace_of_mem_newLine depth) hc _⟩

theorem skipSpace_of_isSpace_eq_false {c : Char} (hc : Rest.isSpace c = false) (position : Nat)
    (rest : Text) : Rest.skipSpace ⟨position, c :: rest⟩ = ⟨position, c :: rest⟩ :=
  skipSpace_append position (List.forall_mem_nil _) hc rest

/-- Behind the last part stands the closing bracket. -/
theorem skipSpace_laterParts_nil (depth position : Nat) {c : Char} (hc : Rest.isSpace c = false)
    (rest : Text) :
    ∃ position', Rest.skipSpace ⟨position, laterParts depth [c] [] ++ rest⟩ =
      ⟨position', c :: rest⟩ := by
  have hskip := skipSpace_append position (fun d => isSpace_of_mem_newLine depth) hc rest
  exact ⟨_, by simpa [laterParts] using hskip⟩

/-- Behind any other part stand a comma and the next part. -/
theorem skipSpace_laterParts_cons (depth position : Nat) (closing : Text) {next : String}
    (h : BeginsValue next.toList) (parts : List String) (rest : Text) :
    ∃ more position',
      Rest.skipSpace ⟨position, laterParts depth closing (next :: parts) ++ rest⟩ =
        ⟨position, ',' :: more⟩ ∧
      (Rest.advance ⟨position, ',' :: more⟩ 1).skipSpace =
        ⟨position', next.toList ++ (laterParts depth closing parts ++ rest)⟩ := by
  rcases skipSpace_newLine (depth + 1) (position + 1) h (laterParts depth closing parts ++ rest)
    with ⟨position', hskip⟩
  have hcomma : laterParts depth closing (next :: parts) ++ rest =
      ',' :: ((newLine (depth + 1)).toList ++
        (next.toList ++ (laterParts depth closing parts ++ rest))) := by
    simp [laterParts]
  rw [hcomma]
  exact ⟨_, position', skipSpace_of_isSpace_eq_false rfl _ _, hskip⟩

/-- The next part is shorter than what stands behind the one before it. -/
theorem length_laterParts_cons (depth : Nat) (closing : Text) (next : String)
    (parts : List String) :
    next.toList.length + (laterParts depth closing parts).length <
      (laterParts depth closing (next :: parts)).length := by
  simp only [laterParts, List.flatMap_cons, List.length_append, List.length_cons]
  omega

/-- Each item that is written begins as a value may. -/
theorem beginsValue_of_mem_writeItems {items : List Value} {part : String}
    (h : part ∈ writeItems alphabet depth items) : BeginsValue part.toList := by
  induction items with
  | nil => simp [writeItems] at h
  | cons value items ih =>
    rw [writeItems] at h
    rcases List.mem_cons.1 h with rfl | h
    · exact beginsValue_writeAt alphabet depth value
    · exact ih h

/-- A written member begins as its key does. -/
theorem beginsValue_member (alphabet : Alphabet) (depth : Nat) (key : String) (value : Value) :
    BeginsValue (writeText alphabet key ++ ": " ++ writeAt alphabet depth value).toList := by
  rw [String.toList_append, String.toList_append, toList_writeText]
  exact ⟨'"', _, rfl, by decide, by decide⟩

/-- Each member that is written begins as a value may. -/
theorem beginsValue_of_mem_writeMembers {members : List (String × Value)} {part : String}
    (h : part ∈ writeMembers alphabet depth members) : BeginsValue part.toList := by
  induction members with
  | nil => simp [writeMembers] at h
  | cons member members ih =>
    rw [writeMembers] at h
    rcases List.mem_cons.1 h with rfl | h
    · exact beginsValue_member alphabet depth member.1 member.2
    · exact ih h

/-- Behind the bracket of an array that is not empty its items are read. -/
theorem readValue_bracket (fuel depth position : Nat) {part : Text} (h : BeginsValue part)
    (rest : Text) :
    ∃ position', readValue (fuel + 1) {}
      ⟨position, '[' :: ((newLine depth).toList ++ (part ++ rest))⟩ =
        readItems fuel {} [] ⟨position', part ++ rest⟩ := by
  rcases skipSpace_newLine depth (position + 1) h rest with ⟨position', hskip⟩
  have hhead : ((part ++ rest).head? == some ']') = false := by
    rcases h with ⟨c, more, rfl, -, hc, -⟩
    simpa using hc
  refine ⟨position', ?_⟩
  simp only [readValue, Limits.inside?_none, Rest.advance, List.drop_succ_cons, List.drop_zero,
    hskip, hhead, Bool.false_eq_true, if_false]

/-- Behind the brace of an object that is not empty its members are read. -/
theorem readValue_brace (fuel depth position : Nat) {part : Text} (h : BeginsValue part)
    (rest : Text) :
    ∃ position', readValue (fuel + 1) {}
      ⟨position, '\x7b' :: ((newLine depth).toList ++ (part ++ rest))⟩ =
        readMembers fuel {} [] ⟨position', part ++ rest⟩ := by
  rcases skipSpace_newLine depth (position + 1) h rest with ⟨position', hskip⟩
  have hhead : ((part ++ rest).head? == some '\x7d') = false := by
    rcases h with ⟨c, more, rfl, -, -, hc⟩
    simpa using hc
  refine ⟨position', ?_⟩
  simp only [readValue, Limits.inside?_none, Rest.advance, List.drop_succ_cons, List.drop_zero,
    hskip, hhead, Bool.false_eq_true, if_false]

/-- A number that is written as no value is read back as none. -/
theorem rereadReal_of_null {x : Binary64} (h : writeReal x = "null") : rereadReal x = .null := by
  simp [rereadReal, h, Rest.start]
  rfl

/-- A written real number is read back. -/
theorem readValue_writeReal (fuel position : Nat) (x : Binary64) (hrest : EndsNumber rest) :
    ∃ position', readValue (fuel + 1) {} ⟨position, (writeReal x).toList ++ rest⟩ =
      .ok (rereadReal x, ⟨position', rest⟩) := by
  cases x with
  | finite negative mantissa exponent =>
    rcases isRealText_toText negative mantissa exponent with ⟨size, hsize, htext⟩
    rcases readNumber_toText negative mantissa exponent with ⟨y, hreread, hread⟩
    rcases hread position rest hrest with ⟨position', hread⟩
    rcases hsize with ⟨whole, fraction, power, hwhole, -, -, rfl⟩
    refine ⟨position', ?_⟩
    rw [htext, List.append_assoc, List.append_assoc] at hread
    rw [writeReal, String.toList_ofList, htext, List.append_assoc, List.append_assoc,
      readValue_number hwhole, hread, hreread]
  | infinite | undefined =>
    refine ⟨position + 4, ?_⟩
    rw [rereadReal_of_null rfl]
    simp [writeReal]
    rfl

/-- A written member is read up to its value. -/
theorem readMembers_writeText (alphabet : Alphabet) (fuel depth position : Nat)
    (done : List (String × Value)) (key : String) (value : Value) (rest : Text) :
    ∃ position', readMembers (fuel + 1) {} done ⟨position,
        (writeText alphabet key ++ ": " ++ writeAt alphabet depth value).toList ++ rest⟩ =
      match readValue fuel {} ⟨position', (writeAt alphabet depth value).toList ++ rest⟩ with
      | .error e => .error e
      | .ok (value, after) =>
          let after := after.skipSpace
          match after.text with
          | '\x7d' :: _ => .ok (.object ((key, value) :: done).reverse, after.advance 1)
          | ',' :: _ => readMembers fuel {} ((key, value) :: done) (after.advance 1).skipSpace
          | _ => after.fail := by
  rcases beginsValue_writeAt alphabet depth value with ⟨c, more, hvalue, hc, -⟩
  rcases readText_flatMap_writeChar alphabet position (position + 1) [] key.toList
    (':' :: ' ' :: (c :: more ++ rest)) with ⟨position', hkey⟩
  have hspace : ∀ d ∈ [' '], Rest.isSpace d = true := List.forall_mem_singleton.2 rfl
  have hblank := skipSpace_append (position' + 1) hspace hc (more ++ rest)
  refine ⟨position' + 1 + 1, ?_⟩
  have htext : (writeText alphabet key ++ ": " ++ writeAt alphabet depth value).toList ++ rest =
      '"' :: (key.toList.flatMap (writeChar alphabet) ++
        '"' :: ':' :: ' ' :: (c :: more ++ rest)) := by
    simp [toList_writeText, hvalue]
  rw [htext, hvalue, readMembers]
  simp only [hkey, List.reverse_nil, List.nil_append, String.ofList_toList,
    skipSpace_of_isSpace_eq_false (show Rest.isSpace ':' = false by rfl), Rest.advance,
    List.drop_succ_cons, List.drop_zero]
  rw [show Rest.skipSpace ⟨position' + 1, ' ' :: (c :: more ++ rest)⟩ = _ from hblank]
  rfl

/-- Something stands behind a part. -/
theorem length_laterParts (depth : Nat) (c : Char) (parts : List String) :
    2 ≤ (laterParts depth [c] parts).length := by
  simp [laterParts, newLine]
  omega

mutual
/-- A written value is read back, whatever stands behind it. -/
theorem readValue_writeAt (alphabet : Alphabet) (depth : Nat) :
    ∀ (value : Value) (fuel position : Nat) (rest : Text), EndsNumber rest →
      (writeAt alphabet depth value).toList.length ≤ fuel + 1 → ∃ position',
        readValue (fuel + 1) {} ⟨position, (writeAt alphabet depth value).toList ++ rest⟩ =
          .ok (value.reread, ⟨position', rest⟩)
  | .null => fun _ _ _ _ _ => ⟨_, by simp [writeAt]; rfl⟩
  | .bool true => fun _ _ _ _ _ => ⟨_, by simp [writeAt]; rfl⟩
  | .bool false => fun _ _ _ _ _ => ⟨_, by simp [writeAt]; rfl⟩
  | .int n => by
    intro fuel position rest hrest _
    rcases readNumber_toString n position hrest with ⟨position', hread⟩
    refine ⟨position', ?_⟩
    rw [writeAt, toList_toString, List.append_assoc,
      readValue_number (isWholePart_digitsOf n.natAbs), ← List.append_assoc, ← toList_toString]
    exact hread
  | .real x => fun fuel position _ hrest _ => readValue_writeReal fuel position x hrest
  | .text s => fun fuel position rest _ _ => readValue_writeText alphabet {} fuel position s rest
  | .array [] => fun _ _ _ _ _ => ⟨_, by simp [writeAt, writeItems, writeParts]; rfl⟩
  | .array (item :: items) => by
    -- Each item takes two steps of fuel, and at least as many characters stand behind it.
    intro fuel position rest _ hfuel
    rw [writeAt, writeItems, toList_writeParts] at hfuel ⊢
    simp only [List.length_append] at hfuel
    rcases readValue_bracket fuel (depth + 1) position
      (beginsValue_writeAt alphabet (depth + 1) item)
      (laterParts depth [']'] (writeItems alphabet (depth + 1) items) ++ rest)
      with ⟨position', hopen⟩
    rcases readItems_writeItems alphabet depth (item :: items) _ _ (by rw [writeItems]) fuel
      position' [] rest (by rw [List.length_append]; simp at hfuel; omega)
      with ⟨position'', hitems⟩
    refine ⟨position'', ?_⟩
    rw [hitems] at hopen
    simpa [Value.reread] using hopen
  | .object [] => fun _ _ _ _ _ => ⟨_, by simp [writeAt, writeMembers, writeParts]; rfl⟩
  | .object ((key, member) :: members) => by
    intro fuel position rest _ hfuel
    rw [writeAt, writeMembers, toList_writeParts] at hfuel ⊢
    simp only [List.length_append] at hfuel
    rcases readValue_brace fuel (depth + 1) position
      (beginsValue_member alphabet (depth + 1) key member)
      (laterParts depth ['\x7d'] (writeMembers alphabet (depth + 1) members) ++ rest)
      with ⟨position', hopen⟩
    rcases readMembers_writeMembers alphabet depth ((key, member) :: members) _ _
      (by rw [writeMembers]) fuel position' [] rest
      (by rw [List.length_append]; simp at hfuel ⊢; omega) with ⟨position'', hmembers⟩
    refine ⟨position'', ?_⟩
    rw [hmembers] at hopen
    simpa [Value.reread] using hopen

/-- The items of a written array are read back up to its closing bracket. -/
theorem readItems_writeItems (alphabet : Alphabet) (depth : Nat) :
    ∀ (items : List Value) (part : String) (parts : List String),
      writeItems alphabet (depth + 1) items = part :: parts →
      ∀ (fuel position : Nat) (done : List Value) (rest : Text),
        (part.toList ++ laterParts depth [']'] parts).length ≤ fuel → ∃ position',
          readItems fuel {} done ⟨position, part.toList ++ (laterParts depth [']'] parts ++ rest)⟩ =
            .ok (.array (done.reverse ++ Value.rereadItems items), ⟨position', rest⟩)
  | [], _, _, h => by simp [writeItems] at h
  | value :: items, part, parts, h => by
    intro fuel position done rest hfuel
    rw [writeItems, List.cons.injEq] at h
    rcases h with ⟨rfl, rfl⟩
    have hlater := length_laterParts depth ']' (writeItems alphabet (depth + 1) items)
    rw [List.length_append] at hfuel
    obtain ⟨fuel, rfl⟩ : ∃ less, fuel = less + 2 := ⟨fuel - 2, by omega⟩
    rcases readValue_writeAt alphabet (depth + 1) value fuel position
      (laterParts depth [']'] (writeItems alphabet (depth + 1) items) ++ rest)
      (endsNumber_laterParts _ _) (by omega) with ⟨position', hvalue⟩
    rw [readItems]
    simp only [hvalue]
    cases hitems : writeItems alphabet (depth + 1) items with
    | nil =>
      have hlast : items = [] := by
        cases items with
        | nil => rfl
        | cons next nexts => simp [writeItems] at hitems
      rcases skipSpace_laterParts_nil depth position' (c := ']') rfl rest with ⟨position'', hskip⟩
      exact ⟨position'' + 1, by simp [hskip, Rest.advance, hlast, Value.rereadItems]⟩
    | cons next nexts =>
      have hnext : BeginsValue next.toList :=
        beginsValue_of_mem_writeItems (by rw [hitems]; exact List.mem_cons_self)
      have hshorter := length_laterParts_cons depth [']'] next nexts
      rw [hitems] at hfuel
      rcases skipSpace_laterParts_cons depth position' [']'] hnext nexts rest
        with ⟨more, position'', hcomma, hskip⟩
      rcases readItems_writeItems alphabet depth items next nexts hitems (fuel + 1) position''
        (value.reread :: done) rest (by rw [List.length_append]; omega) with ⟨last, hrest⟩
      refine ⟨last, ?_⟩
      simp only [hcomma, hskip, hrest]
      simp [Value.rereadItems]

/-- The members of a written object are read back up to its closing brace. -/
theorem readMembers_writeMembers (alphabet : Alphabet) (depth : Nat) :
    ∀ (members : List (String × Value)) (part : String) (parts : List String),
      writeMembers alphabet (depth + 1) members = part :: parts →
      ∀ (fuel position : Nat) (done : List (String × Value)) (rest : Text),
        (part.toList ++ laterParts depth ['\x7d'] parts).length ≤ fuel → ∃ position',
          readMembers fuel {} done
            ⟨position, part.toList ++ (laterParts depth ['\x7d'] parts ++ rest)⟩ =
              .ok (.object (done.reverse ++ Value.rereadMembers members), ⟨position', rest⟩)
  | [], _, _, h => by simp [writeMembers] at h
  | (key, value) :: members, part, parts, h => by
    intro fuel position done rest hfuel
    rw [writeMembers, List.cons.injEq] at h
    rcases h with ⟨rfl, rfl⟩
    have hlater := length_laterParts depth '\x7d' (writeMembers alphabet (depth + 1) members)
    simp only [List.length_append, String.toList_append] at hfuel
    obtain ⟨fuel, rfl⟩ : ∃ less, fuel = less + 2 := ⟨fuel - 2, by omega⟩
    rcases readMembers_writeText alphabet (fuel + 1) (depth + 1) position done key value
      (laterParts depth ['\x7d'] (writeMembers alphabet (depth + 1) members) ++ rest)
      with ⟨start, hkey⟩
    rcases readValue_writeAt alphabet (depth + 1) value fuel start
      (laterParts depth ['\x7d'] (writeMembers alphabet (depth + 1) members) ++ rest)
      (endsNumber_laterParts _ _) (by omega) with ⟨position', hvalue⟩
    rw [hkey]
    simp only [hvalue]
    cases hmembers : writeMembers alphabet (depth + 1) members with
    | nil =>
      have hlast : members = [] := by
        cases members with
        | nil => rfl
        | cons next nexts => simp [writeMembers] at hmembers
      rcases skipSpace_laterParts_nil depth position' (c := '\x7d') rfl rest
        with ⟨position'', hskip⟩
      exact ⟨position'' + 1, by simp [hskip, Rest.advance, hlast, Value.rereadMembers]⟩
    | cons next nexts =>
      have hnext : BeginsValue next.toList :=
        beginsValue_of_mem_writeMembers (by rw [hmembers]; exact List.mem_cons_self)
      have hshorter := length_laterParts_cons depth ['\x7d'] next nexts
      rw [hmembers] at hfuel
      rcases skipSpace_laterParts_cons depth position' ['\x7d'] hnext nexts rest
        with ⟨more, position'', hcomma, hskip⟩
      rcases readMembers_writeMembers alphabet depth members next nexts hmembers (fuel + 1)
        position'' ((key, value.reread) :: done) rest (by rw [List.length_append]; omega)
        with ⟨last, hrest⟩
      refine ⟨last, ?_⟩
      simp only [hcomma, hskip, hrest]
      simp [Value.rereadMembers]
end

end Values

/-- What is written and ends with its line is read back. -/
theorem read_write (alphabet : Alphabet) (value : Value) :
    read {} (write alphabet value ++ "\n").toList = .ok value.reread := by
  have htext : (write alphabet value ++ "\n").toList =
      (writeAt alphabet 0 value).toList ++ ['\n'] := by
    simp [write]
  rcases beginsValue_writeAt alphabet 0 value with ⟨c, more, hbegins, hc, -⟩
  have hstart : (Rest.start (write alphabet value ++ "\n").toList).skipSpace =
      ⟨0, (writeAt alphabet 0 value).toList ++ ['\n']⟩ := by
    rw [htext, hbegins]
    exact skipSpace_of_isSpace_eq_false hc 0 (more ++ ['\n'])
  rcases readValue_writeAt alphabet 0 value (2 * (write alphabet value ++ "\n").toList.length + 1) 0
    ['\n'] (endsNumber_cons.2 (by decide))
    (by rw [htext, List.length_append]; omega) with ⟨position', hread⟩
  rw [read, hstart, hread]
  rfl

end Json
end BranchFold
