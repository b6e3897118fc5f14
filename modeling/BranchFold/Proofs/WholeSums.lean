import BranchFold.Number.Binary64
import Mathlib.Algebra.BigOperators.Group.List.Basic
import Mathlib.Tactic.Ring

/-!
# Sums of whole numbers

A number of double precision has 53 significant bits, so it holds every natural number up to two to
the power of 53 exactly.  A sum is the exact sum, rounded once; where both numbers are whole and the
sum is small enough, nothing is lost.  This module proves that adding up natural numbers one by one
gives their exact total as long as the total stays within that bound, and that counting one by one
stands still there.

Main definitions:

- {lit}`Binary64.IsWhole`: the number is exactly a natural number.
- {lit}`Binary64.tally`: the count of so many events.

Main results:

- Theorem {lit}`Binary64.ofRatio_mul_powerOfTwo`: rounding looks at the value of a quotient only.
- Theorem {lit}`Binary64.add_of_isWhole`: the sum of whole numbers is their exact sum, rounded.
- Theorem {lit}`Binary64.foldl_add_ofInt`: adding up natural numbers is exact up to the bound.
- Theorem {lit}`Binary64.tally_add_one`: what counting one more event gives.
-/

namespace BranchFold

theorem powerOfTwo_pos (n : Nat) : 0 < powerOfTwo n :=
  Nat.pow_pos (by omega)

theorem powerOfTwo_add (m n : Nat) : powerOfTwo (m + n) = powerOfTwo m * powerOfTwo n :=
  Nat.pow_add 2 m n

/-- Rounding a quotient does not depend on a common factor. -/
theorem roundQuotient_mul_right (num den : Nat) {factor : Nat} (h : 0 < factor) :
    roundQuotient (num * factor) (den * factor) = roundQuotient num den := by
  have hless : den * factor < 2 * (num % den * factor) ↔ den < 2 * (num % den) := by
    rw [← Nat.mul_assoc]
    exact Nat.mul_lt_mul_right h
  have hhalf : 2 * (num % den * factor) = den * factor ↔ 2 * (num % den) = den := by
    rw [← Nat.mul_assoc]
    exact Nat.mul_left_inj (Nat.ne_of_gt h)
  simp only [roundQuotient, Nat.mul_div_mul_right _ _ h, Nat.mul_mod_mul_right, hless, hhalf]

/-- Doubling a number so many times adds as much to its binary logarithm. -/
theorem log2_mul_powerOfTwo {n : Nat} (h : 0 < n) (k : Nat) :
    Nat.log2 (n * powerOfTwo k) = Nat.log2 n + k := by
  induction k with
  | zero => simp [powerOfTwo]
  | succ k ih =>
    have hne : n * powerOfTwo k ≠ 0 := Nat.ne_of_gt (Nat.mul_pos h (powerOfTwo_pos k))
    have hdouble : n * powerOfTwo (k + 1) = 2 * (n * powerOfTwo k) := by
      rw [powerOfTwo_add]
      simp [powerOfTwo]
      ring
    rw [hdouble, Nat.log2_two_mul hne, ih]
    omega

namespace Binary64

/-! ## Rounding looks at the value only -/

/-- Scaling keeps a common factor. -/
theorem scaled_mul_right (num den factor : Nat) (exponent : Int) :
    scaled (num * factor) (den * factor) exponent =
      ((scaled num den exponent).1 * factor, (scaled num den exponent).2 * factor) := by
  unfold scaled
  split_ifs
  · simp [Nat.mul_right_comm]
  · simp [Nat.mul_right_comm]

/-- The exponent of a quotient does not depend on a common power of two. -/
theorem exponentFor_mul_powerOfTwo {num den : Nat} (hnum : 0 < num) (hden : 0 < den) (k : Nat) :
    exponentFor (num * powerOfTwo k) (den * powerOfTwo k) = exponentFor num den := by
  have hguess : ((Nat.log2 num + k : Nat) : Int) - (Nat.log2 den + k : Nat) - 53 =
      (Nat.log2 num : Int) - Nat.log2 den - 53 := by
    push_cast
    ring
  simp only [exponentFor, log2_mul_powerOfTwo hnum, log2_mul_powerOfTwo hden, hguess,
    scaled_mul_right, Nat.mul_div_mul_right _ _ (powerOfTwo_pos k)]

/-- Rounding a quotient does not depend on a common power of two. -/
theorem ofRatio_mul_powerOfTwo (negative : Bool) (num : Nat) {den : Nat} (hden : 0 < den)
    (k : Nat) :
    ofRatio negative (num * powerOfTwo k) (den * powerOfTwo k) = ofRatio negative num den := by
  rcases Nat.eq_zero_or_pos num with rfl | hnum
  · simp [ofRatio]
  · have hne : num * powerOfTwo k ≠ 0 := Nat.ne_of_gt (Nat.mul_pos hnum (powerOfTwo_pos k))
    simp only [ofRatio, hne, Nat.ne_of_gt hnum, if_false, exponentFor_mul_powerOfTwo hnum hden,
      scaled_mul_right, roundQuotient_mul_right _ _ (powerOfTwo_pos k)]

/-! ## Whole numbers -/

/-- The mantissa times two to the exponent is the natural number. -/
def Amounts (mantissa : Nat) (exponent : Int) (n : Nat) : Prop :=
  mantissa * powerOfTwo exponent.toNat = n * powerOfTwo (-exponent).toNat

/-- The number is exactly the natural number. -/
def IsWhole (x : Binary64) (n : Nat) : Prop :=
  ∃ mantissa exponent, x = finite false mantissa exponent ∧ Amounts mantissa exponent n

/-- A natural number keeps its value in units of a lesser power of two. -/
theorem Amounts.units {mantissa n : Nat} {exponent unit : Int} (h : Amounts mantissa exponent n)
    (hunit : unit ≤ exponent) : Amounts (mantissa * powerOfTwo (exponent - unit).toNat) unit n := by
  unfold Amounts at h ⊢
  rcases Int.le_total 0 exponent with hpos | hneg
  · have hsplit : (exponent - unit).toNat + unit.toNat = exponent.toNat + (-unit).toNat := by omega
    have hzero : (-exponent).toNat = 0 := by omega
    rw [hzero] at h
    rw [Nat.mul_assoc, ← powerOfTwo_add, hsplit, powerOfTwo_add, ← Nat.mul_assoc, h]
    simp [powerOfTwo]
  · have hsplit : (-unit).toNat = (-exponent).toNat + (exponent - unit).toNat := by omega
    have hzero : exponent.toNat = 0 := by omega
    have hzero' : unit.toNat = 0 := by omega
    rw [hzero] at h
    rw [hzero', hsplit, powerOfTwo_add, ← Nat.mul_assoc, ← h]
    simp [powerOfTwo]

/-- Rounding so many units gives the natural number that they amount to, rounded. -/
theorem Amounts.ofUnits_eq {units n : Nat} {unit : Int} (h : Amounts units unit n) :
    ofUnits (units : Int) unit = ofRatio false n 1 := by
  have hsign : decide ((units : Int) < 0) = false := by simp
  unfold Amounts at h
  unfold ofUnits
  rw [hsign, Int.natAbs_natCast]
  split_ifs with hpos
  · have hzero : (-unit).toNat = 0 := by omega
    rw [h, hzero]
    simp [powerOfTwo]
  · have hzero : unit.toNat = 0 := by omega
    have hunits : units = n * powerOfTwo (-unit).toNat := by
      rw [hzero] at h
      simpa [powerOfTwo] using h
    rw [hunits]
    nth_rewrite 2 [← Nat.one_mul (powerOfTwo (-unit).toNat)]
    exact ofRatio_mul_powerOfTwo false n Nat.one_pos _

/-- The natural number nearest to itself is a quotient by one. -/
theorem ofInt_natCast (n : Nat) : ofInt (n : Int) = ofRatio false n 1 := by
  have hsign : decide ((n : Int) < 0) = false := by simp
  rw [ofInt, hsign, Int.natAbs_natCast]

/-- The sum of whole numbers is their exact sum, rounded. -/
theorem add_of_isWhole {x y : Binary64} {a b : Nat} (hx : x.IsWhole a) (hy : y.IsWhole b) :
    x.add y = ofInt ((a + b : Nat) : Int) := by
  rcases hx with ⟨m, e, rfl, hm⟩
  rcases hy with ⟨n, f, rfl, hn⟩
  have hm' := hm.units (Int.min_le_left e f)
  have hn' := hn.units (Int.min_le_right e f)
  have hsum : Amounts (m * powerOfTwo (e - min e f).toNat + n * powerOfTwo (f - min e f).toNat)
      (min e f) (a + b) := by
    unfold Amounts at hm' hn' ⊢
    rw [Nat.add_mul, Nat.add_mul, hm', hn']
  have hunits : unitsOf false m e (min e f) + unitsOf false n f (min e f) =
      ((m * powerOfTwo (e - min e f).toNat + n * powerOfTwo (f - min e f).toNat : Nat) : Int) := by
    simp [unitsOf]
  rw [ofInt_natCast, add, hunits]
  split_ifs with hzero
  · have hnone : (a + b) * powerOfTwo (-min e f).toNat = 0 := by
      unfold Amounts at hsum
      rw [Int.natCast_eq_zero] at hzero
      rw [← hsum, hzero, Nat.zero_mul]
    have hab : a + b = 0 :=
      (Nat.mul_eq_zero.1 hnone).resolve_right (Nat.ne_of_gt (powerOfTwo_pos _))
    rw [hab]
    rfl
  · exact hsum.ofUnits_eq

/-- An integer is always near to a number. -/
theorem ofInt_ne_undefined (n : Int) : ofInt n ≠ undefined := by
  unfold ofInt ofRatio bounded
  dsimp only
  split_ifs <;> simp

/-! ## Natural numbers up to the bound -/

/-- A scale that is not positive multiplies the numerator. -/
theorem scaled_of_nonpos (num den : Nat) {exponent : Int} (h : exponent ≤ 0) :
    scaled num den exponent = (num * powerOfTwo (-exponent).toNat, den) := by
  unfold scaled
  split_ifs with hpos
  · obtain rfl : exponent = 0 := by omega
    simp [powerOfTwo]
  · rfl

/-- A natural number below two to the power of 53 is scaled to a mantissa of 53 bits. -/
theorem exponentFor_one {n : Nat} (hpos : 0 < n) (hlt : n < powerOfTwo 53) :
    exponentFor n 1 = (Nat.log2 n : Int) - 52 := by
  have hlog : Nat.log2 n < 53 := (Nat.log2_lt (Nat.ne_of_gt hpos)).2 hlt
  have hleast : powerOfTwo (Nat.log2 n) ≤ n := Nat.log2_self_le (Nat.ne_of_gt hpos)
  have hguess : (Nat.log2 n : Int) - Nat.log2 1 - 53 = (Nat.log2 n : Int) - 53 := by
    rw [show Nat.log2 1 = 0 by decide, Nat.cast_zero, sub_zero]
  have hscale : (-((Nat.log2 n : Int) - 53)).toNat = 53 - Nat.log2 n := by omega
  have hlarge : powerOfTwo 53 ≤ n * powerOfTwo (53 - Nat.log2 n) := by
    calc powerOfTwo 53 = powerOfTwo (Nat.log2 n) * powerOfTwo (53 - Nat.log2 n) := by
          rw [← powerOfTwo_add]
          congr 1
          omega
      _ ≤ n * powerOfTwo (53 - Nat.log2 n) := Nat.mul_le_mul_right _ hleast
  simp only [exponentFor, hguess, scaled_of_nonpos n 1 (show (Nat.log2 n : Int) - 53 ≤ 0 by omega),
    hscale, Nat.div_one, if_neg (Nat.not_lt.2 hlarge), leastExponent]
  omega

/-- A natural number below two to the power of 53 fits into its mantissa. -/
theorem mul_powerOfTwo_lt {n : Nat} (hpos : 0 < n) (hlt : n < powerOfTwo 53) :
    n * powerOfTwo (52 - Nat.log2 n) < powerOfTwo 53 := by
  have hlog : Nat.log2 n < 53 := (Nat.log2_lt (Nat.ne_of_gt hpos)).2 hlt
  have hbound : n < powerOfTwo (Nat.log2 n + 1) := Nat.lt_log2_self
  calc n * powerOfTwo (52 - Nat.log2 n)
      < powerOfTwo (Nat.log2 n + 1) * powerOfTwo (52 - Nat.log2 n) :=
        Nat.mul_lt_mul_of_pos_right hbound (powerOfTwo_pos _)
    _ = powerOfTwo 53 := by
        rw [← powerOfTwo_add]
        congr 1
        omega

/-- A natural number up to two to the power of 53 is held exactly. -/
theorem isWhole_ofInt {n : Nat} (h : n ≤ powerOfTwo 53) : (ofInt (n : Int)).IsWhole n := by
  rcases Nat.eq_zero_or_pos n with rfl | hpos
  · exact ⟨0, leastExponent, rfl, by simp [Amounts]⟩
  rcases Nat.eq_or_lt_of_le h with rfl | hlt
  · exact ⟨powerOfTwo 52, 1, by decide, by unfold Amounts; decide⟩
  · have hlog : Nat.log2 n < 53 := (Nat.log2_lt (Nat.ne_of_gt hpos)).2 hlt
    have hscale : (-((Nat.log2 n : Int) - 52)).toNat = 52 - Nat.log2 n := by omega
    have hfits := mul_powerOfTwo_lt hpos hlt
    refine ⟨n * powerOfTwo (52 - Nat.log2 n), (Nat.log2 n : Int) - 52, ?_, ?_⟩
    · rw [ofInt_natCast, ofRatio, if_neg (Nat.ne_of_gt hpos)]
      simp only [exponentFor_one hpos hlt,
        scaled_of_nonpos n 1 (show (Nat.log2 n : Int) - 52 ≤ 0 by omega), hscale,
        roundQuotient_one, if_neg (Nat.ne_of_lt hfits), bounded, greatestExponent]
      rw [if_neg (by omega)]
    · have hzero : ((Nat.log2 n : Int) - 52).toNat = 0 := by omega
      rw [Amounts, hzero, hscale]
      simp [powerOfTwo]

/-- Adding up natural numbers is exact as long as the total is at most two to the power of 53. -/
theorem foldl_add_ofInt (start : Nat) (ns : List Nat) (h : start + ns.sum ≤ powerOfTwo 53) :
    (ns.map fun n : Nat => ofInt (n : Int)).foldl add (ofInt (start : Int)) =
      ofInt ((start + ns.sum : Nat) : Int) := by
  induction ns generalizing start with
  | nil => simp
  | cons n ns ih =>
    rw [List.sum_cons] at h ⊢
    have hstart : (ofInt (start : Int)).IsWhole start := isWhole_ofInt (by omega)
    have hn : (ofInt (n : Int)).IsWhole n := isWhole_ofInt (by omega)
    rw [List.map_cons, List.foldl_cons, add_of_isWhole hstart hn, ih (start + n) (by omega),
      Nat.add_assoc]

/-! ## Counting one by one -/

/-- The count of so many events, which stands still at two to the power of 53. -/
def tally (events : Nat) : Binary64 :=
  ofInt (min events (powerOfTwo 53) : Nat)

@[simp]
theorem tally_zero : tally 0 = zero := rfl

/-- Up to the bound, the count is the number of events. -/
theorem tally_of_le {events : Nat} (h : events ≤ powerOfTwo 53) :
    tally events = ofInt (events : Int) := by
  rw [tally, Nat.min_eq_left h]

/-- One more event adds one to the count; from the bound on, adding one changes nothing. -/
theorem tally_add_one (events : Nat) : (tally events).add one = tally (events + 1) := by
  have hone : one.IsWhole 1 := isWhole_ofInt (by decide)
  rcases Nat.lt_or_ge events (powerOfTwo 53) with hlt | hge
  · rw [tally_of_le (Nat.le_of_lt hlt), add_of_isWhole (isWhole_ofInt (Nat.le_of_lt hlt)) hone,
      tally_of_le hlt]
  · have hstill : (ofInt (powerOfTwo 53 : Nat)).add one = ofInt (powerOfTwo 53 : Nat) := by
      decide +kernel
    rw [tally, tally, Nat.min_eq_right hge, Nat.min_eq_right (Nat.le_succ_of_le hge), hstill]

end Binary64
end BranchFold
