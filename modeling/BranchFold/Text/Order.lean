import BranchFold.Text.Blank

/-!
# Order of texts

Texts are ordered by the code points of their characters, the shorter first where one begins the
other.
-/

namespace BranchFold
namespace Text

/-- The first text stands before the second or equals it. -/
def le : Text → Text → Bool
  | [], _ => true
  | _ :: _, [] => false
  | c :: xs, d :: ys => c.toNat < d.toNat || (c.toNat == d.toNat && le xs ys)

/-- Named things in the order of their names. -/
def sortByName {α : Type} (entries : List (Text × α)) : List (Text × α) :=
  entries.mergeSort fun a b => le a.1 b.1

/-- Texts in order. -/
def sort (texts : List Text) : List Text :=
  texts.mergeSort le

/-- Every text stands before itself. -/
theorem le_refl (text : Text) : le text text = true := by
  induction text with
  | nil => rfl
  | cons c rest ih => simp [le, ih]

/-- Of two texts one stands before the other. -/
theorem le_total (x y : Text) : (le x y || le y x) = true := by
  induction x generalizing y with
  | nil => simp [le]
  | cons c xs ih =>
    cases y with
    | nil => simp [le]
    | cons d ys =>
      have hrest := ih ys
      simp only [le, Bool.or_eq_true, Bool.and_eq_true, decide_eq_true_eq, beq_iff_eq] at hrest ⊢
      rcases Nat.lt_trichotomy c.toNat d.toNat with hlt | heq | hgt
      · exact Or.inl (Or.inl hlt)
      · rcases hrest with hxy | hyx
        · exact Or.inl (Or.inr ⟨heq, hxy⟩)
        · exact Or.inr (Or.inr ⟨heq.symm, hyx⟩)
      · exact Or.inr (Or.inl hgt)

/-- The order of texts is transitive. -/
theorem le_trans {x y z : Text} (hxy : le x y = true) (hyz : le y z = true) : le x z = true := by
  induction x generalizing y z with
  | nil => simp [le]
  | cons c xs ih =>
    cases y with
    | nil => simp [le] at hxy
    | cons d ys =>
      cases z with
      | nil => simp [le] at hyz
      | cons e zs =>
        simp only [le, Bool.or_eq_true, Bool.and_eq_true, decide_eq_true_eq, beq_iff_eq] at *
        rcases hxy with hcd | ⟨hcd, hxs⟩
        · rcases hyz with hde | ⟨hde, _⟩ <;> omega
        · rcases hyz with hde | ⟨hde, hys⟩
          · omega
          · exact Or.inr ⟨hcd.trans hde, ih hxs hys⟩

/-- Two texts that stand before each other are the same. -/
theorem le_antisymm {x y : Text} (hxy : le x y = true) (hyx : le y x = true) : x = y := by
  induction x generalizing y with
  | nil =>
    cases y with
    | nil => rfl
    | cons d ys => simp [le] at hyx
  | cons c xs ih =>
    cases y with
    | nil => simp [le] at hxy
    | cons d ys =>
      simp only [le, Bool.or_eq_true, Bool.and_eq_true, decide_eq_true_eq, beq_iff_eq] at hxy hyx
      rcases hxy with hcd | ⟨hcd, hxs⟩
      · rcases hyx with hdc | ⟨hdc, _⟩ <;> omega
      · rcases hyx with hdc | ⟨_, hys⟩
        · omega
        · rw [Char.toNat_inj.1 hcd, ih hxs hys]

end Text
end BranchFold
