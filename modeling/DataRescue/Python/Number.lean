import Mathlib.Data.Rat.Floor
import Mathlib.Order.WithBot
import Mathlib.Order.WithBotTop

/-!
# Python floats

A float as its exact value: a rational, an infinity or NaN, with the negative zero kept apart because
it prints its sign. Only comparisons, `abs` and `.2f` formatting are needed, and those are exact on
the value: `abs` changes no digits, comparisons with NaN are false, and `.2f` rounds the exact value
half to even.
-/

namespace DataRescue.Python

/-- A Python `float`. -/
inductive PyFloat where
  | finite (value : ℚ)
  | negZero
  | infinity (negative : Bool)
  | nan
  deriving DecidableEq, Repr

namespace PyFloat

/-- `abs(x)`. -/
def abs : PyFloat → PyFloat
  | .finite value => .finite |value|
  | .negZero => .finite 0
  | .infinity _ => .infinity false
  | .nan => .nan

/-- The place of a float on the extended line; NaN has none. -/
def place : PyFloat → Option (WithBot (WithTop ℚ))
  | .finite value => some (value : WithTop ℚ)
  | .negZero => some ((0 : ℚ) : WithTop ℚ)
  | .infinity true => some ⊥
  | .infinity false => some (⊤ : WithTop ℚ)
  | .nan => none

/-- `x <= y`: false as soon as one side is NaN. -/
def le (x y : PyFloat) : Bool :=
  match x.place, y.place with
  | some a, some b => decide (a ≤ b)
  | _, _ => false

/-- `x < y`. -/
def lt (x y : PyFloat) : Bool :=
  match x.place, y.place with
  | some a, some b => decide (a < b)
  | _, _ => false

/-- `x == y`: NaN differs from itself, and the two zeros are equal. -/
def eq (x y : PyFloat) : Bool :=
  match x.place, y.place with
  | some a, some b => decide (a = b)
  | _, _ => false

theorem le_place {x y : PyFloat} (h : x.le y = true) :
    ∃ a b, x.place = some a ∧ y.place = some b ∧ a ≤ b := by
  unfold le at h
  split at h
  · rename_i a b ha hb
    exact ⟨a, b, ha, hb, of_decide_eq_true h⟩
  · cases h

theorem finite_le {x y : ℚ} : (finite x).le (finite y) = true ↔ x ≤ y := by
  simp only [le, place, decide_eq_true_eq]
  rw [WithBot.coe_le_coe, WithTop.coe_le_coe]

/-! ### Formatting -/

/-- The nearest integer, ties to even. -/
def roundHalfEven (q : ℚ) : ℤ :=
  let low := ⌊q⌋
  let rest := q - low
  if rest < 1 / 2 then low
  else if rest = 1 / 2 ∧ low % 2 = 0 then low
  else low + 1

/-- The two decimals of a non-negative number of hundredths. -/
def hundredths (n : Nat) : String :=
  toString (n / 100) ++ "." ++ toString (n % 100 / 10) ++ toString (n % 10)

/-- `f"{x:.2f}"`. -/
def fixed2 : PyFloat → String
  | .finite value =>
    (if value < 0 then "-" else "") ++ hundredths (roundHalfEven (|value| * 100)).toNat
  | .negZero => "-0.00"
  | .infinity true => "-inf"
  | .infinity false => "inf"
  | .nan => "nan"

example : (finite (-1 / 1000)).fixed2 = "-0.00" ∧ (finite (5 / 1000)).fixed2 = "0.00" ∧
    (finite (17 / 5)).fixed2 = "3.40" := by decide +kernel

end PyFloat

end DataRescue.Python
