import OrbTrackball.Config
import Mathlib.Data.Rat.Floor
import Mathlib.Data.Fin.VecNotation
import Mathlib.Tactic.FinCases
import Mathlib.Tactic.Linarith

/-!
# The axis accumulator (`axes.c`)

`axes.c` keeps four running totals, `static double axes[4]`: pointer X,
pointer Y, wheel X and wheel Y.  `updateAxes` adds a motion sample to the
pointer pair, or to the wheel pair while the scroll button is held.
`getAxes` scales each total, reports its integral part as an `int16_t`, and
keeps the fractional remainder, scaled back, as the new total.

The totals are modelled as exact rationals, and `modf` as truncation toward
zero.  The `(int16_t)` conversion of the integral part is modelled as the
two's-complement wrap to 16 bits (`BitVec.ofInt 16`); where the integral
part is in range that is the identity, and `Motion.lean` says when it is.

The two code blocks of `getAxes` differ only in their coefficient, once the
pointer's Y flip is folded into it: `gain` is that coefficient
per axis, and `getAxes_ix` / `getAxes_axes` state the one behaviour all
four axes share.  Every later proof goes through those two
lemmas and `updateAxes_apply`, never through the bodies.
-/

namespace OrbTrackball.Axes

open OrbTrackball

/-! ### `modf` -/

/-- C's `modf` on exact rationals: the fractional part, and the integral part
    it stores through its pointer argument.  The integral part is `x`
    truncated toward zero, so both parts have the sign of `x`. -/
def modf (x : ℚ) : ℚ × ℤ :=
  let i := if 0 ≤ x then ⌊x⌋ else ⌈x⌉
  (x - i, i)

/-- The integral part `modf` stores. -/
def trunc (x : ℚ) : ℤ := (modf x).2

@[simp] theorem modf_fst (x : ℚ) : (modf x).1 = x - trunc x := rfl

@[simp] theorem modf_snd (x : ℚ) : (modf x).2 = trunc x := rfl

theorem abs_sub_trunc_lt_one (x : ℚ) : |x - trunc x| < 1 := by
  unfold trunc modf
  have := Int.floor_le x
  have := Int.lt_floor_add_one x
  have := Int.le_ceil x
  have := Int.ceil_lt_add_one x
  split_ifs <;> rw [abs_lt] <;> constructor <;> linarith

/-- Above `-1`, the truncation is nonnegative. -/
theorem trunc_nonneg {x : ℚ} (hx : -1 < x) : 0 ≤ trunc x := by
  simp only [trunc, modf]
  split_ifs with h
  · exact Int.floor_nonneg.mpr h
  · have : (-1 : ℤ) < ⌈x⌉ := Int.lt_ceil.mpr (by exact_mod_cast hx)
    omega

/-- Below `1`, the truncation is nonpositive. -/
theorem trunc_nonpos {x : ℚ} (hx : x < 1) : trunc x ≤ 0 := by
  simp only [trunc, modf]
  split_ifs with h
  · have : ⌊x⌋ < (1 : ℤ) := Int.floor_lt.mpr (by exact_mod_cast hx)
    omega
  · exact Int.ceil_le.mpr (by push_cast; linarith)

/-- Truncation never moves away from zero. -/
theorem abs_trunc_le (x : ℚ) : |(trunc x : ℚ)| ≤ |x| := by
  unfold trunc modf
  have := Int.floor_le x
  have := Int.le_ceil x
  split_ifs with h
  · have : (0 : ℚ) ≤ ⌊x⌋ := by exact_mod_cast Int.floor_nonneg.mpr h
    rw [abs_of_nonneg this, abs_of_nonneg h]; linarith
  · have : (⌈x⌉ : ℚ) ≤ 0 := by exact_mod_cast Int.ceil_le.mpr (by push_cast; linarith)
    rw [abs_of_nonpos this, abs_of_neg (not_le.mp h)]; linarith

/-! ### The two entry points -/

/-- `updateAxes`: `axes[scroll * 2 + 0] += delta_x; axes[scroll * 2 + 1] += delta_y`. -/
def updateAxes (delta_x delta_y : BitVec 16) (scroll : Bool) (axes : Fin 4 → ℚ) :
    Fin 4 → ℚ :=
  let i : Fin 4 := ⟨scroll.toNat * 2 + 0, by cases scroll <;> decide⟩
  let j : Fin 4 := ⟨scroll.toNat * 2 + 1, by cases scroll <;> decide⟩
  let axes := Function.update axes i (axes i + delta_x.toInt)
  Function.update axes j (axes j + delta_y.toInt)

/-- What one call of `getAxes` leaves behind: the integral parts `ix`, `iy`
    of both blocks (the values the `(int16_t)` casts convert), the four
    `int16_t` written through `p`, the accumulator after the call, and the
    return value. -/
structure Reading where
  ix : Fin 4 → ℤ
  p : Fin 4 → BitVec 16
  axes : Fin 4 → ℚ
  ret : Bool

/-- `getAxes`: scale, split with `modf`, report the integral parts and carry
    the fractional remainders, scaled back, to the next call.  It returns
    whether any reported delta is nonzero. -/
def getAxes (s : Sensitivities) (axes : Fin 4 → ℚ) : Reading :=
  -- the pointer; one of its axes is flipped, the sensor being mounted upside-down
  let x := s.POINTER_SENSITIVITY * axes 0
  let y := s.POINTER_SENSITIVITY * -axes 1
  let (fx, ix) := modf x
  let (fy, iy) := modf y
  -- the wheel
  let x' := s.WHEEL_SENSITIVITY_X * axes 2
  let y' := s.WHEEL_SENSITIVITY_Y * axes 3
  let (fx', ix') := modf x'
  let (fy', iy') := modf y'
  let integral : Fin 4 → ℤ := ![ix, iy, ix', iy']
  let p : Fin 4 → BitVec 16 := fun i => BitVec.ofInt 16 (integral i)
  { ix := integral
    p := p
    axes := ![fx / s.POINTER_SENSITIVITY, -fy / s.POINTER_SENSITIVITY,
      fx' / s.WHEEL_SENSITIVITY_X, fy' / s.WHEEL_SENSITIVITY_Y]
    ret := [p 0, p 1, p 2, p 3].any (· != 0) }

/-! ### One behaviour per axis -/

/-- The coefficient each total is scaled by: the pointer's Y axis is read
    through `-POINTER_SENSITIVITY`. -/
def gain (s : Sensitivities) : Fin 4 → ℚ :=
  ![s.POINTER_SENSITIVITY, -s.POINTER_SENSITIVITY, s.WHEEL_SENSITIVITY_X, s.WHEEL_SENSITIVITY_Y]

theorem gain_ne_zero (s : Sensitivities) (i : Fin 4) : gain s i ≠ 0 := by
  fin_cases i <;> simp [gain, s.pointer_ne_zero, s.wheel_x_ne_zero,
    s.wheel_y_ne_zero]

/-- Which delta of a sample lands on axis `i`: `delta_x`/`delta_y` on the
    pointer pair without scroll, on the wheel pair with it. -/
def routed (delta_x delta_y : BitVec 16) (scroll : Bool) : Fin 4 → ℤ :=
  ![if scroll then 0 else delta_x.toInt, if scroll then 0 else delta_y.toInt,
    if scroll then delta_x.toInt else 0, if scroll then delta_y.toInt else 0]

theorem updateAxes_apply (delta_x delta_y : BitVec 16) (scroll : Bool) (axes : Fin 4 → ℚ)
    (i : Fin 4) :
    updateAxes delta_x delta_y scroll axes i = axes i + routed delta_x delta_y scroll i := by
  cases scroll <;> fin_cases i <;> simp [updateAxes, routed, Function.update]

/-- Every axis reports the truncation of its scaled total. -/
@[simp] theorem getAxes_ix (s : Sensitivities) (axes : Fin 4 → ℚ) (i : Fin 4) :
    (getAxes s axes).ix i = trunc (gain s i * axes i) := by
  fin_cases i <;> simp [getAxes, gain]

/-- Every axis keeps the fractional part of its scaled total, scaled back. -/
theorem getAxes_axes (s : Sensitivities) (axes : Fin 4 → ℚ) (i : Fin 4) :
    (getAxes s axes).axes i = (modf (gain s i * axes i)).1 / gain s i := by
  fin_cases i <;> simp [getAxes, gain, -modf_fst, div_neg, neg_div]

/-- Every axis keeps, scaled back, what its truncation left over. -/
theorem gain_mul_getAxes_axes (s : Sensitivities) (axes : Fin 4 → ℚ) (i : Fin 4) :
    gain s i * (getAxes s axes).axes i = gain s i * axes i - (getAxes s axes).ix i := by
  rw [getAxes_axes, mul_div_cancel₀ _ (gain_ne_zero s i), modf_fst, getAxes_ix]

@[simp] theorem getAxes_p (s : Sensitivities) (axes : Fin 4 → ℚ) (i : Fin 4) :
    (getAxes s axes).p i = BitVec.ofInt 16 ((getAxes s axes).ix i) := rfl

/-- An empty accumulator reads as no motion and stays empty. -/
theorem getAxes_zero (s : Sensitivities) :
    (getAxes s fun _ => 0).axes = (fun _ => 0) ∧ (getAxes s fun _ => 0).p = fun _ => 0 := by
  have ht : trunc 0 = 0 := by simp only [trunc, modf, le_refl, if_true, Int.floor_zero]
  refine ⟨funext fun i => ?_, funext fun i => ?_⟩
  · rw [getAxes_axes, mul_zero, modf_fst, ht, Int.cast_zero, sub_zero, zero_div]
  · rw [getAxes_p, getAxes_ix, mul_zero, ht]; rfl

/-- In range, the `(int16_t)` conversion keeps the integral part. -/
theorem toInt_ofInt_of_range {x : ℤ} (h1 : -32768 ≤ x) (h2 : x ≤ 32767) :
    (BitVec.ofInt 16 x).toInt = x := by
  rw [BitVec.toInt_ofInt]
  simp only [Int.bmod]
  split <;> omega

/-- `getAxes` returns `true` exactly when it wrote a nonzero delta. -/
theorem getAxes_ret (s : Sensitivities) (axes : Fin 4 → ℚ) :
    (getAxes s axes).ret = false ↔ ∀ i, (getAxes s axes).p i = 0 := by
  simp only [getAxes, List.any_cons, List.any_nil, Fin.forall_fin_succ]
  simp

/-- Right after a call, every scaled total is a fractional remainder. -/
theorem abs_gain_mul_getAxes_lt_one (s : Sensitivities) (axes : Fin 4 → ℚ) (i : Fin 4) :
    |gain s i * (getAxes s axes).axes i| < 1 := by
  rw [gain_mul_getAxes_axes, getAxes_ix]
  exact abs_sub_trunc_lt_one _

end OrbTrackball.Axes
