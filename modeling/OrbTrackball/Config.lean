import Mathlib.Data.Rat.Defs
import Mathlib.Tactic.NormNum

/-!
# The configuration surface (`config.h`)

The firmware is configured by compile-time macros.  Two groups of them are
the parameters the verified properties quantify over:

  * the debounce threshold `DEBOUNCE_INTERVAL`, a number of polls.  The
    debouncer keeps its counter in a `uint8_t`, so the properties are stated
    for every threshold in `1 … 254` (`DebounceInterval`);
  * the three sensitivity coefficients of `axes.c`.  `getAxes` divides by
    each of them, so they are nonzero (`Sensitivities`).

Both are structures that carry their side conditions as fields: a
configuration outside those ranges cannot be built, and no theorem has to
assume the bounds again.  `configH` is the repository's own configuration.

The pin assignments, on the other hand, are used verbatim: `BUTTONS` and
`SCROLL_BUTTON` name bits of `PIND`.
-/

namespace OrbTrackball

/-! ### Pins -/

def BUTTON_A : UInt8 := 4
def BUTTON_B : UInt8 := 5
def BUTTON_C : UInt8 := 2
def BUTTON_D : UInt8 := 3
def BUTTON_E : UInt8 := 1

/-- Mouse button assignments: report bit `i` is the `i`-th pin of this list. -/
def BUTTONS : List UInt8 := [BUTTON_C, BUTTON_B, BUTTON_A, BUTTON_E]

/-- The button that turns the ball into two wheels while it is held. -/
def SCROLL_BUTTON : UInt8 := BUTTON_D

/-! ### Sensor configuration -/

/-- The sensor resolution, in CPI. -/
def RESOLUTION : Nat := 16000

/-- Pointer rotation in degrees, written to the sensor's `ANGLE_TUNE` register. -/
def POINTER_ROTATION : Int := -22

/-! ### Debounce threshold -/

/-- A switch debounce interval, in polls.  The counter that is compared with
    it is a `uint8_t` incremented before the comparison, so the interval must
    leave room for one increment: `1 ≤ DEBOUNCE_INTERVAL ≤ 254`. -/
structure DebounceInterval where
  val : Nat
  one_le : 1 ≤ val
  le_254 : val ≤ 254

/-! ### Sensitivities -/

/-- The scaling coefficients of `axes.c`, as exact rationals.  `getAxes`
    divides each fractional remainder by its coefficient, so none is zero. -/
structure Sensitivities where
  POINTER_SENSITIVITY : ℚ
  WHEEL_SENSITIVITY_X : ℚ
  WHEEL_SENSITIVITY_Y : ℚ
  pointer_ne_zero : POINTER_SENSITIVITY ≠ 0
  wheel_x_ne_zero : WHEEL_SENSITIVITY_X ≠ 0
  wheel_y_ne_zero : WHEEL_SENSITIVITY_Y ≠ 0

/-! ### The repository's configuration -/

/-- `#define DEBOUNCE_INTERVAL 5`. -/
def DEBOUNCE_INTERVAL : DebounceInterval := ⟨5, by decide, by decide⟩

/-- `POINTER_SENSITIVITY 0.012`, `WHEEL_SENSITIVITY_X 0.35`,
    `WHEEL_SENSITIVITY_Y 0.35`. -/
def configH : Sensitivities where
  POINTER_SENSITIVITY := 0.012
  WHEEL_SENSITIVITY_X := 0.35
  WHEEL_SENSITIVITY_Y := 0.35
  pointer_ne_zero := by norm_num
  wheel_x_ne_zero := by norm_num
  wheel_y_ne_zero := by norm_num

end OrbTrackball
