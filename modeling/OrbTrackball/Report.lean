import OrbTrackball.Axes
import OrbTrackball.Debounce

/-!
# The report callback (`usb.c`)

LUFA asks the firmware for a report by calling
`CALLBACK_HID_Device_CreateHIDReport`.  A Feature request is answered once
with a resolution multiplier of 1; every other request reads the accumulator
through `getAxes`, samples the buttons and runs the debouncer on the sample.

The callback's statics, together with the accumulator of `axes.c` it reads,
are the `Device`: the part of the firmware's state that reports depend on.
`CALLBACK_HID_Device_CreateHIDReport` returns the next `Device` and a
`Reply`: what it wrote to `ReportData` and `*ReportSize`, and its return
value.  `create_input` and `create_feature` are its two branches in normal
form; nothing after this module unfolds the callback.
-/

namespace OrbTrackball.Report

open OrbTrackball OrbTrackball.Axes OrbTrackball.Debounce

/-- LUFA's `HID_REPORT_ITEM_Feature`, the report item type of Feature
    requests.  The callback only compares `ReportType` with it. -/
def HID_REPORT_ITEM_Feature : UInt8 := 2

/-- `MouseReport_Data_t`. -/
structure MouseReport_Data_t where
  buttons : UInt8
  axes : Fin 4 → BitVec 16

/-- `FeatureReport_Data_t`. -/
structure FeatureReport_Data_t where
  multiplier : UInt8

/-- The two layouts the callback writes into `ReportData`. -/
inductive ReportData where
  | mouse (p : MouseReport_Data_t)
  | feature (p : FeatureReport_Data_t)

/-- What one call leaves to LUFA: the report and `*ReportSize`, when it wrote
    them, and the return value. -/
structure Reply where
  written : Option (ReportData × UInt16)
  ret : Bool

/-- The buttons field of the report a call wrote, if it wrote a mouse report. -/
def Reply.buttons? (r : Reply) : Option UInt8 :=
  match r.written with
  | some (.mouse p, _) => some p.buttons
  | _ => none

/-- The delta a call wrote on axis `i`, as the `int16_t` the host reads; 0
    when it wrote no mouse report. -/
def Reply.axis (r : Reply) (i : Fin 4) : ℤ :=
  match r.written with
  | some (.mouse p, _) => (p.axes i).toInt
  | _ => 0

/-- `axes.c`'s accumulator and the callback's statics. -/
structure Device where
  axes : Fin 4 → ℚ
  deb : Debouncer
  set : Bool

/-- Everything static starts zeroed. -/
def Device.init : Device := ⟨fun _ => 0, Debouncer.init, false⟩

/-- Lines 577–580: bit `i` of the sample is set when the pin `BUTTONS[i]`
    reads low.  `PIND` is taken as one reading of the port. -/
def readButtons (PIND : UInt8) : UInt8 :=
  (List.range BUTTONS.length).foldl
    (fun b i => b ||| ((if PIND &&& (1 <<< BUTTONS.getD i 0) = 0 then 1 else 0) <<< i.toUInt8)) 0

/-- `CALLBACK_HID_Device_CreateHIDReport`, with the level of the port `PIND`
    at the time of the call. -/
def CALLBACK_HID_Device_CreateHIDReport (s : Sensitivities) (T : DebounceInterval)
    (dev : Device) (ReportType : UInt8) (PIND : UInt8) : Device × Reply :=
  if ReportType = HID_REPORT_ITEM_Feature then
    if dev.set then (dev, ⟨none, false⟩)
    else ({ dev with set := true }, ⟨some (.feature ⟨1⟩, 1), true⟩)
  else
    -- Read the current axes state and create the report.
    let q := getAxes s dev.axes
    -- Read the current button state.
    let b := readButtons PIND
    let (deb, accepted) := debounce T dev.deb b
    let dev' := { dev with axes := q.axes, deb := deb }
    if accepted then (dev', ⟨some (.mouse ⟨deb.oldButtons, q.p⟩, 9), true⟩)
    else (dev', ⟨some (.mouse ⟨dev.deb.oldButtons, q.p⟩, 9), q.ret⟩)

/-! ### The two branches -/

section

variable (s : Sensitivities) (T : DebounceInterval) (dev : Device) (PIND : UInt8)

/-- The input-report branch: the report carries the stable mask as it is
    after the call, and the call returns whether it accepted a candidate or
    wrote a nonzero delta. -/
theorem create_input {ReportType : UInt8} (h : ReportType ≠ HID_REPORT_ITEM_Feature) :
    CALLBACK_HID_Device_CreateHIDReport s T dev ReportType PIND =
      ({ dev with axes := (getAxes s dev.axes).axes,
                  deb := (debounce T dev.deb (readButtons PIND)).1 },
       ⟨some (.mouse ⟨(debounce T dev.deb (readButtons PIND)).1.oldButtons,
          (getAxes s dev.axes).p⟩, 9),
        (debounce T dev.deb (readButtons PIND)).2 || (getAxes s dev.axes).ret⟩) := by
  unfold CALLBACK_HID_Device_CreateHIDReport
  cases ha : (debounce T dev.deb (readButtons PIND)).2
  · simp [h, ha, debounce_old_of_not_accept ha]
  · simp [h, ha]

/-- The Feature branch touches neither the accumulator nor the debouncer. -/
theorem create_feature :
    (CALLBACK_HID_Device_CreateHIDReport s T dev HID_REPORT_ITEM_Feature PIND).1 =
      { dev with set := true } := by
  unfold CALLBACK_HID_Device_CreateHIDReport
  rcases dev with ⟨axes, deb, _ | _⟩ <;> simp

/-- A Feature call writes no mouse report. -/
theorem create_feature_buttons? :
    (CALLBACK_HID_Device_CreateHIDReport s T dev HID_REPORT_ITEM_Feature PIND).2.buttons? =
      none := by
  unfold CALLBACK_HID_Device_CreateHIDReport
  cases dev.set <;> rfl

end

/-- A sample has a bit for each of the four buttons and no other. -/
theorem readButtons_lt (PIND : UInt8) : readButtons PIND < 16 := by
  simp only [readButtons, BUTTONS, List.length, List.range, List.range.loop, List.foldl]
  split_ifs <;> decide

/-- Pin 2 (`BUTTON_C`) low is button bit 0; pin 5 (`BUTTON_B`) low is bit 1. -/
example : readButtons 0xFB = 1 ∧ readButtons 0xDF = 2 ∧ readButtons 0xFF = 0 := by decide

end OrbTrackball.Report
