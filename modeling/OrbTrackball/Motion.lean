import OrbTrackball.PollLoop

/-!
# No motion is lost: the accumulator over whole runs

`getAxes` truncates, and keeps what it truncated away.  Over a run of the
device, in any interleaving of polls and reports, that gives the facts below,
each stated against ghost sums over the run:

  * `raw i ins`, the raw deltas the polls routed to axis `i`;
  * `reported s T i dev ins`, the integral parts `getAxes` produced for
    axis `i`, each at the state it was called in;
  * `pending i ins`, the raw deltas routed to axis `i` since the last
    `getAxes` (since the start if there was none).

`no_motion_dropped`: reported plus what is held equals all the scaled raw
motion, and right after a report what is held is less than one unit.
`integral_part_in_range`: what a report converts to `int16_t` is in range
when the motion pending on the axis is, and `integral_part_overflows` shows
that it need not be otherwise.

All of these rest on one step lemma, `step_axes`, and one run invariant,
`abs_sub_pending_lt_one`.

`replies_carry_motion` takes the same account to the replies themselves:
where no report's integral part leaves the `int16_t` range, the deltas the
replies carry on an axis, plus its pending motion, are its coefficient times
all its raw motion, to within less than one unit.  `reported_sign`: under
the same bound, the delta a report writes never moves against the motion
pending on its axis, so on an axis that only moves forward the replies'
total never decreases; `overflow_reports_against_motion` shows that past
the bound the wrapped delta can.
-/

namespace OrbTrackball.Motion

open OrbTrackball OrbTrackball.Axes OrbTrackball.Report OrbTrackball.PollLoop

/-! ### Ghost sums -/

/-- Input reports call `getAxes`. -/
def getsAxes : Input → Bool
  | .tick _ _ => false
  | .report ReportType _ => ReportType ≠ HID_REPORT_ITEM_Feature

/-- The raw delta an input routes to axis `i`. -/
def routedOf (i : Fin 4) : Input → ℤ
  | .tick v PIND => routed (motionDeltas v).1 (motionDeltas v).2 (scrollOf PIND) i
  | .report _ _ => 0

/-- All raw motion routed to axis `i` in a run. -/
def raw (i : Fin 4) (ins : List Input) : ℤ := (ins.map (routedOf i)).sum

/-- The raw motion routed to axis `i` since the last `getAxes`. -/
def pending (i : Fin 4) (ins : List Input) : ℤ :=
  ins.foldl (fun d inp => if getsAxes inp then 0 else d + routedOf i inp) 0

theorem pending_concat (i : Fin 4) (ins : List Input) (inp : Input) :
    pending i (ins ++ [inp]) = if getsAxes inp then 0 else pending i ins + routedOf i inp := by
  simp [pending]

section

variable (s : Sensitivities) (T : DebounceInterval)

/-- The integral parts `getAxes` produced for axis `i` along a run from `dev`. -/
def reported (i : Fin 4) : Device → List Input → ℤ
  | _, [] => 0
  | dev, inp :: ins =>
    (if getsAxes inp then (getAxes s dev.axes).ix i else 0) +
      reported i (step s T dev inp).1 ins

/-! ### One step, per axis -/

/-- A poll adds its routed delta, an input report calls `getAxes`, a Feature
    report changes nothing. -/
theorem step_axes (dev : Device) (inp : Input) (i : Fin 4) :
    (step s T dev inp).1.axes i =
      if getsAxes inp then (getAxes s dev.axes).axes i else dev.axes i + routedOf i inp := by
  cases inp with
  | tick v PIND => simp [step, getsAxes, routedOf, updateAxes_apply]
  | report ReportType PIND =>
    by_cases h : ReportType = HID_REPORT_ITEM_Feature
    · subst h; simp [step, getsAxes, routedOf, create_feature]
    · simp [step, getsAxes, routedOf, h, create_input s T dev PIND h]

theorem routedOf_of_getsAxes {inp : Input} (i : Fin 4) (h : getsAxes inp = true) :
    routedOf i inp = 0 := by
  cases inp with
  | tick v PIND => simp [getsAxes] at h
  | report ReportType PIND => rfl

theorem reported_concat (i : Fin 4) (dev : Device) (ins : List Input) (inp : Input) :
    reported s T i dev (ins ++ [inp]) = reported s T i dev ins +
      if getsAxes inp then (getAxes s (run s T dev ins).axes).ix i else 0 := by
  induction ins generalizing dev with
  | nil => simp [reported, run]
  | cons x ins ih => simp [reported, run, ih, add_assoc]

/-! ### Over a run -/

/-- What was reported plus what is held is the scaled motion, from any state. -/
theorem reported_add_held (i : Fin 4) (dev : Device) (ins : List Input) :
    (reported s T i dev ins : ℚ) + gain s i * (run s T dev ins).axes i =
      gain s i * dev.axes i + gain s i * raw i ins := by
  induction ins generalizing dev with
  | nil => simp [reported, run, raw]
  | cons inp ins ih =>
    have hstep := step_axes s T dev inp i
    simp only [reported, run, raw, List.map_cons, List.sum_cons] at ih ⊢
    push_cast
    rw [add_assoc, ih, hstep]
    split_ifs with hg
    · rw [gain_mul_getAxes_axes, routedOf_of_getsAxes i hg]; simp; ring
    · simp; ring

/-- What is held on an axis is its pending motion, up to less than one unit. -/
theorem abs_sub_pending_lt_one (i : Fin 4) (ins : List Input) :
    |gain s i * (run s T Device.init ins).axes i - gain s i * pending i ins| < 1 := by
  induction ins using List.reverseRecOn with
  | nil => simp [run, pending, Device.init]
  | append_singleton ins inp ih =>
    rw [run_concat, step_axes, pending_concat]
    split_ifs
    · simpa using abs_gain_mul_getAxes_lt_one s _ i
    · push_cast; rwa [mul_add, mul_add, add_sub_add_right_eq_sub]

/-- **No motion is dropped, only deferred.**  Over any interleaving of polls
    and reports, the integral parts reported on an axis plus what it holds are
    exactly its coefficient times all raw motion routed to it; and right after
    any report, what it holds is less than one unit. -/
theorem no_motion_dropped (ins : List Input) (i : Fin 4) :
    (reported s T i Device.init ins : ℚ) + gain s i * (run s T Device.init ins).axes i =
      gain s i * raw i ins ∧
    |gain s i * (getAxes s (run s T Device.init ins).axes).axes i| < 1 := by
  refine ⟨?_, abs_gain_mul_getAxes_lt_one s _ i⟩
  simpa [Device.init] using reported_add_held s T i Device.init ins

end

/-! ### The `int16_t` range -/

section

variable (s : Sensitivities) (T : DebounceInterval)

/-- Where the pending motion on an axis, scaled, is at most 32767 in
    magnitude, the integral part a report takes from it is within `± 32767`:
    what the axis holds is within one unit of that motion. -/
theorem getAxes_ix_mem_range (ins : List Input) (i : Fin 4)
    (h : |gain s i * pending i ins| ≤ 32767) :
    -32767 ≤ (getAxes s (run s T Device.init ins).axes).ix i ∧
    (getAxes s (run s T Device.init ins).axes).ix i ≤ 32767 := by
  rw [getAxes_ix]
  set v := gain s i * (run s T Device.init ins).axes i
  have hv : |v| < 32768 := calc
    |v| = |(v - gain s i * pending i ins) + gain s i * pending i ins| := by rw [sub_add_cancel]
    _ ≤ |v - gain s i * pending i ins| + |gain s i * pending i ins| := abs_add _ _
    _ < 1 + 32767 := add_lt_add_of_lt_of_le (abs_sub_pending_lt_one s T i ins) h
    _ = 32768 := by norm_num
  have ht : |trunc v| < 32768 := by exact_mod_cast (abs_trunc_le v).trans_lt hv
  obtain ⟨h1, h2⟩ := abs_lt.mp ht
  omega

/-- A report converts its integral part to `int16_t` without loss when the
    pending motion on its axis, scaled, is within the `int16_t` range. -/
theorem getAxes_toInt_of_pending (ins : List Input) (i : Fin 4)
    (h : |gain s i * pending i ins| ≤ 32767) :
    ((getAxes s (run s T Device.init ins).axes).p i).toInt =
      (getAxes s (run s T Device.init ins).axes).ix i := by
  obtain ⟨h1, h2⟩ := getAxes_ix_mem_range s T ins i h
  rw [getAxes_p]
  exact toInt_ofInt_of_range (by omega) h2

/-- **In range when the pending motion is.**  The integral part a report
    converts to `int16_t` is within `± 32767`, and the conversion keeps it,
    whenever the pending motion on its axis, scaled, is at most 32767 in
    magnitude. -/
theorem integral_part_in_range (ins : List Input) (i : Fin 4)
    (h : |gain s i * pending i ins| ≤ 32767) :
    -32767 ≤ (getAxes s (run s T Device.init ins).axes).ix i ∧
    (getAxes s (run s T Device.init ins).axes).ix i ≤ 32767 ∧
    ((getAxes s (run s T Device.init ins).axes).p i).toInt =
      (getAxes s (run s T Device.init ins).axes).ix i :=
  ⟨(getAxes_ix_mem_range s T ins i h).1, (getAxes_ix_mem_range s T ins i h).2,
    getAxes_toInt_of_pending s T ins i h⟩

end

/-- Three full-scale polls on pointer X, then a report: the pending motion,
    98301, scales to 1179.612, well within the bound. -/
theorem integral_part_in_range_after_three_polls :
    |gain configH 0 * pending 0 (List.replicate 3 (.tick [0x80, 0, 0xFF, 0x7F, 0, 0] 0xFF))| ≤
      32767 ∧
    -32767 ≤ (getAxes configH (run configH DEBOUNCE_INTERVAL Device.init
      (List.replicate 3 (.tick [0x80, 0, 0xFF, 0x7F, 0, 0] 0xFF))).axes).ix 0 ∧
    (getAxes configH (run configH DEBOUNCE_INTERVAL Device.init
      (List.replicate 3 (.tick [0x80, 0, 0xFF, 0x7F, 0, 0] 0xFF))).axes).ix 0 ≤ 32767 ∧
    ((getAxes configH (run configH DEBOUNCE_INTERVAL Device.init
      (List.replicate 3 (.tick [0x80, 0, 0xFF, 0x7F, 0, 0] 0xFF))).axes).p 0).toInt =
      (getAxes configH (run configH DEBOUNCE_INTERVAL Device.init
        (List.replicate 3 (.tick [0x80, 0, 0xFF, 0x7F, 0, 0] 0xFF))).axes).ix 0 :=
  have h : |gain configH 0 *
      pending 0 (List.replicate 3 (.tick [0x80, 0, 0xFF, 0x7F, 0, 0] 0xFF))| ≤ 32767 := by
    rw [show pending 0 (List.replicate 3 (.tick [0x80, 0, 0xFF, 0x7F, 0, 0] 0xFF)) = 98301 by
      decide]
    norm_num [gain, configH, abs_le]
  ⟨h, integral_part_in_range configH DEBOUNCE_INTERVAL _ 0 h⟩

/-! #### Past the range

The run of the two counterexamples: three full-scale polls (`delta_x =
32767`) with the scroll button held, then a report.  The motion pending on
wheel X is 98301, which `WHEEL_SENSITIVITY_X = 0.35` scales to 34405.35, past
the `int16_t` range; nothing in `getAxes` saturates it. -/

theorem pending_three_scrolls :
    pending 2 (List.replicate 3 (.tick [0x80, 0, 0xFF, 0x7F, 0, 0] 0xF7)) = 98301 := by
  decide

theorem getAxes_ix_three_scrolls :
    (getAxes configH (run configH DEBOUNCE_INTERVAL Device.init
      (List.replicate 3 (.tick [0x80, 0, 0xFF, 0x7F, 0, 0] 0xF7))).axes).ix 2 = 34405 := by
  have hr : routedOf 2 (.tick [0x80, 0, 0xFF, 0x7F, 0, 0] 0xF7) = 32767 := by decide
  have ha : (run configH DEBOUNCE_INTERVAL Device.init
      (List.replicate 3 (.tick [0x80, 0, 0xFF, 0x7F, 0, 0] 0xF7))).axes 2 = 98301 := by
    simp only [List.replicate, run, step_axes, getsAxes, hr]
    norm_num [Device.init]
  have ht : trunc (0.35 * 98301) = 34405 := by
    simp only [trunc, modf]
    rw [if_pos (by norm_num), Int.floor_eq_iff]
    norm_num
  rw [getAxes_ix, ha]
  simp only [gain, configH, Matrix.cons_val_two, Matrix.tail_cons, Matrix.head_cons, ht]

/-- Three full-scale polls (`delta_x = 32767`) with the scroll button held,
    then a report: with the repository's wheel coefficient 0.35 the integral
    part is 34405, and the conversion wraps it to -31131. -/
theorem integral_part_overflows :
    32767 < (getAxes configH (run configH DEBOUNCE_INTERVAL Device.init
      (List.replicate 3 (.tick [0x80, 0, 0xFF, 0x7F, 0, 0] 0xF7))).axes).ix 2 ∧
    ((getAxes configH (run configH DEBOUNCE_INTERVAL Device.init
      (List.replicate 3 (.tick [0x80, 0, 0xFF, 0x7F, 0, 0] 0xF7))).axes).p 2).toInt = -31131 := by
  rw [getAxes_p, getAxes_ix_three_scrolls]
  exact ⟨by norm_num, by decide⟩

/-! ### What the reports carry -/

section

variable (s : Sensitivities) (T : DebounceInterval)

/-- The delta a step's reply carries on axis `i`: the converted integral part
    for an input report, nothing otherwise. -/
theorem step_reply_axis (dev : Device) (inp : Input) (i : Fin 4) :
    ((step s T dev inp).2.toList.map (·.axis i)).sum =
      if getsAxes inp then ((getAxes s dev.axes).p i).toInt else 0 := by
  cases inp with
  | tick v PIND => rfl
  | report ReportType PIND =>
    by_cases h : ReportType = HID_REPORT_ITEM_Feature
    · subst h
      cases hs : dev.set <;> simp [step, getsAxes, CALLBACK_HID_Device_CreateHIDReport, hs, Reply.axis]
    · simp [step, getsAxes, h, create_input s T dev PIND h, Reply.axis]

/-- Where no report overflows, the replies carry exactly the integral parts. -/
theorem replies_axis_sum (i : Fin 4) (ins : List Input)
    (h : ∀ pre inp, pre ++ [inp] <+: ins → getsAxes inp → |gain s i * pending i pre| ≤ 32767) :
    ((replies s T Device.init ins).map (·.axis i)).sum = reported s T i Device.init ins := by
  induction ins using List.reverseRecOn with
  | nil => rfl
  | append_singleton ins inp ih =>
    rw [replies_concat, List.map_append, List.sum_append, step_reply_axis, reported_concat,
      ih fun pre x hp => h pre x (hp.trans (List.prefix_append _ _))]
    split_ifs with hg
    · rw [getAxes_toInt_of_pending s T ins i (h ins inp (List.prefix_refl _) hg)]
    · rfl

/-- **The reports carry all the motion.**  Over any interleaving of polls and
    reports in which no report's integral part leaves the `int16_t` range,
    the deltas the replies carry on an axis, plus the motion still pending
    there, are its coefficient times all raw motion routed to it, to within
    less than one unit. -/
theorem replies_carry_motion (ins : List Input) (i : Fin 4)
    (h : ∀ pre inp, pre ++ [inp] <+: ins → getsAxes inp → |gain s i * pending i pre| ≤ 32767) :
    |((((replies s T Device.init ins).map (·.axis i)).sum : ℤ) : ℚ) + gain s i * pending i ins -
      gain s i * raw i ins| < 1 := by
  have hrep := reported_add_held s T i Device.init ins
  rw [show Device.init.axes i = 0 from rfl, mul_zero, zero_add] at hrep
  rw [replies_axis_sum s T i ins h, abs_sub_comm]
  calc |gain s i * raw i ins - (↑(reported s T i Device.init ins) + gain s i * pending i ins)|
      = |gain s i * (run s T Device.init ins).axes i - gain s i * pending i ins| := by
        rw [← hrep]; ring_nf
    _ < 1 := abs_sub_pending_lt_one s T i ins

end

theorem replies_carry_motion_after_one_poll :
    (∀ pre inp, pre ++ [inp] <+: [.tick [0x80, 0, 100, 0, 0, 0] 0xFF, .report 0 0xFF] →
      getsAxes inp → |gain configH 0 * pending 0 pre| ≤ 32767) ∧
    |((((replies configH DEBOUNCE_INTERVAL Device.init
        [.tick [0x80, 0, 100, 0, 0, 0] 0xFF, .report 0 0xFF]).map (·.axis 0)).sum : ℤ) : ℚ) +
      gain configH 0 * pending 0 [.tick [0x80, 0, 100, 0, 0, 0] 0xFF, .report 0 0xFF] -
      gain configH 0 * raw 0 [.tick [0x80, 0, 100, 0, 0, 0] 0xFF, .report 0 0xFF]| < 1 := by
  have h : ∀ pre inp, pre ++ [inp] <+: [.tick [0x80, 0, 100, 0, 0, 0] 0xFF, .report 0 0xFF] →
      getsAxes inp → |gain configH 0 * pending 0 pre| ≤ 32767 := by
    rintro (_ | ⟨x, _ | ⟨y, pre⟩⟩) inp ⟨t, ht⟩ hg
    · simp only [List.nil_append, List.singleton_append, List.cons.injEq] at ht
      obtain ⟨rfl, -⟩ := ht
      cases hg
    · simp only [List.cons_append, List.singleton_append, List.cons.injEq] at ht
      obtain ⟨rfl, -⟩ := ht
      rw [show pending 0 [.tick [0x80, 0, 100, 0, 0, 0] 0xFF] = 100 by decide]
      norm_num [gain, configH, abs_le]
    · simp at ht
  exact ⟨h, replies_carry_motion configH DEBOUNCE_INTERVAL _ 0 h⟩

/-! ### Reports follow the pending motion -/

/-- Truncating a value within one unit of `g * d`, `d ≥ 0`, gives zero or an
    integer of the sign of `g`. -/
theorem gain_mul_trunc_nonneg {g v d : ℚ} (hg : g ≠ 0) (hv : |v - g * d| < 1) (hd : 0 ≤ d) :
    0 ≤ g * trunc v := by
  rw [abs_lt] at hv
  rcases hg.lt_or_lt with hg | hg
  · have hgd : g * d ≤ 0 := mul_nonpos_of_nonpos_of_nonneg hg.le hd
    exact mul_nonneg_of_nonpos_of_nonpos hg.le (Int.cast_nonpos.mpr (trunc_nonpos (by linarith)))
  · have hgd : 0 ≤ g * d := mul_nonneg hg.le hd
    exact mul_nonneg hg.le (Int.cast_nonneg.mpr (trunc_nonneg (by linarith)))

/-- Truncating a value within one unit of `g * d`, `d ≤ 0`, gives zero or an
    integer of the sign opposite to `g`: the case above for `-g` and `-d`. -/
theorem gain_mul_trunc_nonpos {g v d : ℚ} (hg : g ≠ 0) (hv : |v - g * d| < 1) (hd : d ≤ 0) :
    g * trunc v ≤ 0 := by
  have := gain_mul_trunc_nonneg (neg_ne_zero.mpr hg) (by rw [neg_mul_neg]; exact hv)
    (neg_nonneg.mpr hd)
  rwa [neg_mul, neg_nonneg] at this

theorem pending_nonneg (i : Fin 4) (ins : List Input) (h : ∀ inp ∈ ins, 0 ≤ routedOf i inp) :
    0 ≤ pending i ins := by
  induction ins using List.reverseRecOn with
  | nil => simp [pending]
  | append_singleton ins inp ih =>
    rw [pending_concat]
    have := ih (fun x hx => h x (by simp [hx]))
    have := h inp (by simp)
    split_ifs <;> omega

section

variable (s : Sensitivities) (T : DebounceInterval)

theorem getAxes_sign_nonneg (ins : List Input) (i : Fin 4) (h : 0 ≤ pending i ins) :
    0 ≤ gain s i * (getAxes s (run s T Device.init ins).axes).ix i := by
  rw [getAxes_ix]
  exact gain_mul_trunc_nonneg (gain_ne_zero s i) (abs_sub_pending_lt_one s T i ins)
    (by exact_mod_cast h)

theorem getAxes_sign_nonpos (ins : List Input) (i : Fin 4) (h : pending i ins ≤ 0) :
    gain s i * (getAxes s (run s T Device.init ins).axes).ix i ≤ 0 := by
  rw [getAxes_ix]
  exact gain_mul_trunc_nonpos (gain_ne_zero s i) (abs_sub_pending_lt_one s T i ins)
    (by exact_mod_cast h)

/-- With nonnegative raw deltas and a positive coefficient, the integral
    parts reported on an axis only add up. -/
theorem reported_le_append (ins ext : List Input) (i : Fin 4) (hg : 0 < gain s i)
    (hall : ∀ inp ∈ ins ++ ext, 0 ≤ routedOf i inp) :
    reported s T i Device.init ins ≤ reported s T i Device.init (ins ++ ext) := by
  induction ext using List.reverseRecOn with
  | nil => simp
  | append_singleton ext inp ih =>
    rw [← List.append_assoc] at hall ⊢
    have hle := ih fun x hx => hall x (List.mem_append_left _ hx)
    rw [reported_concat]
    split_ifs
    · have hs := getAxes_sign_nonneg s T (ins ++ ext) i
        (pending_nonneg i _ fun x hx => hall x (List.mem_append_left _ hx))
      have hix := Int.cast_nonneg.mp ((mul_nonneg_iff_of_pos_left hg).mp hs)
      omega
    · simpa using hle

/-- **Reports never move against the motion.**  Where the motion pending on
    an axis, scaled, is within the `int16_t` range, the delta the next report
    writes on that axis is zero or has the sign of its coefficient when that
    motion is nonnegative, and zero or the opposite sign when it is
    nonpositive.  So with nonnegative raw deltas, a positive coefficient and
    that bound at every report, the total of the deltas the replies carry on
    the axis never decreases. -/
theorem reported_sign (ins : List Input) (i : Fin 4) (h : |gain s i * pending i ins| ≤ 32767) :
    (0 ≤ pending i ins →
      0 ≤ gain s i * ((getAxes s (run s T Device.init ins).axes).p i).toInt) ∧
    (pending i ins ≤ 0 →
      gain s i * ((getAxes s (run s T Device.init ins).axes).p i).toInt ≤ 0) ∧
    ∀ ext, 0 < gain s i → (∀ inp ∈ ins ++ ext, 0 ≤ routedOf i inp) →
      (∀ pre inp, pre ++ [inp] <+: ins ++ ext → getsAxes inp →
        |gain s i * pending i pre| ≤ 32767) →
      ((replies s T Device.init ins).map (·.axis i)).sum ≤
        ((replies s T Device.init (ins ++ ext)).map (·.axis i)).sum := by
  rw [getAxes_toInt_of_pending s T ins i h]
  refine ⟨getAxes_sign_nonneg s T ins i, getAxes_sign_nonpos s T ins i,
    fun ext hg hall hb => ?_⟩
  rw [replies_axis_sum s T i _ hb,
    replies_axis_sum s T i ins fun pre inp hp => hb pre inp (hp.trans (List.prefix_append _ _))]
  exact reported_le_append s T ins ext i hg hall

end

/-- One poll of 100 counts on pointer X: the bound holds at the next report. -/
theorem reported_sign_after_one_poll :
    |gain configH 0 * pending 0 [.tick [0x80, 0, 100, 0, 0, 0] 0xFF]| ≤ 32767 ∧
    (0 ≤ pending 0 [.tick [0x80, 0, 100, 0, 0, 0] 0xFF] →
      0 ≤ gain configH 0 * ((getAxes configH (run configH DEBOUNCE_INTERVAL Device.init
        [.tick [0x80, 0, 100, 0, 0, 0] 0xFF]).axes).p 0).toInt) ∧
    (pending 0 [.tick [0x80, 0, 100, 0, 0, 0] 0xFF] ≤ 0 →
      gain configH 0 * ((getAxes configH (run configH DEBOUNCE_INTERVAL Device.init
        [.tick [0x80, 0, 100, 0, 0, 0] 0xFF]).axes).p 0).toInt ≤ 0) ∧
    ∀ ext, 0 < gain configH 0 → (∀ inp ∈ [.tick [0x80, 0, 100, 0, 0, 0] 0xFF] ++ ext,
        0 ≤ routedOf 0 inp) →
      (∀ pre inp, pre ++ [inp] <+: [.tick [0x80, 0, 100, 0, 0, 0] 0xFF] ++ ext → getsAxes inp →
        |gain configH 0 * pending 0 pre| ≤ 32767) →
      ((replies configH DEBOUNCE_INTERVAL Device.init
          [.tick [0x80, 0, 100, 0, 0, 0] 0xFF]).map (·.axis 0)).sum ≤
        ((replies configH DEBOUNCE_INTERVAL Device.init
          ([.tick [0x80, 0, 100, 0, 0, 0] 0xFF] ++ ext)).map (·.axis 0)).sum :=
  have h : |gain configH 0 * pending 0 [.tick [0x80, 0, 100, 0, 0, 0] 0xFF]| ≤ 32767 := by
    rw [show pending 0 [.tick [0x80, 0, 100, 0, 0, 0] 0xFF] = 100 by decide]
    norm_num [gain, configH, abs_le]
  ⟨h, reported_sign configH DEBOUNCE_INTERVAL _ 0 h⟩

/-- Past the bound the sign can flip: after the three full-scale scrolls the
    motion pending on wheel X is 98301 ≥ 0 and `WHEEL_SENSITIVITY_X` is
    positive, but the delta the report writes, wrapped to -31131, is
    negative. -/
theorem overflow_reports_against_motion :
    0 ≤ pending 2 (List.replicate 3 (.tick [0x80, 0, 0xFF, 0x7F, 0, 0] 0xF7)) ∧
    0 < gain configH 2 ∧
    gain configH 2 * ((getAxes configH (run configH DEBOUNCE_INTERVAL Device.init
      (List.replicate 3 (.tick [0x80, 0, 0xFF, 0x7F, 0, 0] 0xF7))).axes).p 2).toInt < 0 := by
  rw [pending_three_scrolls, getAxes_p, getAxes_ix_three_scrolls,
    show (BitVec.ofInt 16 34405).toInt = -31131 by decide]
  norm_num [gain, configH]

end OrbTrackball.Motion
