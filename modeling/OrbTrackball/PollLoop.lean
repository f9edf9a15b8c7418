import OrbTrackball.Report

/-!
# The poll loop and the host (`main.c`, `usb.c`)

After bring-up, `main` loops forever: it reads a motion burst from the
sensor, decodes two deltas from it, reads the scroll button and feeds the
deltas to `updateAxes`; then `do_usb_tasks` lets LUFA run, and LUFA calls
`CALLBACK_HID_Device_CreateHIDReport` whenever the host asks for a report.
The host polls on its own schedule, so between two loop passes there may be
any number of reports, of any type.

A run is therefore a list of `Input`s in any interleaving: a `tick` is one
pass of the loop after the SPI exchange (its burst bytes and the level of
`PIND`), a `report` is one call of the callback.  The SPI exchange itself is
modelled in `Spi.lean`; `motionDeltas` is shared by both.

Over every run of the whole device, the debouncer has
`debouncer_invariant` (every reachable state), `stable_mask_change` (what any
call can do to the stable mask), `false_reply_loses_nothing` (what a report
that LUFA may drop carried), `held_mask_never_accepted` (a mask held for
any number of polls that is never accepted) and `held_mask_outcome` (what
holding a mask for `T + 1` polls does, from any reachable state).  The other
static of the callback, `set`, gets `feature_reply`: the Feature report is
written on the first Feature request of a run and never again.
-/

namespace OrbTrackball.PollLoop

open OrbTrackball OrbTrackball.Axes OrbTrackball.Debounce OrbTrackball.Report

/-! ### One pass of the loop -/

/-- `*(int16_t *)(v + k)` on the little-endian AVR. -/
def int16At (v : List UInt8) (k : Nat) : BitVec 16 :=
  (v.getD (k + 1) 0).toBitVec ++ (v.getD k 0).toBitVec

/-- Lines 231–241: the deltas of a motion burst `v`, the bytes read after
    `MOTION_BURST`.  Without bit 7 of `v[0]` there is no motion. -/
def motionDeltas (v : List UInt8) : BitVec 16 × BitVec 16 :=
  if (v.getD 0 0 &&& 0x80) > 0 then (int16At v 2, int16At v 4) else (0, 0)

/-- Line 248: the scroll button is held when its pin reads low. -/
def scrollOf (PIND : UInt8) : Bool := (PIND &&& (1 <<< SCROLL_BUTTON)) = 0

/-- What the device sees. -/
inductive Input where
  /-- One pass of `main`'s loop, with the burst bytes and the port. -/
  | tick (v : List UInt8) (PIND : UInt8)
  /-- One call of the report callback. -/
  | report (ReportType : UInt8) (PIND : UInt8)

section

variable (s : Sensitivities) (T : DebounceInterval)

/-- One input: the next device state and, for a report, the callback's reply. -/
def step (dev : Device) : Input → Device × Option Reply
  | .tick v PIND =>
    let (delta_x, delta_y) := motionDeltas v
    ({ dev with axes := updateAxes delta_x delta_y (scrollOf PIND) dev.axes }, none)
  | .report ReportType PIND =>
    let (dev', reply) := CALLBACK_HID_Device_CreateHIDReport s T dev ReportType PIND
    (dev', some reply)

/-- The state after a run. -/
def run (dev : Device) : List Input → Device
  | [] => dev
  | inp :: ins => run (step s T dev inp).1 ins

/-- The replies of a run, in order. -/
def replies (dev : Device) : List Input → List Reply
  | [] => []
  | inp :: ins => (step s T dev inp).2.toList ++ replies (step s T dev inp).1 ins

theorem run_append (dev : Device) (ins ins' : List Input) :
    run s T dev (ins ++ ins') = run s T (run s T dev ins) ins' := by
  induction ins generalizing dev with
  | nil => rfl
  | cons inp ins ih => exact ih _

theorem run_concat (dev : Device) (ins : List Input) (inp : Input) :
    run s T dev (ins ++ [inp]) = (step s T (run s T dev ins) inp).1 := by
  rw [run_append]; rfl

theorem replies_concat (dev : Device) (ins : List Input) (inp : Input) :
    replies s T dev (ins ++ [inp]) =
      replies s T dev ins ++ (step s T (run s T dev ins) inp).2.toList := by
  induction ins generalizing dev with
  | nil => simp [replies, run]
  | cons i ins ih => simp [replies, run, ih]

end

/-! ### The debouncer inside the device -/

/-- The mask an input feeds the debouncer: input-report calls sample the
    buttons; ticks and Feature calls do not reach it. -/
def sampled : Input → Option UInt8
  | .tick _ _ => none
  | .report ReportType PIND =>
    if ReportType = HID_REPORT_ITEM_Feature then none else some (readButtons PIND)

/-- The masks sampled along a run. -/
def samples (ins : List Input) : List UInt8 := ins.filterMap sampled

section

variable (s : Sensitivities) (T : DebounceInterval)

theorem step_deb (dev : Device) (inp : Input) :
    (step s T dev inp).1.deb = match sampled inp with
      | some b => (debounce T dev.deb b).1
      | none => dev.deb := by
  cases inp with
  | tick v PIND => rfl
  | report ReportType PIND =>
    by_cases h : ReportType = HID_REPORT_ITEM_Feature
    · subst h; simp [step, sampled, create_feature]
    · simp [step, sampled, h, create_input s T dev PIND h]

/-- The debouncer of a device run is the debouncer run on the samples. -/
theorem run_deb (ins : List Input) :
    (run s T Device.init ins).deb = Debounce.run T Debouncer.init (samples ins) := by
  induction ins using List.reverseRecOn with
  | nil => rfl
  | append_singleton ins inp ih =>
    rw [run_concat, step_deb, samples, List.filterMap_append, ← samples, ih]
    cases h : sampled inp <;> simp [h, Debounce.run_concat]

theorem inv_run_deb (ins : List Input) :
    Inv T (samples ins) (run s T Device.init ins).deb := by
  rw [run_deb]; exact inv_run T _

/-- The buttons of the last mouse report among `rs`; 0 before the first. -/
def lastButtons (rs : List Reply) : UInt8 := (rs.filterMap Reply.buttons?).getLastD 0

theorem lastButtons_concat (rs : List Reply) (r : Reply) :
    lastButtons (rs ++ [r]) = r.buttons?.getD (lastButtons rs) := by
  cases h : r.buttons? <;> simp [lastButtons, h, List.getLastD_eq_getLast?]

/-- The mouse reports of a run always carry the stable mask of the moment. -/
theorem lastButtons_replies (ins : List Input) :
    lastButtons (replies s T Device.init ins) = (run s T Device.init ins).deb.oldButtons := by
  induction ins using List.reverseRecOn with
  | nil => rfl
  | append_singleton ins inp ih =>
    rw [replies_concat, run_concat]
    cases inp with
    | tick v PIND => simpa [step] using ih
    | report ReportType PIND =>
      by_cases h : ReportType = HID_REPORT_ITEM_Feature
      · subst h; simpa [step, lastButtons_concat, create_feature, create_feature_buttons?] using ih
      · simp [step, lastButtons_concat, create_input s T _ PIND h, Reply.buttons?]

/-- **Every reachable debouncer state is consistent.**  Whatever the
    interleaving of polls and reports, the counter stays within the interval,
    so its increment never wraps the `uint8_t`, and a running count is for a
    candidate that differs from the stable mask. -/
theorem debouncer_invariant (ins : List Input) :
    (run s T Device.init ins).deb.debounceCount.toNat ≤ T.val ∧
    ((run s T Device.init ins).deb.debounceCount ≠ 0 →
      (run s T Device.init ins).deb.newButtons ≠ (run s T Device.init ins).deb.oldButtons) ∧
    ((run s T Device.init ins).deb.debounceCount + 1).toNat =
      (run s T Device.init ins).deb.debounceCount.toNat + 1 := by
  obtain ⟨hle, hne, -⟩ := inv_run_deb s T ins
  exact ⟨hle, hne, toNat_add_one hle⟩

/-- **How the stable mask changes.**  A call either leaves the stable mask
    as it was, or it is an input report that returns `true`, reports the new
    mask, and has seen that mask, different from the old one, in its own
    sample and in the samples of the `T - 1` input reports before it. -/
theorem stable_mask_change (ins : List Input) (inp : Input) :
    (run s T Device.init (ins ++ [inp])).deb.oldButtons =
        (run s T Device.init ins).deb.oldButtons ∨
    ∃ reply, (step s T (run s T Device.init ins) inp).2 = some reply ∧ reply.ret = true ∧
      reply.buttons? = some (run s T Device.init (ins ++ [inp])).deb.oldButtons ∧
      (run s T Device.init (ins ++ [inp])).deb.oldButtons ≠
        (run s T Device.init ins).deb.oldButtons ∧
      ∃ pre, samples (ins ++ [inp]) =
        pre ++ List.replicate T.val (run s T Device.init (ins ++ [inp])).deb.oldButtons := by
  have hi := inv_run_deb s T ins
  rw [run_concat]
  cases inp with
  | tick v PIND => exact .inl rfl
  | report ReportType PIND =>
    by_cases h : ReportType = HID_REPORT_ITEM_Feature
    · subst h; simp [step, create_feature]
    · simp only [step, create_input s T _ PIND h]
      cases ha : (debounce T (run s T Device.init ins).deb (readButtons PIND)).2
      · exact .inl (debounce_old_of_not_accept ha)
      · obtain ⟨hold, hne, pre, hpre⟩ := debounce_accept hi ha
        refine .inr ⟨_, rfl, by simp, rfl, by rw [hold]; exact hne, pre, ?_⟩
        simpa [samples, sampled, h, hold] using hpre

/-- **A report LUFA may drop carries nothing new.**  An input report that
    returns `false` wrote four zero deltas and the buttons of the previous
    mouse report (0 before the first). -/
theorem false_reply_loses_nothing (ins : List Input) {ReportType : UInt8} (PIND : UInt8)
    (h : ReportType ≠ HID_REPORT_ITEM_Feature)
    (hret : (CALLBACK_HID_Device_CreateHIDReport s T (run s T Device.init ins)
      ReportType PIND).2.ret = false) :
    ∃ p, (CALLBACK_HID_Device_CreateHIDReport s T (run s T Device.init ins)
        ReportType PIND).2.written = some (.mouse p, 9) ∧
      (∀ i, p.axes i = 0) ∧ p.buttons = lastButtons (replies s T Device.init ins) := by
  rw [create_input s T _ PIND h] at hret ⊢
  simp only [Bool.or_eq_false_iff] at hret
  refine ⟨_, rfl, (getAxes_ret s _).mp hret.2, ?_⟩
  rw [debounce_old_of_not_accept hret.1, lastButtons_replies]

/-- Six presses of `BUTTON_C` get the mask 1 accepted; a seventh report with
    the same sample returns `false` and carries the buttons 1 again. -/
theorem false_reply_once_press_accepted :
    (0 : UInt8) ≠ HID_REPORT_ITEM_Feature ∧
    (CALLBACK_HID_Device_CreateHIDReport configH DEBOUNCE_INTERVAL
      (run configH DEBOUNCE_INTERVAL Device.init (List.replicate 6 (.report 0 0xFB))) 0 0xFB).2.ret =
        false ∧
    lastButtons (replies configH DEBOUNCE_INTERVAL Device.init
      (List.replicate 6 (.report 0 0xFB))) = 1 ∧
    ∃ p, (CALLBACK_HID_Device_CreateHIDReport configH DEBOUNCE_INTERVAL
        (run configH DEBOUNCE_INTERVAL Device.init (List.replicate 6 (.report 0 0xFB))) 0
          0xFB).2.written = some (.mouse p, 9) ∧
      (∀ i, p.axes i = 0) ∧ p.buttons = lastButtons (replies configH DEBOUNCE_INTERVAL
        Device.init (List.replicate 6 (.report 0 0xFB))) :=
  have h : (0 : UInt8) ≠ HID_REPORT_ITEM_Feature := by decide
  have hax : (run configH DEBOUNCE_INTERVAL Device.init (List.replicate 6 (.report 0 0xFB))).axes =
      fun _ => 0 := by
    simp only [List.replicate, run, step, create_input _ _ _ _ h, Device.init, (getAxes_zero _).1]
  have hret : (CALLBACK_HID_Device_CreateHIDReport configH DEBOUNCE_INTERVAL
      (run configH DEBOUNCE_INTERVAL Device.init (List.replicate 6 (.report 0 0xFB))) 0 0xFB).2.ret =
        false := by
    rw [create_input _ _ _ _ h, Bool.or_eq_false_iff, getAxes_ret, hax, run_deb, (getAxes_zero _).2]
    exact ⟨by decide, fun _ => rfl⟩
  ⟨h, hret, by rw [lastButtons_replies, run_deb]; decide,
    false_reply_loses_nothing configH DEBOUNCE_INTERVAL _ 0xFB h hret⟩

/-- **A held mask that is never accepted.**  Press `BUTTON_C` (sample 1),
    then hold `BUTTON_B` alone (sample 2) for any number of polls: the second
    sample differs from the stable mask 0 and from the candidate 1, so every
    poll restarts the count without recording it, and the stable mask stays 0. -/
theorem held_mask_never_accepted (n : Nat) :
    readButtons 0xDF = 2 ∧
    (run s T Device.init
      (.report 0 0xFB :: List.replicate (n + 1) (.report 0 0xDF))).deb.oldButtons = 0 := by
  have hs : samples (.report 0 0xFB :: List.replicate (n + 1) (.report 0 0xDF)) =
      1 :: List.replicate (n + 1) 2 := by
    have h1 : sampled (.report 0 0xFB) = some 1 := by decide
    have h2 : sampled (.report 0 0xDF) = some 2 := by decide
    simp only [samples, List.filterMap_cons, List.filterMap_replicate, h1, h2]
  refine ⟨by decide, ?_⟩
  rw [run_deb, hs, Debounce.run]
  have h1 : (debounce T Debouncer.init 1).1 = ⟨0, 1, 1⟩ := by
    simp [debounce, Debouncer.init]
  rw [h1, run_restart_replicate (by decide) (by decide)]

/-- **What holding a mask does.**  From any reachable device state, a
    continuation of the run whose input reports sample `m` at least `T + 1`
    times, whatever ticks and Feature calls come between them, ends with `m`
    as the stable mask when the debouncer was idle or counting for `m`;
    otherwise (another candidate in flight) the stable mask stays as it was. -/
theorem held_mask_outcome (ins more : List Input) {m : UInt8} {n : Nat}
    (hmore : samples more = List.replicate n m) (hn : T.val + 1 ≤ n) :
    (run s T Device.init (ins ++ more)).deb.oldButtons =
      if (run s T Device.init ins).deb.debounceCount = 0 ∨
          (run s T Device.init ins).deb.newButtons = m then m
      else (run s T Device.init ins).deb.oldButtons := by
  have hle := (inv_run_deb s T ins).count_le
  rw [run_deb, samples, List.filterMap_append, ← samples, ← samples, hmore, Debounce.run_append,
    ← run_deb]
  split_ifs with h
  · exact run_replicate_accepted hle (fun hc => h.resolve_left hc) (by omega)
  · obtain ⟨n, rfl⟩ : ∃ k, n = k + 1 := ⟨n - 1, by omega⟩
    push_neg at h
    rw [run_restart_replicate h.1 (Ne.symm h.2)]

theorem held_mask_outcome_at_power_up :
    samples (List.replicate 6 (.report 0 0xFB)) = List.replicate 6 1 ∧
    DEBOUNCE_INTERVAL.val + 1 ≤ 6 ∧
    (run configH DEBOUNCE_INTERVAL Device.init
      ([] ++ List.replicate 6 (.report 0 0xFB))).deb.oldButtons =
      if (run configH DEBOUNCE_INTERVAL Device.init []).deb.debounceCount = 0 ∨
          (run configH DEBOUNCE_INTERVAL Device.init []).deb.newButtons = 1 then 1
      else (run configH DEBOUNCE_INTERVAL Device.init []).deb.oldButtons :=
  have hmore : samples (List.replicate 6 (.report 0 0xFB)) = List.replicate 6 1 := by decide
  have hn : DEBOUNCE_INTERVAL.val + 1 ≤ 6 := by decide
  ⟨hmore, hn, held_mask_outcome configH DEBOUNCE_INTERVAL [] _ hmore hn⟩

end

/-! ### The Feature report -/

/-- Feature requests: the calls that reach the branch of `static bool set`. -/
def isFeature : Input → Bool
  | .tick _ _ => false
  | .report ReportType _ => ReportType = HID_REPORT_ITEM_Feature

section

variable (s : Sensitivities) (T : DebounceInterval)

theorem step_set (dev : Device) (inp : Input) :
    (step s T dev inp).1.set = (dev.set || isFeature inp) := by
  cases inp with
  | tick v PIND => simp [step, isFeature]
  | report ReportType PIND =>
    by_cases h : ReportType = HID_REPORT_ITEM_Feature
    · subst h; simp [step, isFeature, create_feature]
    · simp [step, isFeature, h, create_input s T dev PIND h]

/-- `set` records whether a Feature request has been served. -/
theorem run_set (ins : List Input) : (run s T Device.init ins).set = ins.any isFeature := by
  induction ins using List.reverseRecOn with
  | nil => rfl
  | append_singleton ins inp ih => rw [run_concat, step_set, ih]; simp

/-- **The resolution multiplier is sent once.**  A Feature request writes the
    Feature report (multiplier 1, size 1) and returns `true` exactly when no
    Feature request came before it in the run; every later one writes
    nothing and returns `false`. -/
theorem feature_reply (ins : List Input) (PIND : UInt8) :
    (step s T (run s T Device.init ins) (.report HID_REPORT_ITEM_Feature PIND)).2 =
      some (if ins.any isFeature then ⟨none, false⟩ else ⟨some (.feature ⟨1⟩, 1), true⟩) := by
  have hs := run_set s T ins
  cases h : ins.any isFeature <;> simp [step, CALLBACK_HID_Device_CreateHIDReport, hs, h]

end

/-! ### What the host sees -/

section

variable (s : Sensitivities) (T : DebounceInterval)

/-- Only input reports reply. -/
theorem step_deb_of_none (dev : Device) {inp : Input} (hr : (step s T dev inp).2 = none) :
    (step s T dev inp).1.deb = dev.deb := by
  cases inp with
  | tick v PIND => rfl
  | report ReportType PIND => simp [step] at hr

/-- A reply carries the stable mask as the call leaves it, or no mouse report. -/
theorem step_reply_buttons (dev : Device) (inp : Input) {r : Reply}
    (hr : (step s T dev inp).2 = some r) :
    r.buttons?.getD dev.deb.oldButtons = (step s T dev inp).1.deb.oldButtons := by
  cases inp with
  | tick v PIND => simp [step] at hr
  | report ReportType PIND =>
    simp only [step, Option.some.injEq] at hr ⊢
    subst hr
    by_cases h : ReportType = HID_REPORT_ITEM_Feature
    · subst h; rw [create_feature_buttons?, create_feature]; rfl
    · simp [create_input s T dev PIND h, Reply.buttons?]

/-- A reply that returns `false`, from any state, changes no stable mask and
    carries no motion. -/
theorem step_false_reply (dev : Device) (inp : Input) {r : Reply}
    (hr : (step s T dev inp).2 = some r) (hret : r.ret = false) :
    (step s T dev inp).1.deb.oldButtons = dev.deb.oldButtons ∧ ∀ i, r.axis i = 0 := by
  cases inp with
  | tick v PIND => simp [step] at hr
  | report ReportType PIND =>
    simp only [step, Option.some.injEq] at hr ⊢
    subst hr
    by_cases h : ReportType = HID_REPORT_ITEM_Feature
    · subst h
      cases hs : dev.set <;> simp [CALLBACK_HID_Device_CreateHIDReport, hs, Reply.axis] at hret ⊢
    · rw [create_input s T dev PIND h] at hret ⊢
      simp only [Bool.or_eq_false_iff] at hret
      refine ⟨debounce_old_of_not_accept hret.1, fun i => ?_⟩
      show ((getAxes s dev.axes).p i).toInt = 0
      rw [(getAxes_ret s _).mp hret.2 i]; rfl

/-- **Dropping the reports that return `false` loses nothing.**  LUFA may
    leave unsent any report for which the callback returns `false`.  Over any
    run, the reports that return `true` alone still end on the stable mask,
    and sum, on every axis, to the same motion as all the reports written. -/
theorem dropped_replies_lose_nothing (ins : List Input) :
    lastButtons ((replies s T Device.init ins).filter Reply.ret) =
        (run s T Device.init ins).deb.oldButtons ∧
      ∀ i, (((replies s T Device.init ins).filter Reply.ret).map (·.axis i)).sum =
        ((replies s T Device.init ins).map (·.axis i)).sum := by
  induction ins using List.reverseRecOn with
  | nil => exact ⟨rfl, fun _ => rfl⟩
  | append_singleton ins inp ih =>
    obtain ⟨hb, ha⟩ := ih
    rw [replies_concat, run_concat]
    cases hr : (step s T (run s T Device.init ins) inp).2 with
    | none => simpa [step_deb_of_none s T _ hr] using ⟨hb, ha⟩
    | some r =>
      cases hret : r.ret
      · obtain ⟨hold, hax⟩ := step_false_reply s T _ inp hr hret
        simpa [List.filter_append, hret, hold, hax] using ⟨hb, ha⟩
      · refine ⟨?_, fun i => by simp [List.filter_append, hret, ha i]⟩
        rw [← step_reply_buttons s T _ inp hr, ← hb]
        simp [List.filter_append, hret, lastButtons_concat]

/-- **When an input report returns `true`.**  From any reachable state, an
    input report returns `true` exactly when the report it writes has a
    nonzero delta or buttons other than those of the previous mouse report. -/
theorem input_reply_ret_iff (ins : List Input) {ReportType : UInt8} (PIND : UInt8)
    (h : ReportType ≠ HID_REPORT_ITEM_Feature) :
    ∃ p, (CALLBACK_HID_Device_CreateHIDReport s T (run s T Device.init ins)
        ReportType PIND).2.written = some (.mouse p, 9) ∧
      ((CALLBACK_HID_Device_CreateHIDReport s T (run s T Device.init ins)
        ReportType PIND).2.ret = true ↔
        (∃ i, p.axes i ≠ 0) ∨ p.buttons ≠ lastButtons (replies s T Device.init ins)) := by
  have hi := inv_run_deb s T ins
  rw [create_input s T _ PIND h, lastButtons_replies]
  refine ⟨_, rfl, ?_⟩
  have hq : (getAxes s (run s T Device.init ins).axes).ret = true ↔
      ∃ i, (getAxes s (run s T Device.init ins).axes).p i ≠ 0 := by
    rw [← not_iff_not, Bool.not_eq_true, getAxes_ret]; push_neg; rfl
  cases ha : (debounce T (run s T Device.init ins).deb (readButtons PIND)).2
  · simp [debounce_old_of_not_accept ha, hq]
  · obtain ⟨hold, hne, -⟩ := debounce_accept hi ha
    simp [hold, hne]

theorem input_reply_ret_iff_at_power_up :
    (0 : UInt8) ≠ HID_REPORT_ITEM_Feature ∧
    ∃ p, (CALLBACK_HID_Device_CreateHIDReport configH DEBOUNCE_INTERVAL
        (run configH DEBOUNCE_INTERVAL Device.init []) 0 0xFF).2.written = some (.mouse p, 9) ∧
      ((CALLBACK_HID_Device_CreateHIDReport configH DEBOUNCE_INTERVAL
        (run configH DEBOUNCE_INTERVAL Device.init []) 0 0xFF).2.ret = true ↔
        (∃ i, p.axes i ≠ 0) ∨
          p.buttons ≠ lastButtons (replies configH DEBOUNCE_INTERVAL Device.init [])) :=
  have h : (0 : UInt8) ≠ HID_REPORT_ITEM_Feature := by decide
  ⟨h, input_reply_ret_iff configH DEBOUNCE_INTERVAL [] 0xFF h⟩

end

end OrbTrackball.PollLoop
