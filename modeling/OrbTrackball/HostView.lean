import OrbTrackball.DescriptorBytes
import OrbTrackball.PollLoop

/-!
# What the host sees (`usb.c`)

**The reports of a run, read through the descriptor the device sends.**

The host asks for the report descriptor, reads its bytes as items
(`shortItems`) and the items as report fields (`parse`).  Then it reads each
report the callback writes through those fields.  The callback writes C
structs: `mouseBytes` and `featureBytes` lay them out as the AVR stores them,
with alignment 1 and `int16_t` low byte first.

`host_reads_every_report` joins the two: in any run of the device, every
report the callback writes has the length the descriptor gives, and the host
reads from it exactly the buttons, the four deltas and the resolution
multiplier the callback put in it.  `feature_report_scales_scroll` says what
that multiplier means to the host: the wheel and AC pan deltas of every run
are counted in 120ths of a detent, X and Y are not scaled.
-/

namespace OrbTrackball.Descriptor

open OrbTrackball OrbTrackball.Debounce OrbTrackball.Report OrbTrackball.PollLoop

/-! ### The callback's structs in memory -/

/-- An `int16_t` in memory on the AVR: low byte first. -/
def int16Bytes (x : BitVec 16) : List UInt8 := [⟨x.extractLsb' 0 8⟩, ⟨x.extractLsb' 8 8⟩]

/-- `MouseReport_Data_t` as the callback leaves it in `ReportData`: its fields
    in order and nothing between them, every type having alignment 1 on the
    AVR. -/
def mouseBytes (p : MouseReport_Data_t) : List UInt8 :=
  p.buttons :: int16Bytes (p.axes 0) ++ int16Bytes (p.axes 1) ++ int16Bytes (p.axes 2) ++
    int16Bytes (p.axes 3)

/-- `FeatureReport_Data_t` in `ReportData`. -/
def featureBytes (p : FeatureReport_Data_t) : List UInt8 := [p.multiplier]

theorem leValue_int16Bytes (x : BitVec 16) : leValue (int16Bytes x) = x.toNat := by
  have := x.isLt
  simp [int16Bytes, leValue, UInt8.toNat, BitVec.extractLsb'_toNat, Nat.shiftRight_eq_div_pow]
  omega

/-- A signed 16-bit field over bytes `i` and `i + 1` reads the
    two's complement value of the `int16_t` stored there. -/
theorem Field.read_int16 {f : Field} (i : Nat) {report : List UInt8} {x : BitVec 16}
    (ho : f.offset = 8 * i) (hs : f.size = 16) (hmin : f.logicalMinimum < 0)
    (hx : (report.drop i).take 2 = int16Bytes x) : f.read report = x.toInt := by
  have hv : leValue report / 2 ^ f.offset % 2 ^ f.size = x.toNat :=
    calc leValue report / 2 ^ f.offset % 2 ^ f.size = leValue report / 256 ^ i % 256 ^ 2 := by
          rw [ho, hs, pow_mul]; rfl
      _ = x.toNat := by rw [leValue_div_pow_mod, hx, leValue_int16Bytes]
  simp only [Field.read, hv]
  simp only [hmin, if_true, hs, signed, BitVec.toInt_eq_toNat_cond]
  split_ifs <;> omega

/-- **Every mouse report reads back.**  Through the fields of `MouseReport`,
    the bytes of any `MouseReport_Data_t` give the host bits 0 to 3 of its
    buttons field as buttons 1 to 4, the rest of that byte as padding, and
    its four `int16_t` as X, Y, AC pan and wheel. -/
theorem read_mouse_report (p : MouseReport_Data_t) :
    ∃ ps, parse MouseReport = some ps ∧
      readReport ps.input (mouseBytes p) =
        [(some (0x09, 1), ((p.buttons.toNat % 2 : ℕ) : ℤ)),
          (some (0x09, 2), ((p.buttons.toNat / 2 % 2 : ℕ) : ℤ)),
          (some (0x09, 3), ((p.buttons.toNat / 4 % 2 : ℕ) : ℤ)),
          (some (0x09, 4), ((p.buttons.toNat / 8 % 2 : ℕ) : ℤ)),
          (none, ((p.buttons.toNat / 16 : ℕ) : ℤ)),
          (some (0x01, 0x30), (p.axes 0).toInt), (some (0x01, 0x31), (p.axes 1).toInt),
          (some (0x0c, 0x238), (p.axes 2).toInt), (some (0x01, 0x38), (p.axes 3).toInt)] := by
  obtain ⟨ps, hps, hin, -⟩ := parse_MouseReport
  refine ⟨ps, hps, ?_⟩
  have hb : p.buttons.toNat < 256 := p.buttons.toNat_lt_size
  simp only [hin, readReport, List.map, List.cons.injEq, Prod.mk.injEq, true_and, and_true]
  refine ⟨?_, ?_, ?_, ?_, ?_, ?_, ?_, ?_, ?_⟩
  iterate 4 exact Field.read_first_byte (by decide) (by decide) (by norm_num)
  · exact Field.read_first_byte (by decide) (by decide) (by norm_num; omega)
  · exact Field.read_int16 1 rfl rfl (by decide) rfl
  · exact Field.read_int16 3 rfl rfl (by decide) rfl
  · exact Field.read_int16 5 rfl rfl (by decide) rfl
  · exact Field.read_int16 7 rfl rfl (by decide) rfl

/-! ### The reports of a run -/

theorem sampled_lt {inp : Input} {b : UInt8} (h : sampled inp = some b) : b < 16 := by
  cases inp with
  | tick v PIND => simp [sampled] at h
  | report ReportType PIND =>
    simp only [sampled] at h
    split_ifs at h
    cases h
    exact readButtons_lt PIND

/-- The host's reading of the descriptor's bytes is `MouseReport`'s layout. -/
theorem parse_MouseReport_bytes :
    (shortItems (HID_RI.encode MouseReport)).bind parse = parse MouseReport := by
  rw [shortItems_encode MouseReport MouseReport_fits]
  rfl

section

variable (s : Sensitivities) (T : DebounceInterval)

/-- The stable mask and the candidate of every run have only the four button
    bits. -/
theorem deb_buttons_lt (ins : List Input) :
    (run s T Device.init ins).deb.oldButtons < 16 ∧
      (run s T Device.init ins).deb.newButtons < 16 := by
  rw [run_deb]
  refine run_buttons_lt _ _ (by decide) (by decide) fun b hb => ?_
  obtain ⟨inp, -, h⟩ := List.mem_filterMap.mp hb
  exact sampled_lt h

/-- What every reply of a run writes: a mouse report of 9 bytes whose buttons
    have only the four button bits, or the Feature report of 1 byte with
    multiplier 1. -/
theorem replies_written (ins : List Input) :
    ∀ r ∈ replies s T Device.init ins,
      (∀ p n, r.written = some (.mouse p, n) → n = 9 ∧ p.buttons < 16) ∧
      (∀ p n, r.written = some (.feature p, n) → n = 1 ∧ p.multiplier = 1) := by
  induction ins using List.reverseRecOn with
  | nil => simp [replies]
  | append_singleton ins inp ih =>
    rw [replies_concat]
    intro r hr
    rcases List.mem_append.mp hr with hr | hr
    · exact ih r hr
    cases inp with
    | tick v PIND => simp [step] at hr
    | report ReportType PIND =>
      simp only [step, Option.toList_some, List.mem_singleton] at hr
      subst hr
      by_cases h : ReportType = HID_REPORT_ITEM_Feature
      · subst h
        cases hs : (run s T Device.init ins).set <;>
          simp [CALLBACK_HID_Device_CreateHIDReport, hs]
      · have ⟨hold, hnew⟩ := deb_buttons_lt s T ins
        have hb := (@run_buttons_lt T 16 _ [readButtons PIND] hold hnew
          (by simpa using readButtons_lt PIND)).1
        rw [create_input s T _ PIND h]
        refine ⟨fun p n hw => ?_, fun p n hw => by simp at hw⟩
        simp only [Option.some.injEq, Prod.mk.injEq, ReportData.mouse.injEq] at hw
        obtain ⟨rfl, rfl⟩ := hw
        exact ⟨rfl, hb⟩

/-- **The host reads what the callback wrote.**  Reading the descriptor from
    its bytes, in any run, every mouse report the callback writes declares
    the length of the descriptor's input report, and the host reads from it
    the four buttons of its buttons field with zero padding, and as X, Y, AC
    pan and wheel the deltas `Reply.axis` gives; every Feature report
    declares the length of the descriptor's Feature report and reads as a
    resolution multiplier of 1. -/
theorem host_reads_every_report (ins : List Input) :
    ∃ ps, (shortItems (HID_RI.encode MouseReport)).bind parse = some ps ∧
      ∀ r ∈ replies s T Device.init ins,
      (∀ p n, r.written = some (.mouse p, n) → 8 * n.toNat = ps.inputBits ∧
        readReport ps.input (mouseBytes p) =
          [(some (0x09, 1), ((p.buttons.toNat % 2 : ℕ) : ℤ)),
            (some (0x09, 2), ((p.buttons.toNat / 2 % 2 : ℕ) : ℤ)),
            (some (0x09, 3), ((p.buttons.toNat / 4 % 2 : ℕ) : ℤ)),
            (some (0x09, 4), ((p.buttons.toNat / 8 % 2 : ℕ) : ℤ)), (none, 0),
            (some (0x01, 0x30), r.axis 0), (some (0x01, 0x31), r.axis 1),
            (some (0x0c, 0x238), r.axis 2), (some (0x01, 0x38), r.axis 3)]) ∧
      (∀ p n, r.written = some (.feature p, n) → 8 * n.toNat = ps.featureBits ∧
        readReport ps.feature (featureBytes p) = [(some (0x01, 0x48), 1), (none, 0)]) := by
  obtain ⟨ps, hps, -, hbits, hfeat, hfbits⟩ := parse_MouseReport
  rw [parse_MouseReport_bytes]
  refine ⟨ps, hps, fun r hr => ⟨fun p n hw => ?_, fun p n hw => ?_⟩⟩
  · obtain ⟨rfl, hlt⟩ := (replies_written s T ins r hr).1 p n hw
    obtain ⟨ps', hps', hread⟩ := read_mouse_report p
    obtain rfl : ps = ps' := Option.some.inj (hps.symm.trans hps')
    have hpad : p.buttons.toNat / 16 = 0 := Nat.div_eq_of_lt hlt
    refine ⟨by rw [hbits]; rfl, ?_⟩
    rw [hread, hpad]
    simp [Reply.axis, hw]
  · obtain ⟨rfl, hm⟩ := (replies_written s T ins r hr).2 p n hw
    obtain ⟨m⟩ := p
    subst hm
    rw [hfbits, hfeat]
    exact ⟨rfl, by decide⟩

/-- **The Feature report sets the scroll resolution.**  Reading the
    descriptor from its bytes, in any run, once the host has read a Feature
    report the callback wrote, it divides the AC pan and wheel deltas by 120
    and leaves X, Y and the buttons unscaled. -/
theorem feature_report_scales_scroll (ins : List Input) :
    ∃ ps, (shortItems (HID_RI.encode MouseReport)).bind parse = some ps ∧
      ∀ r ∈ replies s T Device.init ins, ∀ p n, r.written = some (.feature p, n) →
        ∀ f ∈ ps.input, resolutionMultiplier ps (featureBytes p) f =
          if f.usage = some (0x0c, 0x238) ∨ f.usage = some (0x01, 0x38) then 120 else 1 := by
  obtain ⟨ps, hps, hmul⟩ := resolutionMultiplier_MouseReport
  rw [parse_MouseReport_bytes]
  refine ⟨ps, hps, fun r hr p n hw => ?_⟩
  obtain ⟨-, hm⟩ := (replies_written s T ins r hr).2 p n hw
  obtain ⟨m⟩ := p
  subst hm
  exact hmul

end

end OrbTrackball.Descriptor
