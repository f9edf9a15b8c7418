import OrbTrackball.Frames
import OrbTrackball.PollLoop

/-!
# Bring-up and polling keep the frame discipline (`main.c`)

`main` raises `NCS`, resets the sensor (power cycle, register drain, SROM
download), writes the resolution and angle, starts burst mode and then polls
motion bursts forever.  With the serial console disabled, `initialize_usb`
and `wait_for_host` do not touch the bus, so the SPI trace of `main` is that
of the code below, for `n` passes of the poll loop.

`main_spi_trace`: for any SROM image, any sensor and any
number of polls, the trace is the frames `mainKinds` names, each well
formed, spaced as its kind requires, with the single SROM frame carrying
exactly the image, and no byte is exchanged while `NCS` is high.  The proof
is a chain of the `Triple` rules of `Frames.lean` along the code: one
lemma per routine (`triple_read`, `triple_write`, `triple_motionBurst`) and
one per loop (`triple_read_registers`, `triple_srom_stream`).

`main_bursts` follows the bytes: after the bring-up every poll is one burst
frame, and the burst `main` hands to the device is what the sensor answered
in it, `motionBurst_replies` lifted through `pollLoop` and `main`.
-/

namespace OrbTrackball.Bringup

open OrbTrackball OrbTrackball.Spi OrbTrackball.PollLoop

section

variable (sensor : Sensor)

/-- `reset`: shut down, wake up, drain the motion registers and download the
    SROM image `srom_data` (`srom.h`, not part of the sources: any image). -/
def reset (srom_data : List UInt8) : SpiM Unit := do
  -- Shut down.
  deassertNcs
  delayUs T_SRWR
  write sensor SHUTDOWN 0xb6
  delayUs T_STDWN
  -- Wake up.
  deassertNcs
  delayUs T_SRWR
  write sensor POWER_UP_RESET 0x5a
  delayUs T_WAKEUP
  -- Read all motion registers.
  (List.range' 2 5).forM fun i => do
    let _ ← read sensor i.toUInt8
    pure ()
  -- Download SROM.
  write sensor CONFIG2 0
  write sensor SROM_ENABLE 0x1d
  delayMs 10
  write sensor SROM_ENABLE 0x18
  assertNcs
  delayUs T_NCS_SCLK
  let _ ← transceive sensor (SROM_LOAD_BURST ||| 0x80)
  srom_data.forM fun byte => do
    delayUs 15
    let _ ← transceive sensor byte
    pure ()
  delayUs 15
  deassertNcs
  delayUs (200 - 15)
  let _ ← read sensor SROM_ID
  write sensor CONFIG2 0

/-- Lines 221–243: one motion burst.  It returns the bytes read after
    `MOTION_BURST`: the whole burst, or `v[0]` alone when it says there was no
    motion.  `motionDeltas` decodes them. -/
def motionBurst : SpiM (List UInt8) := do
  assertNcs
  delayUs T_NCS_SCLK
  let _ ← transceive sensor MOTION_BURST
  delayUs T_SRAD_MOTBR
  let v0 ← transceive sensor 0
  let v ← if (v0 &&& 0x80) > 0 then do
      let rest ← (List.range' 1 (N - 1)).mapM fun _ => transceive sensor 0
      pure (v0 :: rest)
    else pure [v0]
  deassertNcs
  pure v

/-- `n` passes of `main`'s loop, returning the bursts read.  The rest of a
    pass is the device's `tick` on the burst (`PollLoop.step`). -/
def pollLoop : Nat → SpiM (List (List UInt8))
  | 0 => pure []
  | n + 1 => do
    let v ← motionBurst sensor
    let vs ← pollLoop n
    pure (v :: vs)

/-- `main`, up to `n` passes of its loop. -/
def main (srom_data : List UInt8) (n : Nat) : SpiM (List (List UInt8)) := do
  -- Initialize the SPI port: `NCS` high.
  deassertNcs
  -- Reset and configure the sensor.
  reset sensor srom_data
  let r : UInt16 := (RESOLUTION / 50).toUInt16
  write sensor RESOLUTION_L (r &&& 0xff).toUInt8
  write sensor RESOLUTION_H (r >>> 8 &&& 0xff).toUInt8
  write sensor ANGLE_TUNE ⟨BitVec.ofInt 8 POINTER_ROTATION⟩
  write sensor MOTION_BURST 0
  pollLoop sensor n

end

/-! ### Register accesses -/

section

variable (sensor : Sensor) {ks : List Kind}

theorem triple_read {addr : UInt8} (ha : addr < 0x80) :
    Triple (Ready ks) (read sensor addr) (fun _ => Ready (ks ++ [.read])) := by
  refine Triple.of_ready fun owe howe => ?_
  unfold Spi.read
  refine triple_assert.bind fun _ => triple_delay_open.bind fun _ =>
    (triple_transceive sensor).bind fun r₁ => ?_
  refine triple_delay_open.bind fun _ => (triple_transceive sensor).bind fun x => ?_
  refine triple_delay_open.bind fun _ => (triple_deassert_open .read ?_ ?_ ?_).bind fun _ =>
    triple_delay.bind fun _ => Triple.pure fun tr h => ready_of_framed h ?_
  · simp [Event.isNcs]
  · exact ⟨addr, ha, by simp [mosi, Event.mosi?]⟩
  · simp [before]; norm_num [T_NCS_SCLK]; linarith
  · simp [after, before, Kind.gap]

theorem triple_write {addr data : UInt8} :
    Triple (Ready ks) (write sensor addr data) (fun _ => Ready (ks ++ [.write])) := by
  refine Triple.of_ready fun owe howe => ?_
  unfold Spi.write
  refine triple_assert.bind fun _ => triple_delay_open.bind fun _ =>
    (triple_transceive sensor).bind fun r₁ => ?_
  refine (triple_transceive sensor).bind fun r₂ => ?_
  refine triple_delay_open.bind fun _ => (triple_deassert_open .write ?_ ?_ ?_).bind fun _ =>
    triple_delay.bind fun _ => Triple.pure fun tr h => ready_of_framed h ?_
  · simp [Event.isNcs]
  · exact ⟨addr, data, by simp [mosi, Event.mosi?]⟩
  · simp [before]; norm_num [T_NCS_SCLK]; linarith
  · simp [after, before, Kind.gap]

/-! ### Loops -/

/-- The register drain of `reset`: one read frame per address. -/
theorem triple_read_registers (xs : List Nat) (hxs : ∀ i ∈ xs, i.toUInt8 < 0x80) :
    Triple (Ready ks) (xs.forM fun i => do let _ ← read sensor i.toUInt8; pure ())
      (fun _ => Ready (ks ++ List.replicate xs.length .read)) := by
  induction xs generalizing ks with
  | nil => exact Triple.pure fun tr h => by simpa using h
  | cons x xs ih =>
    simp only [List.forM, bind_assoc, pure_bind]
    refine (triple_read sensor (hxs x (List.mem_cons_self _ _))).bind fun _ =>
        (ih fun i hi => hxs i (List.mem_cons_of_mem _ hi)).conseq fun _ tr h => ?_
    simpa [List.replicate_succ] using h

/-- The SROM stream of `reset`: inside the frame, each byte after 15 µs. -/
theorem triple_srom_stream {owe : ℚ} {body : List Event} (image : List UInt8) :
    Triple (Open ks owe body)
      (image.forM fun byte => do delayUs 15; let _ ← transceive sensor byte; pure ())
      (fun _ tr => ∃ rs, rs.length = image.length ∧ Open ks owe (body ++ paced image rs) tr) := by
  induction image generalizing body with
  | nil => exact Triple.pure fun tr h => ⟨[], rfl, by simpa [paced] using h⟩
  | cons b bs ih =>
    simp only [List.forM]
    have hstep : Triple (Open ks owe body)
        (do delayUs 15; let _ ← transceive sensor b; pure ())
        (fun _ tr => ∃ r, Open ks owe (body ++ [.delay 15, .xfer b r]) tr) :=
      triple_delay_open.bind fun _ => (triple_transceive sensor).bind fun r =>
        Triple.pure fun tr h => ⟨r, by simpa using h⟩
    refine hstep.bind fun _ => Triple.exists_pre fun r => ih.conseq ?_
    rintro _ tr ⟨rs, hrs, h⟩
    exact ⟨r :: rs, by simp [hrs], by simpa [paced] using h⟩

/-- The bytes after the first of a burst, all dummies. -/
theorem triple_transceive_zeros {α : Type} {owe : ℚ} {body : List Event} (xs : List α) :
    Triple (Open ks owe body) (xs.mapM fun _ => transceive sensor 0)
      (fun vs tr => vs.length = xs.length ∧ Open ks owe (body ++ vs.map (.xfer 0)) tr) := by
  induction xs generalizing body with
  | nil => exact Triple.pure fun tr h => ⟨rfl, by simpa using h⟩
  | cons x xs ih =>
    rw [List.mapM_cons]
    refine (triple_transceive sensor).bind fun r => Triple.bind ih fun vs => Triple.pure ?_
    rintro tr ⟨hl, h⟩
    exact ⟨by simp [hl], by simpa using h⟩

/-! ### Motion bursts -/

theorem uint8_eq_zero_of_not_pos {a : UInt8} (h : ¬ a > 0) : a = 0 := by
  simp only [gt_iff_lt, UInt8.lt_def, BitVec.lt_def, not_lt] at h
  apply UInt8.eq_of_toBitVec_eq
  simp at h ⊢
  bv_omega

/-- A motion burst is one burst frame, whatever the sensor answers. -/
theorem triple_motionBurst :
    Triple (Ready ks) (motionBurst sensor) (fun _ => Ready (ks ++ [.burst])) := by
  refine Triple.of_ready fun owe howe => ?_
  unfold motionBurst
  refine triple_assert.bind fun _ => triple_delay_open.bind fun _ =>
    (triple_transceive sensor).bind fun r => ?_
  refine triple_delay_open.bind fun _ => (triple_transceive sensor).bind fun v0 => ?_
  by_cases hv : (v0 &&& 0x80) > 0
  · simp only [hv, if_true, bind_assoc, pure_bind]
    refine Triple.bind (triple_transceive_zeros sensor (List.range' 1 (N - 1))) fun rest =>
      Triple.pure_pre fun hl => ?_
    refine (triple_deassert_open .burst ?_ ?_ ?_).bind fun _ =>
      Triple.pure fun tr h => ready_of_framed h ?_
    · simp [Event.isNcs]
    · have : (v0 &&& 0x80 = 0) = False := by
        simp only [eq_iff_iff, iff_false]; rintro h0; rw [h0] at hv; exact absurd hv (by decide)
      have hl' : rest.length = 5 := by simpa [N] using hl
      simp [Kind.Matches, Event.mosi?, Event.miso?, this, hl', N, MOTION_BURST]
    · simp [before]; norm_num [T_NCS_SCLK]; linarith only [howe]
    · simp [after, before, Kind.gap]
  · simp only [hv, if_false, pure_bind]
    refine (triple_deassert_open .burst ?_ ?_ ?_).bind fun _ =>
      Triple.pure fun tr h => ready_of_framed h ?_
    · simp [Event.isNcs]
    · simp [Kind.Matches, mosi, miso, Event.mosi?, Event.miso?, uint8_eq_zero_of_not_pos hv,
        MOTION_BURST]
    · simp [before]; norm_num [T_NCS_SCLK]; linarith only [howe]
    · simp [after, before, Kind.gap]

theorem triple_pollLoop (n : Nat) :
    Triple (Ready ks) (pollLoop sensor n) (fun _ => Ready (ks ++ List.replicate n .burst)) := by
  induction n generalizing ks with
  | zero => exact Triple.pure fun tr h => by simpa using h
  | succ n ih =>
    refine (triple_motionBurst sensor).bind fun _ => ih.bind fun _ =>
      Triple.pure fun tr h => by simpa [List.replicate_succ] using h

/-! ### What the poll loop hands to the device -/

theorem triple_transceive_zeros_eq {α : Type} {t : List Event} (xs : List α) :
    Triple (· = t) (xs.mapM fun _ => transceive sensor 0)
      (fun vs tr => vs.length = xs.length ∧ tr = t ++ vs.map (.xfer 0)) := by
  induction xs generalizing t with
  | nil => exact Triple.pure fun tr h => ⟨rfl, by simpa using h⟩
  | cons x xs ih =>
    rw [List.mapM_cons]
    refine (triple_transceive_eq sensor).bind fun r => Triple.bind ih fun vs => Triple.pure ?_
    rintro tr ⟨hl, rfl⟩
    exact ⟨by simp [hl], by simp⟩

/-- The events of one burst frame: `MOTION_BURST`, answered with `r`, then
    the dummy bytes, answered with the burst `v` that `motionBurst` returns. -/
def burstFrame (r : UInt8) (v : List UInt8) : List Event :=
  .ncs false :: .delay T_NCS_SCLK :: .xfer MOTION_BURST r :: .delay T_SRAD_MOTBR ::
    v.map (.xfer 0) ++ [.ncs true]

/-- The bytes a motion burst returns are the sensor's replies to the dummy
    bytes of its frame: `v[0]` alone when it has bit 7 clear, `N` bytes
    otherwise. -/
theorem motionBurst_replies {t : List Event} :
    Triple (· = t) (motionBurst sensor) (fun v tr => ∃ r,
      (v.length = if v.getD 0 0 &&& 0x80 = 0 then 1 else N) ∧ tr = t ++ burstFrame r v) := by
  unfold motionBurst
  refine triple_emit_eq.bind fun _ => triple_emit_eq.bind fun _ =>
    (triple_transceive_eq sensor).bind fun r => triple_emit_eq.bind fun _ =>
    (triple_transceive_eq sensor).bind fun v0 => ?_
  by_cases hv : (v0 &&& 0x80) > 0
  · simp only [hv, if_true, bind_assoc, pure_bind]
    refine Triple.bind (triple_transceive_zeros_eq sensor _) fun rest =>
      Triple.bind ?_ fun _ => Triple.pure fun _ h => h
    rintro _ ⟨hl, rfl⟩
    have hne : ¬ (v0 &&& 0x80 = 0) := fun h0 => absurd hv (by rw [h0]; decide)
    exact ⟨r, by simp [hne, hl, N], by simp [deassertNcs, burstFrame]⟩
  · simp only [hv, if_false, pure_bind]
    refine Triple.bind triple_emit_eq fun _ => Triple.pure ?_
    rintro _ rfl
    exact ⟨r, by simp [uint8_eq_zero_of_not_pos hv], by simp [burstFrame]⟩

/-- The trace of `n` polls is `n` burst frames, the `k`-th answered with the
    `k`-th burst the loop returns. -/
theorem pollLoop_replies (n : Nat) {t : List Event} :
    Triple (· = t) (pollLoop sensor n) (fun vs tr => ∃ rs : List UInt8, rs.length = n ∧
      vs.length = n ∧ tr = t ++ (List.zipWith burstFrame rs vs).flatten ∧
      ∀ v ∈ vs, v.length = if v.getD 0 0 &&& 0x80 = 0 then 1 else N) := by
  induction n generalizing t with
  | zero => exact Triple.pure fun tr h => ⟨[], rfl, rfl, by simp [h], by simp⟩
  | succ n ih =>
    refine (motionBurst_replies sensor).bind fun v => Triple.exists_pre fun r =>
      Triple.pure_pre fun hv => ih.bind fun vs => Triple.pure ?_
    rintro _ ⟨rs, hrs, hvs, rfl, hall⟩
    exact ⟨r :: rs, by simp [hrs], by simp [hvs], by simp, List.forall_mem_cons.mpr ⟨hv, hall⟩⟩

/-! ### Bring-up -/

/-- The frames of `reset`: shutdown and wake-up writes, the five register
    reads, the SROM set-up writes, the SROM download, the identifier read and
    the final write. -/
def resetKinds (srom_data : List UInt8) : List Kind :=
  [.write, .write] ++ List.replicate 5 .read ++
    [.write, .write, .write, .srom srom_data, .read, .write]

/-- The frames of `main` up to `n` polls: `reset`, the resolution, angle and
    burst-mode writes, then one burst frame per poll. -/
def mainKinds (srom_data : List UInt8) (n : Nat) : List Kind :=
  resetKinds srom_data ++ [.write, .write, .write, .write] ++ List.replicate n .burst

theorem triple_reset (srom_data : List UInt8) :
    Triple (Ready ks) (reset sensor srom_data) (fun _ => Ready (ks ++ resetKinds srom_data)) := by
  unfold reset
  refine triple_deassert_ready.bind fun _ => (triple_delay_ready (by norm_num [T_SRWR])).bind
    fun _ => (triple_write sensor).bind fun _ => ?_
  refine (triple_delay_ready (by norm_num [T_STDWN])).bind fun _ => triple_deassert_ready.bind
    fun _ => (triple_delay_ready (by norm_num [T_SRWR])).bind fun _ => ?_
  refine (triple_write sensor).bind fun _ => (triple_delay_ready (by norm_num [T_WAKEUP])).bind
    fun _ => (triple_read_registers sensor _ (by decide)).bind fun _ => ?_
  refine (triple_write sensor).bind fun _ => (triple_write sensor).bind fun _ =>
    (triple_delay_ms_ready (by norm_num)).bind fun _ => (triple_write sensor).bind fun _ => ?_
  -- The SROM frame.
  refine Triple.of_ready fun owe howe => ?_
  refine triple_assert.bind fun _ => triple_delay_open.bind fun _ =>
    (triple_transceive sensor).bind fun r => ?_
  refine (triple_srom_stream sensor srom_data).bind fun _ => Triple.exists_pre fun rs =>
    Triple.pure_pre fun hrs => ?_
  refine triple_delay_open.bind fun _ => (triple_deassert_open (.srom srom_data) ?_ ?_ ?_).bind
    fun _ => triple_delay.bind fun _ => ?_
  · simp [Event.isNcs]
  · exact ⟨[.delay T_NCS_SCLK], r, rs, [.delay 15], hrs, by simp, rfl, rfl⟩
  · simp [before]; norm_num [T_NCS_SCLK]; linarith only [howe]
  -- The identifier read and the last write.
  refine ((triple_read sensor (show SROM_ID < 0x80 by decide)).mono_pre
    fun tr h => ready_of_framed h ?_).bind
    fun _ => (triple_write sensor).conseq fun _ tr h => by simpa [resetKinds] using h
  simp [after, before, Kind.gap]

theorem triple_main (srom_data : List UInt8) (n : Nat) :
    Triple (fun tr => tr = []) (main sensor srom_data n)
      (fun _ => Ready (mainKinds srom_data n)) := by
  unfold main
  refine (triple_deassert_ready.mono_pre fun tr h => by subst h; exact ⟨0, le_rfl, .nil⟩).bind
    fun _ =>
    (triple_reset sensor srom_data).bind fun _ => ?_
  refine (triple_write sensor).bind fun _ => (triple_write sensor).bind fun _ =>
    (triple_write sensor).bind fun _ => (triple_write sensor).bind fun _ => ?_
  exact (triple_pollLoop sensor n).conseq fun _ tr h => by simpa [mainKinds] using h


/-- `main` is its bring-up, the run of `main` with no poll, then the poll
    loop. -/
theorem main_eq (srom_data : List UInt8) (n : Nat) :
    main sensor srom_data n = main sensor srom_data 0 >>= fun _ => pollLoop sensor n := by
  simp only [main, pollLoop, bind_assoc, pure_bind]

end

/-- **The SPI trace of `main` keeps the frame discipline.**  For any SROM
    image, any sensor and any number of polls, the trace is the frames
    `mainKinds` names, then idle events: every frame is one of the four
    kinds, with the bytes of its kind; from the last byte of a write, a read
    or the SROM frame to the first byte of the next frame there are at least
    `T_SWWR`, `T_SRWR` or 200 µs of waits; the only SROM frame sends exactly
    the image; and no byte is exchanged while `NCS` is high. -/
theorem main_spi_trace (srom_data : List UInt8) (sensor : Sensor) (n : Nat) :
    ∃ frames trailer, FramedAs frames trailer ((main sensor srom_data n).run []).2 ∧
      frames.map Frame.kind = mainKinds srom_data n ∧
      frames.filterMap (fun f => f.kind.image?) = [srom_data] ∧
      ∀ high, Selected high ((main sensor srom_data n).run []).2 := by
  have hr : Ready (mainKinds srom_data n) ((main sensor srom_data n).run []).2 :=
    triple_main sensor srom_data n [] rfl
  obtain ⟨owe, -, h⟩ := hr
  obtain ⟨frames, trailer, hf, hk, -⟩ := h.framedAs
  refine ⟨frames, trailer, hf, hk, ?_, @Framed.selected _ _ _ h⟩
  have : frames.filterMap (fun f => f.kind.image?) =
      (frames.map Frame.kind).filterMap Kind.image? := by
    rw [List.filterMap_map]; rfl
  rw [this, hk]
  simp [mainKinds, resetKinds, Kind.image?, List.filterMap_replicate]


/-- **What `main` decodes is what the sensor sent.**  After the bring-up
    (the trace of `main` with no poll), the trace of `n` polls is `n` burst
    frames, and the `k`-th burst `main` returns is what the sensor answered
    to the dummy bytes of the `k`-th frame: `v[0]` alone when its motion bit
    is clear, `N` bytes otherwise.  So `motionDeltas`, which reads bytes 2 to
    5 only when that bit is set, decodes bytes the bus exchanged and never
    reads past them. -/
theorem main_bursts (srom_data : List UInt8) (sensor : Sensor) (n : Nat) :
    ∃ rs : List UInt8, rs.length = n ∧ ((main sensor srom_data n).run []).1.length = n ∧
      ((main sensor srom_data n).run []).2 = ((main sensor srom_data 0).run []).2 ++
        (List.zipWith burstFrame rs ((main sensor srom_data n).run []).1).flatten ∧
      ∀ v ∈ ((main sensor srom_data n).run []).1,
        v.length = if v.getD 0 0 &&& 0x80 = 0 then 1 else N := by
  have h0 : Triple (· = []) (main sensor srom_data 0)
      (fun _ tr => tr = ((main sensor srom_data 0).run []).2) := by
    rintro _ rfl; rfl
  rw [main_eq sensor srom_data n]
  exact (h0.bind fun _ => pollLoop_replies sensor n) [] rfl

end OrbTrackball.Bringup
