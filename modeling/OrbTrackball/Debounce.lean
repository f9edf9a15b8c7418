import OrbTrackball.Config
import Mathlib.Data.List.Basic

/-!
# The button debouncer (`usb.c`, input-report branch)

`CALLBACK_HID_Device_CreateHIDReport` keeps three `static uint8_t`: the
accepted mask `oldButtons`, the candidate `newButtons` and the counter
`debounceCount`.  Each input-report call samples the pins into a mask `b`
and runs lines 582–605 on it; `debounce` is those lines, returning the next
state and whether the call takes the `return true` of the accept branch.

`debounce_cases` lists everything one call can do, guards included; every
other lemma of the development about the debouncer is derived from it.
`Inv` is what every run from the zeroed statics satisfies: the counter stays
within the interval (so the `uint8_t` never wraps), a running count is for a
mask other than the accepted one, and the last `debounceCount - 1` samples
were the candidate.  From it, `debounce_accept` says what an acceptance
has seen.

Note the restart branch: a sample that differs from the candidate sets the
counter to 1 but leaves `newButtons` as it was.  `run_restart_replicate`
makes the consequence explicit, and `run_replicate_accepted` gives the
window that holds when no other candidate is in flight.
-/

namespace OrbTrackball.Debounce

open OrbTrackball

/-- The three statics of the input-report branch. -/
structure Debouncer where
  oldButtons : UInt8
  newButtons : UInt8
  debounceCount : UInt8
deriving DecidableEq, Repr

/-- Static storage starts zeroed. -/
def Debouncer.init : Debouncer := ⟨0, 0, 0⟩

/-- Lines 582–605 of `usb.c` on the sampled mask `b`: the next state, and
    whether the call returns `true` after accepting the candidate. -/
def debounce (T : DebounceInterval) (st : Debouncer) (b : UInt8) : Debouncer × Bool :=
  if st.debounceCount = 0 then
    -- If the button state changed, start debouncing.
    if b ≠ st.oldButtons then ({ st with newButtons := b, debounceCount := 1 }, false)
    else (st, false)
  else
    -- Is the new button state stable?
    let count : UInt8 := if b = st.newButtons then st.debounceCount + 1 else 1
    if count.toNat > T.val then
      -- Update the button state.
      ({ st with oldButtons := st.newButtons, debounceCount := 0 }, true)
    else ({ st with debounceCount := count }, false)

/-- The state after feeding the samples `bs` to successive calls. -/
def run (T : DebounceInterval) (st : Debouncer) : List UInt8 → Debouncer
  | [] => st
  | b :: bs => run T (debounce T st b).1 bs

theorem run_append (T : DebounceInterval) (st : Debouncer) (bs bs' : List UInt8) :
    run T st (bs ++ bs') = run T (run T st bs) bs' := by
  induction bs generalizing st with
  | nil => rfl
  | cons b bs ih => exact ih _

theorem run_concat (T : DebounceInterval) (st : Debouncer) (bs : List UInt8) (b : UInt8) :
    run T st (bs ++ [b]) = (debounce T (run T st bs) b).1 := by
  rw [run_append]; rfl

/-! ### What one call can do -/

/-- A counter within the interval can be incremented without wrapping. -/
theorem toNat_add_one {c : UInt8} {T : DebounceInterval} (h : c.toNat ≤ T.val) :
    (c + 1).toNat = c.toNat + 1 := by
  have := T.le_254
  simp only [UInt8.toNat, UInt8.add_def, BitVec.toNat_add] at *
  simp only [UInt8.toBitVec_ofNat, BitVec.toNat_ofNat]
  omega

theorem toNat_ne_zero {c : UInt8} (h : c ≠ 0) : c.toNat ≠ 0 :=
  fun h' => h (UInt8.toNat.inj h')

/-- **The five branches.**  Idle with an unchanged sample; start; count;
    restart (the counter drops to 1, the candidate is kept); accept. -/
theorem debounce_cases (T : DebounceInterval) (st : Debouncer) (b : UInt8) :
    (st.debounceCount = 0 ∧ b = st.oldButtons ∧ debounce T st b = (st, false)) ∨
    (st.debounceCount = 0 ∧ b ≠ st.oldButtons ∧
      debounce T st b = ({ st with newButtons := b, debounceCount := 1 }, false)) ∨
    (st.debounceCount ≠ 0 ∧ b = st.newButtons ∧ (st.debounceCount + 1).toNat ≤ T.val ∧
      debounce T st b = ({ st with debounceCount := st.debounceCount + 1 }, false)) ∨
    (st.debounceCount ≠ 0 ∧ b ≠ st.newButtons ∧
      debounce T st b = ({ st with debounceCount := 1 }, false)) ∨
    (st.debounceCount ≠ 0 ∧ b = st.newButtons ∧ T.val < (st.debounceCount + 1).toNat ∧
      debounce T st b =
        ({ st with oldButtons := st.newButtons, debounceCount := 0 }, true)) := by
  by_cases h0 : st.debounceCount = 0
  · by_cases hb : b = st.oldButtons
    · exact .inl ⟨h0, hb, by simp [debounce, h0, hb]⟩
    · exact .inr (.inl ⟨h0, hb, by simp [debounce, h0, hb]⟩)
  · by_cases hb : b = st.newButtons
    · by_cases hT : T.val < (st.debounceCount + 1).toNat
      · exact .inr (.inr (.inr (.inr ⟨h0, hb, hT, by simp [debounce, h0, hb, hT]⟩)))
      · exact .inr (.inr (.inl ⟨h0, hb, not_lt.mp hT, by simp [debounce, h0, hb, hT]⟩))
    · have hT : T.val ≠ 0 := Nat.one_le_iff_ne_zero.mp T.one_le
      exact .inr (.inr (.inr (.inl ⟨h0, hb, by simp [debounce, h0, hb, hT]⟩)))

/-! ### The invariant of every run -/

/-- What every run from the zeroed statics guarantees, with `hist` the
    samples it was fed. -/
structure Inv (T : DebounceInterval) (hist : List UInt8) (st : Debouncer) : Prop where
  count_le : st.debounceCount.toNat ≤ T.val
  new_ne_old : st.debounceCount ≠ 0 → st.newButtons ≠ st.oldButtons
  tail_eq : ∃ pre, hist = pre ++ List.replicate (st.debounceCount.toNat - 1) st.newButtons

theorem inv_init (T : DebounceInterval) : Inv T [] Debouncer.init :=
  ⟨by simp [Debouncer.init], by simp [Debouncer.init], ⟨[], by simp [Debouncer.init]⟩⟩

/-- One call keeps the invariant. -/
theorem inv_debounce {T : DebounceInterval} {hist : List UInt8} {st : Debouncer}
    (hi : Inv T hist st) (b : UInt8) : Inv T (hist ++ [b]) (debounce T st b).1 := by
  have := T.one_le
  obtain ⟨hle, hne, pre, hpre⟩ := hi
  rcases debounce_cases T st b with ⟨h0, _, h⟩ | ⟨_, hb, h⟩ | ⟨hc, rfl, hT, h⟩ | ⟨hc, _, h⟩ |
    ⟨_, _, _, h⟩ <;> rw [h]
  · exact ⟨hle, hne, hist ++ [b], by simp [h0]⟩
  · exact ⟨by simpa using this, fun _ => hb, hist ++ [b], by simp⟩
  · refine ⟨hT, fun _ => hne hc, pre, ?_⟩
    have hsucc : (st.debounceCount + 1).toNat - 1 = st.debounceCount.toNat - 1 + 1 := by
      rw [toNat_add_one hle]
      have := toNat_ne_zero hc
      omega
    simp only [hsucc, List.replicate_succ', hpre, List.append_assoc]
  · exact ⟨by simpa using this, fun _ => hne hc, hist ++ [b], by simp⟩
  · exact ⟨by simp, by simp, hist ++ [b], by simp⟩

theorem inv_run (T : DebounceInterval) (bs : List UInt8) : Inv T bs (run T Debouncer.init bs) := by
  induction bs using List.reverseRecOn with
  | nil => exact inv_init T
  | append_singleton bs b ih => rw [run_concat]; exact inv_debounce ih b

/-! ### Acceptance -/

/-- A call that does not accept leaves the stable mask alone. -/
theorem debounce_old_of_not_accept {T : DebounceInterval} {st : Debouncer} {b : UInt8}
    (h : (debounce T st b).2 = false) : (debounce T st b).1.oldButtons = st.oldButtons := by
  rcases debounce_cases T st b with ⟨-, -, e⟩ | ⟨-, -, e⟩ | ⟨-, -, -, e⟩ | ⟨-, -, e⟩ |
    ⟨-, -, -, e⟩ <;> simp [e] at h ⊢

/-- **What an acceptance has seen.**  Under the invariant, a call that accepts
    makes the candidate the stable mask; the candidate differs from the mask it
    replaces; and it was the sample of this call and of the `T - 1` calls
    before it. -/
theorem debounce_accept {T : DebounceInterval} {hist : List UInt8} {st : Debouncer}
    (hi : Inv T hist st) {b : UInt8} (h : (debounce T st b).2 = true) :
    (debounce T st b).1.oldButtons = st.newButtons ∧ st.newButtons ≠ st.oldButtons ∧
      ∃ pre, hist ++ [b] = pre ++ List.replicate T.val st.newButtons := by
  obtain ⟨hle, hne, pre, hpre⟩ := hi
  rcases debounce_cases T st b with ⟨-, -, e⟩ | ⟨-, -, e⟩ | ⟨-, -, -, e⟩ | ⟨-, -, e⟩ |
    ⟨hc, rfl, hT, e⟩ <;> rw [e] at h ⊢ <;> simp at h
  rw [toNat_add_one hle] at hT
  have hT' : T.val = st.debounceCount.toNat - 1 + 1 := by have := toNat_ne_zero hc; omega
  refine ⟨rfl, hne hc, pre, ?_⟩
  rw [hT', List.replicate_succ', hpre, List.append_assoc]

/-! ### The restart branch keeps a stale candidate -/

/-- While a count is running for a candidate, a sample that is not the
    candidate sets the counter to 1 and changes nothing else. -/
theorem debounce_restart {T : DebounceInterval} {st : Debouncer} {b : UInt8}
    (hc : st.debounceCount ≠ 0) (hb : b ≠ st.newButtons) :
    debounce T st b = ({ st with debounceCount := 1 }, false) := by
  rcases debounce_cases T st b with ⟨h, -⟩ | ⟨h, -⟩ | ⟨-, h, -⟩ | ⟨-, -, e⟩ | ⟨-, h, -⟩
  · exact absurd h hc
  · exact absurd h hc
  · exact absurd h hb
  · exact e
  · exact absurd h hb

/-- Holding such a sample, for any number of calls, never reaches the accept
    branch: the state returns to the same one after every call. -/
theorem run_restart_replicate {T : DebounceInterval} {st : Debouncer} {b : UInt8}
    (hc : st.debounceCount ≠ 0) (hb : b ≠ st.newButtons) (n : Nat) :
    run T st (List.replicate (n + 1) b) = { st with debounceCount := 1 } := by
  induction n with
  | zero => simp [run, debounce_restart hc hb]
  | succ n ih =>
    rw [List.replicate_succ', run_concat, ih,
      @debounce_restart T { st with debounceCount := 1 } b (by simp) hb]

/-! ### A held mask is accepted when no stale candidate is in flight -/

/-- An idle debouncer ignores samples equal to the stable mask. -/
theorem run_idle_replicate {T : DebounceInterval} {st : Debouncer} {m : UInt8}
    (h0 : st.debounceCount = 0) (hm : m = st.oldButtons) (n : Nat) :
    run T st (List.replicate n m) = st := by
  induction n with
  | zero => rfl
  | succ n ih => rw [List.replicate_succ', run_concat, ih]; simp [debounce, h0, hm]

/-- **The bounded window.**  From a state within the interval that is idle,
    or counting for `m` itself, `T + 1` calls sampling `m` (fewer if the count
    is already running) leave `m` as the stable mask.  With a different
    candidate in flight the restart branch never records `m`
    (`run_restart_replicate`), and no window exists. -/
theorem run_replicate_accepted {T : DebounceInterval} {st : Debouncer} {m : UInt8}
    (hle : st.debounceCount.toNat ≤ T.val) (hm : st.debounceCount ≠ 0 → st.newButtons = m)
    {n : Nat} (hn : T.val + 1 ≤ n + st.debounceCount.toNat) :
    (run T st (List.replicate n m)).oldButtons = m := by
  induction n generalizing st with
  | zero => omega
  | succ n ih =>
    rw [List.replicate_succ, run]
    rcases debounce_cases T st m with ⟨h0, hb, e⟩ | ⟨h0, -, e⟩ | ⟨hc, -, hT, e⟩ | ⟨hc, hb, e⟩ |
      ⟨hc, -, -, e⟩ <;> rw [e]
    · rw [run_idle_replicate h0 hb, hb]
    · simp only [h0, UInt8.toNat_zero] at hn
      exact ih (by simpa using T.one_le) (fun _ => rfl) (by simp; omega)
    · exact ih hT (fun _ => hm hc) (by rw [toNat_add_one hle]; omega)
    · exact absurd (hm hc).symm hb
    · rw [← hm hc, run_idle_replicate rfl rfl]

/-! ### Masks stay within the sampled bits -/

/-- The debouncer only ever stores a sample or its candidate: masks below
    `k` stay below `k`. -/
theorem run_buttons_lt {T : DebounceInterval} {k : UInt8} (st : Debouncer) (bs : List UInt8)
    (hold : st.oldButtons < k) (hnew : st.newButtons < k) (hbs : ∀ b ∈ bs, b < k) :
    (run T st bs).oldButtons < k ∧ (run T st bs).newButtons < k := by
  induction bs generalizing st with
  | nil => exact ⟨hold, hnew⟩
  | cons b bs ih =>
    have hb := hbs b (List.mem_cons_self _ _)
    refine ih _ ?_ ?_ fun x hx => hbs x (List.mem_cons_of_mem _ hx)
    all_goals
      rcases debounce_cases T st b with ⟨-, -, e⟩ | ⟨-, -, e⟩ | ⟨-, -, -, e⟩ | ⟨-, -, e⟩ |
        ⟨-, -, -, e⟩ <;> simp [e, hold, hnew, hb]

end OrbTrackball.Debounce
