import OrbTrackball.Spi
import Mathlib.Data.List.Chain
import Mathlib.Tactic.Linarith
import Mathlib.Tactic.Ring

/-!
# Chip-select frames

What the sensor needs from the bus is a discipline of *frames*: the firmware
asserts `NCS`, exchanges bytes (with waits between them), deasserts `NCS`,
and leaves the bus idle long enough before the next frame.  This module
states that discipline and gives the proof rules to establish it.

**The specification.**  A `Frame` is the idle events since the previous
frame (`lead`), and the `body` between its assert and its deassert.  It is
`WellFormed` when its lead is idle, its body never touches `NCS`, and its
bytes are those of its `Kind`: a register read, a register write, a motion
burst, or the SROM download.  Two consecutive frames are `Spaced` when the
waits from the last byte of the first to the first byte of the second make
up the gap the first one's kind requires.  `FramedAs frames trailer tr`
says that `tr` is exactly these frames followed by idle events, and
`Selected` that no byte is exchanged while `NCS` is high.

**The proof rules.**  `Framed ks owe tr` is built one frame or idle stretch
at a time, `ks` being the kinds so far and `owe` the wait the last frame
still requires; `Framed.framedAs` and `Framed.selected` recover the
specification from it.  `Triple` is a Hoare triple over the trace, and the
`triple_*` rules, one per primitive, carry `Framed` (between frames) and
`Open` (inside a frame) through code.
-/

namespace OrbTrackball.Spi

/-! ### Reading a trace -/

namespace Event

def mosi? : Event → Option UInt8
  | .xfer m _ => some m
  | _ => none

def miso? : Event → Option UInt8
  | .xfer _ r => some r
  | _ => none

def isNcs : Event → Bool
  | .ncs _ => true
  | _ => false

def isXfer : Event → Bool
  | .xfer _ _ => true
  | _ => false

end Event

/-- The bytes sent. -/
def mosi (es : List Event) : List UInt8 := es.filterMap Event.mosi?

/-- The bytes received. -/
def miso (es : List Event) : List UInt8 := es.filterMap Event.miso?

/-- All waiting done in `es`. -/
def waits : List Event → ℚ
  | [] => 0
  | .delay d :: es => d + waits es
  | _ :: es => waits es

/-- The waiting before the first exchange. -/
def before : List Event → ℚ
  | [] => 0
  | .delay d :: es => d + before es
  | .ncs _ :: es => before es
  | .xfer _ _ :: _ => 0

/-- The waiting after the last exchange. -/
def after (es : List Event) : ℚ := before es.reverse

/-- Between frames: no exchange, and `NCS` is only ever raised. -/
def Idle (es : List Event) : Prop := ∀ e ∈ es, e.isXfer = false ∧ e ≠ .ncs false

/-- Inside a frame: `NCS` is not touched. -/
def Quiet (es : List Event) : Prop := ∀ e ∈ es, e.isNcs = false

/-- The SROM stream: each image byte preceded by a 15 µs wait. -/
def paced : List UInt8 → List UInt8 → List Event
  | b :: bs, r :: rs => .delay 15 :: .xfer b r :: paced bs rs
  | _, _ => []

/-- The level of `NCS` after `es`, from level `high`. -/
def level (high : Bool) : List Event → Bool
  | [] => high
  | .ncs h :: es => level h es
  | _ :: es => level high es

/-- Every exchange of `es` happens while `NCS` is low, starting from `high`. -/
def Selected : Bool → List Event → Prop
  | _, [] => True
  | _, .ncs h :: es => Selected h es
  | high, .delay _ :: es => Selected high es
  | high, .xfer _ _ :: es => high = false ∧ Selected high es

@[simp] theorem waits_append (es es' : List Event) : waits (es ++ es') = waits es + waits es' := by
  induction es with
  | nil => simp [waits]
  | cons e es ih => cases e <;> simp [waits, ih, add_assoc]

@[simp] theorem idle_append {es es' : List Event} : Idle (es ++ es') ↔ Idle es ∧ Idle es' :=
  List.forall_mem_append

theorem selected_append (high : Bool) (es es' : List Event) :
    Selected high (es ++ es') ↔ Selected high es ∧ Selected (level high es) es' := by
  induction es generalizing high with
  | nil => simp [Selected, level]
  | cons e es ih => cases e <;> simp [Selected, level, ih, and_assoc]

theorem selected_of_idle {es : List Event} (h : Idle es) (high : Bool) : Selected high es := by
  induction es generalizing high with
  | nil => trivial
  | cons e es ih =>
    have hrest := ih fun e he => h e (List.mem_cons_of_mem _ he)
    cases e with
    | xfer m r => exact absurd (h _ (List.mem_cons_self _ _)).1 (by simp [Event.isXfer])
    | _ => exact hrest _

theorem selected_of_quiet {es : List Event} (h : Quiet es) : Selected false es := by
  induction es with
  | nil => trivial
  | cons e es ih =>
    have hrest := ih fun e he => h e (List.mem_cons_of_mem _ he)
    cases e with
    | ncs b => exact absurd (h _ (List.mem_cons_self _ _)) (by simp [Event.isNcs])
    | delay d => exact hrest
    | xfer m r => exact ⟨rfl, hrest⟩

theorem level_of_quiet {es : List Event} (h : Quiet es) (high : Bool) : level high es = high := by
  induction es with
  | nil => rfl
  | cons e es ih =>
    have hrest := ih fun e he => h e (List.mem_cons_of_mem _ he)
    cases e with
    | ncs b => exact absurd (h _ (List.mem_cons_self _ _)) (by simp [Event.isNcs])
    | _ => exact hrest

@[simp] theorem quiet_nil : Quiet [] := by simp [Quiet]

@[simp] theorem quiet_cons (e : Event) (es : List Event) :
    Quiet (e :: es) ↔ e.isNcs = false ∧ Quiet es :=
  List.forall_mem_cons

@[simp] theorem quiet_append (es es' : List Event) : Quiet (es ++ es') ↔ Quiet es ∧ Quiet es' :=
  List.forall_mem_append

@[simp] theorem quiet_map_xfer (c : UInt8) (rs : List UInt8) : Quiet (rs.map (Event.xfer c)) :=
  fun _ he => by obtain ⟨r, -, rfl⟩ := List.mem_map.mp he; rfl

@[simp] theorem quiet_paced (image replies : List UInt8) : Quiet (paced image replies) := by
  induction image generalizing replies with
  | nil => simp [paced]
  | cons b bs ih =>
    cases replies with
    | nil => simp [paced]
    | cons r rs => simpa [paced, Event.isNcs] using ih rs

/-- The stream ends on an exchange: counted from its end, no wait comes
    before the last byte. -/
@[simp] theorem before_reverse_paced (image replies : List UInt8) (c r : UInt8) (es : List Event) :
    before ((paced image replies).reverse ++ .xfer c r :: es) = 0 := by
  induction image generalizing replies c r es with
  | nil => simp [paced, before]
  | cons b bs ih =>
    cases replies with
    | nil => simp [paced, before]
    | cons r' rs => simpa [paced] using ih rs b r' (.delay 15 :: .xfer c r :: es)

@[simp] theorem mosi_nil : mosi [] = [] := rfl

@[simp] theorem mosi_append (es es' : List Event) : mosi (es ++ es') = mosi es ++ mosi es' :=
  List.filterMap_append _ _ _

@[simp] theorem mosi_cons (e : Event) (es : List Event) :
    mosi (e :: es) = e.mosi?.toList ++ mosi es := by
  cases e <;> rfl

@[simp] theorem miso_nil : miso [] = [] := rfl

@[simp] theorem miso_append (es es' : List Event) : miso (es ++ es') = miso es ++ miso es' :=
  List.filterMap_append _ _ _

@[simp] theorem miso_cons (e : Event) (es : List Event) :
    miso (e :: es) = e.miso?.toList ++ miso es := by
  cases e <;> rfl

@[simp] theorem mosi_map_xfer (c : UInt8) (rs : List UInt8) :
    mosi (rs.map (Event.xfer c)) = List.replicate rs.length c := by
  induction rs with
  | nil => rfl
  | cons r rs ih => simp [Event.mosi?, ih, List.replicate_succ]

/-- A run of exchanges ends on an exchange. -/
@[simp] theorem before_reverse_xfers (c : UInt8) (rs : List UInt8) (c' r : UInt8)
    (es : List Event) :
    before ((rs.map (Event.xfer c)).reverse ++ .xfer c' r :: es) = 0 := by
  rw [← List.map_reverse]
  cases rs.reverse <;> simp [before]

/-! ### Frames -/

/-- The frames the firmware sends. -/
inductive Kind where
  | read
  | write
  | burst
  | srom (image : List UInt8)
deriving DecidableEq, Repr

/-- The image of an SROM frame. -/
def Kind.image? : Kind → Option (List UInt8)
  | .srom image => some image
  | _ => none

/-- The bytes of each kind of frame: a read sends an address below `0x80`
    and a dummy 0; a write sends an address with bit 7 set and the data; a
    motion burst sends `MOTION_BURST` and then one dummy byte, or `N` when
    bit 7 of the first reply is set; the SROM download sends
    `SROM_LOAD_BURST | 0x80` and then exactly the image, each byte right after
    a 15 µs wait. -/
def Kind.Matches : Kind → List Event → Prop
  | .read, body => ∃ a, a < 0x80 ∧ mosi body = [a, 0]
  | .write, body => ∃ a d, mosi body = [a ||| 0x80, d]
  | .burst, body =>
    mosi body = MOTION_BURST ::
      List.replicate (if (miso body).getD 1 0 &&& 0x80 = 0 then 1 else N) 0
  | .srom image, body => ∃ pre r rs post, rs.length = image.length ∧
      body = pre ++ .xfer (SROM_LOAD_BURST ||| 0x80) r :: paced image rs ++ post ∧
      mosi pre = [] ∧ mosi post = []

/-- The wait a frame requires after its last byte. -/
def Kind.gap : Kind → ℚ
  | .read => T_SRWR
  | .write => T_SWWR
  | .burst => 0
  | .srom _ => 200

structure Frame where
  kind : Kind
  lead : List Event
  body : List Event

def Frame.events (f : Frame) : List Event := f.lead ++ .ncs false :: f.body ++ [.ncs true]

def Frame.WellFormed (f : Frame) : Prop := Idle f.lead ∧ Quiet f.body ∧ f.kind.Matches f.body

/-- From the last byte of `f` to the first byte of `g`, the wait `f` requires. -/
def Frame.Spaced (f g : Frame) : Prop := f.kind.gap ≤ after f.body + waits g.lead + before g.body

/-- `tr` is the frames `frames`, well formed and spaced, then the idle `trailer`. -/
def FramedAs (frames : List Frame) (trailer tr : List Event) : Prop :=
  tr = (frames.map Frame.events).flatten ++ trailer ∧ (∀ f ∈ frames, f.WellFormed) ∧
    Idle trailer ∧ frames.Chain' Frame.Spaced

/-! ### Building a framed trace -/

/-- A framed trace with frames of kinds `ks`, the last of which still
    requires `owe` microseconds of wait before the next byte. -/
inductive Framed : List Kind → ℚ → List Event → Prop where
  | nil : Framed [] 0 []
  | idle {ks owe tr es} : Framed ks owe tr → Idle es → Framed ks (owe - waits es) (tr ++ es)
  | frame {ks owe tr body} (k : Kind) : Framed ks owe tr → Quiet body → k.Matches body →
      owe ≤ before body →
      Framed (ks ++ [k]) (k.gap - after body) (tr ++ .ncs false :: body ++ [.ncs true])

/-- **A framed trace meets the specification**: it is frames of the kinds it
    was built with, well formed and spaced, then idle events. -/
theorem Framed.framedAs {ks : List Kind} {owe : ℚ} {tr : List Event} (h : Framed ks owe tr) :
    ∃ frames trailer, FramedAs frames trailer tr ∧ frames.map Frame.kind = ks ∧
      ∀ f ∈ frames.getLast?, owe = f.kind.gap - after f.body - waits trailer := by
  induction h with
  | nil => exact ⟨[], [], ⟨rfl, by simp, by simp [Idle], List.chain'_nil⟩, rfl, by simp⟩
  | @idle ks owe tr es _ hes ih =>
    obtain ⟨fs, tl, ⟨htr, hwf, htl, hch⟩, hk, howe⟩ := ih
    refine ⟨fs, tl ++ es, ⟨by rw [htr, List.append_assoc], hwf, idle_append.mpr ⟨htl, hes⟩, hch⟩,
      hk, fun f hf => ?_⟩
    rw [howe f hf, waits_append]; ring
  | @frame ks owe tr body k _ hq hm hb ih =>
    obtain ⟨fs, tl, ⟨htr, hwf, htl, hch⟩, hk, howe⟩ := ih
    refine ⟨fs ++ [⟨k, tl, body⟩], [], ⟨?_, ?_, by simp [Idle], ?_⟩, by simp [hk], ?_⟩
    · simp [htr, Frame.events]
    · simpa [or_imp, forall_and] using ⟨hwf, htl, hq, hm⟩
    · refine hch.append (List.chain'_singleton _) fun f hf g hg => ?_
      obtain rfl : g = ⟨k, tl, body⟩ := by simpa using hg.symm
      have := howe f hf
      simp only [Frame.Spaced]; linarith
    · simp [waits]

/-- **No byte is exchanged while `NCS` is high**, whatever its level before. -/
theorem Framed.selected {ks : List Kind} {owe : ℚ} {tr : List Event} (h : Framed ks owe tr)
    (high : Bool) : Selected high tr := by
  induction h generalizing high with
  | nil => trivial
  | idle _ hes ih => exact (selected_append _ _ _).mpr ⟨ih high, selected_of_idle hes _⟩
  | frame k _ hq _ _ ih =>
    rw [List.append_assoc, selected_append, List.cons_append]
    refine ⟨ih high, (selected_append _ _ _).mpr ⟨selected_of_quiet hq, ?_⟩⟩
    rw [level_of_quiet hq]; trivial

/-! ### Hoare triples over the trace -/

/-- `Triple P m Q`: run on a trace satisfying `P`, `m` returns a value `a`
    and leaves a trace satisfying `Q a`. -/
def Triple {α : Type} (P : List Event → Prop) (m : SpiM α) (Q : α → List Event → Prop) : Prop :=
  ∀ tr, P tr → Q (m.run tr).1 (m.run tr).2

/-- Between frames, with no wait still owed. -/
def Ready (ks : List Kind) (tr : List Event) : Prop := ∃ owe ≤ 0, Framed ks owe tr

/-- Inside a frame: a framed trace, the assert, and the body so far. -/
def Open (ks : List Kind) (owe : ℚ) (body tr : List Event) : Prop :=
  ∃ tr₀, Framed ks owe tr₀ ∧ tr = tr₀ ++ .ncs false :: body

section

variable {α β : Type} {P P' : List Event → Prop} {Q Q' : α → List Event → Prop}
  {ks : List Kind} {owe : ℚ} {body : List Event}

theorem Triple.bind {R : β → List Event → Prop} {m : SpiM α} {f : α → SpiM β}
    (h₁ : Triple P m Q) (h₂ : ∀ a, Triple (Q a) (f a) R) : Triple P (m >>= f) R :=
  fun tr hp => h₂ _ _ (h₁ tr hp)

theorem Triple.pure {a : α} (h : ∀ tr, P tr → Q a tr) : Triple P (pure a) Q := h

theorem Triple.conseq {m : SpiM α} (h : Triple P m Q) (hq : ∀ a tr, Q a tr → Q' a tr) :
    Triple P m Q' :=
  fun tr hp => hq _ _ (h tr hp)

theorem Triple.mono_pre {m : SpiM α} (h : Triple P m Q) (hp : ∀ tr, P' tr → P tr) :
    Triple P' m Q :=
  fun tr hp' => h tr (hp tr hp')

theorem Triple.pure_pre {φ : Prop} {m : SpiM α} (h : φ → Triple P m Q) :
    Triple (fun tr => φ ∧ P tr) m Q :=
  fun tr ⟨hφ, hp⟩ => h hφ tr hp

theorem Triple.exists_pre {γ : Type} {P : γ → List Event → Prop} {m : SpiM α}
    (h : ∀ x, Triple (P x) m Q) : Triple (fun tr => ∃ x, P x tr) m Q :=
  fun tr ⟨x, hx⟩ => h x tr hx

/-- Code that keeps frames, started with no wait owed. -/
theorem Triple.of_ready {m : SpiM α} (h : ∀ owe ≤ 0, Triple (Framed ks owe) m Q) :
    Triple (Ready ks) m Q :=
  fun tr ⟨owe, howe, hf⟩ => h owe howe tr hf

theorem ready_of_framed {tr : List Event} (h : Framed ks owe tr) (howe : owe ≤ 0) :
    Ready ks tr :=
  ⟨owe, howe, h⟩

/-! #### One rule per primitive -/

theorem triple_delay {d : ℚ} :
    Triple (Framed ks owe) (delayUs d) (fun _ => Framed ks (owe - d)) := fun tr h => by
  simpa [delayUs, waits] using h.idle (show Idle [.delay d] by simp [Idle, Event.isXfer])

theorem triple_delay_ms {d : ℚ} :
    Triple (Framed ks owe) (delayMs d) (fun _ => Framed ks (owe - d * 1000)) := fun tr h => by
  simpa [delayMs, waits] using
    h.idle (show Idle [.delay (d * 1000)] by simp [Idle, Event.isXfer])

theorem triple_deassert : Triple (Framed ks owe) deassertNcs (fun _ => Framed ks owe) :=
  fun tr h => by
    simpa [deassertNcs, waits] using h.idle (show Idle [.ncs true] by simp [Idle, Event.isXfer])

theorem triple_assert : Triple (Framed ks owe) assertNcs (fun _ => Open ks owe []) :=
  fun tr h => ⟨tr, h, rfl⟩

theorem triple_delay_open {d : ℚ} :
    Triple (Open ks owe body) (delayUs d) (fun _ => Open ks owe (body ++ [.delay d])) := by
  rintro _ ⟨tr₀, h, rfl⟩; exact ⟨tr₀, h, by simp [delayUs]⟩

theorem triple_transceive (sensor : Sensor) {c : UInt8} :
    Triple (Open ks owe body) (transceive sensor c)
      (fun r => Open ks owe (body ++ [.xfer c r])) := by
  rintro _ ⟨tr₀, h, rfl⟩; exact ⟨tr₀, h, by simp⟩

theorem triple_delay_ready {d : ℚ} (hd : 0 ≤ d) :
    Triple (Ready ks) (delayUs d) (fun _ => Ready ks) :=
  Triple.of_ready fun _ howe => triple_delay.conseq fun _ _ h => ready_of_framed h (by linarith)

theorem triple_delay_ms_ready {d : ℚ} (hd : 0 ≤ d) :
    Triple (Ready ks) (delayMs d) (fun _ => Ready ks) :=
  Triple.of_ready fun _ howe => triple_delay_ms.conseq fun _ _ h => ready_of_framed h (by linarith)

theorem triple_deassert_ready : Triple (Ready ks) deassertNcs (fun _ => Ready ks) :=
  Triple.of_ready fun _ howe => triple_deassert.conseq fun _ _ h => ready_of_framed h howe

/-- The deassert closes a frame whose body matches its kind and whose first
    byte came after the owed wait. -/
theorem triple_deassert_open (k : Kind) (hq : Quiet body) (hm : k.Matches body)
    (hb : owe ≤ before body) :
    Triple (Open ks owe body) deassertNcs (fun _ => Framed (ks ++ [k]) (k.gap - after body)) := by
  rintro _ ⟨tr₀, h, rfl⟩
  simpa [deassertNcs] using h.frame k hq hm hb

/-- From a known trace, each primitive appends exactly its event. -/
theorem triple_emit_eq {t : List Event} {e : Event} :
    Triple (· = t) (emit e) (fun _ tr => tr = t ++ [e]) := by
  rintro _ rfl; rfl

theorem triple_transceive_eq (sensor : Sensor) {t : List Event} {c : UInt8} :
    Triple (· = t) (transceive sensor c) (fun r tr => tr = t ++ [.xfer c r]) := by
  rintro _ rfl; rfl

end

end OrbTrackball.Spi
