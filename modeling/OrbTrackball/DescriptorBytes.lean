import OrbTrackball.Descriptor
import Mathlib.Tactic.LinearCombination
import Mathlib.Tactic.Ring

/-!
# The descriptor's bytes

**`MouseReport` as the host receives it.**

`MouseReport` is an array of bytes in flash.  Each `HID_RI_*` macro of LUFA
expands to `_HID_RI_ENTRY(Type, Tag, DataBits, Data)`: a prefix byte
`Type | Tag | HID_RI_DATA_BITS(DataBits)`, then `DataBits / 8` bytes of the
data, least significant first, each `Data & 0xFF` of the data shifted down.
A host reads the bytes back as short items: the prefix's two low bits give
the number of data bytes (0, 1, 2 or 4), its six high bits the kind of
item, and the data bytes a number, in two's complement for the extents.

The macros keep only the low `DataBits` bits of their data, so an item means
what the source writes only when its data fits (`HID_RI.Fits`).
`shortItems_iff` is the round trip both ways: the host's reading of a byte
string gives a list of items exactly when every item fits and the bytes are
the items' encoding.  It rests on `shortItems_encode` (the host reads back
every encoding of fitting items) and `encode_of_shortItems` (whatever the
host reads is such an encoding).
-/

namespace OrbTrackball.Descriptor

/-! ### LUFA's encoding -/

/-- LUFA's item types (`HID_RI_TYPE_*`). -/
def HID_RI_TYPE_MAIN : Nat := 0x00
def HID_RI_TYPE_GLOBAL : Nat := 0x04
def HID_RI_TYPE_LOCAL : Nat := 0x08

/-- `HID_RI_DATA_BITS(DataBits)`: the size code of a prefix byte. -/
def HID_RI_DATA_BITS : Nat → Nat
  | 8 => 0x01
  | 16 => 0x02
  | 32 => 0x03
  | _ => 0x00

/-- The `Type` and `Tag` each `HID_RI_*` macro passes to `_HID_RI_ENTRY`. -/
def HID_RI_Tag.entry : HID_RI_Tag → Nat × Nat
  | .INPUT => (HID_RI_TYPE_MAIN, 0x80)
  | .COLLECTION => (HID_RI_TYPE_MAIN, 0xA0)
  | .FEATURE => (HID_RI_TYPE_MAIN, 0xB0)
  | .END_COLLECTION => (HID_RI_TYPE_MAIN, 0xC0)
  | .USAGE_PAGE => (HID_RI_TYPE_GLOBAL, 0x00)
  | .LOGICAL_MINIMUM => (HID_RI_TYPE_GLOBAL, 0x10)
  | .LOGICAL_MAXIMUM => (HID_RI_TYPE_GLOBAL, 0x20)
  | .PHYSICAL_MINIMUM => (HID_RI_TYPE_GLOBAL, 0x30)
  | .PHYSICAL_MAXIMUM => (HID_RI_TYPE_GLOBAL, 0x40)
  | .REPORT_SIZE => (HID_RI_TYPE_GLOBAL, 0x70)
  | .REPORT_COUNT => (HID_RI_TYPE_GLOBAL, 0x90)
  | .USAGE => (HID_RI_TYPE_LOCAL, 0x00)
  | .USAGE_MINIMUM => (HID_RI_TYPE_LOCAL, 0x10)
  | .USAGE_MAXIMUM => (HID_RI_TYPE_LOCAL, 0x20)

/-- `_HID_RI_ENCODE_8`, `_16` and `_32` of `Data`, as `n` bytes:
    `(Data & 0xFF)`, then those of `Data >> 8`. -/
def _HID_RI_ENCODE : Nat → Int → List UInt8
  | 0, _ => []
  | n + 1, Data => ⟨BitVec.ofInt 8 Data⟩ :: _HID_RI_ENCODE n (Data >>> (8 : Nat))

/-- `_HID_RI_ENTRY(Type, Tag, DataBits, Data)`. -/
def _HID_RI_ENTRY (ItemType Tag DataBits : Nat) (Data : Int) : List UInt8 :=
  UInt8.ofNat (ItemType ||| Tag ||| HID_RI_DATA_BITS DataBits) :: _HID_RI_ENCODE (DataBits / 8) Data

/-- The bytes an item's macro expands to. -/
def HID_RI.bytes (it : HID_RI) : List UInt8 :=
  _HID_RI_ENTRY it.tag.entry.1 it.tag.entry.2 it.DataBits it.Data

/-- A descriptor as it sits in flash. -/
def HID_RI.encode (items : List HID_RI) : List UInt8 := items.flatMap HID_RI.bytes

/-- Whether a kind of item holds a signed number: the extents do. -/
def HID_RI_Tag.signedData : HID_RI_Tag → Bool
  | .LOGICAL_MINIMUM | .LOGICAL_MAXIMUM | .PHYSICAL_MINIMUM | .PHYSICAL_MAXIMUM => true
  | _ => false

/-- An item whose data its macro keeps whole: a data size the macros take,
    and data in the range of that many bits, signed for the extents. -/
def HID_RI.Fits (it : HID_RI) : Prop :=
  (it.DataBits = 0 ∨ it.DataBits = 8 ∨ it.DataBits = 16 ∨ it.DataBits = 32) ∧
    if it.tag.signedData then -2 ^ it.DataBits ≤ 2 * it.Data ∧ 2 * it.Data < 2 ^ it.DataBits
    else 0 ≤ it.Data ∧ it.Data < 2 ^ it.DataBits

instance (it : HID_RI) : Decidable it.Fits :=
  inferInstanceAs (Decidable (_ ∧ if it.tag.signedData then _ else _))

/-! ### The host's reading -/

/-- LUFA's masks of a prefix byte (`HID_RI_*_MASK`). -/
def HID_RI_DATA_SIZE_MASK : Nat := 0x03
def HID_RI_TYPE_MASK : Nat := 0x0C
def HID_RI_TAG_MASK : Nat := 0xF0

/-- The number of data bytes a size code stands for. -/
def dataBytes (bSize : Nat) : Nat := if bSize = 3 then 4 else bSize

/-- The kind of item a prefix's type and tag bits name; kinds the descriptor
    does not use, and long items, are not read. -/
def HID_RI_Tag.ofKey : Nat → Option HID_RI_Tag
  | 0x80 => some .INPUT
  | 0xA0 => some .COLLECTION
  | 0xB0 => some .FEATURE
  | 0xC0 => some .END_COLLECTION
  | 0x04 => some .USAGE_PAGE
  | 0x14 => some .LOGICAL_MINIMUM
  | 0x24 => some .LOGICAL_MAXIMUM
  | 0x34 => some .PHYSICAL_MINIMUM
  | 0x44 => some .PHYSICAL_MAXIMUM
  | 0x74 => some .REPORT_SIZE
  | 0x94 => some .REPORT_COUNT
  | 0x08 => some .USAGE
  | 0x18 => some .USAGE_MINIMUM
  | 0x28 => some .USAGE_MAXIMUM
  | _ => none

/-- The host's reading of a descriptor, short item after short item. -/
def shortItems : List UInt8 → Option (List HID_RI)
  | [] => some []
  | b :: rest =>
    let n := dataBytes (b.toNat &&& HID_RI_DATA_SIZE_MASK)
    if n ≤ rest.length then do
      let tag ← HID_RI_Tag.ofKey (b.toNat &&& (HID_RI_TYPE_MASK ||| HID_RI_TAG_MASK))
      let u := leValue (rest.take n)
      let its ← shortItems (rest.drop n)
      pure (⟨tag, 8 * n, if tag.signedData then signed (8 * n) u else u⟩ :: its)
    else none
termination_by bs => bs.length

/-! ### The bytes of the data -/

@[simp] theorem _HID_RI_ENCODE_length (n : Nat) (Data : Int) : (_HID_RI_ENCODE n Data).length = n := by
  induction n generalizing Data with
  | zero => rfl
  | succ n ih => simp [_HID_RI_ENCODE, ih]

/-- `Nat.mod_mul` for `Int` at 256: the low byte and the rest. -/
theorem emod_256_mul (v M : Int) (hM : 0 < M) :
    v % (256 * M) = v % 256 + 256 * (v / 256 % M) := by
  have h1 := Int.ediv_add_emod v 256
  have h2 := Int.ediv_add_emod (v / 256) M
  have hr := Int.emod_lt_of_pos (v / 256) hM
  have hr0 := Int.emod_nonneg (v / 256) hM.ne'
  have ha := Int.emod_lt_of_pos v (by norm_num : (0 : Int) < 256)
  have ha0 := Int.emod_nonneg v (by norm_num : (256 : Int) ≠ 0)
  have hv : v = v % 256 + 256 * (v / 256 % M) + 256 * M * (v / 256 / M) := by
    linear_combination -h1 - 256 * h2
  conv_lhs => rw [hv]
  rw [Int.add_mul_emod_self_left, Int.emod_eq_of_lt (by omega) (by omega)]

/-- The `n` bytes of `Data` carry its low `8 n` bits. -/
theorem leValue_HID_RI_ENCODE (n : Nat) (Data : Int) :
    (leValue (_HID_RI_ENCODE n Data) : Int) = Data % 2 ^ (8 * n) := by
  induction n generalizing Data with
  | zero => simp [_HID_RI_ENCODE, leValue]
  | succ n ih =>
    have h8 : (2 : Int) ^ (8 * (n + 1)) = 256 * 2 ^ (8 * n) := by ring
    rw [_HID_RI_ENCODE, leValue, Nat.cast_add, Nat.cast_mul, ih, h8,
      emod_256_mul _ _ (by positivity), Int.shiftRight_eq_div_pow]
    simp [UInt8.toNat, BitVec.toNat_ofInt,
      Int.toNat_of_nonneg (Int.emod_nonneg Data (by norm_num : (256 : Int) ≠ 0))]

/-- Bytes of one length are told apart by their value. -/
theorem leValue_inj {l₁ l₂ : List UInt8} (hl : l₁.length = l₂.length)
    (h : leValue l₁ = leValue l₂) : l₁ = l₂ := by
  induction l₁ generalizing l₂ with
  | nil => cases l₂ with
    | nil => rfl
    | cons => simp at hl
  | cons b l ih =>
    cases l₂ with
    | nil => simp at hl
    | cons c l₂ =>
      have hb : b.toNat < 256 := b.toNat_lt_size
      have hc : c.toNat < 256 := c.toNat_lt_size
      simp only [leValue] at h
      rw [UInt8.toNat.inj (show b.toNat = c.toNat by omega), ih (by simpa using hl) (by omega)]

/-! ### Two's complement -/

/-- Data in the signed range of `d` bits reads back from its low `d` bits. -/
theorem signed_emod {d : Nat} {v : Int} (h₁ : -2 ^ d ≤ 2 * v) (h₂ : 2 * v < 2 ^ d) :
    signed d (v % 2 ^ d).toNat = v := by
  have hc : (((2 : Nat) ^ d : Nat) : Int) = 2 ^ d := by push_cast; rfl
  unfold signed
  rcases le_or_lt 0 v with hv | hv
  · rw [Int.emod_eq_of_lt hv (by omega)]
    have : ¬ 2 ^ d ≤ 2 * v.toNat := by omega
    simp [this, hv]
  · have e : v % 2 ^ d = v + 2 ^ d := by
      rw [← Int.add_emod_self]; exact Int.emod_eq_of_lt (by omega) (by omega)
    have : 2 ^ d ≤ 2 * (v + 2 ^ d).toNat := by omega
    simp only [e, this, if_true]
    omega

/-- Data in the unsigned range of `d` bits is its low `d` bits. -/
theorem toNat_emod {d : Nat} {v : Int} (h₁ : 0 ≤ v) (h₂ : v < 2 ^ d) :
    (((v % 2 ^ d).toNat : Nat) : Int) = v := by
  rw [Int.emod_eq_of_lt h₁ h₂, Int.toNat_of_nonneg h₁]

/-- Low `d` bits read as signed are in the signed range of `d` bits. -/
theorem signed_range {d u : Nat} (hu : u < 2 ^ d) :
    -2 ^ d ≤ 2 * signed d u ∧ 2 * signed d u < 2 ^ d := by
  have hc : ((2 ^ d : Nat) : Int) = 2 ^ d := by push_cast; rfl
  unfold signed
  split_ifs <;> omega

/-- Low `d` bits read as signed keep those bits. -/
theorem signed_emod_pow {d u : Nat} (hu : u < 2 ^ d) : signed d u % 2 ^ d = u := by
  have hc : ((2 ^ d : Nat) : Int) = 2 ^ d := by push_cast; rfl
  unfold signed
  split_ifs
  · rw [← Int.add_emod_self, sub_add_cancel, Int.emod_eq_of_lt (by omega) (by omega)]
  · exact Int.emod_eq_of_lt (by omega) (by omega)

/-! ### Prefix bytes -/

theorem HID_RI_Tag.ofKey_eq_some {k : Nat} {t : HID_RI_Tag} (h : HID_RI_Tag.ofKey k = some t) :
    t.entry.1 ||| t.entry.2 = k := by
  unfold HID_RI_Tag.ofKey at h
  split at h <;> cases h <;> rfl

/-- The prefix byte LUFA writes names the item's kind and size. -/
theorem prefix_bytes (t : HID_RI_Tag) {d : Nat} (hd : d = 0 ∨ d = 8 ∨ d = 16 ∨ d = 32) :
    dataBytes ((UInt8.ofNat (t.entry.1 ||| t.entry.2 ||| HID_RI_DATA_BITS d)).toNat &&&
        HID_RI_DATA_SIZE_MASK) = d / 8 ∧
      HID_RI_Tag.ofKey ((UInt8.ofNat (t.entry.1 ||| t.entry.2 ||| HID_RI_DATA_BITS d)).toNat &&&
        (HID_RI_TYPE_MASK ||| HID_RI_TAG_MASK)) = some t := by
  rcases hd with rfl | rfl | rfl | rfl <;> cases t <;> decide

/-- A prefix byte the host reads is the one LUFA writes for the kind and
    size it reads. -/
theorem prefix_of_ofKey {b : UInt8} {t : HID_RI_Tag}
    (h : HID_RI_Tag.ofKey (b.toNat &&& (HID_RI_TYPE_MASK ||| HID_RI_TAG_MASK)) = some t) :
    UInt8.ofNat (t.entry.1 ||| t.entry.2 |||
      HID_RI_DATA_BITS (8 * dataBytes (b.toNat &&& HID_RI_DATA_SIZE_MASK))) = b := by
  have hc : ∀ c ≤ 3, HID_RI_DATA_BITS (8 * dataBytes c) = c := by decide
  rw [HID_RI_Tag.ofKey_eq_some h, hc (b.toNat &&& HID_RI_DATA_SIZE_MASK) Nat.and_le_right,
    ← Nat.and_or_distrib_left,
    show HID_RI_TYPE_MASK ||| HID_RI_TAG_MASK ||| HID_RI_DATA_SIZE_MASK = 2 ^ 8 - 1 from rfl,
    Nat.and_pow_two_sub_one_of_lt_two_pow b.toNat_lt_size]
  apply UInt8.toNat.inj
  simp [UInt8.ofNat, UInt8.toNat]

/-! ### The round trip -/

/-- The data an item's bytes carry reads back as its data. -/
theorem HID_RI.read_data {it : HID_RI} (h : it.Fits) :
    (if it.tag.signedData then signed it.DataBits (leValue (_HID_RI_ENCODE (it.DataBits / 8) it.Data))
      else (leValue (_HID_RI_ENCODE (it.DataBits / 8) it.Data) : Int)) = it.Data := by
  obtain ⟨hd, hr⟩ := h
  have h8 : 8 * (it.DataBits / 8) = it.DataBits := by omega
  have hu : leValue (_HID_RI_ENCODE (it.DataBits / 8) it.Data) = (it.Data % 2 ^ it.DataBits).toNat := by
    have := leValue_HID_RI_ENCODE (it.DataBits / 8) it.Data
    rw [h8] at this
    omega
  rw [hu]
  split_ifs at hr ⊢
  · exact signed_emod hr.1 hr.2
  · exact toNat_emod hr.1 hr.2

/-- The host reads a fitting item back from the front of any bytes. -/
theorem shortItems_bytes_append {it : HID_RI} (h : it.Fits) (rest : List UInt8) :
    shortItems (it.bytes ++ rest) = (shortItems rest).map (it :: ·) := by
  obtain ⟨hsize, hkey⟩ := prefix_bytes it.tag h.1
  have h8 : 8 * (it.DataBits / 8) = it.DataBits := by rcases h.1 with h | h | h | h <;> omega
  rw [HID_RI.bytes, _HID_RI_ENTRY, List.cons_append, shortItems, hsize, hkey,
    if_pos (by simp), List.take_left' (by simp), List.drop_left' (by simp), h8]
  cases shortItems rest <;> simp [HID_RI.read_data h]

/-- The host reads back the encoding of any fitting items. -/
theorem shortItems_encode (items : List HID_RI) (h : ∀ it ∈ items, it.Fits) :
    shortItems (HID_RI.encode items) = some items := by
  induction items with
  | nil => simp [HID_RI.encode, shortItems]
  | cons it items ih =>
    rw [HID_RI.encode, List.flatMap_cons, ← HID_RI.encode,
      shortItems_bytes_append (h it (List.mem_cons_self _ _)),
      ih fun x hx => h x (List.mem_cons_of_mem _ hx)]
    rfl

/-- Whatever the host reads is the encoding of fitting items. -/
theorem encode_of_shortItems {bs : List UInt8} {items : List HID_RI}
    (h : shortItems bs = some items) : (∀ it ∈ items, it.Fits) ∧ HID_RI.encode items = bs := by
  refine shortItems.induct (motive := fun bs => ∀ items, shortItems bs = some items →
    (∀ it ∈ items, it.Fits) ∧ HID_RI.encode items = bs) ?_ ?_ ?_ bs items h
  · intro items h
    cases (show [] = items by simpa [shortItems] using h)
    exact ⟨by simp, rfl⟩
  · intro b rest n hn ih items h
    rw [shortItems, if_pos hn] at h
    obtain ⟨tag, htag, h⟩ := Option.bind_eq_some.mp h
    obtain ⟨its, hits, h⟩ := Option.bind_eq_some.mp h
    cases Option.some.inj h
    obtain ⟨hfits, henc⟩ := ih its hits
    set u := leValue (rest.take n)
    have hlen : (rest.take n).length = n := by simp [hn]
    have hu : (u : Int) < 2 ^ (8 * n) := by
      have : u < 2 ^ (8 * n) := by rw [pow_mul]; simpa [hlen] using leValue_lt (rest.take n)
      exact_mod_cast this
    have hn4 : n = 0 ∨ n = 1 ∨ n = 2 ∨ n = 4 := by
      have : b.toNat &&& HID_RI_DATA_SIZE_MASK ≤ 3 := Nat.and_le_right
      simp only [n, dataBytes]; split_ifs <;> omega
    set D : Int := if tag.signedData then signed (8 * n) u else u
    have hD : D % 2 ^ (8 * n) = u := by
      simp only [D]; split_ifs
      · exact signed_emod_pow (by exact_mod_cast hu)
      · exact Int.emod_eq_of_lt (by omega) hu
    have hdata : _HID_RI_ENCODE n D = rest.take n := by
      refine leValue_inj (by simp [hlen]) ?_
      have := leValue_HID_RI_ENCODE n D
      rw [hD] at this
      exact_mod_cast this
    refine ⟨List.forall_mem_cons.mpr ⟨⟨by dsimp only; omega, ?_⟩, hfits⟩, ?_⟩
    · simp only [D]
      split_ifs
      · exact signed_range (by exact_mod_cast hu)
      · exact ⟨by omega, hu⟩
    · rw [HID_RI.encode, List.flatMap_cons, ← HID_RI.encode, henc, HID_RI.bytes, _HID_RI_ENTRY,
        prefix_of_ofKey htag, Nat.mul_div_cancel_left _ (by norm_num), hdata, List.cons_append,
        List.take_append_drop]
  · intro b rest n hn items h
    rw [shortItems, if_neg hn] at h
    cases h

/-- **The host reads the descriptor's bytes back item for item.**  A byte
    string reads as a list of items exactly when every item fits its data
    size and the bytes are the items as LUFA's macros lay them out. -/
theorem shortItems_iff (bs : List UInt8) (items : List HID_RI) :
    shortItems bs = some items ↔ (∀ it ∈ items, it.Fits) ∧ HID_RI.encode items = bs :=
  ⟨encode_of_shortItems, fun ⟨h, he⟩ => he ▸ shortItems_encode items h⟩

/-- Every item of `MouseReport` fits its data size. -/
theorem MouseReport_fits : ∀ it ∈ MouseReport, it.Fits := by decide

end OrbTrackball.Descriptor
