import OrbTrackball.Config
import Mathlib.Data.List.Basic
import Mathlib.Tactic.Positivity

/-!
# The report descriptor (`usb.c`)

**What `MouseReport` tells the host.**

The host does not see `MouseReport_Data_t`: it sees bytes, and learns how to
read them from `MouseReport`, the HID report descriptor `usb.c` hands to
LUFA.  The descriptor is a list of items that a HID host's report parser
reads in order.  Global items (usage page, logical and physical extents,
report size and count) stay in force until changed; local items (usages)
apply to the next main item only; `COLLECTION` and `END_COLLECTION` open and
close groups of controls; each `INPUT` or `FEATURE` main item lays out
`REPORT_COUNT` fields of `REPORT_SIZE` bits after the fields before it.

`parse` is that reading, for the kinds of items the descriptor has;
`Field.read` takes a field's value out of a report, least significant bit of
the first byte first, in two's complement when the logical minimum is
negative; and `resolutionMultiplier` is how a host scales a control by the
Resolution Multiplier that shares its collection.  `parse_MouseReport` gives
the fields the descriptor lays out, and `resolutionMultiplier_MouseReport`
what a Feature report holding 1 makes of them: the wheel and AC pan are
counted in 120ths, X and Y are not scaled.
-/

namespace OrbTrackball.Descriptor

open OrbTrackball

/-! ### The descriptor -/

/-- The kinds of report item of LUFA's `HID_RI_*` macros that `MouseReport`
    uses. -/
inductive HID_RI_Tag where
  | INPUT | COLLECTION | FEATURE | END_COLLECTION
  | USAGE_PAGE | LOGICAL_MINIMUM | LOGICAL_MAXIMUM | PHYSICAL_MINIMUM | PHYSICAL_MAXIMUM
  | REPORT_SIZE | REPORT_COUNT
  | USAGE | USAGE_MINIMUM | USAGE_MAXIMUM
deriving DecidableEq, Repr

/-- One report item, `HID_RI_<tag>(DataBits, Data)`: its kind, the data size
    in bits its macro is given, and its data. -/
structure HID_RI where
  tag : HID_RI_Tag
  DataBits : Nat
  Data : Int
deriving DecidableEq, Repr

/-- LUFA's main item flags (`HID_IOF_*`): bit 0 constant, bit 1 variable,
    bit 2 relative. -/
def HID_IOF_DATA : Nat := 0
def HID_IOF_CONSTANT : Nat := 1
def HID_IOF_VARIABLE : Nat := 2
def HID_IOF_ABSOLUTE : Nat := 0
def HID_IOF_RELATIVE : Nat := 4

/-- `sizeof((uint8_t[]){BUTTONS})`. -/
def BUTTON_COUNT : Nat := BUTTONS.length

/-- `MouseReport`, item for item. -/
def MouseReport : List HID_RI := [
  ⟨.USAGE_PAGE, 8, 0x01⟩, -- Generic Desktop
  ⟨.USAGE, 8, 0x02⟩, -- Mouse
  ⟨.COLLECTION, 8, 0x01⟩, -- Application
  ⟨.USAGE, 8, 0x01⟩, -- Pointer
  ⟨.COLLECTION, 8, 0x00⟩, -- Physical
  ⟨.USAGE_PAGE, 8, 0x09⟩, -- Button
  ⟨.USAGE_MINIMUM, 8, 0x01⟩,
  ⟨.USAGE_MAXIMUM, 8, BUTTON_COUNT⟩,
  ⟨.LOGICAL_MINIMUM, 8, 0x00⟩,
  ⟨.LOGICAL_MAXIMUM, 8, 0x01⟩,
  ⟨.REPORT_COUNT, 8, BUTTON_COUNT⟩,
  ⟨.REPORT_SIZE, 8, 0x01⟩,
  ⟨.INPUT, 8, (HID_IOF_DATA ||| HID_IOF_VARIABLE ||| HID_IOF_ABSOLUTE : Nat)⟩,
  ⟨.REPORT_COUNT, 8, 0x01⟩,
  ⟨.REPORT_SIZE, 8, (8 - BUTTON_COUNT % 8 : Nat)⟩,
  ⟨.INPUT, 8, (HID_IOF_CONSTANT : Nat)⟩,

  ⟨.USAGE_PAGE, 8, 0x01⟩, -- Generic Desktop
  ⟨.USAGE, 8, 0x30⟩, -- Usage X
  ⟨.USAGE, 8, 0x31⟩, -- Usage Y
  ⟨.LOGICAL_MINIMUM, 16, -32768⟩,
  ⟨.LOGICAL_MAXIMUM, 16, 32767⟩,
  ⟨.PHYSICAL_MINIMUM, 8, -1⟩,
  ⟨.PHYSICAL_MAXIMUM, 8, 1⟩,
  ⟨.REPORT_COUNT, 8, 0x02⟩,
  ⟨.REPORT_SIZE, 8, 16⟩,
  ⟨.INPUT, 8, (HID_IOF_DATA ||| HID_IOF_VARIABLE ||| HID_IOF_RELATIVE : Nat)⟩,

  ⟨.COLLECTION, 8, 0x02⟩, -- Logical
  ⟨.USAGE, 8, 0x48⟩, -- Resolution Multiplier
  ⟨.LOGICAL_MINIMUM, 8, 0x00⟩,
  ⟨.LOGICAL_MAXIMUM, 8, 0x01⟩,
  ⟨.PHYSICAL_MINIMUM, 8, 0x01⟩,
  ⟨.PHYSICAL_MAXIMUM, 8, 120⟩,
  ⟨.REPORT_COUNT, 8, 0x01⟩,
  ⟨.REPORT_SIZE, 8, 0x02⟩,
  ⟨.FEATURE, 8, (HID_IOF_DATA ||| HID_IOF_VARIABLE ||| HID_IOF_ABSOLUTE : Nat)⟩,

  ⟨.USAGE_PAGE, 8, 0x0c⟩, -- Consumer devices
  ⟨.USAGE, 16, 0x0238⟩, -- AC pan
  ⟨.LOGICAL_MINIMUM, 16, -32768⟩,
  ⟨.LOGICAL_MAXIMUM, 16, 32767⟩,
  ⟨.PHYSICAL_MINIMUM, 8, 0⟩,
  ⟨.PHYSICAL_MAXIMUM, 8, 0⟩,
  ⟨.REPORT_SIZE, 8, 16⟩,
  ⟨.INPUT, 8, (HID_IOF_DATA ||| HID_IOF_VARIABLE ||| HID_IOF_RELATIVE : Nat)⟩,

  ⟨.USAGE_PAGE, 8, 0x01⟩, -- Generic Desktop
  ⟨.USAGE, 8, 0x38⟩, -- Wheel
  ⟨.LOGICAL_MINIMUM, 16, -32768⟩,
  ⟨.LOGICAL_MAXIMUM, 16, 32767⟩,
  ⟨.PHYSICAL_MINIMUM, 8, 0⟩,
  ⟨.PHYSICAL_MAXIMUM, 8, 0⟩,
  ⟨.REPORT_SIZE, 8, 16⟩,
  ⟨.INPUT, 8, (HID_IOF_DATA ||| HID_IOF_VARIABLE ||| HID_IOF_RELATIVE : Nat)⟩,
  ⟨.END_COLLECTION, 0, 0⟩,

  ⟨.REPORT_COUNT, 8, 0x01⟩,
  ⟨.REPORT_SIZE, 8, 0x06⟩,
  ⟨.FEATURE, 8, (HID_IOF_CONSTANT ||| HID_IOF_VARIABLE ||| HID_IOF_ABSOLUTE : Nat)⟩,

  ⟨.END_COLLECTION, 0, 0⟩,
  ⟨.END_COLLECTION, 0, 0⟩]

/-! ### Reading the descriptor -/

/-- One field of a report: its usage (page and id; none for padding), its
    first bit, its width, its logical and physical extents, and the
    collections it lies in, innermost first, each by the order it was
    opened in. -/
structure Field where
  usage : Option (Nat × Nat)
  offset : Nat
  size : Nat
  logicalMinimum : Int
  logicalMaximum : Int
  physicalMinimum : Int
  physicalMaximum : Int
  collection : List Nat
deriving DecidableEq, Repr

/-- What the report parser keeps between items: the global items in force,
    the local usages of the next main item, the open collections (innermost
    first) and how many were opened, and the two reports so far. -/
structure Parser where
  usagePage : Nat
  logicalMinimum : Int
  logicalMaximum : Int
  physicalMinimum : Int
  physicalMaximum : Int
  reportSize : Nat
  reportCount : Nat
  usages : List Nat
  usageMinimum : Nat
  collections : List Nat
  collectionCount : Nat
  input : List Field
  inputBits : Nat
  feature : List Field
  featureBits : Nat

/-- Nothing declared, no collection open, both reports empty. -/
def Parser.init : Parser := ⟨0, 0, 0, 0, 0, 0, 0, [], 0, [], 0, [], 0, [], 0⟩

/-- The fields a main item with `flags` lays out from bit `offset`: a
    constant item's are padding; a variable item's take the local usages in
    order, the last one standing for the rest. -/
def Parser.fields (ps : Parser) (flags offset : Nat) : List Field :=
  (List.range ps.reportCount).map fun k =>
    { usage := if flags &&& HID_IOF_CONSTANT = 0 then
                 some (ps.usagePage, ps.usages.getD k (ps.usages.getLastD 0))
               else none
      offset := offset + k * ps.reportSize
      size := ps.reportSize
      logicalMinimum := ps.logicalMinimum
      logicalMaximum := ps.logicalMaximum
      physicalMinimum := ps.physicalMinimum
      physicalMaximum := ps.physicalMaximum
      collection := ps.collections }

/-- One item.  Main items clear the local usages.  A data field that is not
    variable is an array, whose values are usage indices: no item of
    `MouseReport` is one, and the parser stops there, as it does at an
    `END_COLLECTION` with no collection open. -/
def Parser.item (ps : Parser) (it : HID_RI) : Option Parser :=
  match it.tag with
  | .USAGE_PAGE => some { ps with usagePage := it.Data.toNat }
  | .USAGE => some { ps with usages := ps.usages ++ [it.Data.toNat] }
  | .USAGE_MINIMUM => some { ps with usageMinimum := it.Data.toNat }
  | .USAGE_MAXIMUM =>
    some { ps with
      usages := ps.usages ++ List.range' ps.usageMinimum (it.Data.toNat + 1 - ps.usageMinimum) }
  | .COLLECTION =>
    some { ps with
      collections := ps.collectionCount :: ps.collections
      collectionCount := ps.collectionCount + 1
      usages := []
      usageMinimum := 0 }
  | .END_COLLECTION =>
    match ps.collections with
    | [] => none
    | _ :: outer => some { ps with collections := outer, usages := [], usageMinimum := 0 }
  | .LOGICAL_MINIMUM => some { ps with logicalMinimum := it.Data }
  | .LOGICAL_MAXIMUM => some { ps with logicalMaximum := it.Data }
  | .PHYSICAL_MINIMUM => some { ps with physicalMinimum := it.Data }
  | .PHYSICAL_MAXIMUM => some { ps with physicalMaximum := it.Data }
  | .REPORT_COUNT => some { ps with reportCount := it.Data.toNat }
  | .REPORT_SIZE => some { ps with reportSize := it.Data.toNat }
  | .INPUT =>
    if it.Data.toNat &&& (HID_IOF_CONSTANT ||| HID_IOF_VARIABLE) = 0 then none
    else some { ps with
      input := ps.input ++ ps.fields it.Data.toNat ps.inputBits
      inputBits := ps.inputBits + ps.reportCount * ps.reportSize
      usages := []
      usageMinimum := 0 }
  | .FEATURE =>
    if it.Data.toNat &&& (HID_IOF_CONSTANT ||| HID_IOF_VARIABLE) = 0 then none
    else some { ps with
      feature := ps.feature ++ ps.fields it.Data.toNat ps.featureBits
      featureBits := ps.featureBits + ps.reportCount * ps.reportSize
      usages := []
      usageMinimum := 0 }

/-- A descriptor read from the start; every collection it opens must be
    closed. -/
def parse (items : List HID_RI) : Option Parser := do
  let ps ← items.foldlM Parser.item Parser.init
  if ps.collections = [] then some ps else none

/-- The fields `MouseReport` lays out: four one-bit buttons and four bits of
    padding, then X and Y, AC pan and the wheel, 16 bits each, in the input
    report; the two-bit resolution multiplier and six bits of padding in the
    Feature report.  The application collection is 0, the physical one 1,
    and the logical one 2, which holds the multiplier, AC pan and the
    wheel. -/
theorem parse_MouseReport :
    ∃ ps, parse MouseReport = some ps ∧
      ps.input = [⟨some (0x09, 1), 0, 1, 0, 1, 0, 0, [1, 0]⟩,
        ⟨some (0x09, 2), 1, 1, 0, 1, 0, 0, [1, 0]⟩, ⟨some (0x09, 3), 2, 1, 0, 1, 0, 0, [1, 0]⟩,
        ⟨some (0x09, 4), 3, 1, 0, 1, 0, 0, [1, 0]⟩, ⟨none, 4, 4, 0, 1, 0, 0, [1, 0]⟩,
        ⟨some (0x01, 0x30), 8, 16, -32768, 32767, -1, 1, [1, 0]⟩,
        ⟨some (0x01, 0x31), 24, 16, -32768, 32767, -1, 1, [1, 0]⟩,
        ⟨some (0x0c, 0x238), 40, 16, -32768, 32767, 0, 0, [2, 1, 0]⟩,
        ⟨some (0x01, 0x38), 56, 16, -32768, 32767, 0, 0, [2, 1, 0]⟩] ∧
      ps.inputBits = 72 ∧
      ps.feature = [⟨some (0x01, 0x48), 0, 2, 0, 1, 1, 120, [2, 1, 0]⟩,
        ⟨none, 2, 6, -32768, 32767, 0, 0, [1, 0]⟩] ∧
      ps.featureBits = 8 :=
  ⟨_, rfl, rfl, rfl, rfl, rfl⟩

/-! ### Reading a report -/

/-- The number a report stands for, its first byte least significant. -/
def leValue : List UInt8 → Nat
  | [] => 0
  | b :: bs => b.toNat + 256 * leValue bs

/-- `u`, the low `bits` bits of a two's complement number, as that number. -/
def signed (bits u : Nat) : Int := if 2 ^ bits ≤ 2 * u then (u : Int) - 2 ^ bits else u

/-- The value of `f` in `report`: its bits, in two's complement when its
    logical minimum is negative. -/
def Field.read (f : Field) (report : List UInt8) : Int :=
  let u := leValue report / 2 ^ f.offset % 2 ^ f.size
  if f.logicalMinimum < 0 then signed f.size u else u

/-- What the host reads from a report: each field's usage and value. -/
def readReport (fields : List Field) (report : List UInt8) : List (Option (Nat × Nat) × Int) :=
  fields.map fun f => (f.usage, f.read report)

theorem leValue_lt (l : List UInt8) : leValue l < 256 ^ l.length := by
  induction l with
  | nil => simp [leValue]
  | cons b l ih =>
    have hb : b.toNat < 256 := b.toNat_lt_size
    calc leValue (b :: l) < 256 * (leValue l + 1) := by simp only [leValue]; omega
      _ ≤ 256 * 256 ^ l.length := Nat.mul_le_mul_left _ ih
      _ = 256 ^ (b :: l).length := by rw [List.length_cons, pow_succ, mul_comm]

/-- Whole bytes of a report: the value of its bytes `i` to `i + k - 1`. -/
theorem leValue_div_pow_mod (l : List UInt8) (i k : Nat) :
    leValue l / 256 ^ i % 256 ^ k = leValue ((l.drop i).take k) := by
  induction l generalizing i k with
  | nil => simp [leValue]
  | cons b l ih =>
    have hb : b.toNat < 256 := b.toNat_lt_size
    have hdiv : (b.toNat + 256 * leValue l) / 256 = leValue l := by omega
    have hmod : (b.toNat + 256 * leValue l) % 256 = b.toNat := by omega
    cases i with
    | succ i => rw [pow_succ', ← Nat.div_div_eq_div_mul, leValue, hdiv, ih, List.drop_succ_cons]
    | zero =>
      cases k with
      | zero => rw [pow_zero, Nat.mod_one]; rfl
      | succ k =>
        have := ih 0 k
        rw [pow_zero, Nat.div_one] at this ⊢
        rw [pow_succ', Nat.mod_mul, List.drop_zero, List.take_succ_cons, leValue, leValue, hmod, hdiv,
          this, List.drop_zero]

/-- Bits within a report's first byte. -/
theorem leValue_cons_bits (b : UInt8) (l : List UInt8) {i k : Nat} (h : i + k ≤ 8) :
    leValue (b :: l) / 2 ^ i % 2 ^ k = b.toNat / 2 ^ i % 2 ^ k := by
  have e : 256 * leValue l = 2 ^ i * (2 ^ k * (2 ^ (8 - i - k) * leValue l)) := by
    rw [← mul_assoc, ← mul_assoc, ← pow_add, ← pow_add, show i + k + (8 - i - k) = 8 by omega]
    rfl
  rw [leValue, e, Nat.add_mul_div_left _ _ (by positivity), Nat.add_mul_mod_self_left]

/-- An unsigned field within the first byte reads its bits of that byte. -/
theorem Field.read_first_byte {f : Field} {b : UInt8} {l : List UInt8} {v : Nat}
    (hmin : 0 ≤ f.logicalMinimum) (h : f.offset + f.size ≤ 8)
    (hv : b.toNat / 2 ^ f.offset % 2 ^ f.size = v) : f.read (b :: l) = v := by
  simp only [Field.read, leValue_cons_bits b l h, hv, not_lt.mpr hmin, if_false]

/-! ### The resolution multiplier -/

/-- The value a field's logical value `v` stands for in physical units: the
    linear map of the logical extents onto the physical ones.  For a
    Resolution Multiplier control this is its effective multiplier. -/
def Field.physical (f : Field) (v : Int) : Int :=
  (v - f.logicalMinimum) * (f.physicalMaximum - f.physicalMinimum) /
    (f.logicalMaximum - f.logicalMinimum) + f.physicalMinimum

/-- The usage of a Resolution Multiplier control: Generic Desktop, 0x48. -/
def RESOLUTION_MULTIPLIER : Nat × Nat := (0x01, 0x48)

/-- The factor by which the host divides the values of the input field `f`
    once it has read the Feature report `feature`: the effective multiplier
    of the first Resolution Multiplier control whose innermost collection
    holds `f`, or 1 where there is none. -/
def resolutionMultiplier (ps : Parser) (feature : List UInt8) (f : Field) : Int :=
  match ps.feature.find? fun m =>
      m.usage = some RESOLUTION_MULTIPLIER && m.collection.head?.all f.collection.contains with
  | some m => m.physical (m.read feature)
  | none => 1

/-- A Feature report holding 1 makes the host count the wheel and AC pan in
    120ths and leaves every other input field of `MouseReport` unscaled. -/
theorem resolutionMultiplier_MouseReport :
    ∃ ps, parse MouseReport = some ps ∧ ∀ f ∈ ps.input,
      resolutionMultiplier ps [1] f =
        if f.usage = some (0x0c, 0x238) ∨ f.usage = some (0x01, 0x38) then 120 else 1 :=
  ⟨_, rfl, by decide⟩

end OrbTrackball.Descriptor
