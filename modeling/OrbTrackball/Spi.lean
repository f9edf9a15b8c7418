import Mathlib.Data.Rat.Defs
import Mathlib.Tactic.NormNum

/-!
# The sensor bus (`main.c`)

The sensor sits on the AVR's SPI port.  The firmware drives it with three
primitives: it asserts or deasserts the slave-select line `NCS` by writing
bit `PINSS` of `PORTSPI`, it busy-waits with `delayUs`/`delayMs`, and it
exchanges one byte with `transceive`.  Everything the sensor can observe is
the sequence of these, an `Event` trace.

The firmware's side is a computation in `SpiM`, a state monad over the trace
so far: each primitive appends its event.  The sensor is arbitrary: a
`Sensor` maps the whole trace before an exchange to the byte it shifts back,
so it may answer anything, and what it answers may depend on everything it
has seen, timing included.

`read` and `write` are the register accesses every other routine is built
from; their delays are the datasheet timings `main.c` names.  The frame
discipline they keep is specified in `Frames.lean`.
-/

namespace OrbTrackball.Spi

/-! ### Timings, in microseconds -/

def T_STDWN : ℚ := 0.5
def T_WAKEUP : ℚ := 50e3
def T_SRAD : ℚ := 160
def T_SWWR : ℚ := 180
def T_SRWR : ℚ := 20
def T_SRAD_MOTBR : ℚ := 35
def T_NCS_SCLK : ℚ := 0.12
def T_SCLK_NCS_READ : ℚ := 0.12
def T_SCLK_NCS_WRITE : ℚ := 35

/-! ### Registers -/

def RESOLUTION_L : UInt8 := 0x0e
def RESOLUTION_H : UInt8 := 0x0f
def CONFIG2 : UInt8 := 0x10
def ANGLE_TUNE : UInt8 := 0x11
def SROM_ENABLE : UInt8 := 0x13
def SROM_ID : UInt8 := 0x2a
def POWER_UP_RESET : UInt8 := 0x3a
def SHUTDOWN : UInt8 := 0x3b
def MOTION_BURST : UInt8 := 0x50
def SROM_LOAD_BURST : UInt8 := 0x62

/-- `N`, the motion burst's length with the serial console disabled. -/
def N : Nat := 6

/-! ### The bus -/

/-- What happens on the bus, as the sensor sees it. -/
inductive Event where
  /-- `PINSS` of `PORTSPI` is written: `false` selects the sensor. -/
  | ncs (high : Bool)
  /-- A busy wait of `us` microseconds. -/
  | delay (us : ℚ)
  /-- One byte exchange: `mosi` goes out, `miso` comes back. -/
  | xfer (mosi miso : UInt8)
deriving DecidableEq, Repr

/-- A sensor answers each exchange with a byte chosen from the trace before it. -/
abbrev Sensor := List Event → UInt8

/-- Firmware code that uses the bus. -/
abbrev SpiM := StateM (List Event)

def emit (e : Event) : SpiM Unit := modify (· ++ [e])

def assertNcs : SpiM Unit := emit (.ncs false)

def deassertNcs : SpiM Unit := emit (.ncs true)

def delayUs (us : ℚ) : SpiM Unit := emit (.delay us)

def delayMs (ms : ℚ) : SpiM Unit := emit (.delay (ms * 1000))

@[simp] theorem emit_run (e : Event) (tr : List Event) : (emit e).run tr = ((), tr ++ [e]) := rfl

section

variable (sensor : Sensor)

/-- `transceive`: write `c` to `SPDR`, wait for the transfer, read `SPDR`. -/
def transceive (c : UInt8) : SpiM UInt8 :=
  modifyGet fun tr => (sensor tr, tr ++ [.xfer c (sensor tr)])

@[simp] theorem transceive_run (c : UInt8) (tr : List Event) :
    (transceive sensor c).run tr = (sensor tr, tr ++ [.xfer c (sensor tr)]) := rfl

/-- `read`: the address, a wait for the sensor, and the register comes back
    on a dummy byte. -/
def read (addr : UInt8) : SpiM UInt8 := do
  assertNcs
  delayUs T_NCS_SCLK
  let _ ← transceive sensor addr
  delayUs T_SRAD
  let x ← transceive sensor 0
  delayUs T_SCLK_NCS_READ
  deassertNcs
  delayUs (T_SRWR - T_SCLK_NCS_READ)
  pure x

/-- `write`: the address with bit 7 set, then the data. -/
def write (addr data : UInt8) : SpiM Unit := do
  assertNcs
  delayUs T_NCS_SCLK
  let _ ← transceive sensor (addr ||| 0x80)
  let _ ← transceive sensor data
  delayUs T_SCLK_NCS_WRITE
  deassertNcs
  delayUs (T_SWWR - T_SCLK_NCS_WRITE)

end

end OrbTrackball.Spi
