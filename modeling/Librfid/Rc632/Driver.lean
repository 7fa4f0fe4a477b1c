import Librfid.Rc632.Regs
import Librfid.Lib.Exec
import Librfid.Lib.Mem
import Mathlib.Data.Int.Bitwise

/-! The register and FIFO layer of `rfid_asic_rc632.c`: everything from
`rc632_reg_write` to `rc632_transceive`. -/

namespace Librfid.Rc632

/-- Register access.  A read also gives what it leaves in the caller's variable. -/
structure Bus (σ : Type) where
  writeReg : UInt8 → UInt8 → σ → Int × σ
  readReg : UInt8 → σ → (Int × UInt8) × σ

/-- `struct rfid_asic_transport`; a FIFO read also gives the bytes it stores. -/
structure Transport (σ : Type) extends Bus σ where
  writeFifo : List UInt8 → UInt8 → σ → Int × σ
  readFifo : UInt8 → σ → (Int × List UInt8) × σ

namespace Transport

variable {σ : Type} (t : Transport σ)

def fifoWrite (bytes : List UInt8) (flags : UInt8) : Exec σ Int :=
  Exec.step (t.writeFifo bytes flags)

def fifoRead (len : UInt8) : Exec σ (Int × List UInt8) := Exec.step (t.readFifo len)

end Transport

namespace Bus

variable {σ : Type} (b : Bus σ)

def regWrite (reg val : UInt8) : Exec σ Int := Exec.step (b.writeReg reg val)

def regRead (reg : UInt8) : Exec σ (Int × UInt8) := Exec.step (b.readReg reg)

def write (reg val : UInt8) : Exec σ Unit := do
  let ret ← b.regWrite reg val
  Exec.check ret

def read (reg : UInt8) : Exec σ UInt8 := do
  let (ret, val) ← b.regRead reg
  Exec.check ret
  pure val

end Bus

section Registers

variable {σ : Type} (b : Bus σ)

def rc632SetBits (reg val : UInt8) : Exec σ Int := do
  let (ret, tmp) ← b.regRead reg
  if ret < 0 then pure (-1)
  else if tmp &&& val = val then pure 0
  else b.regWrite reg (tmp ||| val)

def rc632SetBitMask (reg mask val : UInt8) : Exec σ Int := do
  let (ret, tmp) ← b.regRead reg
  if ret < 0 then pure ret
  else if tmp &&& mask = val then pure 0
  else b.regWrite reg (tmp &&& ~~~mask ||| val &&& mask)

def rc632ClearBits (reg val : UInt8) : Exec σ Int := do
  let (ret, tmp) ← b.regRead reg
  if ret < 0 then pure (-1)
  else if tmp &&& val = 0 then pure 0
  else b.regWrite reg (tmp &&& ~~~val)

def rc632ClearIrqs (bits : UInt8) : Exec σ Int :=
  b.regWrite regInterruptRq (~~~intSet &&& bits)

def rc632ExecuteScript : List (UInt8 × UInt8) → Exec σ Unit
  | [] => pure ()
  | (reg, val) :: f => do
    b.write reg val
    rc632ExecuteScript f

end Registers

def timerRelaxFactor : Nat := 10

structure Prescaler where
  prescaler : UInt8
  divisor : UInt8
  smallestDiff : Int

def bestPrescalerStep (timeout : Nat) (best : Prescaler) (i : Nat) : Prescaler :=
  let clk := 13560000 / 2 ^ i
  let tmpDiv := clk * timeout % 2 ^ 64 / 1000000 + 1
  if tmpDiv > 0xff ∨ tmpDiv > clk then best
  else
    let res := 1000000 / (clk / tmpDiv)
    let diff := ((res : Int) - timeout).bmod (2 ^ 64)
    if diff < 0 then best
    else if diff < best.smallestDiff then ⟨UInt8.ofNat i, UInt8.ofNat tmpDiv, diff⟩
    else best

/-- `*prescaler` and `*divisor`; `undef` is what the uninitialised `best_divisor` holds. -/
def bestPrescaler (undef : UInt8) (timeout : Nat) : UInt8 × UInt8 :=
  let best := (List.range 21).foldl (bestPrescalerStep timeout) ⟨0, undef, 2 ^ 63 - 1⟩
  (best.prescaler, best.divisor)

section Timer

variable {σ : Type} (b : Bus σ)

def rc632TimerSet (undef : UInt8) (timeout : Nat) : Exec σ Unit := do
  let timeout := timeout * timerRelaxFactor % 2 ^ 64
  let (prescaler, divisor) := bestPrescaler undef timeout
  b.write regTimerClock (prescaler &&& 0x1f)
  let _ ← b.regWrite regTimerControl (tmrStartTxEnd ||| tmrStopRxBegin)
  let ret ← rc632ClearIrqs b irqTimer
  let ret' ← b.regWrite regInterruptEn (irqSet ||| irqTimer)
  let ret'' ← b.regWrite regTimerReload divisor
  Exec.check (Int.lor (Int.lor ret ret') ret'')

/-- The body of the polling loop: `none` to poll again, `some` to leave the function
with 0. -/
def rc632WaitIdlePoll : Exec σ (Option Unit) := do
  let (_, stat) ← b.regRead regPrimaryStatus
  Exec.when (stat &&& statErr ≠ 0) do
    let err ← b.read regErrorFlag
    Exec.when (err &&& (errFlagColErr ||| errFlagParityErr ||| errFlagFramingErr) ≠ 0)
      (Exec.fail (- eIO))
  Exec.when (stat &&& statIrq ≠ 0) do
    let irq ← b.read regInterruptRq
    Exec.when (irq &&& irqTimer ≠ 0 ∧ irq &&& irqRx = 0) do
      let _ ← rc632ClearIrqs b irqTimer
      Exec.fail (-eTimedOut)
  let cmd ← b.read regCommand
  if cmd = 0 then
    let _ ← rc632ClearIrqs b irqRx
    pure (some ())
  else pure none

def rc632WaitIdleLoop : Nat → Exec σ Unit
  | 0 => Exec.hang
  | fuel + 1 => do
    match ← rc632WaitIdlePoll b with
    | some () => pure ()
    | none => rc632WaitIdleLoop fuel

def rc632WaitIdleTimer (fuel : Nat) : Exec σ Unit := do
  let _ ← b.read regInterruptEn
  b.write regInterruptEn (irqSet ||| irqTimer ||| irqIdle ||| irqRx)
  rc632WaitIdleLoop b fuel

end Timer

section Transceive

variable {σ : Type} (t : Transport σ)

/-- The transmit loop: `off` is `cur_tx_buf - tx_buf` and `cur` is `cur_tx_len`. -/
def rc632TransmitLoop (tx : Mem UInt8) (txLen : UInt8) : Nat → Int → Int → Exec σ Unit
  | 0, _, _ => Exec.hang
  | fuel + 1, off, cur => do
    let ret ← t.fifoWrite (tx.load off (cur % 256).toNat) 0x03
    Exec.check ret
    Exec.when (off = 0) (t.write regCommand cmdTransceive)
    let off := off + cur
    if off < txLen.toNat then
      let fifoFill ← t.read regFifoLength
      let cur : Int := 64 - fifoFill.toNat
      if cur = 0 then pure () else rc632TransmitLoop tx txLen fuel off cur
    else pure ()

/-- What `rc632_transceive` does before the answer is in the FIFO; gives `rx_avail`. -/
def rc632Exchange (undef : UInt8) (fuel : Nat) (tx : Mem UInt8) (txLen : UInt8) (timer : Nat) :
    Exec σ UInt8 := do
  let cur : Nat := if txLen > 64 then 64 else txLen.toNat
  let _ ← t.regWrite regCommand cmdIdle
  let _ ← t.regWrite regInterruptRq 0x7f
  let _ ← t.regRead regPrimaryStatus
  let _ ← t.regRead regErrorFlag
  rc632TimerSet t.toBus undef timer
  rc632TransmitLoop t tx txLen fuel 0 cur
  rc632WaitIdleTimer t.toBus fuel
  t.read regFifoLength

/-- The return value, `*rx_len` and the bytes stored in the receive buffer. -/
structure Xfer where
  ret : Int
  rxLen : UInt8
  rx : List UInt8
  deriving DecidableEq

def rc632Transceive (undef : UInt8) (fuel : Nat) (tx : Mem UInt8) (txLen rxLen : UInt8)
    (timer : Nat) : Exec σ Xfer := do
  match ← Exec.attempt (rc632Exchange t undef fuel tx txLen timer) with
  | .error ret => pure ⟨ret, rxLen, []⟩
  | .ok rxAvail =>
    let rxLen := if rxLen > rxAvail then rxAvail else rxLen
    if rxAvail = 0 then
      let _ ← t.regRead regPrimaryStatus
      let _ ← t.regRead regErrorFlag
      let _ ← t.regRead regChannelRedundancy
      pure ⟨- eIO, rxLen, []⟩
    else
      let (ret, rx) ← t.fifoRead rxLen
      pure ⟨ret, rxLen, rx⟩

end Transceive

end Librfid.Rc632
