import Librfid.Lib.Mimic
import Librfid.Rc632.Frames
import Librfid.Rc632.Config
import Librfid.Rc632.Mifare

namespace Librfid.Rc632

open Exec

/-- Where the chip is accessed.  `debug` is what is read for debugging output alone, `timerOrs` the
three writes of which the results are put together, `own` what an operation accesses itself. -/
inductive Site
  | commandIdle | interruptRq | debug | fifoWrite | command | fifoLength | fifoRead
  | timerClock | timerControl | timerOrs
  | interruptEn | primaryStatus | errorFlag | interrupts | timedOut | idle | received
  | own
  deriving DecidableEq

section Transceive

variable {σ : Type} (t : Site → Transport σ)

def rc632TimerSetAt (undef : UInt8) (timeout : Nat) : Exec σ Unit := do
  let timeout := timeout * timerRelaxFactor % 2 ^ 64
  let (prescaler, divisor) := bestPrescaler undef timeout
  (t .timerClock).write regTimerClock (prescaler &&& 0x1f)
  let _ ← (t .timerControl).regWrite regTimerControl (tmrStartTxEnd ||| tmrStopRxBegin)
  let ret ← rc632ClearIrqs (t .timerOrs).toBus irqTimer
  let ret' ← (t .timerOrs).regWrite regInterruptEn (irqSet ||| irqTimer)
  let ret'' ← (t .timerOrs).regWrite regTimerReload divisor
  Exec.check (Int.lor (Int.lor ret ret') ret'')

def rc632WaitIdlePollAt : Exec σ (Option Unit) := do
  let (_, stat) ← (t .primaryStatus).regRead regPrimaryStatus
  Exec.when (stat &&& statErr ≠ 0) do
    let err ← (t .errorFlag).read regErrorFlag
    Exec.when (err &&& (errFlagColErr ||| errFlagParityErr ||| errFlagFramingErr) ≠ 0)
      (Exec.fail (- eIO))
  Exec.when (stat &&& statIrq ≠ 0) do
    let irq ← (t .interrupts).read regInterruptRq
    Exec.when (irq &&& irqTimer ≠ 0 ∧ irq &&& irqRx = 0) do
      let _ ← rc632ClearIrqs (t .timedOut).toBus irqTimer
      Exec.fail (-eTimedOut)
  let cmd ← (t .idle).read regCommand
  if cmd = 0 then
    let _ ← rc632ClearIrqs (t .received).toBus irqRx
    pure (some ())
  else pure none

def rc632WaitIdleLoopAt : Nat → Exec σ Unit
  | 0 => Exec.hang
  | fuel + 1 => do
    match ← rc632WaitIdlePollAt t with
    | some () => pure ()
    | none => rc632WaitIdleLoopAt fuel

def rc632WaitIdleTimerAt (fuel : Nat) : Exec σ Unit := do
  let _ ← (t .interruptEn).read regInterruptEn
  (t .interruptEn).write regInterruptEn (irqSet ||| irqTimer ||| irqIdle ||| irqRx)
  rc632WaitIdleLoopAt t fuel

def rc632TransmitLoopAt (tx : Mem UInt8) (txLen : UInt8) : Nat → Int → Int → Exec σ Unit
  | 0, _, _ => Exec.hang
  | fuel + 1, off, cur => do
    let ret ← (t .fifoWrite).fifoWrite (tx.load off (cur % 256).toNat) 0x03
    Exec.check ret
    Exec.when (off = 0) ((t .command).write regCommand cmdTransceive)
    let off := off + cur
    if off < txLen.toNat then
      let fifoFill ← (t .fifoLength).read regFifoLength
      let cur : Int := 64 - fifoFill.toNat
      if cur = 0 then pure () else rc632TransmitLoopAt tx txLen fuel off cur
    else pure ()

def rc632ExchangeAt (undef : UInt8) (fuel : Nat) (tx : Mem UInt8) (txLen : UInt8) (timer : Nat) :
    Exec σ UInt8 := do
  let cur : Nat := if txLen > 64 then 64 else txLen.toNat
  let _ ← (t .commandIdle).regWrite regCommand cmdIdle
  let _ ← (t .interruptRq).regWrite regInterruptRq 0x7f
  let _ ← (t .debug).regRead regPrimaryStatus
  let _ ← (t .debug).regRead regErrorFlag
  rc632TimerSetAt t undef timer
  rc632TransmitLoopAt t tx txLen fuel 0 cur
  rc632WaitIdleTimerAt t fuel
  (t .fifoLength).read regFifoLength

def rc632TransceiveAt (undef : UInt8) (fuel : Nat) (tx : Mem UInt8) (txLen rxLen : UInt8)
    (timer : Nat) : Exec σ Xfer := do
  match ← Exec.attempt (rc632ExchangeAt t undef fuel tx txLen timer) with
  | .error ret => pure ⟨ret, rxLen, []⟩
  | .ok rxAvail =>
    let rxLen := if rxLen > rxAvail then rxAvail else rxLen
    if rxAvail = 0 then
      let _ ← (t .debug).regRead regPrimaryStatus
      let _ ← (t .debug).regRead regErrorFlag
      let _ ← (t .debug).regRead regChannelRedundancy
      pure ⟨- eIO, rxLen, []⟩
    else
      let (ret, rx) ← (t .fifoRead).fifoRead rxLen
      pure ⟨ret, rxLen, rx⟩

def asicAt (undef : UInt8) (fuel : Nat) : Asic σ where
  toBus := (t .own).toBus
  transceive := rc632TransceiveAt t undef fuel

def mifareAt (undef : UInt8) (fuel : Nat) : MifareAsic σ where
  toTransport := t .own
  timerSet := rc632TimerSetAt t undef
  waitIdleTimer := rc632WaitIdleTimerAt t fuel

end Transceive

inductive Operation
  | iso14443ab | iso14443aSf | iso14443aAcf | iso15693Ac | mifareSetKey | mifareAuth | iso14443aSetSpeed
  deriving DecidableEq

inductive ChipCall
  | ab (frametype : RfidFrametype) (tx : Mem UInt8) (txLen : Nat) (rx : Mem UInt8) (rxLen timeout : Nat)
  | sf (cmd : UInt8) (atqa : Mem UInt8)
  | acf (cmd : Mem UInt8)
  | ac (cmd : Mem UInt8) (acfLen rxLen : Nat) (bitOfCol : UInt8)
  | setKey (key : Mem UInt8)
  | auth (cmd : UInt8) (serno : UInt32) (block : UInt8)
  | setSpeed (tx : Bool) (rate : Nat)

def ChipCall.operation : ChipCall → Operation
  | ab .. => .iso14443ab
  | sf .. => .iso14443aSf
  | acf _ => .iso14443aAcf
  | ac .. => .iso15693Ac
  | setKey _ => .mifareSetKey
  | auth .. => .mifareAuth
  | setSpeed .. => .iso14443aSetSpeed

def retOf {σ : Type} (x : Exec σ Unit) : Exec σ Int := do
  match ← Exec.attempt x with
  | .ok () => pure 0
  | .error ret => pure ret

theorem retOf_mimics {τ σ : Type} {R : τ → σ → Prop} {x : Exec τ Unit} {y : Exec σ Unit}
    (h : Mimics R x y Eq) : Mimics R (retOf x) (retOf y) Eq :=
  .bind_eq h.attempt_eq fun o => by
    cases o with
    | error => exact .pure rfl
    | ok => exact .pure rfl

/-- `undef` is what `best_divisor` holds before anything is written to it, `rxPast` and `txPast` what
lies behind the two arrays of rates. -/
structure Ambient where
  undef : UInt8
  fuel : Nat
  rxPast : RxConfig
  txPast : TxConfig

section

variable {σ : Type}

def ChipCall.run (a : Asic σ) (k : MifareAsic σ) (e : Ambient) : ChipCall → Exec σ Int
  | ab frametype tx txLen rx rxLen timeout => do
    let x ← rc632Iso14443abTransceive a frametype tx txLen rx rxLen timeout
    pure x.ret
  | sf cmd atqa => do
    let x ← rc632Iso14443aTransceiveSf a cmd atqa
    pure x.ret
  | acf cmd => do
    let x ← rc632Iso14443aTransceiveAcf a cmd
    pure x.ret
  | ac cmd acfLen rxLen bitOfCol => do
    let x ← rc632Iso15693TransceiveAc a cmd acfLen rxLen bitOfCol
    pure x.ret
  | setKey key => retOf (rc632MifareSetKey k key)
  | auth cmd serno block => retOf (rc632MifareAuth k cmd serno block)
  | setSpeed tx rate => retOf (rc632Iso14443aSetSpeed a.toBus e.rxPast e.txPast tx rate)

def ChipCall.runAt (c : ChipCall) (t : Site → Transport σ) (e : Ambient) : Exec σ Int :=
  c.run (asicAt t e.undef e.fuel) (mifareAt t e.undef e.fuel) e

end

end Librfid.Rc632
