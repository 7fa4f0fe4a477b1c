import Librfid.Rc632.Driver

namespace Librfid.Rc632

def regSecondaryStatus : UInt8 := 0x05

def cmdAuthent1 : UInt8 := 0x0c
def cmdAuthent2 : UInt8 := 0x14
def cmdLoadKey : UInt8 := 0x19

def errFlagKeyErr : UInt8 := 0x40

def cmdMifareAuth1a : UInt8 := 0x60
def cmdMifareAuth1b : UInt8 := 0x61

def rc632TmoAuth1 : Nat := 140

structure MifareAsic (σ : Type) extends Transport σ where
  timerSet : Nat → Exec σ Unit
  waitIdleTimer : Exec σ Unit

def Transport.mifare {σ : Type} (t : Transport σ) (undef : UInt8) (fuel : Nat) : MifareAsic σ where
  toTransport := t
  timerSet := rc632TimerSet t.toBus undef
  waitIdleTimer := rc632WaitIdleTimer t.toBus fuel

/-- `key12`: each nibble behind its complement, the high one first. -/
def rc632MifareTransformKey (key6 : Mem UInt8) : List UInt8 :=
  (key6.load 0 6).flatMap fun k : UInt8 =>
    let ln := k &&& 0x0f
    let hn := k >>> 4
    [(~~~hn <<< 4) ||| hn, (~~~ln <<< 4) ||| ln]

def mifareAuthcmd (authCmd blockAddress : UInt8) (serno : UInt32) : List UInt8 :=
  [authCmd, blockAddress, serno.toUInt8, (serno >>> 8).toUInt8, (serno >>> 16).toUInt8,
    (serno >>> 24).toUInt8]

section

variable {σ : Type} (a : MifareAsic σ)

def rc632MifareSetKey (key : Mem UInt8) : Exec σ Unit := do
  a.write regCommand cmdIdle
  let ret ← a.fifoWrite (rc632MifareTransformKey key) 0x03
  Exec.check ret
  a.write regCommand cmdLoadKey
  a.timerSet rc632TmoAuth1
  a.waitIdleTimer
  let reg ← a.read regErrorFlag
  Exec.when (reg &&& errFlagKeyErr ≠ 0) (Exec.fail (-eInval))

def rc632MifareAuth (cmd : UInt8) (serno : UInt32) (block : UInt8) : Exec σ Unit :=
  if cmd ≠ cmdMifareAuth1a ∧ cmd ≠ cmdMifareAuth1b then Exec.fail (-eInval)
  else do
    let ret ← rc632ClearBits a.toBus regChannelRedundancy crRxCrcEnable
    Exec.check ret
    let ret ← a.fifoWrite (mifareAuthcmd cmd block serno) 0x03
    Exec.check ret
    a.write regCommand cmdAuthent1
    a.timerSet rc632TmoAuth1
    a.waitIdleTimer
    let reg ← a.read regSecondaryStatus
    Exec.when (reg &&& 0x07 ≠ 0) (Exec.fail (- eIO))
    let ret ← rc632ClearBits a.toBus regChannelRedundancy crTxCrcEnable
    Exec.check ret
    a.timerSet rc632TmoAuth1
    a.write regCommand cmdAuthent2
    a.waitIdleTimer
    let reg ← a.read regControl
    Exec.when (reg &&& controlCrypto1On = 0) (Exec.fail (-eAcces))

end

end Librfid.Rc632
