import Librfid.Rc632.Reader
import Librfid.Rc632.Mifare

/-! Switching the chip and its field on and off, the configurations of all layers, and the options
of the reader: the rest of the driver's table in `rfid_asic_rc632.c`, and what
`rfid_reader_rc632_common.c` puts over it. -/

namespace Librfid.Rc632

def regPage0 : UInt8 := 0x00

def cmdLoadKeyE2 : UInt8 := 0x0b

def controlPowerdown : UInt8 := 0x10

def cdrctrlTxcdNrz : UInt8 := 0x00
def cdrctrlTxcdIcodeStd : UInt8 := 0x04
def cdrctrlTxcd15693Fast : UInt8 := 0x07
def cdrctrlRate14443b : UInt8 := 0x20
def cdrctrlRate15693 : UInt8 := 0x28

def tbframingSof11l3h : UInt8 := 0x03
def tbframingSpaceShift : UInt8 := 2
def tbframingEof11 : UInt8 := 0x20

def rxctrl1Iso15693 : UInt8 := 0x08
def rxctrl1Subcp16 : UInt8 := 0x80

def decctrlRxInvert : UInt8 := 0x04
def decctrlRxfrIcode : UInt8 := 0x00
def decctrlRxfr15693 : UInt8 := 0x10
def decctrlRxfr14443b : UInt8 := 0x18
def decctrlZeroaftercol : UInt8 := 0x20

def bpskdTaubShift : UInt8 := 0x00
def bpskdTaubMask : UInt8 := 0x03
def bpskdTaudShift : UInt8 := 0x02
def bpskdTaudMask : UInt8 := 0x03
def bpskdFilterAmpDetect : UInt8 := 0x10
def bpskdNoRxEof : UInt8 := 0x20
def bpskdNoRxEgt : UInt8 := 0x40

def rxctrl2AutoPd : UInt8 := 0x40

def cm512114443bBitphase : UInt8 := 0xad
def cm512114443bThreshold : UInt8 := 0xff

def iso15693FastScript : List (UInt8 × UInt8) := [
  (regTxControl, txctrlModSrcInt ||| txctrlTx2Inv ||| txctrlTx2RfEn ||| txctrlTx1RfEn),
  (regCwConductance, 0x3f),
  (regModConductance, 0x21),
  (regCoderControl, cdrctrlTxcd15693Fast ||| cdrctrlRate15693),
  (regModWidth, 0x3f),
  (regModWidthSof, 0x3f),
  (regTypeBFraming, 0x00),
  (regRxControl1, rxctrl1Iso15693 ||| rxctrl1Subcp16 ||| rxctrl1Gain35db),
  (regRxControl2, rxctrl2DecsrcInt),
  (regDecoderControl, decctrlManchester ||| decctrlRxInvert ||| decctrlZeroaftercol
    ||| decctrlRxfr15693),
  (regBitPhase, 0xd0),
  (regRxThreshold, 0xed),
  (regBpskDemControl, 0x00),
  (regChannelRedundancy, crRxCrcEnable ||| crTxCrcEnable ||| crCrc3309),
  (regCrcPresetLsb, 0xff),
  (regCrcPresetMsb, 0xff)]

def icode1StdScript : List (UInt8 × UInt8) := [
  (regTxControl, txctrlModSrcInt ||| txctrlTx2Inv ||| txctrlTx2RfEn ||| txctrlTx1RfEn),
  (regCwConductance, 0x3f),
  (regModConductance, 0x02),
  (regCoderControl, cdrctrlTxcdIcodeStd ||| cdrctrlRate15693),
  (regModWidth, 0x3f),
  (regModWidthSof, 0x3f),
  (regTypeBFraming, 0x00),
  (regRxControl1, rxctrl1Iso15693 ||| rxctrl1Subcp16 ||| rxctrl1Gain35db),
  (regRxControl2, rxctrl2DecsrcInt),
  (regDecoderControl, decctrlManchester ||| decctrlRxfrIcode),
  (regBitPhase, 0x52),
  (regRxThreshold, 0x66),
  (regBpskDemControl, 0x00),
  (regChannelRedundancy, crRxCrcEnable ||| crTxCrcEnable),
  (regCrcPresetLsb, 0xfe),
  (regCrcPresetMsb, 0xff)]

section

variable {σ : Type} (b : Bus σ)

def rc632RfPower (on : Bool) : Exec σ Int :=
  if on then rc632SetBits b regTxControl (txctrlTx1RfEn ||| txctrlTx2RfEn)
  else rc632ClearBits b regTxControl (txctrlTx1RfEn ||| txctrlTx2RfEn)

def rc632Power (on : Bool) : Exec σ Int :=
  if on then rc632ClearBits b regControl controlPowerdown
  else rc632SetBits b regControl controlPowerdown

def rc632Init : Exec σ Unit := do
  let ret ← rc632Power b false
  Exec.check ret
  let ret ← rc632Power b true
  Exec.check ret
  -- no register paging
  b.write regPage0 0x00
  b.write 0x11 0x5b
  let ret ← rc632RfPower b false
  Exec.check ret
  let ret ← rc632RfPower b true
  Exec.check ret

def rc632Fini : Exec σ Unit := do
  let ret ← rc632RfPower b false
  Exec.check ret
  let ret ← rc632Power b false
  Exec.check ret

def rc632Iso14443bInit : Exec σ Unit := do
  b.write regControl controlFifoFlush
  b.write regTxControl (txctrlTx1RfEn ||| txctrlTx2RfEn ||| txctrlTx2Inv ||| txctrlModSrcInt)
  b.write regCwConductance 0x3f
  b.write regModConductance 0x04
  b.write regCoderControl (cdrctrlTxcdNrz ||| cdrctrlRate14443b)
  b.write regModWidth 0x13
  b.write regModWidthSof 0x3f
  b.write regTypeBFraming (tbframingSof11l3h ||| (6 <<< tbframingSpaceShift) ||| tbframingEof11)
  b.write regRxControl1 (rxctrl1Gain35db ||| rxctrl1Iso14443 ||| rxctrl1Subcp8)
  b.write regDecoderControl (decctrlBpsk ||| decctrlRxfr14443b)
  b.write regBitPhase cm512114443bBitphase
  b.write regRxThreshold cm512114443bThreshold
  b.write regBpskDemControl ((0x2 &&& bpskdTaubMask) <<< bpskdTaubShift |||
    (0x3 &&& bpskdTaudMask) <<< bpskdTaudShift ||| bpskdFilterAmpDetect ||| bpskdNoRxEof |||
    bpskdNoRxEgt)
  b.write regRxControl2 (rxctrl2AutoPd ||| rxctrl2DecsrcInt)
  b.write regRxWait 0x03
  b.write regChannelRedundancy (crTxCrcEnable ||| crRxCrcEnable ||| crCrc3309)
  b.write regCrcPresetLsb 0xff
  b.write regCrcPresetMsb 0xff

def rc632Iso15693Init : Exec σ Unit := do
  b.write regControl controlFifoFlush
  rc632ExecuteScript b iso15693FastScript

def rc632Iso15693Icode1Init : Exec σ Unit := rc632ExecuteScript b icode1StdScript

def rc632Layer2Init : Layer2Id → Exec σ Unit
  | .iso14443a => rc632Iso14443aInit b
  | .iso14443b => rc632Iso14443bInit b
  | .iso15693 => rc632Iso15693Init b
  | .icode1 => rc632Iso15693Icode1Init b
  | .none => Exec.fail (-eInval)

def rfidOptRdrRfKill : Nat := 0x0002

/-- `optval` is null or points to `optlen` bytes, of which the first four are the number. -/
def rdrRc632Setopt (optname : Nat) (optval : Option UInt32) (optlen : Nat) : Exec σ Int :=
  match optval with
  | none => pure (-eInval)
  | some val =>
    if optlen < 4 then pure (-eInval)
    else if optname = rfidOptRdrRfKill then
      if val ≠ 0 then rc632RfPower b false else rc632RfPower b true
    else pure (-eInval)

end

section

variable {σ : Type} (a : MifareAsic σ)

def rfidMifareKeyCodedLen : Nat := 12

def rc632MifareSetKeyEe (addr : Nat) : Exec σ Unit :=
  if addr > 0xffff - rfidMifareKeyCodedLen then Exec.fail (-eInval)
  else do
    a.write regCommand cmdIdle
    let ret ← a.fifoWrite [UInt8.ofNat addr, UInt8.ofNat (addr >>> 8)] 0x03
    Exec.check ret
    a.write regCommand cmdLoadKeyE2
    a.timerSet rc632TmoAuth1
    a.waitIdleTimer
    let reg ← a.read regErrorFlag
    Exec.when (reg &&& errFlagKeyErr ≠ 0) (Exec.fail (-eInval))

end

end Librfid.Rc632
