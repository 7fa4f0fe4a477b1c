import Librfid.Rc632.Driver

namespace Librfid.Rc632

def iso14443aScript : List (UInt8 × UInt8) := [
  (regTxControl, txctrlModSrcInt ||| txctrlTx2Inv ||| txctrlForce100Ask ||| txctrlTx2RfEn
    ||| txctrlTx1RfEn),
  (regCwConductance, cm5121CwConductance),
  (regModConductance, cm5121ModConductance),
  (regCoderControl, cdrctrlTxcd14443a ||| cdrctrlRate106k),
  (regModWidth, 0x13),
  (regModWidthSof, 0x3f),
  (regTypeBFraming, 0x00),
  (regRxControl1, rxctrl1Gain35db ||| rxctrl1Iso14443 ||| rxctrl1Subcp8),
  (regDecoderControl, decctrlManchester ||| decctrlRxfr14443a),
  (regBitPhase, cm512114443aBitphase),
  (regRxThreshold, cm512114443aThreshold),
  (regBpskDemControl, 0x00),
  (regRxControl2, rxctrl2DecsrcInt ||| rxctrl2ClkQ),
  (regRxWait, 0x06),
  (regChannelRedundancy, crParityEnable ||| crParityOdd),
  (regCrcPresetLsb, 0x63),
  (regCrcPresetMsb, 0x63)]

structure RxConfig where
  subcPulses : UInt8
  rxCoding : UInt8
  rxThreshold : UInt8
  bpskDemCtrl : UInt8

structure TxConfig where
  rate : UInt8
  modWidth : UInt8

def rxConfigs : List RxConfig := [
  ⟨rxctrl1Subcp8, decctrlManchester, 0x88, 0x00⟩,
  ⟨rxctrl1Subcp4, decctrlBpsk, 0x50, 0x0c⟩,
  ⟨rxctrl1Subcp2, decctrlBpsk, 0x50, 0x0c⟩,
  ⟨rxctrl1Subcp1, decctrlBpsk, 0x50, 0x0c⟩]

def txConfigs : List TxConfig := [
  ⟨cdrctrlRate106k, 0x13⟩,
  ⟨cdrctrlRate212k, 0x07⟩,
  ⟨cdrctrlRate424k, 0x03⟩,
  ⟨cdrctrlRate848k, 0x01⟩]

section

variable {σ : Type} (b : Bus σ)

def rc632Iso14443aInit : Exec σ Unit := do
  let _ ← b.regWrite regControl controlFifoFlush
  rc632ExecuteScript b iso14443aScript

/-- `rate = 4` passes the range check: what lies behind the arrays is `rxPast` and
`txPast`. -/
def rc632Iso14443aSetSpeed (rxPast : RxConfig) (txPast : TxConfig) (tx : Bool) (rate : Nat) :
    Exec σ Unit :=
  if !tx then
    if rate > rxConfigs.length then Exec.fail (-eInval)
    else do
      let cfg := rxConfigs.getD rate rxPast
      let rc ← rc632SetBitMask b regRxControl1 rxctrl1SubcpMask cfg.subcPulses
      Exec.check rc
      let rc ← rc632SetBitMask b regDecoderControl decctrlBpsk cfg.rxCoding
      Exec.check rc
      b.write regRxThreshold cfg.rxThreshold
      Exec.when (cfg.rxCoding = decctrlBpsk) (b.write regBpskDemControl cfg.bpskDemCtrl)
  else
    if rate > txConfigs.length then Exec.fail (-eInval)
    else do
      let cfg := txConfigs.getD rate txPast
      let rc ← rc632SetBitMask b regCoderControl cdrctrlRateMask cfg.rate
      Exec.check rc
      b.write regModWidth cfg.modWidth

end

end Librfid.Rc632
