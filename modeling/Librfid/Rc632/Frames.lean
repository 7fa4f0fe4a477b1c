import Librfid.Rc632.Driver

/-! The frames of `rfid_asic_rc632.c`, over any `rc632_transceive`: short frames, regular
frames and bit-oriented anticollision frames, and the configuration they rely on. -/

namespace Librfid.Rc632

structure Asic (σ : Type) extends Bus σ where
  transceive : Mem UInt8 → UInt8 → UInt8 → Nat → Exec σ Xfer

def Transport.asic {σ : Type} (t : Transport σ) (undef : UInt8) (fuel : Nat) : Asic σ where
  toBus := t.toBus
  transceive := rc632Transceive t undef fuel

def iso14443aFdtAnticolLast1 : Nat := 92
def iso14443aBitOfColNone : Nat := 0xffffffff

section

variable {σ : Type} (a : Asic σ)

structure SfResult where
  ret : Int
  atqa : Mem UInt8

def rc632Iso14443aConfigSf : Exec σ Unit := do
  let ret ← rc632ClearBits a.toBus regControl controlCrypto1On
  Exec.check ret
  let ret ← rc632ClearBits a.toBus regChannelRedundancy (crRxCrcEnable ||| crTxCrcEnable)
  Exec.check ret

def rc632Iso14443aPrepareSf : Exec σ Unit := do
  a.write regBitFraming 0x07
  rc632Iso14443aConfigSf a

def rc632Iso14443aFinishSf : Exec σ Unit := do
  a.write regBitFraming 0x00
  let errorFlag ← a.read regErrorFlag
  Exec.when (errorFlag &&& errFlagColErr ≠ 0) do
    let _ ← a.read regCollPos
    pure ()

def rc632Iso14443aTransceiveSf (cmd : UInt8) (atqa : Mem UInt8) : Exec σ SfResult := do
  let atqa := atqa.store 0 [0, 0]
  match ← Exec.attempt (rc632Iso14443aPrepareSf a) with
  | .error ret => pure ⟨ret, atqa⟩
  | .ok () =>
    let x ← a.transceive (Mem.ofList (fun _ => 0) [cmd]) 1 2 iso14443aFdtAnticolLast1
    let atqa := atqa.store 0 x.rx
    if x.ret < 0 then pure ⟨x.ret, atqa⟩
    else
      match ← Exec.attempt (rc632Iso14443aFinishSf a) with
      | .error ret => pure ⟨ret, atqa⟩
      | .ok () => if x.rxLen ≠ 2 then pure ⟨-1, atqa⟩ else pure ⟨0, atqa⟩

structure AbResult where
  ret : Int
  rxLen : Nat
  rx : Mem UInt8

def channelRed : RfidFrametype → Option UInt8
  | .iso14443aFrameRegular | .mifareFrame =>
    some (crRxCrcEnable ||| crTxCrcEnable ||| crParityEnable ||| crParityOdd)
  | .iso14443bFrameRegular => some (crRxCrcEnable ||| crTxCrcEnable ||| crCrc3309)
  | .iso15693Frame => some (crCrc3309 ||| crRxCrcEnable ||| crTxCrcEnable)
  | .iso15693FrameIcode1 => none

def rc632Iso14443abTransceive (frametype : RfidFrametype) (tx : Mem UInt8) (txLen : Nat)
    (rx : Mem UInt8) (rxLen : Nat) (timeout : Nat) : Exec σ AbResult := do
  let rxl : UInt8 := if rxLen > 0xff then 0xff else UInt8.ofNat rxLen
  let rx := rx.store 0 (List.replicate rxLen 0)
  match channelRed frametype with
  | none => pure ⟨-eInval, rxLen, rx⟩
  | some channelRed =>
    match ← Exec.attempt (a.write regChannelRedundancy channelRed) with
    | .error ret => pure ⟨ret, rxLen, rx⟩
    | .ok () =>
      let x ← a.transceive tx (UInt8.ofNat txLen) rxl timeout
      pure ⟨if x.ret < 0 then x.ret else 0, x.rxLen.toNat, rx.store 0 x.rx⟩

/-- The return value, the seven bytes at `acf` and `*bit_of_col`. -/
structure AcfResult where
  ret : Int
  acf : Mem UInt8
  bitOfCol : Nat

def acfTxLastBits (acf : Mem UInt8) : UInt8 := acf 1 &&& 0x07

def acfTxBytes (acf : Mem UInt8) : UInt8 := acf 1 >>> 4 &&& 0x07

def acfTxBytesTotal (acf : Mem UInt8) : UInt8 :=
  if acfTxLastBits acf ≠ 0 then acfTxBytes acf + 1 else acfTxBytes acf

def acfUidBits : Int := 2

def rc632Iso14443aPrepareAcf (acf : Mem UInt8) : Exec σ Unit := do
  let ret ← rc632ClearBits a.toBus regControl controlCrypto1On
  Exec.check ret
  -- the same bit twice, as the source has it
  let ret ← rc632ClearBits a.toBus regChannelRedundancy (crTxCrcEnable ||| crTxCrcEnable)
  Exec.check ret
  let txLastBits := acfTxLastBits acf
  let rxAlign := if txLastBits ≠ 0 then txLastBits &&& 0x07 else 0
  a.write regBitFraming (rxAlign <<< 4 ||| txLastBits)

def acfMerge (acf : Mem UInt8) (x : Xfer) : Mem UInt8 :=
  let rxBuf : Mem UInt8 := Mem.ofList (fun _ => 0) x.rx
  let p : Int := acfUidBits + ((acfTxBytes acf).toNat - 2 : Int)
  let mask := UInt8.ofNat (0xff >>> (8 - (acfTxLastBits acf).toNat))
  let acf := acf.set p (acf p &&& mask ||| rxBuf 0)
  if x.rxLen ≠ 0 then acf.store (p + 1) (rxBuf.load 1 (x.rxLen.toNat - 1)) else acf

/-- `*bit_of_col`, relative to the start of the frame. -/
def rc632Iso14443aBitOfCol : Exec σ Nat := do
  let errorFlag ← a.read regErrorFlag
  if errorFlag &&& errFlagColErr ≠ 0 then
    let boc ← a.read regCollPos
    pure (2 * 8 + boc.toNat)
  else pure iso14443aBitOfColNone

def rc632Iso14443aTransceiveAcf (acf : Mem UInt8) : Exec σ AcfResult := do
  match ← Exec.attempt (rc632Iso14443aPrepareAcf a acf) with
  | .error ret => pure ⟨ret, acf, iso14443aBitOfColNone⟩
  | .ok () =>
    let x ← a.transceive acf (acfTxBytesTotal acf) 64 0x32
    if x.ret < 0 then pure ⟨x.ret, acf, iso14443aBitOfColNone⟩
    else
      let acf := acfMerge acf x
      match ← Exec.attempt (rc632Iso14443aBitOfCol a) with
      | .error ret => pure ⟨ret, acf, iso14443aBitOfColNone⟩
      | .ok boc => pure ⟨0, acf, boc⟩

/-- The return value, `*rx_len`, the bytes stored at `resp` and `*bit_of_col`. -/
structure AcResult where
  ret : Int
  rxLen : Nat
  resp : List UInt8
  bitOfCol : UInt8

def rfid15693FRateHigh : UInt8 := 0x02

def iso15693TimingT1 (fast : Bool) : Nat := if fast then 304 else 1216

/-- `rx_len` is passed on as a pointer to its low byte. -/
def rc632Iso15693TransceiveAc (acf : Mem UInt8) (acfLen rxLen : Nat) (bitOfCol : UInt8) :
    Exec σ AcResult := do
  let fast : Bool := acf 0 &&& rfid15693FRateHigh ≠ 0
  let x ← a.transceive acf (UInt8.ofNat acfLen) (UInt8.ofNat rxLen) (iso15693TimingT1 fast)
  let rxLen := rxLen - rxLen % 256 + x.rxLen.toNat
  if x.ret = -eTimedOut ∨ x.ret = - eIO then pure ⟨x.ret, rxLen, x.rx, bitOfCol⟩
  else
    match ← Exec.attempt (a.read regErrorFlag) with
    | .error ret => pure ⟨ret, rxLen, x.rx, bitOfCol⟩
    | .ok errorFlag =>
      if errorFlag &&& errFlagColErr ≠ 0 then
        match ← Exec.attempt (a.read regCollPos) with
        | .error ret => pure ⟨ret, rxLen, x.rx, bitOfCol⟩
        | .ok boc => pure ⟨0, rxLen, x.rx, boc⟩
      else if errorFlag &&& errFlagCrcErr ≠ 0 then pure ⟨- eIO, rxLen, x.rx, 0⟩
      else pure ⟨0, rxLen, x.rx, 0⟩

end

end Librfid.Rc632
