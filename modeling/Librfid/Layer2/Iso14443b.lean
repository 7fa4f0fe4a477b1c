import Librfid.Iso14443Common
import Librfid.Layer2.Iso14443a

/-! ISO 14443-3 Type B: `rfid_layer2_iso14443b.c`. -/

namespace Librfid.Layer2

open Rc632 Exec

inductive Iso14443bState
  | error | none | reqbSent | atqbRcvd | attribSent | selected | hltbSent | halted
  deriving DecidableEq

def iso14443bCidSupported : UInt32 := 0x01
def iso14443bNadSupported : UInt32 := 0x02

structure Iso14443bHandle where
  uid : Mem UInt8
  uidLen : Nat
  protoSupported : Nat
  tclCapable : Nat
  cid : Nat
  fsc : Nat
  fsd : Nat
  fwt : Nat
  mbl : Nat
  tr0 : Nat
  tr1 : Nat
  flags : UInt32
  state : Iso14443bState

structure Iso14443bReader (σ : Type) where
  transceive : RfidFrametype → Mem UInt8 → Nat → Mem UInt8 → Nat → Nat → Exec σ AbResult
  init : Exec σ Unit
  ah : AsicHandle

/-- `fwt` is not stored to: the time is the return value. -/
def fwiToFwt (fc fwi : Nat) : Int :=
  if fwi > 14 then -1 else (4096000000 / fc * 2 ^ fwi : Int).bmod (2 ^ 32)

def atqbSize : Nat := 12

def atqbProtocolType (atqb : Mem UInt8) : UInt8 := atqb 10 &&& 0x0f
def atqbMaxFrameSize (atqb : Mem UInt8) : UInt8 := atqb 10 >>> 4
def atqbFo (atqb : Mem UInt8) : UInt8 := atqb 11 &&& 0x03
def atqbFwi (atqb : Mem UInt8) : UInt8 := atqb 11 >>> 4

def atqbOptions (atqb : Mem UInt8) (h : Iso14443bHandle) : Iso14443bHandle :=
  let h := if atqbFo atqb &&& 0x01 ≠ 0 then { h with flags := h.flags ||| iso14443bCidSupported }
    else h
  if atqbFo atqb &&& 0x02 ≠ 0 then { h with flags := h.flags ||| iso14443bNadSupported } else h

def atqbProtocol (atqb : Mem UInt8) (h : Iso14443bHandle) : Iso14443bHandle :=
  if atqbProtocolType atqb = 0x1 then { h with tclCapable := 1, protoSupported := 1 <<< protocolTcl }
  else { h with tclCapable := 0 }

/-- A frame size code that is refused leaves the old size. -/
def atqbFrameSize (past : Nat) (atqb : Mem UInt8) (h : Iso14443bHandle) : Iso14443bHandle :=
  match iso14443FsdiToFsd past (atqbMaxFrameSize atqb).toNat with
  | some fsc => { h with fsc := fsc }
  | none => h

def parseAtqb (ah : AsicHandle) (past : Nat) (h : Iso14443bHandle) (atqb : Mem UInt8) :
    Int × Iso14443bHandle :=
  if atqb 0 ≠ 0x50 then (-1, h)
  else
    let h := atqbOptions atqb h
    let ret := fwiToFwt ah.fc (atqbFwi atqb).toNat
    if ret < 0 then (ret, h)
    else
      let h := atqbFrameSize past atqb (atqbProtocol atqb h)
      (0, { h with uid := h.uid.store 0 (atqb.load 1 4), uidLen := 4 })

section Atqb

variable (past : Nat) (atqb : Mem UInt8) (h : Iso14443bHandle)

theorem atqbOptions_eq :
    atqbOptions atqb h = { h with flags := h.flags |||
      (if atqbFo atqb &&& 0x01 ≠ 0 then iso14443bCidSupported else 0) |||
      (if atqbFo atqb &&& 0x02 ≠ 0 then iso14443bNadSupported else 0) } := by
  unfold atqbOptions
  split_ifs <;> simp

theorem atqbProtocol_eq :
    atqbProtocol atqb h = { h with
      tclCapable := if atqbProtocolType atqb = 0x1 then 1 else 0
      protoSupported := if atqbProtocolType atqb = 0x1 then 1 <<< protocolTcl
        else h.protoSupported } := by
  unfold atqbProtocol
  split_ifs <;> rfl

theorem atqbFrameSize_eq :
    atqbFrameSize past atqb h = { h with
      fsc := (iso14443FsdiToFsd past (atqbMaxFrameSize atqb).toNat).getD h.fsc } := by
  unfold atqbFrameSize
  cases iso14443FsdiToFsd past (atqbMaxFrameSize atqb).toNat <;> rfl

theorem parseAtqb_eq (ah : AsicHandle) :
    parseAtqb ah past h atqb =
      if atqb 0 = 0x50 ∧ 0 ≤ fwiToFwt ah.fc (atqbFwi atqb).toNat then
        let h := atqbFrameSize past atqb (atqbProtocol atqb (atqbOptions atqb h))
        (0, { h with uid := h.uid.store 0 (atqb.load 1 4), uidLen := 4 })
      else if atqb 0 = 0x50 then (fwiToFwt ah.fc (atqbFwi atqb).toNat, atqbOptions atqb h)
      else (-1, h) := by
  unfold parseAtqb
  by_cases h50 : atqb 0 = 0x50
  · have hok : (atqb 0 = 0x50 ∧ 0 ≤ fwiToFwt ah.fc (atqbFwi atqb).toNat) ↔
        ¬ fwiToFwt ah.fc (atqbFwi atqb).toNat < 0 := (and_iff_right h50).trans Int.not_lt.symm
    rw [if_neg (not_not.mpr h50), if_pos h50]
    simp only [hok, ite_not]
  · rw [if_pos h50, if_neg fun hok => h50 hok.1, if_neg h50]

theorem parseAtqb_accepts_iff (ah : AsicHandle) :
    0 ≤ (parseAtqb ah past h atqb).1 ↔
      atqb 0 = 0x50 ∧ 0 ≤ fwiToFwt ah.fc (atqbFwi atqb).toNat := by
  rw [parseAtqb_eq]
  split_ifs with hok h50
  · exact iff_of_true (Int.le_refl 0) hok
  · exact ⟨fun hret => ⟨h50, hret⟩, fun hok => hok.2⟩
  · exact iff_of_false (show ¬ (0 : Int) ≤ -1 by decide) hok

end Atqb

/-- `2 ^ (mbli-1)` is an exclusive or, of the product before it. -/
def mbliToMbl (h : Iso14443bHandle) (mbli : Nat) : Nat :=
  h.fsc * 2 % 2 ^ 32 ^^^ u32Sub mbli 1

def attribFrame (h : Iso14443bHandle) (fsdi : UInt8) (inf : List UInt8) : List UInt8 :=
  0x1d :: h.uid.load 0 4 ++
    [0x00, fsdi &&& 0x0f, if h.tclCapable = 1 then 0x01 else 0x00,
      UInt8.ofNat (h.cid &&& 0xf)] ++ inf

/-- The return value, what is at `rx_data`, and `*rx_len`. -/
structure AttribResult where
  ret : Int
  rxData : Mem UInt8
  rxLen : Nat

section

variable {σ : Type} (r : Iso14443bReader σ) (past : Nat)

abbrev Iso14443bM (σ : Type) := Exec (σ × Iso14443bHandle)

def setStateB (state : Iso14443bState) : Iso14443bM σ Unit := modify fun h => { h with state := state }

/-- The slots that are left; `atqb_len` is not set again between them. -/
def sendReqbSlots (afi : UInt8) (isWup : Bool) :
    List Nat → Mem UInt8 → Nat → Iso14443bM σ Int
  | [], _, _ => pure (-1)
  | slot :: slots, atqb, atqbLen => do
    let param := UInt8.ofNat (slot &&& 0x07)
    let param := if isWup then param ||| 0x08 else param
    let reqb := Mem.ofList (fun _ => 0) [0x05, afi, param]
    let x ← lift (r.transceive .iso14443bFrameRegular reqb 3 atqb atqbLen 1)
    setStateB .reqbSent
    if x.ret < 0 then sendReqbSlots afi isWup slots x.rx x.rxLen
    else if x.rxLen ≠ atqbSize then sendReqbSlots afi isWup slots x.rx x.rxLen
    else do
      let h ← get
      let (ret, h) := parseAtqb r.ah past h x.rx
      modify fun _ => h
      if ret ≥ 0 then
        setStateB .atqbRcvd
        pure 0
      else sendReqbSlots afi isWup slots x.rx x.rxLen

def sendReqb (stack : Mem UInt8) (afi : UInt8) (isWup : Bool) (numInitialSlots : Nat) :
    Iso14443bM σ Int :=
  sendReqbSlots r past afi isWup (List.range' numInitialSlots (5 - numInitialSlots)) stack atqbSize

/-- `transceive_attrib`, once the frame size has a code. -/
def attribTransmit (stack : Mem UInt8) (inf : List UInt8) (rxData : Mem UInt8) (rxLen : Nat)
    (h : Iso14443bHandle) (fsdi : UInt8) : Iso14443bM σ AttribResult := do
  let frame := attribFrame h fsdi inf
  let x ← lift (r.transceive .iso14443bFrameRegular (Mem.ofList (fun _ => 0) frame) frame.length
    stack ((rxLen + 1) % 2 ^ 32) h.fwt)
  setStateB .attribSent
  if x.ret < 0 then pure ⟨x.ret, rxData, x.rxLen⟩
  else if (x.rx 0 &&& 0x0f).toNat ≠ h.cid then pure ⟨-1, rxData, x.rxLen⟩
  else
    setStateB .selected
    -- the caller's buffer, not the answer
    modify fun h => { h with mbl := mbliToMbl h ((rxData 0 &&& 0xf0) >>> 4).toNat }
    let rxLen := u32Sub x.rxLen 1
    pure ⟨x.ret, rxData.store 0 (x.rx.load 1 rxLen), rxLen⟩

/-- `transceive_attrib` behind its guard. -/
def attribCode (stack : Mem UInt8) (inf : List UInt8) (rxData : Mem UInt8) (rxLen : Nat) :
    Iso14443bM σ AttribResult := do
  let h ← get
  match iso14443FsdToFsdi h.fsd with
  | none => pure ⟨-1, rxData, rxLen⟩
  | some fsdi => attribTransmit r stack inf rxData rxLen h fsdi

/-- `rxLenPtr` is the address of `*rx_len`, counted in objects of its type: the guard compares it
with the address before it. -/
def transceiveAttrib (stack : Mem UInt8) (inf : List UInt8) (rxData : Mem UInt8)
    (rxLenPtr rxLen : Nat) : Iso14443bM σ AttribResult :=
  if rxLenPtr ≥ rxLenPtr - 1 then pure ⟨-eInval, rxData, rxLen⟩
  else attribCode r stack inf rxData rxLen

def iso14443bHltb (stack : Mem UInt8) : Iso14443bM σ Int := do
  let h ← get
  let hltb := Mem.ofList (fun _ => 0) (0x50 :: h.uid.load 0 4)
  let x ← lift (r.transceive .iso14443bFrameRegular hltb 5 stack 1 h.fwt)
  setStateB .hltbSent
  if x.ret < 0 then pure x.ret
  else if x.rxLen ≠ 1 ∨ x.rx 0 ≠ 0x00 then pure (-1)
  else
    setStateB .halted
    pure 0

/-- What the locals of the calls hold before anything is written to them, and where `buf_len`
is. -/
structure AnticolLocals where
  atqb : Mem UInt8
  rxBuf : Mem UInt8
  buf : Mem UInt8
  bufLenPtr : Nat

def iso14443bAnticol (loc : AnticolLocals) : Iso14443bM σ Int := do
  let ret ← sendReqb r past loc.atqb 0 false 0
  if ret < 0 then pure ret
  else
    let x ← transceiveAttrib r loc.rxBuf [] loc.buf loc.bufLenPtr 255
    if x.ret < 0 then pure x.ret else pure 0

def iso14443bInit (heap : Iso14443bHandle) : Exec σ Iso14443bHandle := do
  r.init
  pure { heap with
    state := .none, cid := 0, fsd := iso14443FsdApprox r.ah.mru, tr0 := 0, tr1 := 0 }

end

def opt14443bCid : Int := 0x00010001
def opt14443bFsc : Int := 0x00010002
def opt14443bFsd : Int := 0x00010003
def opt14443bFwt : Int := 0x00010004
def opt14443bTr0 : Int := 0x00010005
def opt14443bTr1 : Int := 0x00010006

def iso14443bGetopt (h : Iso14443bHandle) (optname : Int) : Option Nat :=
  if optname = opt14443bCid then some h.cid
  else if optname = opt14443bFsc then some h.fsc
  else if optname = opt14443bFsd then some h.fsd
  else if optname = opt14443bFwt then some h.fwt
  else if optname = opt14443bTr0 then some h.tr0
  else if optname = opt14443bTr1 then some h.tr1
  else none

/-- The label `defaukt` is not that of the default case: other options are accepted too. -/
def iso14443bSetopt (h : Iso14443bHandle) (optname : Int) (optval : Nat) : Int × Iso14443bHandle :=
  if optname = opt14443bCid then (0, { h with cid := optval &&& 0xf }) else (0, h)

end Librfid.Layer2
