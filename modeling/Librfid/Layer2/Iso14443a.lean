import Librfid.Rc632.Reader

/-! ISO 14443-3 Type A: `rfid_layer2_iso14443a.c`. -/

namespace Librfid.Layer2

open Rc632 Exec

inductive Iso14443aState
  | error | none | reqaSent | atqaRcvd | noBitframeAnticol | anticolRunning | selected
  deriving DecidableEq

inductive Iso14443aLevel
  | none | cl1 | cl2 | cl3
  deriving DecidableEq

def sfCmdReqa : UInt8 := 0x26
def sfCmdWupa : UInt8 := 0x52

def acSelCodeCl1 : UInt8 := 0x93
def acSelCodeCl2 : UInt8 := 0x95
def acSelCodeCl3 : UInt8 := 0x97

def optLayer2Wup : UInt32 := 0x0003

def protocolTcl : Nat := 1
def protocolMifareUl : Nat := 2
def protocolMifareClassic : Nat := 3

structure Handle where
  uid : Mem UInt8
  uidLen : Nat
  protoSupported : Nat
  flags : UInt32
  state : Iso14443aState
  level : Iso14443aLevel
  tclCapable : Nat
  atqa : Mem UInt8
  sak : UInt8

structure RandCtx where
  ctx0 : UInt64
  ctx1 : UInt64
  ctx2 : UInt64
  ctx3 : UInt64

def randomBit (r : RandCtx) : Bool × RandCtx :=
  let e := r.ctx0
  let ctx0 := r.ctx1
  let ctx1 := (r.ctx2 <<< 19) + (r.ctx2 >>> 13) + r.ctx3
  let ctx2 := r.ctx3 ^^^ ctx0
  let ctx3 := e + ctx1
  (ctx1 &&& 1 ≠ 0, ⟨ctx0, ctx1, ctx2, ctx3⟩)

structure Vars (ρ : Type) where
  handle : Handle
  rand : ρ

def initHandle : Handle where
  uid := fun _ => 0
  uidLen := 0
  protoSupported := 0
  flags := 0
  state := .none
  level := .none
  tclCapable := 0
  atqa := fun _ => 0
  sak := 0

def initVars : Vars RandCtx := ⟨initHandle, ⟨0, 0, 0, 0⟩⟩

def iso14443aCodeNvbBits (bits : Nat) : Option UInt8 :=
  let byteCount := bits / 8
  let bitCount := bits % 8
  if byteCount < 2 ∨ byteCount > 7 then none
  else some (UInt8.ofNat (((byteCount &&& 0xf) <<< 4) ||| bitCount))

/-- The NVB stays as it is when the bits cannot be coded. -/
def codeNvb (acf : Mem UInt8) (bits : Nat) : Mem UInt8 :=
  match iso14443aCodeNvbBits bits with
  | some nvb => acf.set 1 nvb
  | none => acf

section

variable {σ ρ : Type} (r : Reader σ) (randomBit : ρ → Bool × ρ)

abbrev Iso14443aM (σ ρ : Type) := Exec (σ × Vars ρ)

def setHandle (f : Handle → Handle) : Iso14443aM σ ρ Unit :=
  modify fun v => { v with handle := f v.handle }

def drawBit : Iso14443aM σ ρ Bool := do
  let v ← get
  let (b, rand) := randomBit v.rand
  modify fun v => { v with rand := rand }
  pure b

/-- `bitfield` starts at `base`. -/
def rndToggleBitInField (m : Mem UInt8) (base : Int) (size bit : Nat) : Iso14443aM σ ρ (Mem UInt8) :=
  if bit ≠ 0 ∧ bit ≤ size * 8 then do
    let rnd ← drawBit randomBit
    let byte : Int := base + ((bit - 1) / 8 : Nat)
    pure (m.set byte (m byte ^^^ UInt8.ofNat (rnd.toNat <<< ((bit - 1) % 8))))
  else pure m

def iso14443aCollisions : Nat → Mem UInt8 → Nat → Iso14443aM σ ρ (Mem UInt8)
  | 0, _, _ => hang
  | fuel + 1, acf, bitOfCol =>
    if bitOfCol = iso14443aBitOfColNone then pure acf
    else do
      let acf := codeNvb acf bitOfCol
      let acf ← rndToggleBitInField randomBit acf acfUidBits 5 bitOfCol
      let x ← lift (r.transceiveAcf acf)
      check x.ret
      iso14443aCollisions fuel x.acf x.bitOfCol

/-- One cascade level after the other; gives the SAK. -/
def iso14443aCascade : Nat → Mem UInt8 → Mem UInt8 → Iso14443aM σ ρ (Mem UInt8)
  | 0, _, _ => hang
  | fuel + 1, acf, sak => do
    let x ← lift (r.transceiveAcf (codeNvb acf 16))
    check x.ret
    let acf ← iso14443aCollisions r randomBit fuel x.acf x.bitOfCol
    let acf := codeNvb acf (7 * 8)
    let y ← lift (r.transceive .iso14443aFrameRegular acf 7 sak 3 1236)
    check y.ret
    if y.rx 0 &&& 0x04 ≠ 0 then
      if acf 0 = acSelCodeCl1 then
        if acf 2 ≠ 0x88 then fail (-1)
        else do
          setHandle fun h => { h with uid := h.uid.store 0 (acf.load 3 3), level := .cl2 }
          iso14443aCascade fuel (acf.set 0 acSelCodeCl2) y.rx
      else if acf 0 = acSelCodeCl2 then do
        setHandle fun h => { h with uid := h.uid.store 3 (acf.load 3 3), level := .cl3 }
        iso14443aCascade fuel (acf.set 0 acSelCodeCl3) y.rx
      else do
        setHandle fun h => { h with state := .error }
        fail (-1)
    else do
      setHandle fun h =>
        if acf 0 = acSelCodeCl1 then { h with uid := h.uid.store 0 (acf.load 2 4) }
        else if acf 0 = acSelCodeCl2 then { h with uid := h.uid.store 3 (acf.load 2 4) }
        else if acf 0 = acSelCodeCl3 then { h with uid := h.uid.store 6 (acf.load 2 4) }
        else h
      pure y.rx

def bfAnticol (atqa : Mem UInt8) : UInt8 := atqa 0 &&& 0x1f

def iso14443aSelected (sak : UInt8) (h : Handle) : Handle :=
  let uidLen := match h.level with
    | .cl1 => 4
    | .cl2 => 7
    | _ => 10
  let h := { h with uidLen := uidLen, level := .none, state := .selected, sak := sak }
  if sak &&& 0x20 ≠ 0 then { h with protoSupported := 1 <<< protocolTcl, tclCapable := 1 }
  else
    { h with protoSupported := 1 <<< protocolMifareUl ||| 1 <<< protocolMifareClassic, tclCapable := 0 }

def iso14443aAnticol (fuel : Nat) : Iso14443aM σ ρ Unit := do
  -- the size of a pointer: `sak` is cleared with `atqa`
  setHandle fun h => { h with
    uid := h.uid.store 0 (List.replicate 10 0), atqa := h.atqa.store 0 [0, 0], sak := 0 }
  let v ← get
  let cmd := if v.handle.flags &&& optLayer2Wup ≠ 0 then sfCmdWupa else sfCmdReqa
  let x ← lift (r.transceiveSf cmd v.handle.atqa)
  setHandle fun h => { h with atqa := x.atqa }
  when (x.ret < 0) do
    setHandle fun h => { h with state := .reqaSent }
    fail x.ret
  setHandle fun h => { h with state := .atqaRcvd }
  when (bfAnticol x.atqa = 0) do
    setHandle fun h => { h with state := .noBitframeAnticol }
    fail (-1)
  setHandle fun h => { h with state := .anticolRunning, level := .cl1 }
  let acf : Mem UInt8 := Mem.ofList (fun _ => 0) [acSelCodeCl1, 0, 0, 0, 0, 0, 0]
  let sak ← iso14443aCascade r randomBit fuel acf fun _ => 0
  setHandle (iso14443aSelected (sak 0))

def iso14443aHlta : Iso14443aM σ ρ Int := do
  let x ← lift (r.transceive .iso14443aFrameRegular (Mem.ofList (fun _ => 0) [0x50, 0x00]) 2
    (fun _ => 0) 10 1000)
  if x.ret < 0 then pure 0 else pure (-1)

end

end Librfid.Layer2
