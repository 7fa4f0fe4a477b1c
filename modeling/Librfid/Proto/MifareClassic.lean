import Librfid.Layer2.Iso14443a
import Librfid.Proto.MifareUl

/-! Mifare Classic: `rfid_proto_mifare_classic.c`, and the dump of `librfid-tool.c`. -/

namespace Librfid.Proto

open Rc632 Layer2 Exec

def mifareClReadFwt : Nat := 250
def mifareClWriteFwt : Nat := 600
def mifareClCmdWrite16 : UInt8 := 0xa0
def mifareClCmdRead : UInt8 := 0x30
def mifareClRespAck : UInt8 := 0x0a
def mifareClPageMax : Nat := 0xff
def mifareClPageSize : Nat := 0x10

def rfidCmdMifareAuth1a : UInt8 := 0x60

def mifareClKeyaDefaultInfineon : List UInt8 := List.replicate 6 0xff

structure MifareReader (σ : Type) where
  transceive : RfidFrametype → Mem UInt8 → Nat → Mem UInt8 → Nat → Nat → Exec σ AbResult
  setkey : Option (List UInt8 → Exec σ Int)
  auth : Option (UInt8 → List UInt8 → UInt8 → Exec σ Int)

structure MfclReadResult where
  ret : Int
  rxData : Mem UInt8
  rxLen : Nat

section

variable {σ : Type} (r : MifareReader σ) (stack : Mem UInt8)

/-- `stack` is what `rx_buf` holds before. -/
def mfclRead (page : Nat) (rxData : Mem UInt8) (rxLen : Nat) : Exec σ MfclReadResult :=
  if page > mifareClPageMax then pure ⟨-eInval, rxData, rxLen⟩
  else do
    let tx := Mem.ofList (fun _ => 0) [mifareClCmdRead, UInt8.ofNat (page &&& 0xff)]
    let x ← r.transceive .mifareFrame tx 2 stack 16 mifareClReadFwt
    if x.ret < 0 then pure ⟨x.ret, rxData, rxLen⟩
    else if x.rxLen = 1 ∧ x.rx 0 = 0x04 then pure ⟨-ePerm, rxData, rxLen⟩
    else
      let rxLen := if x.rxLen < rxLen then x.rxLen else rxLen
      pure ⟨x.ret, rxData.store 0 (x.rx.load 0 rxLen), rxLen⟩

def mfclWrite (page : Nat) (txData : List UInt8) : Exec σ Int :=
  if page > mifareClPageMax then pure (-eInval)
  else if txData.length ≠ 16 then pure (-eInval)
  else do
    let tx := Mem.ofList (fun _ => 0) [mifareClCmdWrite16, UInt8.ofNat (page &&& 0xff)]
    let x ← r.transceive .mifareFrame tx 2 stack 1 mifareClWriteFwt
    if x.ret < 0 then pure x.ret
    else do
      let x ← r.transceive .mifareFrame (Mem.ofList (fun _ => 0) txData) txData.length x.rx x.rxLen
        mifareClWriteFwt
      if x.ret < 0 then pure x.ret
      else if x.rx 0 ≠ mifareUlRespAck then pure (- eIO)
      else pure x.ret

def mfclSetKey (key : List UInt8) : Exec σ Int :=
  match r.setkey with
  | none => pure (-eNoDev)
  | some setkey => setkey key

def mfclAuth (h : Handle) (cmd block : UInt8) : Exec σ Int :=
  match r.auth with
  | none => pure (-eNoDev)
  | some auth => auth cmd (h.uid.load 0 4) block

end

inductive MifareCall
  | auth (block : UInt8)
  | read (block : UInt8)
  deriving DecidableEq

def MifareReader.logging {σ : Type} (r : MifareReader σ) : MifareReader (σ × List MifareCall) where
  transceive frametype tx txLen rx rxLen timeout := fun (s, log) =>
    match r.transceive frametype tx txLen rx rxLen timeout s with
    | (o, s) => (o, (s, log ++ [.read (tx 1)]))
  setkey := r.setkey.map fun setkey key => lift (setkey key)
  auth := r.auth.map fun auth cmd serno block => fun (s, log) =>
    match auth cmd serno block s with
    | (o, s) => (o, (s, log ++ [.auth block]))

structure MifareCard where
  block : Nat → List UInt8
  len : Nat → Nat
  length_block : ∀ b, (block b).length = mifareClPageSize
  len_le : ∀ b, len b ≤ mifareClPageSize
  not_nak : ∀ b, (block b).take (len b) ≠ [0x04]

namespace MifareCard

variable (c : MifareCard)

def answer (b : Nat) : List UInt8 := (c.block b).take (c.len b)

end MifareCard

structure Opens {σ : Type} (r : MifareReader σ) (c : MifareCard) (blocks : Nat) : Prop where
  setkey : ∃ setkey, r.setkey = some setkey ∧
    ∀ s, ∃ ret s', setkey mifareClKeyaDefaultInfineon s = (.ok ret, s') ∧ 0 ≤ ret
  auth : ∃ auth, r.auth = some auth ∧ ∀ (serno : List UInt8) (block : UInt8), block.toNat < blocks →
    ∀ s, ∃ ret s', auth rfidCmdMifareAuth1a serno block s = (.ok ret, s') ∧ 0 ≤ ret
  read : ∀ b < blocks, ∀ (rx : Mem UInt8) (s : σ), ∃ x s',
    r.transceive .mifareFrame (Mem.ofList (fun _ => 0) [mifareClCmdRead, UInt8.ofNat (b &&& 0xff)]) 2 rx
      16 mifareClReadFwt s = (.ok x, s') ∧
    0 ≤ x.ret ∧ x.rxLen = c.len b ∧ x.rx.load 0 (c.len b) = c.answer b

section

variable {σ : Type} {r : MifareReader σ} {c : MifareCard} {blocks : Nat} (h : Opens r c blocks)
  (stack : Mem UInt8)

include h

end

section

variable {σ : Type} {r : MifareReader σ} {c : MifareCard} {blocks : Nat} (h : Opens r c blocks)
  (stack : Mem UInt8)

include h

end

end Librfid.Proto
