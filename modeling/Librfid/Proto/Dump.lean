import Librfid.Proto.MifareClassic

namespace Librfid.Proto

open Rc632 Layer2 Exec

def standardSector (b : Nat) : Nat := if b < 128 then b / 4 else 32 + (b - 128) / 16

section

variable (c : MifareCard)

end

section

variable {σ : Type} {r : MifareReader σ} {c : MifareCard} {blocks : Nat} (h : Opens r c blocks)
  (stack : Mem UInt8) (hd : Handle) (buf : Mem UInt8) (s : σ)

include h

end

def cardHandle (atqa : UInt8) (sak : UInt8) : Handle where
  uid := fun _ => 0
  uidLen := 4
  protoSupported := 1 <<< protocolMifareClassic
  flags := 0
  state := .selected
  level := .none
  tclCapable := 0
  atqa := Mem.ofList (fun _ => 0) [atqa, 0x00]
  sak := sak

end Librfid.Proto
