import Librfid.Base
import Librfid.Lib.Bits
import Librfid.Lib.Mem

/-! T=CL handle and the blocks the reader builds: `rfid_protocol_tcl.h` and the
`tcl_build_prologue*` functions of `rfid_proto_tcl.c`. -/

namespace Librfid.Tcl

inductive TclState
  | none | initial | ratsSent | atsRcvd | ppsSent | established | deselectSent | deselected
  deriving DecidableEq

def handleFNadSupported : UInt32 := 0x0001
def handleFCidSupported : UInt32 := 0x0002
def handleFNadUsed : UInt32 := 0x0010
def handleFCidUsed : UInt32 := 0x0020

def pcbCidFollowing : UInt8 := 0x08
def pcbNadFollowing : UInt8 := 0x04

/-- `struct tcl_handle`; `historicalBytes` is the offset into `ats` it points to. -/
structure TclHandle where
  historicalBytes : Nat
  historicalLen : Nat
  fsc : Nat
  fsd : Nat
  fwt : Nat
  ta : UInt8
  sfgt : UInt8
  cid : Nat
  nad : Nat
  flags : UInt32
  state : TclState
  toggle : Nat
  atsLen : Nat
  ats : Mem UInt8

namespace TclHandle

def cidUsed (th : TclHandle) : Bool := th.flags &&& handleFCidUsed ≠ 0
def nadUsed (th : TclHandle) : Bool := th.flags &&& handleFNadUsed ≠ 0

def flip (th : TclHandle) : TclHandle := { th with toggle := if th.toggle ≠ 0 then 0 else 1 }

@[simp] theorem flip_toggle (th : TclHandle) :
    th.flip.toggle = if th.toggle ≠ 0 then 0 else 1 := rfl
@[simp] theorem flip_fsc (th : TclHandle) : th.flip.fsc = th.fsc := rfl
@[simp] theorem flip_fwt (th : TclHandle) : th.flip.fwt = th.fwt := rfl
@[simp] theorem flip_cid (th : TclHandle) : th.flip.cid = th.cid := rfl
@[simp] theorem flip_cidUsed (th : TclHandle) : th.flip.cidUsed = th.cidUsed := rfl
@[simp] theorem flip_nadUsed (th : TclHandle) : th.flip.nadUsed = th.nadUsed := rfl

end TclHandle

def isSBlock (x : UInt8) : Bool := x &&& 0xc0 == 0xc0
def isRBlock (x : UInt8) : Bool := x &&& 0xc0 == 0x80
def isIBlock (x : UInt8) : Bool := x &&& 0xc0 == 0x00

/-- The handle afterwards, the buffer with the prologue in it, and `*prlg_len`. -/
def tclBuildPrologue2 (th : TclHandle) (prlg : Mem UInt8) (pcb : UInt8) :
    TclHandle × Mem UInt8 × Nat :=
  let prlgLen : Nat := 1
  let prlg := prlg.set 0 pcb
  let (th, prlg) :=
    if isSBlock pcb then (th, prlg)
    else if th.toggle ≠ 0 then ({ th with toggle := 0 }, prlg)
    else ({ th with toggle := 1 }, prlg.set 0 (prlg 0 ||| 0x01))
  let (prlg, prlgLen) :=
    if th.cidUsed then
      let prlg := prlg.set 0 (prlg 0 ||| pcbCidFollowing)
      let prlgLen := prlgLen + 1
      -- the length is advanced before the store, so byte 1 is left as it was
      (prlg.set prlgLen (UInt8.ofNat (th.cid &&& 0x0f)), prlgLen)
    else (prlg, prlgLen)
  let (prlg, prlgLen) :=
    if th.nadUsed ∧ isIBlock pcb then
      let prlg := prlg.set 0 (prlg 0 ||| pcbNadFollowing)
      (prlg.set prlgLen (UInt8.ofNat th.nad), prlgLen + 1)
    else (prlg, prlgLen)
  (th, prlg, prlgLen)

def tclBuildPrologueI (th : TclHandle) (prlg : Mem UInt8) : TclHandle × Mem UInt8 × Nat :=
  tclBuildPrologue2 th prlg 0x02

def tclBuildPrologueR (th : TclHandle) (prlg : Mem UInt8) (nak : Bool) :
    TclHandle × Mem UInt8 × Nat :=
  tclBuildPrologue2 th prlg (if nak then 0xa2 ||| 0x10 else 0xa2)

def tclBuildPrologueS (th : TclHandle) (prlg : Mem UInt8) : TclHandle × Mem UInt8 × Nat :=
  tclBuildPrologue2 th prlg 0xc2

def tclPrlgLen (th : TclHandle) : Nat :=
  let prlgLen : Nat := 1
  let prlgLen := if th.cidUsed then prlgLen + 1 else prlgLen
  if th.nadUsed then prlgLen + 1 else prlgLen

def maxNetTxFramesize (th : TclHandle) : Nat := u32Sub th.fsc (tclPrlgLen th)

theorem tclPrlgLen_pos (th : TclHandle) : 1 ≤ tclPrlgLen th := by
  simp only [tclPrlgLen]
  split_ifs <;> omega

theorem tclPrlgLen_le (th : TclHandle) : tclPrlgLen th ≤ 3 := by
  simp only [tclPrlgLen]
  split_ifs <;> omega

@[simp] theorem tclPrlgLen_flip (th : TclHandle) : tclPrlgLen th.flip = tclPrlgLen th := rfl

theorem tclPrlgLen_of_unused {th : TclHandle} (hc : th.cidUsed = false)
    (hn : th.nadUsed = false) : tclPrlgLen th = 1 := by
  simp [tclPrlgLen, hc, hn]

section Prologue

variable (th : TclHandle) (prlg : Mem UInt8)

theorem tclBuildPrologue2_handle (pcb : UInt8) :
    (tclBuildPrologue2 th prlg pcb).1 = if isSBlock pcb then th else th.flip := by
  simp only [tclBuildPrologue2, TclHandle.flip]
  by_cases hs : isSBlock pcb <;> by_cases ht : th.toggle = 0 <;> simp [hs, ht]

theorem tclBuildPrologueI_handle : (tclBuildPrologueI th prlg).1 = th.flip :=
  tclBuildPrologue2_handle th prlg 0x02

theorem tclBuildPrologueR_handle (nak : Bool) :
    (tclBuildPrologueR th prlg nak).1 = th.flip := by
  cases nak <;> exact tclBuildPrologue2_handle th prlg _

theorem tclBuildPrologueS_handle : (tclBuildPrologueS th prlg).1 = th :=
  tclBuildPrologue2_handle th prlg 0xc2

theorem tclBuildPrologueI_len : (tclBuildPrologueI th prlg).2.2 = tclPrlgLen th := by
  have hs : isSBlock 0x02 = false := by decide
  have hi : isIBlock 0x02 = true := by decide
  cases hc : th.cidUsed <;> cases hn : th.nadUsed <;> by_cases ht : th.toggle = 0 <;>
    simp_all [tclBuildPrologueI, tclBuildPrologue2, tclPrlgLen, TclHandle.cidUsed,
      TclHandle.nadUsed]

theorem tclBuildPrologue2_pcb (pcb : UInt8) :
    (tclBuildPrologue2 th prlg pcb).2.1 0 =
      (if isSBlock pcb then pcb else if th.toggle ≠ 0 then pcb else pcb ||| 0x01) |||
        (if th.cidUsed then pcbCidFollowing else 0) |||
          (if th.nadUsed ∧ isIBlock pcb then pcbNadFollowing else 0) := by
  have hc : ∀ t, ({ th with toggle := t } : TclHandle).cidUsed = th.cidUsed := fun _ => rfl
  have hn : ∀ t, ({ th with toggle := t } : TclHandle).nadUsed = th.nadUsed := fun _ => rfl
  simp only [tclBuildPrologue2]
  split_ifs <;> simp_all [Mem.set]

theorem tclBuildPrologue2_masked {m : UInt8} (hcid : pcbCidFollowing &&& m = 0)
    (hnad : pcbNadFollowing &&& m = 0) (pcb : UInt8) :
    (tclBuildPrologue2 th prlg pcb).2.1 0 &&& m =
      (if isSBlock pcb then pcb else if th.toggle ≠ 0 then pcb else pcb ||| 0x01) &&& m := by
  rw [tclBuildPrologue2_pcb, Bits.or_and, Bits.or_and, apply_ite (· &&& m) (th.cidUsed = true),
    apply_ite (· &&& m) (th.nadUsed = true ∧ isIBlock pcb = true)]
  simp [hcid, hnad]

theorem tclBuildPrologueI_following :
    ((tclBuildPrologueI th prlg).2.1 0 &&& pcbCidFollowing ≠ 0 ↔ th.cidUsed) ∧
      ((tclBuildPrologueI th prlg).2.1 0 &&& pcbNadFollowing ≠ 0 ↔ th.nadUsed) := by
  rw [tclBuildPrologueI, tclBuildPrologue2_pcb]
  by_cases ht : th.toggle ≠ 0
  · rw [if_pos ht]
    cases th.cidUsed <;> cases th.nadUsed <;> decide
  · rw [if_neg ht]
    cases th.cidUsed <;> cases th.nadUsed <;> decide

theorem tclBuildPrologue2_class (pcb : UInt8) :
    (tclBuildPrologue2 th prlg pcb).2.1 0 &&& 0xc0 = pcb &&& 0xc0 := by
  have h1 : (0x01 : UInt8) &&& 0xc0 = 0 := by decide
  rw [tclBuildPrologue2_masked th prlg (by decide) (by decide)]
  split_ifs
  · rfl
  · rfl
  · rw [Bits.or_and, h1, UInt8.or_zero]

theorem tclBuildPrologue2_number {pcb : UInt8} (hs : ¬ isSBlock pcb) (h0 : pcb &&& 0x01 = 0) :
    (tclBuildPrologue2 th prlg pcb).2.1 0 &&& 0x01 = if th.toggle ≠ 0 then 0 else 1 := by
  rw [tclBuildPrologue2_masked th prlg (by decide) (by decide), if_neg hs]
  split_ifs
  · exact h0
  · rw [Bits.or_and, h0]
    rfl

theorem tclBuildPrologueI_number :
    (tclBuildPrologueI th prlg).2.1 0 &&& 0x01 = if th.toggle ≠ 0 then 0 else 1 :=
  tclBuildPrologue2_number th prlg (by decide) (by decide)

theorem tclBuildPrologueI_class : isIBlock ((tclBuildPrologueI th prlg).2.1 0) := by
  rw [isIBlock, tclBuildPrologueI, tclBuildPrologue2_class]
  decide

theorem tclBuildPrologueR_class (nak : Bool) :
    isRBlock ((tclBuildPrologueR th prlg nak).2.1 0) := by
  rw [isRBlock, tclBuildPrologueR, tclBuildPrologue2_class]
  cases nak <;> decide

theorem tclBuildPrologueS_class : isSBlock ((tclBuildPrologueS th prlg).2.1 0) := by
  rw [isSBlock, tclBuildPrologueS, tclBuildPrologue2_class]
  decide

theorem tclBuildPrologue2_len_pos (pcb : UInt8) : 1 ≤ (tclBuildPrologue2 th prlg pcb).2.2 := by
  simp only [tclBuildPrologue2]
  split_ifs <;> simp

end Prologue

/-- Without CID and NAD the prologue is the PCB alone, with the new block number
in its low bit unless it is an S-block. -/
theorem tclBuildPrologue2_plain {th : TclHandle} (hc : th.cidUsed = false)
    (hn : th.nadUsed = false) (prlg : Mem UInt8) (pcb : UInt8) :
    tclBuildPrologue2 th prlg pcb =
      if isSBlock pcb then (th, prlg.set 0 pcb, 1)
      else (th.flip, prlg.set 0 (if th.toggle ≠ 0 then pcb else pcb ||| 0x01), 1) := by
  have hc' : ∀ t, ({ th with toggle := t } : TclHandle).cidUsed = false := fun _ => hc
  have hn' : ∀ t, ({ th with toggle := t } : TclHandle).nadUsed = false := fun _ => hn
  cases hs : isSBlock pcb <;> by_cases ht : th.toggle = 0 <;>
    simp [tclBuildPrologue2, TclHandle.flip, hs, ht, hc, hn, hc', hn', Mem.set_set]

end Librfid.Tcl
