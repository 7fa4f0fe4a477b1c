import Librfid.Tcl.Success

namespace Librfid.Tcl

inductive BlockClass
  | iBlock (chained : Bool) | ack | nak | deselect | wtx
  deriving DecidableEq

/-- What a block says; an S-block has no number. -/
structure BlockFields where
  cls : BlockClass
  number : Option UInt8
  cid : Option UInt8
  nad : Option UInt8
  inf : List UInt8
  deriving DecidableEq

def blockClass (pcb : UInt8) : Option BlockClass :=
  if isRBlock pcb then some (if pcb &&& 0x10 ≠ 0 then .nak else .ack)
  else if isSBlock pcb then some (if pcb &&& 0x30 = 0x30 then .wtx else .deselect)
  else if isIBlock pcb then some (.iBlock (pcb &&& 0x10 ≠ 0))
  else none

def readOption (present : Bool) (rest : List UInt8) : Option (Option UInt8 × List UInt8) :=
  match present, rest with
  | false, rest => some (none, rest)
  | true, b :: rest => some (some b, rest)
  | true, [] => none

def readBlock : List UInt8 → Option BlockFields
  | [] => none
  | pcb :: rest => do
    let cls ← blockClass pcb
    let (cid, rest) ← readOption (pcb &&& pcbCidFollowing ≠ 0) rest
    let (nad, inf) ← readOption (isIBlock pcb && pcb &&& pcbNadFollowing ≠ 0) rest
    some ⟨cls, if isSBlock pcb then none else some (pcb &&& 0x01), cid, nad, inf⟩

namespace TclHandle

def nextNumber (th : TclHandle) : UInt8 := if th.toggle ≠ 0 then 0 else 1

def cidField (th : TclHandle) : Option UInt8 :=
  if th.cidUsed then some (UInt8.ofNat (th.cid &&& 0x0f)) else none

def nadField (th : TclHandle) : Option UInt8 := if th.nadUsed then some (UInt8.ofNat th.nad) else none

end TclHandle

/-- The blocks the reader builds, in buffers with any bytes in them, and what they are to say. -/
inductive Builds (th : TclHandle) : List UInt8 → BlockFields → Prop
  | iBlock {s s' : TclXcv} : s.th = th → tclRefillXcvb s = some s' →
      Builds th (s'.xcvb.tx.data.load 0 s'.xcvb.tx.frameLen)
        ⟨.iBlock (s.ctx.nextTxByte + s.chunk.length < s.ctx.tx.length), some th.nextNumber,
          th.cidField, th.nadField, s.chunk⟩
  | rBlock (prlg : Mem UInt8) (nak : Bool) :
      Builds th ((tclBuildPrologueR th prlg nak).2.1.load 0 (tclBuildPrologueR th prlg nak).2.2)
        ⟨if nak then .nak else .ack, some th.nextNumber, th.cidField, none, []⟩
  | deselect (prlg : Mem UInt8) :
      Builds th ((tclBuildPrologueS th prlg).2.1.load 0 (tclBuildPrologueS th prlg).2.2)
        ⟨.deselect, none, th.cidField, none, []⟩
  | wtx (xcvb : RfidXcvb) (inf : UInt8) :
      Builds th ((fillXcvbWtxm th xcvb inf).tx.data.load 0 (fillXcvbWtxm th xcvb inf).tx.frameLen)
        ⟨.wtx, none, th.cidField, none, [inf]⟩

theorem readBlock_cons {pcb : UInt8} {cls : BlockClass} (hcls : blockClass pcb = some cls)
    (hcid : pcb &&& pcbCidFollowing = 0) (rest : List UInt8) :
    readBlock (pcb :: rest) =
      (readOption (isIBlock pcb && pcb &&& pcbNadFollowing ≠ 0) rest).bind fun x =>
        some ⟨cls, if isSBlock pcb then none else some (pcb &&& 0x01), none, x.1, x.2⟩ := by
  simp [readBlock, hcls, hcid, readOption]

theorem readBlock_plain {pcb : UInt8} {cls : BlockClass} (hcls : blockClass pcb = some cls)
    (hcid : pcb &&& pcbCidFollowing = 0) (hnad : (isIBlock pcb && pcb &&& pcbNadFollowing ≠ 0) = false)
    (rest : List UInt8) :
    readBlock (pcb :: rest) =
      some ⟨cls, if isSBlock pcb then none else some (pcb &&& 0x01), none, none, rest⟩ := by
  rw [readBlock_cons hcls hcid, hnad]
  rfl

def iPcb (number nad more : Bool) : UInt8 :=
  ((0x02 ||| if number then 0x01 else 0) ||| if nad then pcbNadFollowing else 0) |||
    if more then 0x10 else 0

theorem readBlock_iFrame (number : Bool) (nad : Option UInt8) (more : Bool) (inf : List UInt8) :
    readBlock (iPcb number nad.isSome more :: (nad.toList ++ inf)) =
      some ⟨.iBlock more, some (if number then 0x01 else 0), none, nad, inf⟩ := by
  have hcls : ∀ number nad more, blockClass (iPcb number nad more) = some (.iBlock more) := by decide
  have hcid : ∀ number nad more, iPcb number nad more &&& pcbCidFollowing = 0 := by decide
  have hnad : ∀ number nad more, (isIBlock (iPcb number nad more) &&
      decide (iPcb number nad more &&& pcbNadFollowing ≠ 0)) = nad := by decide
  have hS : ∀ number nad more, isSBlock (iPcb number nad more) = false := by decide
  have hnumber : ∀ number nad more, iPcb number nad more &&& 0x01 = if number then 0x01 else 0 := by
    decide
  rw [readBlock_cons (hcls _ _ _) (hcid _ _ _), hnad, hS, hnumber]
  cases nad <;> rfl

section

variable {th : TclHandle} (h : th.cidUsed = false)
include h

theorem cidField_eq_none : th.cidField = none := by
  simp [TclHandle.cidField, h]

theorem tclBuildPrologue2_noCid (prlg : Mem UInt8) (pcb : UInt8) :
    (tclBuildPrologue2 th prlg pcb).2.1.load 0 (tclBuildPrologue2 th prlg pcb).2.2 =
      let pcb' := if isSBlock pcb then pcb else if th.toggle ≠ 0 then pcb else pcb ||| 0x01
      if th.nadUsed ∧ isIBlock pcb then [pcb' ||| pcbNadFollowing, UInt8.ofNat th.nad]
      else [pcb'] := by
  have hc : ∀ t, ({ th with toggle := t } : TclHandle).cidUsed = false := fun _ => h
  have hn : ∀ t, ({ th with toggle := t } : TclHandle).nadUsed = th.nadUsed := fun _ => rfl
  cases hs : isSBlock pcb <;> by_cases ht : th.toggle = 0 <;>
    by_cases hN : th.nadUsed ∧ isIBlock pcb <;>
    simp [tclBuildPrologue2, hs, ht, hN, h, hc, hn, Mem.set]

theorem tclBuildPrologueI_noCid (prlg : Mem UInt8) :
    (tclBuildPrologueI th prlg).2.1 0 =
        iPcb (th.toggle = 0) th.nadUsed false ∧
      (tclBuildPrologueI th prlg).2.1.load 1 (tclPrlgLen th - 1) = th.nadField.toList := by
  have hS : isSBlock 0x02 = false := by decide
  have hI : isIBlock 0x02 = true := by decide
  have hprologue := tclBuildPrologue2_noCid h prlg 0x02
  have hlen := tclBuildPrologueI_len th prlg
  rw [tclBuildPrologueI] at hlen
  simp only [hS, hI, Bool.false_eq_true, if_false, and_true, hlen] at hprologue
  have hpcb : ∀ number, (if number then 0x02 ||| 0x01 else 0x02) = iPcb number false false := by
    decide
  have hpcb' : ∀ number, (if number then 0x02 ||| 0x01 else 0x02) ||| pcbNadFollowing =
      iPcb number true false := by decide
  rw [tclBuildPrologueI]
  cases hn : th.nadUsed
  · rw [tclPrlgLen_of_unused h hn] at hprologue ⊢
    rw [← hpcb]
    simpa [hn, TclHandle.nadField] using hprologue
  · have htwo : tclPrlgLen th = 2 := by simp [tclPrlgLen, h, hn]
    rw [htwo] at hprologue ⊢
    rw [← hpcb']
    simpa [hn, TclHandle.nadField] using hprologue

theorem tclBuildPrologueS_noCid (prlg : Mem UInt8) :
    tclBuildPrologueS th prlg = (th, prlg.set 0 0xc2, 1) := by
  have hs : isSBlock 0xc2 = true := by decide
  have hi : isIBlock 0xc2 = false := by decide
  simp [tclBuildPrologueS, tclBuildPrologue2, hs, hi, h]

theorem readBlock_rBlock (prlg : Mem UInt8) (nak : Bool) :
    readBlock ((tclBuildPrologueR th prlg nak).2.1.load 0 (tclBuildPrologueR th prlg nak).2.2) =
      some ⟨if nak then .nak else .ack, some th.nextNumber, th.cidField, none, []⟩ := by
  have hs : ∀ nak : Bool, isSBlock (if nak then 0xa2 ||| 0x10 else 0xa2) = false := by decide
  have hi : ∀ nak : Bool, isIBlock (if nak then 0xa2 ||| 0x10 else 0xa2) = false := by decide
  rw [tclBuildPrologueR, tclBuildPrologue2_noCid h, cidField_eq_none h, TclHandle.nextNumber]
  simp only [hs nak, hi nak, Bool.false_eq_true, and_false, if_false]
  by_cases ht : th.toggle = 0
  · rw [if_neg (not_not.mpr ht), if_neg (not_not.mpr ht)]
    revert nak
    decide
  · rw [if_pos ht, if_pos ht]
    revert nak
    decide

theorem readBlock_deselect (prlg : Mem UInt8) :
    readBlock ((tclBuildPrologueS th prlg).2.1.load 0 (tclBuildPrologueS th prlg).2.2) =
      some ⟨.deselect, none, th.cidField, none, []⟩ := by
  have hcls : blockClass 0xc2 = some .deselect := by decide
  have hframe : (tclBuildPrologueS th prlg).2.1.load 0 (tclBuildPrologueS th prlg).2.2 = [0xc2] := by
    simp [tclBuildPrologueS_noCid h]
  rw [hframe, cidField_eq_none h, readBlock_plain hcls (by decide) (by decide)]
  decide

theorem readBlock_wtx (xcvb : RfidXcvb) (inf : UInt8) :
    readBlock ((fillXcvbWtxm th xcvb inf).tx.data.load 0 (fillXcvbWtxm th xcvb inf).tx.frameLen) =
      some ⟨.wtx, none, th.cidField, none, [inf]⟩ := by
  have hframe : (fillXcvbWtxm th xcvb inf).tx.data.load 0 (fillXcvbWtxm th xcvb inf).tx.frameLen =
      [0xf2, inf] := by
    have hpcb : (0xc2 : UInt8) ||| 0x30 = 0xf2 := by decide
    simp only [fillXcvbWtxm, tclBuildPrologueS_noCid h]
    simp [Mem.set, hpcb]
  have hcls : blockClass 0xf2 = some .wtx := by decide
  have hs : isSBlock 0xf2 = true := by decide
  rw [hframe, cidField_eq_none h, readBlock_plain hcls (by decide) (by decide), if_pos hs]

end

theorem tclRefillXcvb_frame {s s' : TclXcv} (h : tclRefillXcvb s = some s') :
    s'.xcvb.tx.data.load 0 s'.xcvb.tx.frameLen =
      let p := tclBuildPrologueI s.th s.xcvb.tx.data
      (if s.ctx.nextTxByte + s.chunk.length < s.ctx.tx.length then p.2.1 0 ||| 0x10 else p.2.1 0) ::
        (p.2.1.load 1 (tclPrlgLen s.th - 1) ++ s.chunk) := by
  obtain ⟨_, _, _, _, _, hlen, hdata⟩ := tclRefillXcvb_eq h
  obtain ⟨k, hk⟩ : ∃ k, tclPrlgLen s.th = k + 1 := ⟨tclPrlgLen s.th - 1, by
    have := tclPrlgLen_pos s.th
    omega⟩
  have h0 := Mem.store_of_lt (tclBuildPrologueI s.th s.xcvb.tx.data).2.1 (p := tclPrlgLen s.th)
    (q := 0) s.chunk (by omega)
  have hrest : s'.xcvb.tx.data.load 1 (k + s.chunk.length) =
      (tclBuildPrologueI s.th s.xcvb.tx.data).2.1.load 1 k ++ s.chunk := by
    have hset : ∀ m : Mem UInt8, ∀ b, (m.set 0 b).load 1 (k + s.chunk.length) =
        m.load 1 (k + s.chunk.length) := fun m b => Mem.load_set_of_lt m _ b (by omega)
    have hstore : ((tclBuildPrologueI s.th s.xcvb.tx.data).2.1.store (tclPrlgLen s.th)
        s.chunk).load 1 (k + s.chunk.length) =
        (tclBuildPrologueI s.th s.xcvb.tx.data).2.1.load 1 k ++ s.chunk := by
      rw [Mem.load_add, hk, show (1 : Int) + k = (k + 1 : Nat) by omega, Mem.load_store]
      congr 1
      exact Mem.load_congr fun q _ hq => Mem.store_of_lt _ _ (by omega)
    rw [hdata]
    dsimp only
    split_ifs
    · rw [hset, hstore]
    · exact hstore
  rw [hlen, hk, show s.chunk.length + (k + 1) = k + s.chunk.length + 1 by omega, Mem.load_succ]
  dsimp only
  rw [Nat.add_sub_cancel, Int.zero_add, hrest, hdata]
  dsimp only
  split_ifs
  · rw [Mem.set_self, h0]
  · rw [h0]

theorem readBlock_iBlock {s s' : TclXcv} (h : s.th.cidUsed = false) (hs : tclRefillXcvb s = some s') :
    readBlock (s'.xcvb.tx.data.load 0 s'.xcvb.tx.frameLen) =
      some ⟨.iBlock (s.ctx.nextTxByte + s.chunk.length < s.ctx.tx.length), some s.th.nextNumber,
        s.th.cidField, s.th.nadField, s.chunk⟩ := by
  obtain ⟨hpcb, hnad⟩ := tclBuildPrologueI_noCid h s.xcvb.tx.data
  have hsome : s.th.nadUsed = s.th.nadField.isSome := by
    rw [TclHandle.nadField]
    cases s.th.nadUsed <;> rfl
  have hmore : ∀ (p : Prop) [Decidable p] (number nad : Bool),
      (if p then iPcb number nad false ||| 0x10 else iPcb number nad false) = iPcb number nad p := by
    intro p _ number nad
    split_ifs with hp <;> simp only [hp] <;> revert number nad <;> decide
  have hnumber : s.th.nextNumber = if decide (s.th.toggle = 0) then 0x01 else 0 := by
    rw [TclHandle.nextNumber]
    by_cases ht : s.th.toggle = 0 <;> simp [ht]
  rw [tclRefillXcvb_frame hs, cidField_eq_none h]
  dsimp only
  rw [hpcb, hnad, hmore, hsome, readBlock_iFrame, hnumber]

/-- With a CID, byte 1 of the prologue is whatever the buffer held. -/
theorem readBlock_deselect_cid {th : TclHandle} (h : th.cidUsed = true) (prlg : Mem UInt8) :
    readBlock ((tclBuildPrologueS th prlg).2.1.load 0 (tclBuildPrologueS th prlg).2.2) =
      some ⟨.deselect, none, some (prlg 1), none, []⟩ := by
  have hs : isSBlock 0xc2 = true := by decide
  have hi : isIBlock 0xc2 = false := by decide
  have hframe : (tclBuildPrologueS th prlg).2.1.load 0 (tclBuildPrologueS th prlg).2.2 =
      [0xc2 ||| pcbCidFollowing, prlg 1] := by
    simp [tclBuildPrologueS, tclBuildPrologue2, hs, hi, h, Mem.set]
  have hcls : blockClass (0xc2 ||| pcbCidFollowing) = some .deselect := by decide
  have hcid : (0xc2 ||| pcbCidFollowing) &&& pcbCidFollowing ≠ 0 := by decide
  have hI : isIBlock (0xc2 ||| pcbCidFollowing) = false := by decide
  have hS : isSBlock (0xc2 ||| pcbCidFollowing) = true := by decide
  simp [hframe, readBlock, hcls, hcid, hI, hS, readOption]

/-- The blocks read back as what they are to say exactly when no CID is in use. -/
theorem builds_readBlock_iff (th : TclHandle) :
    (∀ frame block, Builds th frame block → readBlock frame = some block) ↔ th.cidUsed = false := by
  constructor
  · intro h
    by_contra hc
    replace hc : th.cidUsed = true := by simpa using hc
    have hblock := h _ _ (.deselect fun _ => UInt8.ofNat (th.cid &&& 0x0f) + 1)
    have hcid := (readBlock_deselect_cid hc _).symm.trans hblock
    simp [TclHandle.cidField, hc] at hcid
  · rintro h _ _ (⟨rfl, hs⟩ | ⟨prlg, nak⟩ | prlg | ⟨xcvb, inf⟩)
    · exact readBlock_iBlock h hs
    · exact readBlock_rBlock h prlg nak
    · exact readBlock_deselect h prlg
    · exact readBlock_wtx h xcvb inf

def cidHandle : TclHandle := { plainHandle 256 with cid := 5, flags := handleFCidUsed }

/-- Its DESELECT carries the byte the buffer held before. -/
theorem deselect_staleCid :
    ∃ frame block, Builds cidHandle frame block ∧ frame = [0xca, 0x00] ∧ block.cid = some 5 ∧
      readBlock frame = some { block with cid := some 0 } :=
  ⟨_, _, .deselect fun _ => 0, by decide, by decide, by decide⟩

end Librfid.Tcl
