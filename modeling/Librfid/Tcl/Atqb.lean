import Librfid.Tcl.FrameSize

namespace Librfid.Tcl

open Layer2

/-- What ISO 14443-3 makes of an ATQB, `h` being what `parse_atqb` leaves. -/
structure DecodesAtqb (ah : AsicHandle) (atqb : Mem UInt8) (h : Iso14443bHandle) : Prop where
  fwt : h.fwt = fwiToFwt ah (atqbFwi atqb)
  fsc : fsdiTable[(atqbMaxFrameSize atqb).toNat]? = some h.fsc
  cid : h.flags &&& iso14443bCidSupported ≠ 0 ↔ atqbFo atqb &&& 0x01 ≠ 0
  nad : h.flags &&& iso14443bNadSupported ≠ 0 ↔ atqbFo atqb &&& 0x02 ≠ 0
  tclCapable : h.tclCapable = if atqbProtocolType atqb = 0x1 then 1 else 0
  protoSupported : h.protoSupported = if atqbProtocolType atqb = 0x1 then 1 <<< protocolTcl else 0
  uid : h.uid.load 0 4 = atqb.load 1 4
  uidLen : h.uidLen = 4

/-- What `parse_atqb` does not set is as the ATQB has it, and the frame size code is not RFU. -/
structure HoldsRest (ah : AsicHandle) (atqb : Mem UInt8) (h : Iso14443bHandle) : Prop where
  fwt : h.fwt = fwiToFwt ah (atqbFwi atqb)
  code : (atqbMaxFrameSize atqb).toNat ≤ 8
  cid : h.flags &&& iso14443bCidSupported ≠ 0 → atqbFo atqb &&& 0x01 ≠ 0
  nad : h.flags &&& iso14443bNadSupported ≠ 0 → atqbFo atqb &&& 0x02 ≠ 0
  protoSupported : atqbProtocolType atqb ≠ 0x1 → h.protoSupported = 0

theorem fsdiTable_getElem? (past old code : Nat) :
    fsdiTable[code]? = some ((iso14443FsdiToFsd past code).getD old) ↔ code ≤ 8 := by
  constructor
  · intro h
    obtain ⟨hlt, -⟩ := List.getElem?_eq_some_iff.mp h
    exact Nat.le_of_lt_succ hlt
  · intro hle
    have hlt : code < fsdiTable.length := Nat.lt_succ_of_le hle
    rw [iso14443FsdiToFsd_of_lt past hlt, Option.getD_some, List.getElem?_eq_getElem hlt]

theorem flags_iff (flags : UInt32) (p q : Prop) [Decidable p] [Decidable q] :
    let flags' := flags ||| (if p then iso14443bCidSupported else 0) |||
      (if q then iso14443bNadSupported else 0)
    (flags' &&& iso14443bCidSupported ≠ 0 ↔ flags &&& iso14443bCidSupported ≠ 0 ∨ p) ∧
      (flags' &&& iso14443bNadSupported ≠ 0 ↔ flags &&& iso14443bNadSupported ≠ 0 ∨ q) := by
  have hcid : iso14443bCidSupported &&& iso14443bCidSupported ≠ 0 := by decide
  have hnad : iso14443bNadSupported &&& iso14443bNadSupported ≠ 0 := by decide
  have hcidNad : ¬ iso14443bCidSupported &&& iso14443bNadSupported ≠ 0 := by decide
  have hnadCid : ¬ iso14443bNadSupported &&& iso14443bCidSupported ≠ 0 := by decide
  constructor
  · rw [Bits.or_ite_and_ne_zero, Bits.or_ite_and_ne_zero, and_iff_left hcid,
      or_iff_left fun h => hnadCid h.2]
  · rw [Bits.or_ite_and_ne_zero, Bits.or_ite_and_ne_zero, and_iff_left hnad, or_iff_left (a := _ ≠ 0)
      fun h => hcidNad h.2]

/-- The handle says of the card what its ATQB says exactly when it has held that part of it before
which `parse_atqb` does not set. -/
theorem decodesAtqb_iff {ah : AsicHandle} {past : Nat} {h : Iso14443bHandle} {atqb : Mem UInt8}
    (hok : 0 ≤ (parseAtqb ah past h atqb).1) :
    DecodesAtqb ah atqb (parseAtqb ah past h atqb).2 ↔ HoldsRest ah atqb h := by
  rw [parseAtqb_eq, if_pos ((parseAtqb_accepts_iff past atqb h ah).mp hok), atqbFrameSize_eq,
    atqbProtocol_eq, atqbOptions_eq]
  have hproto : (if atqbProtocolType atqb = 0x1 then 1 <<< protocolTcl else h.protoSupported) =
      (if atqbProtocolType atqb = 0x1 then 1 <<< protocolTcl else 0) ↔
      (atqbProtocolType atqb ≠ 0x1 → h.protoSupported = 0) := by
    split_ifs with htcl <;> simp [htcl]
  constructor
  · intro hdec
    exact ⟨hdec.fwt, (fsdiTable_getElem? _ _ _).mp hdec.fsc,
      or_iff_right_iff_imp.mp ((flags_iff _ _ _).1.symm.trans hdec.cid),
      or_iff_right_iff_imp.mp ((flags_iff _ _ _).2.symm.trans hdec.nad), hproto.mp hdec.protoSupported⟩
  · intro hrest
    refine ⟨hrest.fwt, (fsdiTable_getElem? _ _ _).mpr hrest.code,
      (flags_iff _ _ _).1.trans (or_iff_right_iff_imp.mpr hrest.cid),
      (flags_iff _ _ _).2.trans (or_iff_right_iff_imp.mpr hrest.nad), rfl,
      hproto.mpr hrest.protoSupported, ?_, rfl⟩
    exact Mem.load_store h.uid 0 (atqb.load 1 4)

def cidAtqb : Mem UInt8 :=
  Mem.ofList (fun _ => 0) [0x50, 1, 2, 3, 4, 0, 0, 0, 0, 0x00, 0x81, 0x41]

theorem decodesAtqb_known :
    0 ≤ (parseAtqb rc632Open 0 { blankHandleB with fwt := 4832 } cidAtqb).1 ∧
      DecodesAtqb rc632Open cidAtqb
        (parseAtqb rc632Open 0 { blankHandleB with fwt := 4832 } cidAtqb).2 := by
  have hrest : HoldsRest rc632Open cidAtqb { blankHandleB with fwt := 4832 } :=
    ⟨by decide, by decide, by decide, by decide, by decide⟩
  exact ⟨by decide, (decodesAtqb_iff (by decide)).mpr hrest⟩

def otherAtqb : Mem UInt8 :=
  Mem.ofList (fun _ => 0) [0x50, 5, 6, 7, 8, 0, 0, 0, 0, 0x00, 0x80, 0x80]

/-- After the first card the handle says of the second that it has a CID and is one of T=CL, and
holds the waiting time of neither. -/
theorem secondAtqb_stale :
    let h := (parseAtqb rc632Open 0 blankHandleB cidAtqb).2
    let p := parseAtqb rc632Open 0 h otherAtqb
    p.1 = 0 ∧ p.2.fwt = 0 ∧ fwiToFwt rc632Open (atqbFwi otherAtqb) = 77312 ∧
      p.2.flags &&& iso14443bCidSupported ≠ 0 ∧ atqbFo otherAtqb &&& 0x01 = 0 ∧
      p.2.protoSupported = 1 <<< protocolTcl ∧ atqbProtocolType otherAtqb = 0 ∧
      (tclConnectB p.2 (tclInit rc632Open)).fwt = 0 ∧ ¬ DecodesAtqb rc632Open otherAtqb p.2 := by
  refine ⟨by decide, by decide, by decide, by decide, by decide, by decide, by decide, by decide, ?_⟩
  intro hdec
  exact absurd hdec.fwt (by decide)

end Librfid.Tcl
