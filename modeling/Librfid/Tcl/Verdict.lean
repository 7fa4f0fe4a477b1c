import Librfid.Tcl.Transceive

namespace Librfid.Tcl

inductive Verdict
  | failed | wrongNumber | wrongCid | ack | badSBlock | wtx (inf : UInt8) | chained | last
  | unknownPcb
  deriving DecidableEq

abbrev L2Reply.pcb (r : L2Reply) : UInt8 := r.data 0

abbrev L2Reply.CidFollows (r : L2Reply) : Prop := r.pcb &&& pcbCidFollowing ≠ 0

abbrev L2Reply.Chaining (r : L2Reply) : Prop := r.pcb &&& 0x10 ≠ 0

abbrev L2Reply.wtxm (r : L2Reply) : UInt8 := (if r.CidFollows then r.data 2 else r.data 1) &&& 0x3f

def verdict (th : TclHandle) (r : L2Reply) : Verdict :=
  if r.ret < 0 then .failed
  else if isRBlock r.pcb then
    if (r.pcb &&& 0x01).toNat ≠ th.toggle then .wrongNumber
    else if checkCid th r then .ack else .wrongCid
  else if isSBlock r.pcb then
    if !checkCid th r then .wrongCid
    else if r.CidFollows ∧ r.frameLen < 3 then .badSBlock
    else if r.pcb &&& 0x30 ≠ 0x30 then .badSBlock
    else if r.wtxm = 0 ∨ (60 ≤ r.wtxm ∧ r.wtxm ≤ 63) then .badSBlock
    else .wtx r.wtxm
  else if isIBlock r.pcb then
    if (r.pcb &&& 0x01).toNat ≠ th.toggle then .wrongNumber
    else if !checkCid th r then .wrongCid
    else if r.Chaining then .chained else .last
  else .unknownPcb

def L2Reply.payload (r : L2Reply) : List UInt8 := r.data.load (rxHdrLen r.pcb) (netPayloadLen r)

namespace TclXcv

def take (s : TclXcv) (r : L2Reply) : TclXcv :=
  { s with ctx := { s.ctx with rx := s.ctx.rx ++ r.payload } }

def acknowledge (s : TclXcv) : TclXcv :=
  let p := tclBuildPrologueR s.th s.xcvb.tx.data false
  { s with
    th := p.1
    xcvb := { timeout := p.1.fwt, tx := { s.xcvb.tx with data := p.2.1, frameLen := p.2.2 } } }

def extend (s : TclXcv) (inf : UInt8) : TclXcv :=
  { s with xcvb := fillXcvbWtxm s.th s.xcvb inf }

@[simp] theorem take_th (s : TclXcv) (r : L2Reply) : (s.take r).th = s.th := rfl
@[simp] theorem take_xcvb (s : TclXcv) (r : L2Reply) : (s.take r).xcvb = s.xcvb := rfl
@[simp] theorem take_rx (s : TclXcv) (r : L2Reply) :
    (s.take r).ctx.rx = s.ctx.rx ++ r.payload := rfl
@[simp] theorem take_tx (s : TclXcv) (r : L2Reply) : (s.take r).ctx.tx = s.ctx.tx := rfl
@[simp] theorem take_nextTxByte (s : TclXcv) (r : L2Reply) :
    (s.take r).ctx.nextTxByte = s.ctx.nextTxByte := rfl
@[simp] theorem take_rxLen (s : TclXcv) (r : L2Reply) : (s.take r).ctx.rxLen = s.ctx.rxLen := rfl
@[simp] theorem acknowledge_th (s : TclXcv) : s.acknowledge.th = s.th.flip :=
  tclBuildPrologueR_handle s.th s.xcvb.tx.data false
@[simp] theorem acknowledge_ctx (s : TclXcv) : s.acknowledge.ctx = s.ctx := rfl
@[simp] theorem extend_th (s : TclXcv) (inf : UInt8) : (s.extend inf).th = s.th := rfl
@[simp] theorem extend_ctx (s : TclXcv) (inf : UInt8) : (s.extend inf).ctx = s.ctx := rfl

def chunk (s : TclXcv) : List UInt8 :=
  (s.ctx.tx.drop s.ctx.nextTxByte).take (maxNetTxFramesize s.th)

theorem length_chunk (s : TclXcv) :
    s.chunk.length = min (maxNetTxFramesize s.th) (s.ctx.tx.length - s.ctx.nextTxByte) := by
  rw [chunk, List.length_take, List.length_drop]

theorem take_append_chunk (s : TclXcv) :
    s.ctx.tx.take s.ctx.nextTxByte ++ s.chunk =
      s.ctx.tx.take (s.ctx.nextTxByte + s.chunk.length) := by
  rw [List.take_add, length_chunk, chunk]
  congr 1
  rw [List.take_eq_take_iff, List.length_drop]
  omega

end TclXcv

theorem tclReceive_eq (s : TclXcv) (r : L2Reply) :
    tclReceive s r =
      match verdict s.th r with
      | .failed | .wrongNumber | .wrongCid | .unknownPcb => .out r.ret s
      | .badSBlock => .out (-1) s
      | .ack => .txRefill s
      | .wtx inf => .doTx (s.extend inf)
      | .chained => .doTx (s.take r).acknowledge
      | .last => .out r.ret (s.take r) := by
  unfold tclReceive verdict
  split_ifs <;> first | rfl | simp_all [L2Reply.wtxm, TclXcv.extend]

theorem tclRefillXcvb_eq_none {s : TclXcv} :
    tclRefillXcvb s = none ↔ s.ctx.tx.length ≤ s.ctx.nextTxByte := by
  simp only [tclRefillXcvb]
  split_ifs with h <;> simpa using h

theorem exists_tclRefillXcvb {s : TclXcv} (h : s.ctx.nextTxByte < s.ctx.tx.length) :
    ∃ s', tclRefillXcvb s = some s' := by
  apply Option.ne_none_iff_exists'.mp
  intro hnone
  exact absurd h (Nat.not_lt.mpr (tclRefillXcvb_eq_none.mp hnone))

theorem exists_tclRefillXcvb_tclLocals (th : TclHandle) (stack : Mem UInt8) {tx : List UInt8}
    (rxLen : Nat) (h : tx ≠ []) : ∃ s, tclRefillXcvb (tclLocals th stack tx rxLen) = some s :=
  exists_tclRefillXcvb (List.length_pos_iff.mpr h)

theorem tclRefillXcvb_eq {s s' : TclXcv} (h : tclRefillXcvb s = some s') :
    s.ctx.nextTxByte < s.ctx.tx.length ∧ s'.th = s.th.flip ∧
      s'.ctx = { s.ctx with nextTxByte := s.ctx.nextTxByte + s.chunk.length } ∧
      s'.xcvb.timeout = s.th.fwt ∧ s'.xcvb.tx.hdrLen = tclPrlgLen s.th ∧
      s'.xcvb.tx.frameLen = s.chunk.length + tclPrlgLen s.th ∧
      s'.xcvb.tx.data =
        let data := (tclBuildPrologueI s.th s.xcvb.tx.data).2.1.store (tclPrlgLen s.th) s.chunk
        if s.ctx.nextTxByte + s.chunk.length < s.ctx.tx.length
        then data.set 0 (data 0 ||| 0x10) else data := by
  have hth := tclBuildPrologueI_handle s.th s.xcvb.tx.data
  have hlen := tclBuildPrologueI_len s.th s.xcvb.tx.data
  have hmin : (if tclCtxTodo s.ctx > maxNetTxFramesize s.th then maxNetTxFramesize s.th
      else tclCtxTodo s.ctx) = s.chunk.length := by
    rw [TclXcv.chunk, List.length_take, List.length_drop, tclCtxTodo, Nat.min_def]
    split_ifs <;> omega
  have htake : (s.ctx.tx.drop s.ctx.nextTxByte).take s.chunk.length = s.chunk := by
    rw [TclXcv.chunk, List.length_take, List.take_eq_take_iff]
    omega
  have hmax : u32Sub s.th.fsc (tclPrlgLen s.th) = maxNetTxFramesize s.th := rfl
  have hmax' : maxNetTxFramesize s.th.flip = maxNetTxFramesize s.th := rfl
  simp only [tclRefillXcvb, hth, hlen, TclHandle.flip_fsc, hmax, hmax', hmin, htake] at h
  split_ifs at h with hdone hmore
  · cases h
    exact ⟨by omega, rfl, rfl, rfl, rfl, rfl, (if_pos hmore).symm⟩
  · cases h
    exact ⟨by omega, rfl, rfl, rfl, rfl, rfl, (if_neg hmore).symm⟩

theorem tclRefillXcvb_frameLen_le {s s' : TclXcv} (hfsc : tclPrlgLen s.th ≤ s.th.fsc)
    (h : tclRefillXcvb s = some s') : s'.xcvb.tx.frameLen ≤ s.th.fsc := by
  obtain ⟨_, _, _, _, _, hlen, _⟩ := tclRefillXcvb_eq h
  have hchunk := s.length_chunk
  have hmax : maxNetTxFramesize s.th = s.th.fsc - tclPrlgLen s.th := u32Sub_of_le hfsc
  omega

theorem tclRefillXcvb_stack {s s' : TclXcv} (h : tclRefillXcvb s = some s') :
    s'.stack = s.stack := by
  simp only [tclRefillXcvb] at h
  split_ifs at h <;> cases h <;> rfl

theorem tclNext_eq (s : TclXcv) (r : L2Reply) :
    tclNext s r =
      match verdict s.th r with
      | .failed | .wrongNumber | .wrongCid | .unknownPcb => .inr ⟨r.ret, s⟩
      | .badSBlock => .inr ⟨-1, s⟩
      | .ack =>
        match tclRefillXcvb s with
        | some s => .inl s
        | none => .inr ⟨-1, s⟩
      | .wtx inf => .inl (s.extend inf)
      | .chained => .inl (s.take r).acknowledge
      | .last => .inr ⟨r.ret, s.take r⟩ := by
  rw [tclNext, tclReceive_eq]
  cases verdict s.th r <;> rfl

section Verdicts

variable {th : TclHandle} {r : L2Reply}

theorem verdict_eq_failed : verdict th r = .failed ↔ r.ret < 0 := by
  rw [verdict]
  by_cases hret : r.ret < 0
  · rw [if_pos hret]
    exact iff_of_true rfl hret
  · rw [if_neg hret]
    refine iff_of_false ?_ hret
    split_ifs <;> intro h <;> cases h

theorem isRBlock_of_isIBlock {x : UInt8} (h : isIBlock x) : isRBlock x = false := by
  rw [isIBlock, beq_iff_eq] at h
  rw [isRBlock, h]
  decide

theorem isSBlock_of_isIBlock {x : UInt8} (h : isIBlock x) : isSBlock x = false := by
  rw [isIBlock, beq_iff_eq] at h
  rw [isSBlock, h]
  decide

theorem verdict_eq_last : verdict th r = .last ↔
    0 ≤ r.ret ∧ isIBlock r.pcb ∧ (r.pcb &&& 0x01).toNat = th.toggle ∧ checkCid th r ∧
      ¬ r.Chaining := by
  constructor
  · intro h
    unfold verdict at h
    split_ifs at h with hret hR hnum hc hS hc hshort hkind hrange hI hnum hc hm
    exact ⟨Int.not_lt.mp hret, hI, not_not.mp hnum, by simpa using hc, hm⟩
  · rintro ⟨hret, hI, hn, hc, hm⟩
    simp only [verdict, isRBlock_of_isIBlock hI, isSBlock_of_isIBlock hI, hI, hn, hc, hm,
      Int.not_lt.mpr hret, if_true, if_false, ne_eq, not_true, Bool.not_true, Bool.false_eq_true]

end Verdicts

/-- A reply a call listens to, with the handle and the number of request bytes not
yet sent at that moment. -/
structure Turn where
  th : TclHandle
  todo : Nat
  reply : L2Reply

/-- The replies of a script a call listens to, from the handle and the script alone. -/
def heard : TclHandle → Nat → List L2Reply → List Turn
  | _, _, [] => []
  | th, todo, r :: rs =>
    ⟨th, todo, r⟩ ::
      match verdict th r with
      | .ack => if todo = 0 then [] else heard th.flip (todo - maxNetTxFramesize th) rs
      | .wtx _ => heard th todo rs
      | .chained => heard th.flip todo rs
      | _ => []

theorem heard_cons (th : TclHandle) (todo : Nat) (r : L2Reply) (rs : List L2Reply) :
    heard th todo (r :: rs) =
      ⟨th, todo, r⟩ ::
        match verdict th r with
        | .ack => if todo = 0 then [] else heard th.flip (todo - maxNetTxFramesize th) rs
        | .wtx _ => heard th todo rs
        | .chained => heard th.flip todo rs
        | _ => [] := rfl

def TclXcv.turn (x : TclXcv × L2Reply) : Turn := ⟨x.1.th, tclCtxTodo x.1.ctx, x.2⟩

@[simp] theorem TclXcv.turn_mk (s : TclXcv) (r : L2Reply) :
    TclXcv.turn (s, r) = ⟨s.th, tclCtxTodo s.ctx, r⟩ := rfl

@[simp] theorem tclCtxTodo_take (s : TclXcv) (r : L2Reply) :
    tclCtxTodo (s.take r).ctx = tclCtxTodo s.ctx := rfl

theorem tclRefillXcvb_todo {s s' : TclXcv} (h : tclRefillXcvb s = some s') :
    tclCtxTodo s'.ctx = tclCtxTodo s.ctx - maxNetTxFramesize s.th := by
  obtain ⟨_, _, hctx, _⟩ := tclRefillXcvb_eq h
  simp only [hctx, tclCtxTodo, TclXcv.chunk, List.length_take, List.length_drop]
  omega

theorem heard_eq (l2 : Layer2Id) (s : TclXcv) (rs : List L2Reply) :
    heard s.th (tclCtxTodo s.ctx) rs = ((tclClient l2).script s rs).map TclXcv.turn := by
  induction rs generalizing s with
  | nil => rfl
  | cons r rs ih =>
    have hnext : (tclClient l2).recv s r = tclNext s r := rfl
    rw [tclNext_eq] at hnext
    rw [heard_cons]
    cases hv : verdict s.th r <;> simp only [hv] at hnext ⊢
    case ack =>
      cases hf : tclRefillXcvb s with
      | none =>
        have hdone := tclRefillXcvb_eq_none.mp hf
        have htodo : tclCtxTodo s.ctx = 0 := by
          rw [tclCtxTodo]
          omega
        simp only [hf] at hnext
        rw [Client.script_inr hnext, if_pos htodo, List.map_singleton, TclXcv.turn_mk]
      | some s' =>
        obtain ⟨hlt, hth, _⟩ := tclRefillXcvb_eq hf
        have htodo : tclCtxTodo s.ctx ≠ 0 := by
          rw [tclCtxTodo]
          omega
        simp only [hf] at hnext
        rw [Client.script_inl hnext, if_neg htodo, List.map_cons, ← ih s',
          tclRefillXcvb_todo hf, hth, TclXcv.turn_mk]
    case wtx inf =>
      rw [Client.script_inl hnext, List.map_cons, ← ih, TclXcv.extend_th, TclXcv.extend_ctx,
        TclXcv.turn_mk]
    case chained =>
      rw [Client.script_inl hnext, List.map_cons, ← ih, TclXcv.acknowledge_th,
        TclXcv.acknowledge_ctx, tclCtxTodo_take, TclXcv.take_th, TclXcv.turn_mk]
    all_goals rw [Client.script_inr hnext, List.map_singleton, TclXcv.turn_mk]

end Librfid.Tcl
