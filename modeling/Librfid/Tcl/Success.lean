import Librfid.Tcl.Verdict
import Mathlib.Data.List.TakeDrop

namespace Librfid.Tcl

def infField (hdrLen : Nat) (c : L2Call) : List UInt8 :=
  match c.tx with
  | [] => []
  | pcb :: _ => if isIBlock pcb then c.tx.drop hdrLen else []

def L2Reply.frame (r : L2Reply) : List UInt8 := r.data.load 0 r.frameLen

/-- An I-block that ends an answer to a reader whose toggle and CID are those of `th`. -/
def EndsAnswer (th : TclHandle) (frame : List UInt8) : Prop :=
  ∃ pcb rest, frame = pcb :: rest ∧ isIBlock pcb ∧ pcb &&& 0x10 = 0 ∧
    (pcb &&& 0x01).toNat = th.toggle ∧
    (pcb &&& pcbCidFollowing ≠ 0 → ∃ cid, rest.head? = some cid ∧ cid.toNat = th.cid)

def silence : L2Reply := ⟨-eTimedOut, 0, fun _ => 0⟩

/-- The replies of a script `tcl_transceive` listens to. -/
def heardBy (th : TclHandle) (tx : List UInt8) (script : List L2Reply) : List Turn :=
  if tx = [] then [] else heard th.flip (tx.length - maxNetTxFramesize th) script

/-- What a caller may conclude from success. -/
structure Complete (tx : List UInt8) (res : TclResult) : Prop where
  sent : res.history.flatMap (fun x => infField (tclPrlgLen res.th) x.1) = tx
  answered : ∃ log c r, res.history = log ++ [(c, r)] ∧ EndsAnswer res.th r.frame

/-- A frame too short for the PCB and the CID that it announces. -/
abbrev L2Reply.Short (r : L2Reply) : Prop := r.frameLen < if r.CidFollows then 2 else 1

/-- The replies that end the call through the label `out` with the return value of
layer 2 although no whole answer has come. -/
def Turn.Dropped (t : Turn) : Prop :=
  match verdict t.th t.reply with
  | .wrongNumber | .wrongCid | .unknownPcb => True
  | .last => 0 < t.todo ∨ t.reply.Short
  | _ => False

def Turn.Answered (t : Turn) : Prop := verdict t.th t.reply = .last

def handedOver (stack : Mem UInt8) (prlgLen : Nat) (payload : List UInt8) : List UInt8 :=
  payload.mapIdx fun i x => (overwritten stack (prlgLen + i : Nat)).getD x

theorem handedOver_eq_self (stack : Mem UInt8) {prlgLen : Nat} {payload : List UInt8}
    (h : prlgLen + payload.length ≤ 256) : handedOver stack prlgLen payload = payload := by
  refine List.ext_getElem (by simp [handedOver]) fun i _ hi => ?_
  simp only [handedOver, List.getElem_mapIdx]
  rw [overwritten_of_lt stack (by omega), Option.getD_none]

/-- Wherever a frame of the request runs past `tx.data`, what layer 2 finds there is the byte of
the request all the same. -/
def Intact (th : TclHandle) (stack : Mem UInt8) (tx : List UInt8) : Prop :=
  ∀ i, ∀ x ∈ tx[i]?, ∀ y ∈ overwritten stack (tclPrlgLen th + i % maxNetTxFramesize th : Nat), y = x

/-- The request as its blocks carry it. -/
def carried (th : TclHandle) (stack : Mem UInt8) (tx : List UInt8) : List UInt8 :=
  tx.mapIdx fun i x => (overwritten stack (tclPrlgLen th + i % maxNetTxFramesize th : Nat)).getD x

@[simp] theorem length_carried (th : TclHandle) (stack : Mem UInt8) (tx : List UInt8) :
    (carried th stack tx).length = tx.length := List.length_mapIdx

theorem carried_eq_self {th : TclHandle} {stack : Mem UInt8} {tx : List UInt8} :
    carried th stack tx = tx ↔ Intact th stack tx := by
  constructor
  · intro h i x hx y hy
    have hi := congrArg (·[i]?) h
    simp only [carried, List.getElem?_mapIdx, Option.mem_def.mp hx, Option.mem_def.mp hy] at hi
    exact Option.some.inj hi
  · intro h
    refine List.ext_getElem (by simp) fun i hi hi' => ?_
    simp only [carried, List.getElem_mapIdx]
    cases hy : overwritten stack (tclPrlgLen th + i % maxNetTxFramesize th : Nat) with
    | none => rfl
    | some y => exact h i _ (List.getElem?_eq_getElem hi') y hy

theorem take_carried_eq {th : TclHandle} {stack : Mem UInt8} {tx : List UInt8} {k : Nat} :
    (carried th stack tx).take k = tx ↔ tx.length - k = 0 ∧ Intact th stack tx := by
  rw [← carried_eq_self]
  constructor
  · intro heq
    have hlen := congrArg List.length heq
    rw [List.length_take, length_carried] at hlen
    rw [List.take_of_length_le (by rw [length_carried]; omega)] at heq
    exact ⟨by omega, heq⟩
  · rintro ⟨hle, heq⟩
    rw [List.take_of_length_le (by rw [length_carried]; omega), heq]

theorem handedOver_chunk {th : TclHandle} (stack : Mem UInt8) (tx : List UInt8) {k : Nat}
    (h : maxNetTxFramesize th ∣ k) :
    handedOver stack (tclPrlgLen th) ((tx.drop k).take (maxNetTxFramesize th)) =
      ((carried th stack tx).drop k).take (maxNetTxFramesize th) := by
  refine List.ext_getElem (by simp [handedOver]) fun i hi hi' => ?_
  simp only [handedOver, List.length_mapIdx, List.length_take] at hi
  have hmod : (k + i) % maxNetTxFramesize th = i := by
    rw [Nat.add_mod, Nat.mod_eq_zero_of_dvd h, Nat.zero_add, Nat.mod_mod, Nat.mod_eq_of_lt (by omega)]
  simp only [handedOver, carried, List.getElem_mapIdx, List.getElem_take, List.getElem_drop, hmod]

theorem tclRefillXcvb_pcb {s s' : TclXcv} (h : tclRefillXcvb s = some s') {mask : UInt8}
    (hmask : 0x10 &&& mask = 0) :
    s'.xcvb.tx.data 0 &&& mask = (tclBuildPrologueI s.th s.xcvb.tx.data).2.1 0 &&& mask := by
  obtain ⟨_, _, _, _, _, _, hdata⟩ := tclRefillXcvb_eq h
  have hpos := tclPrlgLen_pos s.th
  have h0 := Mem.store_of_lt (tclBuildPrologueI s.th s.xcvb.tx.data).2.1 (p := tclPrlgLen s.th)
    (q := 0) s.chunk (by omega)
  rw [hdata]
  dsimp only
  split_ifs
  · rw [Mem.set_self, h0, Bits.or_and, hmask, UInt8.or_zero]
  · rw [h0]

theorem tclRefillXcvb_class {s s' : TclXcv} (h : tclRefillXcvb s = some s') :
    isIBlock (s'.xcvb.tx.data 0) := by
  rw [isIBlock, tclRefillXcvb_pcb h (by decide)]
  exact tclBuildPrologueI_class s.th s.xcvb.tx.data

theorem tclRefillXcvb_chunk {s s' : TclXcv} (h : tclRefillXcvb s = some s') :
    s'.xcvb.tx.data.load (tclPrlgLen s.th) s.chunk.length = s.chunk := by
  obtain ⟨_, _, _, _, _, _, hdata⟩ := tclRefillXcvb_eq h
  have hpos := tclPrlgLen_pos s.th
  rw [hdata]
  split_ifs
  · rw [Mem.load_set_of_lt _ _ _ (by omega), Mem.load_store]
  · rw [Mem.load_store]

theorem infField_refill (l2 : Layer2Id) {s s' : TclXcv} (h : tclRefillXcvb s = some s') :
    infField (tclPrlgLen s.th) (tclSend l2 s') = handedOver s.stack (tclPrlgLen s.th) s.chunk := by
  obtain ⟨_, _, _, _, _, hlen, _⟩ := tclRefillXcvb_eq h
  obtain ⟨p, hp⟩ : ∃ p, tclPrlgLen s.th = p + 1 := ⟨tclPrlgLen s.th - 1, by
    have := tclPrlgLen_pos s.th
    omega⟩
  have hcls : isIBlock (s'.handed 0) := by
    rw [s'.handed_of_lt (by decide)]
    exact tclRefillXcvb_class h
  have hload : s'.handed.load (tclPrlgLen s.th) s.chunk.length =
      handedOver s.stack (tclPrlgLen s.th) s.chunk := by
    refine List.ext_getElem (by simp [handedOver]) fun i hi hi' => ?_
    have hi : i < s.chunk.length := by simpa using hi
    have hbyte := List.getElem_of_eq (tclRefillXcvb_chunk h) (i := i) (by simpa using hi)
    rw [Mem.getElem_load] at hbyte
    simp only [Mem.getElem_load, TclXcv.handed, handedOver, List.getElem_mapIdx, hbyte,
      tclRefillXcvb_stack h, Int.natCast_add]
  have hsplit := Mem.load_add s'.handed 0 (tclPrlgLen s.th) s.chunk.length
  have htx : (tclSend l2 s').tx =
      s'.handed.load 0 (tclPrlgLen s.th) ++ handedOver s.stack (tclPrlgLen s.th) s.chunk := by
    rw [tclSend, hlen, Nat.add_comm, hsplit, Int.zero_add, hload]
  rw [infField, htx, hp, Mem.load_succ, List.cons_append]
  simp only [hcls, if_true, List.drop_succ_cons]
  rw [List.drop_left' (by simp)]

theorem infField_eq_nil (l2 : Layer2Id) (n : Nat) {s : TclXcv}
    (h : ¬ isIBlock (s.xcvb.tx.data 0)) : infField n (tclSend l2 s) = [] := by
  rw [← s.handed_of_lt (by decide)] at h
  rw [infField, tclSend]
  cases s.xcvb.tx.frameLen with
  | zero => rfl
  | succ n => simp [h]

theorem infField_acknowledge (l2 : Layer2Id) (n : Nat) (s : TclXcv) :
    infField n (tclSend l2 s.acknowledge) = [] := by
  have hcls : isRBlock (s.acknowledge.xcvb.tx.data 0) :=
    tclBuildPrologueR_class s.th s.xcvb.tx.data false
  refine infField_eq_nil l2 n fun hI => ?_
  simp [isRBlock_of_isIBlock hI] at hcls

theorem TclXcv.extend_pcb (s : TclXcv) (inf : UInt8) :
    (s.extend inf).xcvb.tx.data 0 = (tclBuildPrologueS s.th s.xcvb.tx.data).2.1 0 ||| 0x30 := by
  have hpos : 1 ≤ (tclBuildPrologueS s.th s.xcvb.tx.data).2.2 :=
    tclBuildPrologue2_len_pos s.th s.xcvb.tx.data 0xc2
  have hne : (0 : Int) ≠ (tclBuildPrologueS s.th s.xcvb.tx.data).2.2 := by omega
  simp only [TclXcv.extend, fillXcvbWtxm]
  rw [Mem.set_ne _ _ hne, Mem.set_self]

theorem infField_extend (l2 : Layer2Id) (n : Nat) (s : TclXcv) (inf : UInt8) :
    infField n (tclSend l2 (s.extend inf)) = [] := by
  have hcls := tclBuildPrologueS_class s.th s.xcvb.tx.data
  refine infField_eq_nil l2 n ?_
  rw [TclXcv.extend_pcb, isIBlock, Bits.or_and]
  rw [isSBlock, beq_iff_eq] at hcls
  rw [hcls]
  decide

structure Waiting (l2 : Layer2Id) (th : TclHandle) (stack : Mem UInt8) (tx : List UInt8)
    (s : TclXcv) (log : History) : Prop where
  prlgLen : tclPrlgLen s.th = tclPrlgLen th
  frameSize : s.th.fsc = th.fsc
  cid : s.th.cid = th.cid
  request : s.ctx.tx = tx
  behind : s.stack = stack
  inRange : s.ctx.nextTxByte ≤ tx.length
  -- only the last chunk is shorter than the others
  aligned : s.ctx.nextTxByte < tx.length → maxNetTxFramesize th ∣ s.ctx.nextTxByte
  sent : log.flatMap (fun x => infField (tclPrlgLen th) x.1) ++
    infField (tclPrlgLen th) (tclSend l2 s) = (carried th stack tx).take s.ctx.nextTxByte

theorem Waiting.refill {l2 : Layer2Id} {th : TclHandle} {stack : Mem UInt8} {s s' : TclXcv}
    {tx : List UInt8} {log : History} (hlen : tclPrlgLen s.th = tclPrlgLen th)
    (hfsc : s.th.fsc = th.fsc) (hcid : s.th.cid = th.cid) (htx : s.ctx.tx = tx)
    (hstack : s.stack = stack)
    (haligned : s.ctx.nextTxByte < tx.length → maxNetTxFramesize th ∣ s.ctx.nextTxByte)
    (hsent : log.flatMap (fun x => infField (tclPrlgLen th) x.1) =
      (carried th stack tx).take s.ctx.nextTxByte)
    (h : tclRefillXcvb s = some s') : Waiting l2 th stack tx s' log := by
  obtain ⟨hlt, hth, hctx, _⟩ := tclRefillXcvb_eq h
  have hmax : maxNetTxFramesize s.th = maxNetTxFramesize th := by
    rw [maxNetTxFramesize, hlen, hfsc, maxNetTxFramesize]
  have hchunk := infField_refill l2 h
  have hk := haligned (htx ▸ hlt)
  rw [hlen, hstack, TclXcv.chunk, hmax, htx, handedOver_chunk stack tx hk] at hchunk
  have hle := s.length_chunk
  rw [hmax, htx] at hle
  have hnext : s'.ctx.nextTxByte = s.ctx.nextTxByte + s.chunk.length := by rw [hctx]
  rw [htx] at hlt
  refine ⟨by rw [hth, tclPrlgLen_flip, hlen], by rw [hth, TclHandle.flip_fsc, hfsc],
    by rw [hth, TclHandle.flip_cid, hcid], by rw [hctx, htx],
    by rw [tclRefillXcvb_stack h, hstack], by omega, fun hlt' => ?_, ?_⟩
  · rw [hnext, show s.chunk.length = maxNetTxFramesize th by omega]
    exact Nat.dvd_add hk (Nat.dvd_refl _)
  · rw [hsent, hchunk, ← List.take_add, List.take_eq_take_iff, length_carried]
    omega

theorem Waiting.next {l2 : Layer2Id} {th : TclHandle} {stack : Mem UInt8} {tx : List UInt8}
    {s s' : TclXcv} {log : History} {r : L2Reply} (h : Waiting l2 th stack tx s log)
    (hr : tclNext s r = .inl s') : Waiting l2 th stack tx s' (log ++ [(tclSend l2 s, r)]) := by
  have hsent : (log ++ [(tclSend l2 s, r)]).flatMap (fun x => infField (tclPrlgLen th) x.1) =
      (carried th stack tx).take s.ctx.nextTxByte := by
    rw [List.flatMap_append, List.flatMap_singleton]
    exact h.sent
  rw [tclNext_eq] at hr
  cases hv : verdict s.th r <;> simp only [hv] at hr
  case ack =>
    cases hf : tclRefillXcvb s with
    | none => simp [hf] at hr
    | some s'' =>
      simp only [hf, Sum.inl.injEq] at hr
      subst hr
      exact .refill h.prlgLen h.frameSize h.cid h.request h.behind h.aligned hsent hf
  case wtx inf =>
    cases hr
    refine ⟨h.prlgLen, h.frameSize, h.cid, h.request, h.behind, h.inRange, h.aligned, ?_⟩
    rw [hsent, infField_extend, List.append_nil]
    rfl
  case chained =>
    cases hr
    have hth := (s.take r).acknowledge_th
    refine ⟨?_, ?_, ?_, h.request, h.behind, h.inRange, h.aligned, ?_⟩
    · rw [hth, tclPrlgLen_flip]
      exact h.prlgLen
    · rw [hth]
      exact h.frameSize
    · rw [hth]
      exact h.cid
    · rw [hsent, infField_acknowledge, List.append_nil]
      rfl
  all_goals cases hr

theorem tclLocals_waiting {l2 : Layer2Id} {th : TclHandle} {stack : Mem UInt8} {tx : List UInt8}
    {rxLen : Nat} {s : TclXcv} (h : tclRefillXcvb (tclLocals th stack tx rxLen) = some s) :
    Waiting l2 th stack tx s [] :=
  .refill rfl rfl rfl rfl rfl (fun _ => Nat.dvd_zero _) rfl h

theorem endsAnswer_of_last {th : TclHandle} {r : L2Reply} (hv : verdict th r = .last)
    (hlen : ¬ r.Short) : EndsAnswer th r.frame := by
  obtain ⟨_, hI, hn, hc, hm⟩ := verdict_eq_last.mp hv
  obtain ⟨n, hframe⟩ : ∃ n, r.frameLen = n + 1 := ⟨r.frameLen - 1, by
    rw [L2Reply.Short] at hlen
    split_ifs at hlen <;> omega⟩
  refine ⟨r.pcb, r.data.load 1 n, ?_, hI, not_not.mp hm, hn, fun hf => ?_⟩
  · rw [L2Reply.frame, hframe]
    rfl
  · rw [L2Reply.Short, if_pos hf, hframe] at hlen
    obtain ⟨m, rfl⟩ : ∃ m, n = m + 1 := ⟨n - 1, by omega⟩
    refine ⟨r.data 1, rfl, ?_⟩
    rw [checkCid, if_pos hf] at hc
    exact beq_iff_eq.mp hc

theorem last_of_endsAnswer {th : TclHandle} {r : L2Reply} (hret : 0 ≤ r.ret)
    (h : EndsAnswer th r.frame) : verdict th r = .last ∧ ¬ r.Short := by
  obtain ⟨pcb, rest, hframe, hI, hm, hn, hc⟩ := h
  rw [L2Reply.frame] at hframe
  obtain ⟨n, hlen⟩ : ∃ n, r.frameLen = n + 1 := by
    cases hl : r.frameLen with
    | zero => simp [hl] at hframe
    | succ n => exact ⟨n, rfl⟩
  rw [hlen, Mem.load_succ, List.cons.injEq] at hframe
  obtain ⟨rfl, rfl⟩ := hframe
  have hcid : r.CidFollows → (r.data 1).toNat = th.cid ∧ 2 ≤ n + 1 := fun hf => by
    obtain ⟨cid, hcid, hth⟩ := hc hf
    cases n with
    | zero => simp at hcid
    | succ n =>
      rw [Mem.load_succ, List.head?_cons, Option.some.injEq, Int.zero_add] at hcid
      exact ⟨hcid ▸ hth, by omega⟩
  refine ⟨verdict_eq_last.mpr ⟨hret, hI, hn, ?_, not_not.mpr hm⟩, ?_⟩
  · rw [checkCid]
    split_ifs with hf
    · exact beq_iff_eq.mpr (hcid hf).1
    · rfl
  · rw [L2Reply.Short, hlen]
    split_ifs with hf
    · exact Nat.not_lt.mpr (hcid hf).2
    · omega

theorem not_ends_of_inl {s s' : TclXcv} {r : L2Reply} (h : tclNext s r = .inl s') :
    ¬ (TclXcv.turn (s, r)).Dropped ∧ ¬ (TclXcv.turn (s, r)).Answered := by
  rw [tclNext_eq] at h
  rw [Turn.Dropped, Turn.Answered, TclXcv.turn_mk]
  cases hv : verdict s.th r <;> simp_all

theorem not_ends_silence (th : TclHandle) (todo : Nat) :
    ¬ Turn.Dropped ⟨th, todo, silence⟩ ∧ ¬ Turn.Answered ⟨th, todo, silence⟩ := by
  have hv : verdict th silence = .failed := verdict_eq_failed.mpr (by decide)
  simp [Turn.Dropped, Turn.Answered, hv]

theorem Waiting.stop {l2 : Layer2Id} {th : TclHandle} {stack : Mem UInt8} {tx : List UInt8}
    {s : TclXcv} {log : History} {r : L2Reply} {o : TclOut} (h : Waiting l2 th stack tx s log)
    (hr : tclNext s r = .inr o) :
    (0 ≤ o.ret → Complete tx (.ofOut (log ++ [(tclSend l2 s, r)]) o)) ↔
      ¬ (TclXcv.turn (s, r)).Dropped ∧
        ((TclXcv.turn (s, r)).Answered → Intact th stack tx) := by
  have hsent : (log ++ [(tclSend l2 s, r)]).flatMap (fun x => infField (tclPrlgLen th) x.1) =
      (carried th stack tx).take s.ctx.nextTxByte := by
    rw [List.flatMap_append, List.flatMap_singleton]
    exact h.sent
  have htodo : tclCtxTodo s.ctx = tx.length - s.ctx.nextTxByte := by rw [tclCtxTodo, h.request]
  have htake : (carried th stack tx).take s.ctx.nextTxByte = tx ↔
      tclCtxTodo s.ctx = 0 ∧ Intact th stack tx := by
    rw [htodo]
    exact take_carried_eq
  have hlast : ∀ o : TclOut, o.s.th = s.th →
      (Complete tx (.ofOut (log ++ [(tclSend l2 s, r)]) o) ↔
        (tclCtxTodo s.ctx = 0 ∧ Intact th stack tx) ∧ EndsAnswer s.th r.frame) := by
    intro o ho
    constructor
    · rintro ⟨hall, log', c, r', hlog, hend⟩
      obtain ⟨-, heq⟩ := List.append_inj' hlog rfl
      cases heq
      dsimp only [TclResult.ofOut] at hall
      rw [ho, h.prlgLen, hsent] at hall
      exact ⟨htake.mp hall, ho ▸ (hend : EndsAnswer o.s.th r.frame)⟩
    · rintro ⟨hall, hend⟩
      refine ⟨?_, log, _, r, rfl, (ho ▸ hend : EndsAnswer o.s.th r.frame)⟩
      rw [TclResult.ofOut, ho, h.prlgLen, hsent, htake.mpr hall]
  rw [tclNext_eq] at hr
  rw [Turn.Dropped, Turn.Answered, TclXcv.turn_mk]
  have hret : verdict s.th r = .failed ↔ r.ret < 0 := verdict_eq_failed
  have hend : 0 ≤ r.ret → EndsAnswer s.th r.frame → verdict s.th r = .last ∧ ¬ r.Short :=
    last_of_endsAnswer
  cases hv : verdict s.th r <;> simp only [hv] at hr hend hret ⊢
  case failed =>
    cases hr
    simp only [true_iff] at hret
    simp [Int.not_le.mpr hret]
  case badSBlock =>
    cases hr
    simp
  case ack =>
    cases hf : tclRefillXcvb s with
    | none =>
      simp only [hf] at hr
      cases hr
      simp
    | some s' => simp [hf] at hr
  case last =>
    cases hr
    rw [hlast _ rfl]
    have hpos := (verdict_eq_last.mp hv).1
    have hiff : EndsAnswer s.th r.frame ↔ ¬ r.Short :=
      ⟨fun h => (hend hpos h).2, endsAnswer_of_last hv⟩
    simp only [not_or, Nat.pos_iff_ne_zero, not_not, hpos, forall_const, hiff]
    exact and_right_comm
  case wtx => cases hr
  case chained => cases hr
  all_goals
    cases hr
    rw [hlast _ rfl]
    simp_all

theorem heardBy_eq (l2 : Layer2Id) {th : TclHandle} {stack : Mem UInt8} {tx : List UInt8}
    {rxLen : Nat} {s : TclXcv} (h : tclRefillXcvb (tclLocals th stack tx rxLen) = some s)
    (script : List L2Reply) :
    heardBy th tx script = ((tclClient l2).script s script).map TclXcv.turn := by
  obtain ⟨hlt, hth, -⟩ := tclRefillXcvb_eq h
  have htx : tx ≠ [] := List.ne_nil_of_length_pos (Nat.zero_lt_of_lt hlt)
  have htodo : tclCtxTodo s.ctx = tx.length - maxNetTxFramesize th := tclRefillXcvb_todo h
  rw [← heard_eq, htodo, hth, heardBy, if_neg htx]
  rfl

theorem heardBy_eq_nil {th : TclHandle} {stack : Mem UInt8} {tx : List UInt8} {rxLen : Nat}
    (h : tclRefillXcvb (tclLocals th stack tx rxLen) = none) (script : List L2Reply) :
    heardBy th tx script = [] := by
  have htx : tx = [] :=
    List.length_eq_zero_iff.mp (Nat.le_zero.mp (tclRefillXcvb_eq_none.mp h))
  rw [heardBy, if_pos htx]

theorem tclClient_silence (l2 : Layer2Id) (s : TclXcv) :
    (tclClient l2).recv s silence = .inr ⟨silence.ret, s⟩ := by
  have hv : verdict s.th silence = .failed := verdict_eq_failed.mpr (by decide)
  change tclNext s silence = _
  rw [tclNext_eq, hv]

/-- A non-negative return value means a complete exchange exactly when no reply of the
script that the call listens to breaks the call off, and the request is handed over intact if
one ends it. -/
theorem tclTransceive_complete_iff (l2 : Layer2Id) (th : TclHandle) (stack : Mem UInt8)
    (tx : List UInt8) (rxLen : Nat) (script : List L2Reply) :
    ∃ res rest, tclTransceive l2 (Server.scripted silence) (script.length + 1) th stack tx rxLen
        script = some (res, rest) ∧
      ((0 ≤ res.ret → Complete tx res) ↔
        ¬ (∃ t ∈ heardBy th tx script, t.Dropped) ∧
          ((∃ t ∈ heardBy th tx script, t.Answered) → Intact th stack tx)) := by
  cases hf : tclRefillXcvb (tclLocals th stack tx rxLen) with
  | none =>
    refine ⟨_, script, tclTransceive_of_none hf, ?_⟩
    simp [heardBy_eq_nil hf, TclResult.ofOut]
  | some s =>
    have hheard := heardBy_eq l2 hf script
    obtain ⟨log, s', w, r, o, rest, pre, hreach, hlast, hrun, hpre, hscript⟩ :=
      Client.run_scripted (fun s => ⟨_, tclClient_silence l2 s⟩) s script
    have hw : Waiting l2 th stack tx s' log :=
      hreach.invariant [] (tclLocals_waiting hf) fun s log r s' h hr => h.next hr
    refine ⟨.ofOut (log ++ [(tclSend l2 s', r)]) o, rest, tclTransceive_of_some hf hrun, ?_⟩
    refine (hw.stop hlast).trans ?_
    rw [hheard]
    have hpre' : ∀ t ∈ pre.map TclXcv.turn, ¬ t.Dropped ∧ ¬ t.Answered := by
      intro t ht
      obtain ⟨x, hx, rfl⟩ := List.mem_map.mp ht
      obtain ⟨s'', hs''⟩ := hpre x hx
      exact not_ends_of_inl hs''
    rcases hscript with h | ⟨rfl, h⟩
    · rw [h, List.map_append, List.map_singleton]
      simp only [List.mem_append, List.mem_singleton, or_and_right, exists_or, exists_eq_left]
      grind
    · have hs := not_ends_silence s'.th (tclCtxTodo s'.ctx)
      rw [h, TclXcv.turn_mk]
      grind

def plainHandle (fsc : Nat) : TclHandle where
  historicalBytes := 0
  historicalLen := 0
  fsc := fsc
  fsd := 64
  fwt := 4833
  ta := 0
  sfgt := 0
  cid := 0
  nad := 0
  flags := 0
  state := .established
  toggle := 1
  atsLen := 1
  ats := fun _ => 0

/-- With a frame size of 0 the request is one frame, here of 257 bytes. -/
example : ¬ Intact (plainHandle 0) (fun _ => 0) (List.replicate 256 0xff) := fun h =>
  absurd (h 255 0xff (by decide) 0x00 (by decide)) (by decide)

/-- A frame of no known class comes back as success with an empty answer. -/
theorem tclTransceive_unknownPcb :
    let reply : L2Reply := ⟨0, 1, fun _ => 0x42⟩
    ∃ res rest, tclTransceive .iso14443a (Server.scripted silence) 2 (plainHandle 256)
        (fun _ => 0) [0x00] 256 [reply] = some (res, rest) ∧
      0 ≤ res.ret ∧ ¬ Complete [0x00] res := by
  refine ⟨_, _, rfl, by decide, fun h => ?_⟩
  obtain ⟨log, c, r, hlog, pcb, rest, hframe, hI, -⟩ := h.answered
  obtain ⟨-, hr⟩ := List.append_inj' (show [] ++ [_] = log ++ [(c, r)] from hlog) rfl
  cases hr
  cases hframe
  exact absurd hI (by decide)

end Librfid.Tcl
