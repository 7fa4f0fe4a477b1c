import Librfid.Tcl.Ats
import Librfid.Tcl.Chaining

namespace Librfid.Tcl

def RawBlock.isS (b : RawBlock) : Bool := b.head?.any isSBlock

def RawBlock.isWtx (b : RawBlock) : Bool := b.head?.any fun pcb => pcb &&& 0xf0 == 0xf0

def RawBlock.infByte (b : RawBlock) : Option UInt8 :=
  if b.pcb &&& pcbCidFollowing ≠ 0 then b[2]? else b[1]?

structure Requests (b : RawBlock) (m : Nat) : Prop where
  wtx : b.isWtx
  inf : ∃ inf, b.infByte = some inf ∧ m = (inf &&& 0x3f).toNat
  range : 1 ≤ m ∧ m ≤ 59

/-- The block that follows what has been received: the waiting time is extended for one block
only. -/
structure Follows (fwt : Nat) (r : L2Reply) (c : L2Call) : Prop where
  extended : RawBlock.isS r.frame → ∃ m, Requests r.frame m ∧ RawBlock.isWtx c.tx ∧
    fwt * m < 2 ^ 32 ∧ c.timeout = fwt * m
  restored : ¬ RawBlock.isS r.frame → RawBlock.isNumbered c.tx ∧ c.timeout = fwt

/-- The exchanges of a call: the first block is an I-block, and each of the others follows what was
received before it. -/
structure Timed (fwt : Nat) (log : History) : Prop where
  first : ∀ x ∈ log.head?, RawBlock.isI x.1.tx ∧ x.1.timeout = fwt
  next : log.IsChain fun x y => Follows fwt x.2 y.1

def SBlockFor (cid : Nat) (r : L2Reply) : Prop :=
  0 ≤ r.ret → isSBlock r.pcb → 2 ≤ r.frameLen ∧ (r.CidFollows → (r.data 1).toNat = cid)

instance (cid : Nat) (r : L2Reply) : Decidable (SBlockFor cid r) :=
  inferInstanceAs (Decidable (_ → _ → _ ∧ (_ → _)))

section Received

variable {th : TclHandle} {r : L2Reply}

theorem frame_pcb (h : 0 < r.frameLen) :
    RawBlock.pcb r.frame = r.pcb ∧ RawBlock.isS r.frame = isSBlock r.pcb ∧
      RawBlock.isWtx r.frame = (r.pcb &&& 0xf0 == 0xf0) := by
  obtain ⟨n, hn⟩ := Nat.exists_eq_add_of_lt h
  rw [Nat.zero_add] at hn
  have hframe : r.frame = r.pcb :: r.data.load 1 n := by
    rw [L2Reply.frame, hn]
    rfl
  rw [hframe]
  exact ⟨rfl, rfl, rfl⟩

theorem isSBlock_of_frame (h : RawBlock.isS r.frame) : isSBlock r.pcb := by
  have hpos : 0 < r.frameLen := by
    refine Nat.pos_of_ne_zero fun h0 => ?_
    rw [L2Reply.frame, h0, Mem.load_zero] at h
    cases h
  rw [(frame_pcb hpos).2.1] at h
  exact h

theorem isSBlock_of_wtx {inf : UInt8} (h : verdict th r = .wtx inf) : isSBlock r.pcb := by
  unfold verdict at h
  split_ifs at h
  assumption

theorem isWtx_iff {x : UInt8} (h : isSBlock x) : x &&& 0xf0 = 0xf0 ↔ x &&& 0x30 = 0x30 := by
  rw [isSBlock, beq_iff_eq] at h
  have hsplit : x &&& 0xf0 = 0xc0 ||| x &&& 0x30 := by
    rw [← h, UInt8.and_comm x 0xc0, UInt8.and_comm x 0x30, ← Bits.or_and, UInt8.and_comm]
    rfl
  constructor
  · intro h'
    have := congrArg (· &&& (0x30 : UInt8)) h'
    rw [UInt8.and_assoc] at this
    exact this
  · intro h'
    rw [hsplit, h']
    rfl

theorem infByte_frame (h : 2 ≤ r.frameLen) :
    RawBlock.infByte r.frame =
      if r.CidFollows then (if r.frameLen < 3 then none else some (r.data 2)) else some (r.data 1) := by
  have hlen : r.frame.length = r.frameLen := Mem.length_load _ _ _
  have hget : ∀ i : Nat, i < r.frameLen → r.frame[i]? = some (r.data i) := by
    intro i hi
    rw [List.getElem?_eq_getElem (hlen ▸ hi)]
    have hload := Mem.getElem_load r.data 0 (n := r.frameLen) (i := i) (by rwa [Mem.length_load])
    rw [Int.zero_add] at hload
    exact congrArg some hload
  rw [RawBlock.infByte, (frame_pcb (by omega)).1]
  split_ifs with hc hshort
  · exact List.getElem?_eq_none (by omega)
  · exact hget 2 (by omega)
  · exact hget 1 (by omega)

theorem not_requests_of_infByte {b : RawBlock} (h : b.infByte = none) (m : Nat) : ¬ Requests b m := by
  intro hreq
  obtain ⟨inf, hinf, -⟩ := hreq.inf
  rw [h] at hinf
  cases hinf

theorem verdict_sBlock (h : SBlockFor th.cid r) (hret : 0 ≤ r.ret) (hs : isSBlock r.pcb) :
    (verdict th r = .badSBlock ∧ ∀ m, ¬ Requests r.frame m) ∨
      (verdict th r = .wtx r.wtxm ∧ Requests r.frame r.wtxm.toNat) := by
  obtain ⟨hlen, hcid⟩ := h hret hs
  have hframe := frame_pcb (r := r) (by omega)
  have hinf := infByte_frame hlen
  have hR : ¬ isRBlock r.pcb := by
    intro hR
    rw [isSBlock, beq_iff_eq] at hs
    rw [isRBlock, hs] at hR
    cases hR
  have hcheck : checkCid th r = true := by
    rw [checkCid]
    split_ifs with hc
    · exact beq_iff_eq.mpr (hcid hc)
    · rfl
  rw [verdict, if_neg (Int.not_lt.mpr hret), if_neg hR, if_pos hs, hcheck, Bool.not_true,
    if_neg Bool.false_ne_true]
  by_cases hshort : r.CidFollows ∧ r.frameLen < 3
  · rw [if_pos hshort]
    rw [if_pos hshort.1, if_pos hshort.2] at hinf
    exact .inl ⟨rfl, not_requests_of_infByte hinf⟩
  · rw [if_neg hshort]
    have hwtxm : ∃ inf, RawBlock.infByte r.frame = some inf ∧ r.wtxm = inf &&& 0x3f := by
      by_cases hc : r.CidFollows
      · rw [if_pos hc, if_neg fun hlt => hshort ⟨hc, hlt⟩] at hinf
        exact ⟨_, hinf, by rw [L2Reply.wtxm, if_pos hc]⟩
      · rw [if_neg hc] at hinf
        exact ⟨_, hinf, by rw [L2Reply.wtxm, if_neg hc]⟩
    obtain ⟨inf, hinf, hwtxm⟩ := hwtxm
    by_cases hkind : r.pcb &&& 0x30 ≠ 0x30
    · rw [if_pos hkind]
      refine .inl ⟨rfl, fun m hreq => hkind ?_⟩
      have hwtx := hreq.wtx
      rw [hframe.2.2, beq_iff_eq] at hwtx
      exact (isWtx_iff hs).mp hwtx
    · rw [if_neg hkind]
      have hrange : (r.wtxm = 0 ∨ (60 ≤ r.wtxm ∧ r.wtxm ≤ 63)) ↔
          ¬ (1 ≤ r.wtxm.toNat ∧ r.wtxm.toNat ≤ 59) := by
        have hle : r.wtxm.toNat ≤ 63 := by
          rw [hwtxm, UInt8.toNat_and]
          exact Nat.and_le_right
        rw [← UInt8.toNat_inj, UInt8.le_iff_toNat_le, UInt8.le_iff_toNat_le]
        change r.wtxm.toNat = 0 ∨ 60 ≤ r.wtxm.toNat ∧ r.wtxm.toNat ≤ 63 ↔ _
        omega
      by_cases hbad : r.wtxm = 0 ∨ (60 ≤ r.wtxm ∧ r.wtxm ≤ 63)
      · rw [if_pos hbad]
        refine .inl ⟨rfl, fun m hreq => hrange.mp hbad ?_⟩
        obtain ⟨inf', hinf', rfl⟩ := hreq.inf
        rw [hinf] at hinf'
        cases hinf'
        rw [hwtxm]
        exact hreq.range
      · rw [if_neg hbad]
        refine .inr ⟨rfl, ?_, ⟨inf, hinf, by rw [hwtxm]⟩, not_not.mp fun h => hbad (hrange.mpr h)⟩
        rw [hframe.2.2, beq_iff_eq]
        exact (isWtx_iff hs).mpr (not_not.mp hkind)

end Received

section Sent

variable {l2 : Layer2Id} (s : TclXcv)

theorem extend_isWtx (inf : UInt8) : RawBlock.isWtx (tclSend l2 (s.extend inf)).tx := by
  have hs : isSBlock 0xc2 := by decide
  have hmasked := tclBuildPrologue2_masked s.th s.xcvb.tx.data (m := 0xf0) (by decide) (by decide)
    0xc2
  rw [if_pos hs] at hmasked
  have hpcb : (s.extend inf).xcvb.tx.data 0 &&& 0xf0 = 0xf0 := by
    rw [TclXcv.extend_pcb, Bits.or_and, tclBuildPrologueS, hmasked]
    decide
  have hhead := (tclSend_pcb l2 (s := s.extend inf) (Nat.succ_pos _)).1
  rw [RawBlock.isWtx, hhead, Option.any_some, hpcb]
  rfl

theorem extend_timeout (inf : UInt8) :
    (tclSend l2 (s.extend inf)).timeout = s.th.fwt * inf.toNat % 2 ^ 32 := by
  change (tclBuildPrologueS s.th s.xcvb.tx.data).1.fwt * inf.toNat % 2 ^ 32 = _
  rw [tclBuildPrologueS_handle]

theorem acknowledge_timeout : (tclSend l2 s.acknowledge).timeout = s.th.fwt := by
  change (tclBuildPrologueR s.th s.xcvb.tx.data false).1.fwt = _
  rw [tclBuildPrologueR_handle]
  rfl

/-- No extension of a waiting time overflows. -/
theorem fwt_mul_lt (fwi : UInt8) {m : Nat} (h : m ≤ 59) : fwiToFwt rc632Open fwi * m < 2 ^ 32 := by
  have hpow : 2 ^ min fwi.toNat 14 ≤ 2 ^ 14 :=
    Nat.pow_le_pow_right (by decide) (Nat.min_le_right _ _)
  have hmul : fwiToFwt rc632Open fwi * m ≤ 302 * 2 ^ 14 * 59 := by
    rw [fwiToFwt_rc632]
    exact Nat.mul_le_mul (Nat.mul_le_mul_left 302 hpow) h
  omega

end Sent

theorem Timed.snoc {fwt : Nat} {log : History} {c c' : L2Call} {r : L2Reply}
    (h : Timed fwt (log ++ [(c, r)])) (hc : Follows fwt r c') (r' : L2Reply) :
    Timed fwt (log ++ [(c, r)] ++ [(c', r')]) where
  first := by
    rw [List.head?_append_of_ne_nil _ (List.append_ne_nil_of_right_ne_nil log (List.cons_ne_nil _ _))]
    exact h.first
  next := h.next.append (List.isChain_singleton _) fun x hx y hy => by
    rw [List.getLast?_concat] at hx
    cases hx
    cases hy
    exact hc

structure Waits (l2 : Layer2Id) (th : TclHandle) (s : TclXcv) (log : History) : Prop where
  fwt : s.th.fwt = th.fwt
  cid : s.th.cid = th.cid
  timed : (∀ x ∈ log, SBlockFor th.cid x.2) → ∀ r, Timed th.fwt (log ++ [(tclSend l2 s, r)])

namespace Waits

variable {l2 : Layer2Id} {th : TclHandle} {s s' : TclXcv} {log : History} {r : L2Reply}

theorem snoc (h : Waits l2 th s log) (hfwt : s'.th.fwt = th.fwt) (hcid : s'.th.cid = th.cid)
    (hfollows : SBlockFor th.cid r → Follows th.fwt r (tclSend l2 s')) :
    Waits l2 th s' (log ++ [(tclSend l2 s, r)]) where
  fwt := hfwt
  cid := hcid
  timed hall := by
    have hlog : ∀ x ∈ log, SBlockFor th.cid x.2 := fun x hx => hall x (List.mem_append_left _ hx)
    exact (h.timed hlog r).snoc
      (hfollows (hall _ (List.mem_append_right log (List.mem_singleton_self _))))

theorem next {fwi : UInt8} (hth : th.fwt = fwiToFwt rc632Open fwi) (h : Waits l2 th s log)
    (hr : tclNext s r = .inl s') : Waits l2 th s' (log ++ [(tclSend l2 s, r)]) := by
  rw [tclNext_eq] at hr
  have hret : ¬ r.ret < 0 := fun hneg => by
    rw [verdict_eq_failed.mpr hneg] at hr
    cases hr
  -- an S-block that does not end the call is an S(WTX) request
  have hwtx : SBlockFor th.cid r → RawBlock.isS r.frame →
      verdict s.th r = .wtx r.wtxm ∧ Requests r.frame r.wtxm.toNat := by
    intro hcid hs
    rw [← h.cid] at hcid
    rcases verdict_sBlock hcid (Int.not_lt.mp hret) (isSBlock_of_frame hs) with hbad | hwtx
    · simp [hbad.1] at hr
    · exact hwtx
  have hnot : ∀ inf, Verdict.ack ≠ .wtx inf ∧ Verdict.chained ≠ .wtx inf := fun inf =>
    ⟨Verdict.noConfusion, Verdict.noConfusion⟩
  cases hv : verdict s.th r <;> simp only [hv] at hr hwtx
  case ack =>
    cases hf : tclRefillXcvb s with
    | none => simp [hf] at hr
    | some s'' =>
      simp only [hf, Sum.inl.injEq] at hr
      subst hr
      obtain ⟨-, hth', -, htimeout, -⟩ := tclRefillXcvb_eq hf
      refine h.snoc (by rw [hth']; exact h.fwt) (by rw [hth']; exact h.cid) fun hcid => ?_
      refine ⟨fun hs => absurd (hwtx hcid hs).1 (hnot _).1, fun _ => ⟨(refill_isI l2 hf).2, ?_⟩⟩
      rw [tclSend, htimeout]
      exact h.fwt
  case wtx inf =>
    cases hr
    refine h.snoc h.fwt h.cid fun hcid => ⟨fun hs => ?_, fun hs => ?_⟩
    · obtain ⟨heq, hreq⟩ := hwtx hcid hs
      cases heq
      have hlt := fwt_mul_lt fwi hreq.range.2
      rw [← hth] at hlt
      refine ⟨_, hreq, extend_isWtx s _, hlt, ?_⟩
      rw [extend_timeout, h.fwt, Nat.mod_eq_of_lt hlt]
    · have hpcb := isSBlock_of_wtx hv
      have hlen := (hcid (Int.not_lt.mp hret) hpcb).1
      rw [(frame_pcb (by omega)).2.1] at hs
      exact absurd hpcb hs
  case chained =>
    cases hr
    refine h.snoc ?_ ?_ fun hcid => ?_
    · rw [TclXcv.acknowledge_th]
      exact h.fwt
    · rw [TclXcv.acknowledge_th]
      exact h.cid
    · refine ⟨fun hs => absurd (hwtx hcid hs).1 (hnot _).2, fun _ => ⟨(acknowledge_class _).2, ?_⟩⟩
      rw [acknowledge_timeout]
      exact h.fwt
  all_goals cases hr

theorem start {stack : Mem UInt8} {tx : List UInt8} {rxLen : Nat}
    (h : tclRefillXcvb (tclLocals th stack tx rxLen) = some s) : Waits l2 th s [] := by
  obtain ⟨-, hth, -, htimeout, -⟩ := tclRefillXcvb_eq h
  refine ⟨by rw [hth]; rfl, by rw [hth]; rfl, fun _ r => ⟨?_, List.isChain_singleton _⟩⟩
  intro x hx
  cases hx
  exact ⟨(refill_isI l2 h).1, htimeout⟩

theorem stop {o : TclOut} (h : Waits l2 th s log) (hr : tclNext s r = .inr o)
    (hcid : SBlockFor th.cid r) (hret : 0 ≤ r.ret) (hs : RawBlock.isS r.frame) :
    o.ret < 0 ∧ ∀ m, ¬ Requests r.frame m := by
  rw [← h.cid] at hcid
  rw [tclNext_eq] at hr
  rcases verdict_sBlock hcid hret (isSBlock_of_frame hs) with ⟨hv, hreq⟩ | ⟨hv, -⟩
  · simp only [hv] at hr
    cases hr
    exact ⟨show (-1 : Int) < 0 by decide, hreq⟩
  · simp only [hv] at hr
    cases hr

end Waits

/-- Whatever the card asks for, as long as its S-blocks are whole. -/
theorem tclTransceive_timed (l2 : Layer2Id) (srv : Layer2 σ) {th : TclHandle} {fwi : UInt8}
    (hfwt : th.fwt = fwiToFwt rc632Open fwi) (stack : Mem UInt8) (tx : List UInt8) (rxLen : Nat)
    (w : σ) :
    (∀ s₀ s w' log, tclRefillXcvb (tclLocals th stack tx rxLen) = some s₀ →
      Client.Reaches (tclClient l2) srv s₀ w log s w' → (∀ x ∈ log, SBlockFor th.cid x.2) →
      ∀ r, Timed th.fwt (log ++ [(tclSend l2 s, r)])) ∧
    ∀ fuel res w', tclTransceive l2 srv fuel th stack tx rxLen w = some (res, w') →
      (∀ x ∈ res.history, SBlockFor th.cid x.2) →
      Timed th.fwt res.history ∧
        ∀ x ∈ res.history.getLast?, 0 ≤ x.2.ret → RawBlock.isS x.2.frame →
          res.ret < 0 ∧ ∀ m, ¬ Requests x.2.frame m := by
  have hwaits : ∀ s₀ s w' log, tclRefillXcvb (tclLocals th stack tx rxLen) = some s₀ →
      Client.Reaches (tclClient l2) srv s₀ w log s w' → Waits l2 th s log :=
    fun _ _ _ _ hf hreach => hreach.invariant [] (Waits.start hf) fun _ _ _ _ h hr => h.next hfwt hr
  refine ⟨fun s₀ s w' log hf hreach => (hwaits s₀ s w' log hf hreach).timed, ?_⟩
  intro fuel res w' hres hall
  rcases tclTransceive_cases hres with hnil | ⟨s₀, s, log, w₁, r, o, hf, hreach, hlast, rfl⟩
  · rw [hnil]
    exact ⟨⟨fun x h => absurd h (by simp), List.isChain_nil⟩, fun x h => absurd h (by simp)⟩
  · have h := hwaits s₀ s w₁ log hf hreach
    change ∀ x ∈ log ++ [(tclSend l2 s, r)], SBlockFor th.cid x.2 at hall
    refine ⟨h.timed (fun x hx => hall x (List.mem_append_left _ hx)) r, ?_⟩
    intro x hx
    rw [TclResult.ofOut, List.getLast?_concat] at hx
    cases hx
    exact h.stop hlast (hall _ (List.mem_append_right log (List.mem_singleton_self _)))

def slowCard : List L2Reply :=
  [⟨0, 2, Mem.ofList (fun _ => 0) [0xf2, 0x3b]⟩, ⟨0, 1, Mem.ofList (fun _ => 0) [0xa2]⟩,
    ⟨0, 2, Mem.ofList (fun _ => 0) [0xf2, 0x3c]⟩]

theorem tclTransceive_timed_slow :
    ({ plainHandle 16 with fwt := 4832 } : TclHandle).fwt = fwiToFwt rc632Open 4 ∧
    ∃ res rest, tclTransceive .iso14443a (Server.scripted silence) 3
        { plainHandle 16 with fwt := 4832 } (fun _ => 0) (List.replicate 20 0x55) 256 slowCard =
        some (res, rest) ∧
      (res.history.map fun x => x.1.timeout) = [4832, 4832 * 59, 4832] ∧ Timed 4832 res.history ∧
      res.ret < 0 := by
  have hfwt : ({ plainHandle 16 with fwt := 4832 } : TclHandle).fwt = fwiToFwt rc632Open 4 := by decide
  have hall := tclTransceive_timed .iso14443a (Server.scripted silence) hfwt (fun _ => 0)
    (List.replicate 20 0x55) 256 slowCard
  have hrun := hall.2 3 _ _ rfl (by decide)
  exact ⟨hfwt, _, _, rfl, by decide, hrun.1, (hrun.2 _ rfl (by decide) (by decide)).1⟩

end Librfid.Tcl
