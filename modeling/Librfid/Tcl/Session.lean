import Librfid.Tcl.Success
import Librfid.Tcl.Picc

namespace Librfid.Tcl

structure TclHandle.Plain (th : TclHandle) : Prop where
  cid : th.cidUsed = false
  nad : th.nadUsed = false

namespace TclHandle.Plain

variable {th : TclHandle}

theorem flip (h : th.Plain) : th.flip.Plain := ⟨h.cid, h.nad⟩

theorem prlgLen (h : th.Plain) : tclPrlgLen th = 1 := tclPrlgLen_of_unused h.cid h.nad

end TclHandle.Plain

theorem flip_toggle_toNat {th : TclHandle} {bn : Bool} (h : th.toggle = bn.toNat) :
    th.flip.toggle = (!bn).toNat := by
  cases bn <;> simp [h]

section Sent

variable (l2 : Layer2Id) {s : TclXcv} {bn : Bool}

theorem prologue_plain (hp : s.th.Plain) (hbn : s.th.toggle = bn.toNat) (pcb : UInt8)
    (hs : isSBlock pcb = false) :
    tclBuildPrologue2 s.th s.xcvb.tx.data pcb =
      (s.th.flip, s.xcvb.tx.data.set 0 (numbered (!bn) pcb), 1) := by
  rw [tclBuildPrologue2_plain hp.cid hp.nad, hs]
  cases bn <;> simp [hbn, numbered]

theorem send_refill (hp : s.th.Plain) (hfsc : 2 ≤ s.th.fsc ∧ s.th.fsc ≤ 256)
    (hbn : s.th.toggle = bn.toNat) {s' : TclXcv} (h : tclRefillXcvb s = some s') :
    (tclSend l2 s').tx = (Block.i (!bn)
      (s.ctx.nextTxByte + s.chunk.length < s.ctx.tx.length) s.chunk).frame := by
  obtain ⟨-, -, -, -, -, hlen, hdata⟩ := tclRefillXcvb_eq h
  have hfits := tclRefillXcvb_frameLen_le (hp.prlgLen ▸ Nat.le_of_succ_le hfsc.1) h
  rw [hp.prlgLen] at hlen hdata
  rw [tclBuildPrologueI, prologue_plain hp hbn 0x02 rfl] at hdata
  have h0 := Mem.store_of_lt (s.xcvb.tx.data.set 0 (numbered (!bn) 0x02)) (p := 1) (q := 0)
    s.chunk (by omega)
  have h1 := Mem.load_store (s.xcvb.tx.data.set 0 (numbered (!bn) 0x02)) 1 s.chunk
  rw [Mem.set_self] at h0
  rw [tclSend_tx l2 (Nat.le_trans hfits hfsc.2), hlen, hdata, Mem.load_succ]
  dsimp only
  push_cast
  split_ifs with hmore
  · rw [Mem.set_self, Mem.load_set_of_lt _ _ _ (by omega), h1, h0]
    simp only [Block.frame, hmore, decide_true, if_true]
    cases bn <;> rfl
  · rw [h1, h0]
    simp [Block.frame, hmore]

theorem send_acknowledge (hp : s.th.Plain) (hbn : s.th.toggle = bn.toNat) :
    (tclSend l2 s.acknowledge).tx = (Block.ack (!bn)).frame := by
  have hprlg := prologue_plain hp hbn 0xa2 rfl
  rw [tclSend_tx l2 (by simp [TclXcv.acknowledge, tclBuildPrologueR, hprlg])]
  simp [TclXcv.acknowledge, tclBuildPrologueR, hprlg, Block.frame]

theorem send_extend (hp : s.th.Plain) (inf : UInt8) :
    (tclSend l2 (s.extend inf)).tx = (Block.wtx inf).frame := by
  have hs : isSBlock 0xc2 = true := by decide
  have hpcb : (0xc2 : UInt8) ||| 0x30 = 0xf2 := by decide
  have hprlg := tclBuildPrologue2_plain hp.cid hp.nad s.xcvb.tx.data 0xc2
  rw [if_pos hs] at hprlg
  rw [tclSend_tx l2 (by simp [TclXcv.extend, fillXcvbWtxm, tclBuildPrologueS, hprlg])]
  simp [TclXcv.extend, fillXcvbWtxm, tclBuildPrologueS, hprlg, hpcb, Block.frame, Mem.set]

end Sent

section Received

variable {th : TclHandle} {air : Air} {t : Nat} {bn : Bool}

@[simp] theorem Air.deliver_pcb (pcb : UInt8) (inf : List UInt8) :
    (air.deliver t (pcb :: inf)).data 0 = pcb := by
  simp [Air.deliver, Mem.ofList, Mem.store]

@[simp] theorem Air.deliver_ret (frame : List UInt8) :
    (air.deliver t frame).ret = air.ret t := rfl

@[simp] theorem Air.deliver_inf (pcb inf : UInt8) (rest : List UInt8) :
    (air.deliver t (pcb :: inf :: rest)).data 1 = inf := by
  simp [Air.deliver, Mem.ofList, Mem.store, Mem.set]

theorem verdict_deliver_ack (h : th.toggle = bn.toNat) :
    verdict th (air.deliver t (Block.ack bn).frame) = .ack := by
  have hret : ¬ (air.ret t : Int) < 0 := by omega
  have hR : isRBlock (numbered bn 0xa2) = true := by cases bn <;> decide
  have hn : (numbered bn 0xa2 &&& 0x01).toNat = bn.toNat := by cases bn <;> decide
  have hc : numbered bn 0xa2 &&& pcbCidFollowing = 0 := by cases bn <;> decide
  simp [verdict, Block.frame, checkCid, L2Reply.pcb, hret, hR, hn, hc, h]

theorem verdict_deliver_i (h : th.toggle = bn.toNat) (chaining : Bool) (inf : List UInt8) :
    verdict th (air.deliver t (Block.i bn chaining inf).frame) =
      if chaining then .chained else .last := by
  rw [Block.frame]
  generalize hpcb : numbered bn (if chaining then 0x12 else 0x02) = pcb
  have hret : ¬ (air.ret t : Int) < 0 := by omega
  have hI : isIBlock pcb = true := by
    subst hpcb
    cases bn <;> cases chaining <;> decide
  have hn : (pcb &&& 0x01).toNat = bn.toNat := by
    subst hpcb
    cases bn <;> cases chaining <;> decide
  have hc : pcb &&& pcbCidFollowing = 0 := by
    subst hpcb
    cases bn <;> cases chaining <;> decide
  have hm : pcb &&& 0x10 = 0 ↔ chaining = false := by
    subst hpcb
    cases bn <;> cases chaining <;> decide
  have hR := isRBlock_of_isIBlock hI
  have hS := isSBlock_of_isIBlock hI
  cases chaining <;>
    simp_all [verdict, checkCid, L2Reply.pcb, L2Reply.Chaining]

theorem verdict_deliver_wtx {m : UInt8} (h1 : 1 ≤ (m &&& 0x3f).toNat)
    (h59 : (m &&& 0x3f).toNat ≤ 59) :
    verdict th (air.deliver t (Block.wtx m).frame) = .wtx (m &&& 0x3f) := by
  have hret : ¬ (air.ret t : Int) < 0 := by omega
  have hR : isRBlock 0xf2 = false := by decide
  have hS : isSBlock 0xf2 = true := by decide
  have hc : (0xf2 : UInt8) &&& pcbCidFollowing = 0 := by decide
  have hw : (0xf2 : UInt8) &&& 0x30 = 0x30 := by decide
  have h0 : ¬ m &&& 0x3f = 0 := fun h => by simp [h] at h1
  have h60 : ¬ 60 ≤ m &&& 0x3f := by
    rw [UInt8.le_iff_toNat_le]
    have : (60 : UInt8).toNat = 60 := rfl
    omega
  have hwtxm : (air.deliver t (Block.wtx m).frame).wtxm = m &&& 0x3f := by
    simp [L2Reply.wtxm, Block.frame, hc]
  simp only [verdict, hwtxm]
  simp [Block.frame, checkCid, L2Reply.pcb, hret, hR, hS, hw, hc, h0, h60]

theorem payload_deliver_i (chaining : Bool) (inf : List UInt8) :
    (air.deliver t (Block.i bn chaining inf).frame).payload = inf := by
  have hh : rxHdrLen (numbered bn (if chaining then 0x12 else 0x02)) = 1 := by
    cases bn <;> cases chaining <;> decide
  simp only [Block.frame, L2Reply.payload, netPayloadLen, Air.deliver_pcb, hh]
  rw [u32Sub_of_le (by simp [Air.deliver])]
  simp [Air.deliver, Mem.ofList, Mem.store, Mem.load_set_of_lt]

end Received

theorem picc_deliver {p : PiccPlan} {air : Air} {call : L2Call} {b b' : Block} {c c' : Picc}
    (t : Nat) (hcall : call.tx = b.frame) (h : c.react p b = (c', some b')) :
    picc p air call (c, t) = (air.deliver t b'.frame, (c', t + 1)) := by
  simp only [picc, hcall, Block.ofFrame_frame, h]

def Answers (l2 : Layer2Id) (p : PiccPlan) (air : Air) (s : TclXcv) (w : Picc × Nat)
    (c : Picc) : Prop :=
  ∃ t b, c.current = some b ∧ picc p air (tclSend l2 s) w = (air.deliver t b.frame, (c, t + 1))

def Picc.Patient (c : Picc) : Prop :=
  ∀ m ∈ c.wtxs, 1 ≤ (m &&& 0x3f).toNat ∧ (m &&& 0x3f).toNat ≤ 59

section Phases

variable (l2 : Layer2Id) (p : PiccPlan) (air : Air)

/-- Waiting time extensions are granted until the card sends the block it held back;
neither the handle nor the buffers move. -/
theorem wtx_granted {s : TclXcv} {w : Picc × Nat} {c : Picc} {b : Block} (hp : s.th.Plain)
    (hc : c.Patient) (hb : c.held = some b) (h : Answers l2 p air s w c) :
    ∃ log s' w' t, (tclClient l2).Reaches (picc p air) s w log s' w' ∧
      picc p air (tclSend l2 s') w' = (air.deliver t b.frame, ({ c with wtxs := [] }, t + 1)) ∧
      s'.th = s.th ∧ s'.ctx = s.ctx := by
  induction hq : c.wtxs generalizing s w c with
  | nil =>
    obtain ⟨t, b', hb', hsrv⟩ := h
    simp only [Picc.current, hq, hb, Option.some.injEq] at hb'
    subst hb'
    refine ⟨[], s, w, t, .refl s w, ?_, rfl, rfl⟩
    rw [← hq]
    exact hsrv
  | cons m wtxs ih =>
    obtain ⟨t, b', hb', hsrv⟩ := h
    simp only [Picc.current, hq, Option.some.injEq] at hb'
    subst hb'
    obtain ⟨h1, h59⟩ := hc m (by simp [hq])
    have hrecv : (tclClient l2).recv s (air.deliver t (Block.wtx m).frame) =
        .inl (s.extend (m &&& 0x3f)) := by
      change tclNext s _ = _
      rw [tclNext_eq, verdict_deliver_wtx h1 h59]
    let c' : Picc := { c with wtxs := wtxs }
    obtain ⟨b', hb'⟩ : ∃ b', c'.current = some b' := by
      cases hq' : wtxs with
      | nil => exact ⟨b, by simp [c', Picc.current, hq', hb]⟩
      | cons m' _ => exact ⟨.wtx m', by simp [c', Picc.current, hq']⟩
    have hreact : c.react p (.wtx (m &&& 0x3f)) = (c', some b') := by
      simp only [Picc.react, hq, if_true]
      rw [← hb']
    have hans : Answers l2 p air (s.extend (m &&& 0x3f)) (c, t + 1) c' :=
      ⟨t + 1, b', hb', picc_deliver _ (send_extend l2 hp _) hreact⟩
    have hpat : c'.Patient := fun m' hm' => hc m' (hq ▸ List.mem_cons_of_mem m hm')
    obtain ⟨log, s', w', t', hreach, hsrv', hth, hctx⟩ :=
      ih (s := s.extend (m &&& 0x3f)) hp hpat hb hans rfl
    exact ⟨_, s', w', t', .step hsrv hrecv hreach, hsrv', hth, hctx⟩

theorem emit_current (c : Picc) (b : Block) : ∃ b', (c.emit p b).current = some b' := by
  cases h : p.wtx c.sent with
  | nil => exact ⟨b, by simp [Picc.emit, Picc.current, h]⟩
  | cons m _ => exact ⟨.wtx m, by simp [Picc.emit, Picc.current, h]⟩

theorem emit_patient (c : Picc) (b : Block) : (c.emit p b).Patient := p.wtx_valid c.sent

/-- The chain of I-blocks that carries a response, from the block the card has just
prepared to the return of the call. -/
theorem response_received {s : TclXcv} {w : Picc × Nat} {c c' : Picc} {inf : List UInt8}
    {rest : List (List UInt8)} (hp : s.th.Plain) (hc' : c' = c.emitI p inf rest)
    (hbn : s.th.toggle = c.bn.toNat) (h : Answers l2 p air s w c') :
    ∃ fuel log o w', (tclClient l2).run (picc p air) fuel s w = some (log, o, w') ∧
      0 ≤ o.ret ∧ o.s.ctx.rx = s.ctx.rx ++ inf ++ rest.flatten ∧
      o.s.th = { s.th with toggle := w'.1.bn.toNat } ∧
      w'.1.done = c.done ∧ w'.1.rcvd = c.rcvd ∧ w'.1.wtxs = [] := by
  subst hc'
  induction rest generalizing s w c inf with
  | nil =>
    obtain ⟨log, s₁, w₁, t, hreach, hsrv, hth, hctx⟩ :=
      wtx_granted l2 p air hp (emit_patient _ _ _) rfl h
    have hrecv : (tclClient l2).recv s₁ (air.deliver t (Block.i c.bn false inf).frame) =
        .inr ⟨air.ret t, s₁.take (air.deliver t (Block.i c.bn false inf).frame)⟩ := by
      change tclNext s₁ _ = _
      rw [tclNext_eq, verdict_deliver_i (hth ▸ hbn)]
      rfl
    refine ⟨log.length + (0 + 1), _, _, _, hreach.run (Client.run_inr hsrv hrecv), ?_, ?_, ?_, rfl,
      rfl, rfl⟩
    · exact Int.natCast_nonneg _
    · simp [payload_deliver_i, hctx]
    · change s₁.th = { s.th with toggle := c.bn.toNat }
      rw [hth, ← hbn]
  | cons next rest ih =>
    obtain ⟨log, s₁, w₁, t, hreach, hsrv, hth, hctx⟩ :=
      wtx_granted l2 p air hp (emit_patient _ _ _) rfl h
    let r := air.deliver t (Block.i c.bn true inf).frame
    have hrecv : (tclClient l2).recv s₁ r = .inl (s₁.take r).acknowledge := by
      change tclNext s₁ _ = _
      rw [tclNext_eq, verdict_deliver_i (hth ▸ hbn)]
      rfl
    let c₁ : Picc := { c.emitI p inf (next :: rest) with wtxs := [] }
    obtain ⟨b, hb⟩ := emit_current p { c₁.toggled with rest := rest }
      (.i c₁.toggled.bn (!rest.isEmpty) next)
    have hreact : c₁.react p (.ack (!c.bn)) = (c₁.toggled.emitI p next rest, some b) := by
      have hne : ¬ (!c.bn) = c₁.bn := by simp [c₁, Picc.emitI, Picc.emit]
      simp only [Picc.react, if_neg hne, ne_eq, not_true_eq_false, if_false, c₁]
      exact congrArg (Prod.mk _) hb
    have hth₂ : (s₁.take r).acknowledge.th = s.th.flip := by
      rw [TclXcv.acknowledge_th, TclXcv.take_th, hth]
    have hsend : (tclSend l2 (s₁.take r).acknowledge).tx = (Block.ack (!c.bn)).frame :=
      send_acknowledge l2 (hth ▸ hp) (hth ▸ hbn)
    have hans : Answers l2 p air (s₁.take r).acknowledge (c₁, t + 1)
        (c₁.toggled.emitI p next rest) :=
      ⟨t + 1, b, hb, picc_deliver (t + 1) hsend hreact⟩
    obtain ⟨fuel, log', o, w', hrun, hret, hrx, hth', hdone, hrcvd, hwtxs⟩ :=
      ih (hth₂ ▸ hp.flip) (hth₂ ▸ flip_toggle_toNat hbn) hans
    refine ⟨_, _, o, w', (hreach.trans (.single hsrv hrecv)).run hrun, hret, ?_, ?_, hdone, hrcvd,
      hwtxs⟩
    · simp [hrx, hctx, payload_deliver_i, r]
    · rw [hth', hth₂]
      rfl

theorem chained_acknowledged {s s' : TclXcv} {c : Picc} (t : Nat) (hp : s.th.Plain)
    (hfsc : 2 ≤ s.th.fsc ∧ s.th.fsc ≤ 256) (hbn : s.th.toggle = c.bn.toNat) (hwtxs : c.wtxs = [])
    (hf : tclRefillXcvb s = some s')
    (hmore : s.ctx.nextTxByte + s.chunk.length < s.ctx.tx.length) :
    let c₁ := ({ c.toggled with rcvd := c.rcvd ++ s.chunk }).emit p (.ack (!c.bn))
    ∃ log s₁ s₂ t', (tclClient l2).Reaches (picc p air) s' (c, t) log s₂
        ({ c₁ with wtxs := [] }, t') ∧
      tclRefillXcvb s₁ = some s₂ ∧ s₁.th = s.th.flip ∧
      s₁.ctx = { s.ctx with nextTxByte := s.ctx.nextTxByte + s.chunk.length } := by
  intro c₁
  obtain ⟨-, hth, hctx, -⟩ := tclRefillXcvb_eq hf
  obtain ⟨b, hb⟩ := emit_current p { c.toggled with rcvd := c.rcvd ++ s.chunk } (.ack (!c.bn))
  have hreact : c.react p (.i (!c.bn) true s.chunk) = (c₁, some b) := by
    simp only [Picc.react, hwtxs, ne_eq, not_true_eq_false, if_false, if_true]
    exact congrArg (Prod.mk _) hb
  have hsend := send_refill l2 hp hfsc hbn hf
  rw [decide_eq_true hmore] at hsend
  obtain ⟨log, s₁, w₁, t₁, hreach, hsrv, hs₁, hctx₁⟩ :=
    wtx_granted l2 p air (w := (c, t)) (hth ▸ hp.flip) (emit_patient _ _ _) rfl
      ⟨t, b, hb, picc_deliver t hsend hreact⟩
  rw [hth] at hs₁
  rw [hctx] at hctx₁
  have hbn₁ : s₁.th.toggle = (!c.bn).toNat := hs₁ ▸ flip_toggle_toNat hbn
  obtain ⟨s₂, hf₂⟩ := exists_tclRefillXcvb (s := s₁) (by rw [hctx₁]; exact hmore)
  have hrecv : (tclClient l2).recv s₁ (air.deliver t₁ (Block.ack (!c.bn)).frame) = .inl s₂ := by
    change tclNext s₁ _ = _
    rw [tclNext_eq, verdict_deliver_ack hbn₁]
    simp only [hf₂]
  exact ⟨_, s₁, s₂, t₁ + 1, hreach.trans (.single hsrv hrecv), hf₂, hs₁, hctx₁⟩

theorem request_received {s s' : TclXcv} {c : Picc} (t : Nat) (hp : s.th.Plain)
    (hfsc : 2 ≤ s.th.fsc ∧ s.th.fsc ≤ 256) (hbn : s.th.toggle = c.bn.toNat) (hwtxs : c.wtxs = [])
    (hrcvd : c.rcvd = s.ctx.tx.take s.ctx.nextTxByte) (hf : tclRefillXcvb s = some s') :
    let done := c.done ++ [s.ctx.tx]
    ∃ fuel log o w', (tclClient l2).run (picc p air) fuel s' (c, t) = some (log, o, w') ∧
      0 ≤ o.ret ∧ o.s.ctx.rx = s.ctx.rx ++ p.response done ∧
      o.s.th = { s.th with toggle := w'.1.bn.toNat } ∧
      w'.1.done = done ∧ w'.1.rcvd = [] ∧ w'.1.wtxs = [] := by
  induction hn : tclCtxTodo s.ctx using Nat.strongRecOn generalizing s s' c t with
  | _ n ih =>
    obtain ⟨hlt, hth, hctx, -⟩ := tclRefillXcvb_eq hf
    by_cases hmore : s.ctx.nextTxByte + s.chunk.length < s.ctx.tx.length
    · let c₁ : Picc := ({ c.toggled with rcvd := c.rcvd ++ s.chunk }).emit p (.ack (!c.bn))
      obtain ⟨log, s₁, s₂, t₁, hreach, hf₂, hs₁, hctx₁⟩ :=
        chained_acknowledged l2 p air t hp hfsc hbn hwtxs hf hmore
      have htodo : tclCtxTodo s₁.ctx < n := by
        have hmax : maxNetTxFramesize s.th = s.th.fsc - 1 := by
          rw [maxNetTxFramesize, hp.prlgLen, u32Sub_of_le (by omega)]
        have hchunk := s.length_chunk
        rw [← hn, hctx₁, tclCtxTodo, tclCtxTodo]
        dsimp only
        omega
      obtain ⟨fuel, log', o, w', hrun, hret, hrx, hth', hdone, hrcvd', hwtxs'⟩ :=
        ih _ htodo (c := { c₁ with wtxs := [] }) t₁ (hs₁ ▸ hp.flip) (by rw [hs₁]; exact hfsc)
          (hs₁ ▸ flip_toggle_toNat hbn) rfl
          (by simp [hctx₁, c₁, Picc.emit, hrcvd, s.take_append_chunk]) hf₂ rfl
      refine ⟨_, _, o, w', hreach.run hrun, hret, ?_, ?_, ?_, hrcvd', hwtxs'⟩
      · rw [hrx, hctx₁]
        rfl
      · rw [hth', hs₁]
        rfl
      · rw [hdone, hctx₁]
        rfl
    · -- the last block: the card answers
      have hall : c.rcvd ++ s.chunk = s.ctx.tx := by
        rw [hrcvd, s.take_append_chunk, List.take_of_length_le (by omega)]
      let c₁ : Picc := { c.toggled with rcvd := [], done := c.done ++ [s.ctx.tx] }
      obtain ⟨b, hb⟩ := emit_current p { c₁ with rest := (p.answer c₁.done).2 }
        (.i c₁.bn (!(p.answer c₁.done).2.isEmpty) (p.answer c₁.done).1)
      have hreact : c.react p (.i (!c.bn) false s.chunk) =
          (c₁.emitI p (p.answer c₁.done).1 (p.answer c₁.done).2, some b) := by
        rw [Picc.react_i_last hwtxs, hall]
        exact congrArg (Prod.mk _) hb
      have hsend := send_refill l2 hp hfsc hbn hf
      rw [decide_eq_false hmore] at hsend
      have hbn₁ : s'.th.toggle = c₁.bn.toNat := hth ▸ flip_toggle_toNat hbn
      obtain ⟨fuel, log, o, w', hrun, hret, hrx, hth', hdone, hrcvd', hwtxs'⟩ :=
        response_received l2 p air (w := (c, t)) (c := c₁) (hth ▸ hp.flip) rfl hbn₁
          ⟨t, b, hb, picc_deliver t hsend hreact⟩
      refine ⟨fuel, log, o, w', hrun, hret, ?_, ?_, hdone, hrcvd', hwtxs'⟩
      · rw [hrx, hctx, List.append_assoc]
        rfl
      · rw [hth', hth]
        rfl

end Phases

structure InStep (th : TclHandle) (c : Picc) : Prop where
  plain : th.Plain
  fsc : 16 ≤ th.fsc ∧ th.fsc ≤ 256
  number : th.toggle = c.bn.toNat
  wtxs : c.wtxs = []
  rcvd : c.rcvd = []

/-- What a call must leave: the card has the request, the caller the response. -/
structure Served (p : PiccPlan) (requests : List (List UInt8)) (res : TclResult) (c : Picc) :
    Prop where
  ret : 0 ≤ res.ret
  done : c.done = requests
  rxData : res.rxData = p.response requests
  rxLen : res.rxLen = (p.response requests).length
  number : res.th.toggle = c.bn.toNat

theorem tclTransceive_served (l2 : Layer2Id) (p : PiccPlan) (air : Air) {th : TclHandle}
    {c : Picc} (t : Nat) (h : InStep th c) (stack : Mem UInt8) {tx : List UInt8} {rxLen : Nat}
    (htx : tx ≠ []) (hcap : (p.response (c.done ++ [tx])).length ≤ rxLen)
    (hrxLen : rxLen < 2 ^ 32) :
    ∃ n res w', (∀ fuel ≥ n, tclTransceive l2 (picc p air) fuel th stack tx rxLen (c, t) =
        some (res, w')) ∧ Served p (c.done ++ [tx]) res w'.1 ∧ InStep res.th w'.1 := by
  obtain ⟨s, hf⟩ := exists_tclRefillXcvb_tclLocals th stack rxLen htx
  have hfsc : 2 ≤ th.fsc ∧ th.fsc ≤ 256 := ⟨Nat.le_trans (by decide) h.fsc.1, h.fsc.2⟩
  obtain ⟨fuel, log, o, w', hrun, hret, hrx, hth, hdone, hrcvd, hwtxs⟩ :=
    request_received l2 p air t h.plain hfsc h.number h.wtxs
      (s := tclLocals th stack tx rxLen) h.rcvd hf
  have hrx' : o.s.ctx.rx = p.response (c.done ++ [tx]) := hrx
  have hth' : o.s.th = { th with toggle := w'.1.bn.toNat } := hth
  refine ⟨fuel, .ofOut log o, w',
    fun fuel' hfuel => tclTransceive_of_some hf (Client.run_mono hrun hfuel),
    ⟨hret, hdone, hrx', ?_, ?_⟩, ?_⟩
  · simp only [TclResult.ofOut, hrx']
    exact Nat.mod_eq_of_lt (Nat.lt_of_le_of_lt hcap hrxLen)
  · simp only [TclResult.ofOut, hth']
  · simp only [TclResult.ofOut, hth']
    exact ⟨⟨h.plain.cid, h.plain.nad⟩, h.fsc, rfl, hwtxs, hrcvd⟩

structure TclCall where
  tx : List UInt8
  rxLen : Nat
  stack : Mem UInt8

def tclSession (l2 : Layer2Id) (srv : Layer2 σ) (fuel : Nat) :
    TclHandle → List TclCall → σ → Option (List (TclResult × σ))
  | _, [], _ => some []
  | th, call :: calls, w =>
    match tclTransceive l2 srv fuel th call.stack call.tx call.rxLen w with
    | none => none
    | some (res, w) => (tclSession l2 srv fuel res.th calls w).map ((res, w) :: ·)

def requests (calls : List TclCall) (k : Nat) : List (List UInt8) :=
  (calls.take (k + 1)).map TclCall.tx

theorem tclSession_served (l2 : Layer2Id) (p : PiccPlan) (air : Air) {th : TclHandle}
    {c : Picc} (t : Nat) (h : InStep th c) (calls : List TclCall)
    (htx : ∀ call ∈ calls, call.tx ≠ [] ∧ call.rxLen < 2 ^ 32)
    (hcap : ∀ k (hk : k < calls.length),
      (p.response (c.done ++ requests calls k)).length ≤ calls[k].rxLen) :
    ∃ n, ∀ fuel ≥ n, ∃ out, tclSession l2 (picc p air) fuel th calls (c, t) = some out ∧
      out.length = calls.length ∧
      ∀ k (hk : k < out.length), Served p (c.done ++ requests calls k) out[k].1 out[k].2.1 := by
  induction calls generalizing th c t with
  | nil => exact ⟨0, fun fuel _ => ⟨[], rfl, rfl, by simp⟩⟩
  | cons call calls ih =>
    obtain ⟨hne, hlt⟩ := htx call (by simp)
    have hcap₀ : (p.response (c.done ++ [call.tx])).length ≤ call.rxLen := hcap 0 (by simp)
    obtain ⟨n, res, ⟨c', t'⟩, hrun, hserved, hstep⟩ :=
      tclTransceive_served l2 p air t h call.stack hne hcap₀ hlt
    have hdone : ∀ k, c'.done ++ requests calls k = c.done ++ requests (call :: calls) (k + 1) := by
      intro k
      rw [hserved.done]
      simp [requests]
    obtain ⟨n', hout⟩ := ih t' hstep (fun call' hc => htx call' (by simp [hc]))
      fun k hk => hdone k ▸ hcap (k + 1) (by simpa using hk)
    refine ⟨max n n', fun fuel hfuel => ?_⟩
    obtain ⟨out, hsess, hlen, hall⟩ := hout fuel (by omega)
    refine ⟨(res, c', t') :: out, ?_, by simp [hlen], ?_⟩
    · rw [tclSession, hrun fuel (by omega)]
      simp only [hsess, Option.map_some]
    · intro k hk
      cases k with
      | zero => exact hserved
      | succ k => exact hdone k ▸ hall k (by simpa using hk)

/-- Every session with a fresh card: the calls return, the card has had exactly the requests,
the caller exactly the responses, and reader and card agree on the block number. -/
theorem tclSession_correct (l2 : Layer2Id) (p : PiccPlan) (air : Air) (th : TclHandle)
    (hp : th.cidUsed = false ∧ th.nadUsed = false) (hfsc : 16 ≤ th.fsc ∧ th.fsc ≤ 256)
    (htoggle : th.toggle = 1) (calls : List TclCall)
    (htx : ∀ call ∈ calls, call.tx ≠ [] ∧ call.rxLen < 2 ^ 32)
    (hcap : ∀ k (hk : k < calls.length),
      (p.response (requests calls k)).length ≤ calls[k].rxLen) :
    ∃ n, ∀ fuel ≥ n, ∃ out,
      tclSession l2 (picc p air) fuel th calls (Picc.fresh, 0) = some out ∧
      out.length = calls.length ∧
      ∀ k (hk : k < out.length), Served p (requests calls k) out[k].1 out[k].2.1 := by
  have h : InStep th Picc.fresh := ⟨⟨hp.1, hp.2⟩, hfsc, htoggle, rfl, rfl⟩
  exact tclSession_served l2 p air 0 h calls htx hcap

def twoBlockPlan : PiccPlan where
  answer := fun _ => ([0x61], [[0x90, 0x00]])
  wtx := fun n => if n = 1 then [0x05] else []
  answer_fits := fun _ inf h => by
    rcases List.mem_cons.mp h with rfl | h
    · decide
    · cases List.mem_singleton.mp h
      decide
  wtx_valid := fun n m h => by
    split_ifs at h
    · cases List.mem_singleton.mp h
      decide
    · exact absurd h (by simp)

theorem tclSession_correct_twoBlockPlan :
    let calls : List TclCall :=
      [⟨List.replicate 20 0xa4, 64, fun _ => 0⟩, ⟨[0xb0], 3, fun _ => 0⟩]
    ∃ n, ∀ fuel ≥ n, ∃ out,
      tclSession .iso14443a (picc twoBlockPlan ⟨fun _ => 0, fun _ _ => 0⟩) fuel (plainHandle 16)
        calls (Picc.fresh, 0) = some out ∧
      out.length = 2 ∧
      ∀ k (hk : k < out.length), Served twoBlockPlan (requests calls k) out[k].1 out[k].2.1 :=
  tclSession_correct .iso14443a twoBlockPlan _ (plainHandle 16) (by decide) (by decide) rfl
    [⟨List.replicate 20 0xa4, 64, fun _ => 0⟩, ⟨[0xb0], 3, fun _ => 0⟩] (by decide)
    fun k hk => by
      have hresp : ∀ d, (twoBlockPlan.response d).length = 3 := fun _ => rfl
      rw [hresp]
      match k with
      | 0 => exact (by decide : 3 ≤ 64)
      | 1 => exact Nat.le_refl 3

end Librfid.Tcl
