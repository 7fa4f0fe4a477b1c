import Librfid.Tcl.Success

namespace Librfid.Tcl

def checkCidReads (r : L2Reply) : List Nat :=
  0 :: if r.CidFollows then [1] else []

/-- Offsets of `xcvb.rx.data` the code reads to decide what to do with a reply. -/
def tclReads (th : TclHandle) (r : L2Reply) : List Nat :=
  if r.ret < 0 then []
  else if isRBlock r.pcb then
    if (r.pcb &&& 0x01).toNat ≠ th.toggle then [0] else checkCidReads r
  else if isSBlock r.pcb then
    if !checkCid th r then checkCidReads r
    else if r.CidFollows then
      if r.frameLen < 3 then checkCidReads r else 2 :: checkCidReads r
    else 1 :: checkCidReads r
  else if isIBlock r.pcb then
    if (r.pcb &&& 0x01).toNat ≠ th.toggle then [0] else checkCidReads r
  else [0]

/-- `memcpy` is reached, and with a length that did not wrap around. -/
def PayloadInFrame (th : TclHandle) (r : L2Reply) : Prop :=
  verdict th r = .chained ∨ verdict th r = .last → rxHdrLen r.pcb ≤ r.frameLen

def Goto.locals : Goto → TclXcv
  | .doTx s => s
  | .txRefill s => s
  | .out _ s => s

structure StepInBounds (s : TclXcv) (r : L2Reply) : Prop where
  reads : ∀ i ∈ tclReads s.th r, i < r.frameLen
  payload : PayloadInFrame s.th r
  writes : (tclReceive s r).locals.ctx.rx.length ≤ s.ctx.rxLen

def InBounds (l2 : Layer2Id) (s : TclXcv) (script : List L2Reply) : Prop :=
  ∀ x ∈ (tclClient l2).script s script, StepInBounds x.1 x.2

def Turn.needs (t : Turn) : Nat :=
  match verdict t.th t.reply with
  | .failed => 0
  | .wrongNumber | .unknownPcb => 1
  | .wrongCid | .badSBlock | .wtx _ => 2
  | .ack => if t.reply.CidFollows then 2 else 1
  | .chained | .last => rxHdrLen t.reply.pcb

def Turn.infLen (t : Turn) : Nat :=
  match verdict t.th t.reply with
  | .chained | .last => t.reply.frameLen - rxHdrLen t.reply.pcb
  | _ => 0

theorem rxHdrLen_pos (pcb : UInt8) : 1 ≤ rxHdrLen pcb := by
  simp only [rxHdrLen]
  split_ifs <;> omega

theorem rxHdrLen_of_cid {r : L2Reply} (h : r.CidFollows) : 2 ≤ rxHdrLen r.pcb := by
  simp only [rxHdrLen]
  split_ifs <;> omega

theorem cidFollows_of_checkCid {th : TclHandle} {r : L2Reply} (h : checkCid th r = false) :
    r.CidFollows := by
  by_contra hn
  simp [checkCid, hn] at h

theorem forall_mem_checkCidReads {r : L2Reply} {n : Nat} :
    (∀ i ∈ checkCidReads r, i < n) ↔ (if r.CidFollows then 2 else 1) ≤ n := by
  rw [checkCidReads]
  split_ifs <;> simp <;> omega

def Verdict.headLen (r : L2Reply) : Verdict → Nat
  | .failed => 0
  | .wrongNumber | .unknownPcb => 1
  | .wrongCid | .badSBlock | .wtx _ => 2
  | .ack | .chained | .last => if r.CidFollows then 2 else 1

theorem forall_mem_tclReads (th : TclHandle) (r : L2Reply) :
    (∀ i ∈ tclReads th r, i < r.frameLen) ↔ (verdict th r).headLen r ≤ r.frameLen := by
  have hcheck : checkCid th r = false → r.CidFollows := cidFollows_of_checkCid
  unfold tclReads verdict
  simp only [apply_ite (Verdict.headLen r)]
  split_ifs <;>
    simp only [Verdict.headLen, List.forall_mem_cons, forall_mem_checkCidReads,
      List.not_mem_nil, false_imp_iff, implies_true, and_true, Nat.zero_le] <;>
    grind

theorem needs_le_frameLen (s : TclXcv) (r : L2Reply) :
    (TclXcv.turn (s, r)).needs ≤ r.frameLen ↔
      (∀ i ∈ tclReads s.th r, i < r.frameLen) ∧ PayloadInFrame s.th r := by
  have hhead : (if r.CidFollows then 2 else 1) ≤ rxHdrLen r.pcb := by
    split_ifs with hf
    · exact rxHdrLen_of_cid hf
    · exact rxHdrLen_pos r.pcb
  rw [forall_mem_tclReads, PayloadInFrame, Turn.needs, TclXcv.turn_mk]
  cases verdict s.th r
  case chained => exact ⟨fun h => ⟨Nat.le_trans hhead h, fun _ => h⟩, fun h => h.2 (.inl rfl)⟩
  case last => exact ⟨fun h => ⟨Nat.le_trans hhead h, fun _ => h⟩, fun h => h.2 (.inr rfl)⟩
  all_goals simp [Verdict.headLen]

theorem tclReceive_rx {s : TclXcv} {r : L2Reply} (h : PayloadInFrame s.th r) :
    (tclReceive s r).locals.ctx.rx.length =
      s.ctx.rx.length + (TclXcv.turn (s, r)).infLen := by
  rw [PayloadInFrame] at h
  rw [tclReceive_eq, Turn.infLen, TclXcv.turn_mk]
  have hpay : rxHdrLen r.pcb ≤ r.frameLen →
      r.payload.length = r.frameLen - rxHdrLen r.pcb := fun h => by
    rw [L2Reply.payload, Mem.length_load, netPayloadLen, u32Sub_of_le h]
  cases hv : verdict s.th r <;> simp only [hv] at h ⊢
  case chained =>
    have := hpay (h (.inl trivial))
    simp [Goto.locals, this]
  case last =>
    have := hpay (h (.inr trivial))
    simp [Goto.locals, this]
  all_goals rfl

theorem stepInBounds_iff (s : TclXcv) (r : L2Reply) :
    StepInBounds s r ↔ (TclXcv.turn (s, r)).needs ≤ r.frameLen ∧
      s.ctx.rx.length + (TclXcv.turn (s, r)).infLen ≤ s.ctx.rxLen := by
  rw [needs_le_frameLen]
  constructor
  · rintro ⟨hr, hp, hw⟩
    exact ⟨⟨hr, hp⟩, tclReceive_rx hp ▸ hw⟩
  · rintro ⟨⟨hr, hp⟩, hw⟩
    exact ⟨hr, hp, (tclReceive_rx hp).symm ▸ hw⟩

theorem tclNext_inl_rx {s s' : TclXcv} {r : L2Reply} (h : tclNext s r = .inl s') :
    s'.ctx.rx = (tclReceive s r).locals.ctx.rx ∧ s'.ctx.rxLen = s.ctx.rxLen := by
  rw [tclNext_eq] at h
  rw [tclReceive_eq]
  cases hv : verdict s.th r <;> simp only [hv] at h ⊢
  case ack =>
    cases hf : tclRefillXcvb s with
    | none => simp [hf] at h
    | some s'' =>
      obtain ⟨_, _, hctx, _⟩ := tclRefillXcvb_eq hf
      simp only [hf, Sum.inl.injEq] at h
      rw [← h, hctx]
      exact ⟨rfl, rfl⟩
  all_goals cases h
  all_goals exact ⟨rfl, rfl⟩

theorem tclNext_inr_rx {s : TclXcv} {r : L2Reply} {o : TclOut} (h : tclNext s r = .inr o) :
    o.s.ctx.rx = (tclReceive s r).locals.ctx.rx := by
  rw [tclNext_eq] at h
  rw [tclReceive_eq]
  cases hv : verdict s.th r <;> simp only [hv] at h ⊢
  case ack =>
    cases hf : tclRefillXcvb s with
    | none =>
      simp only [hf, Sum.inr.injEq] at h
      rw [← h]
      rfl
    | some s' => simp [hf] at h
  all_goals cases h
  all_goals rfl

theorem inBounds_cons_inl {l2 : Layer2Id} {s s' : TclXcv} {r : L2Reply}
    (h : tclNext s r = .inl s') (script : List L2Reply) :
    InBounds l2 s (r :: script) ↔ StepInBounds s r ∧ InBounds l2 s' script := by
  have h' : (tclClient l2).recv s r = .inl s' := h
  rw [InBounds, Client.script_inl h', List.forall_mem_cons]
  rfl

theorem inBounds_cons_inr {l2 : Layer2Id} {s : TclXcv} {r : L2Reply} {o : TclOut}
    (h : tclNext s r = .inr o) (script : List L2Reply) :
    InBounds l2 s (r :: script) ↔ StepInBounds s r := by
  have h' : (tclClient l2).recv s r = .inr o := h
  rw [InBounds, Client.script_inr h', List.forall_mem_singleton]

theorem inBounds_iff (l2 : Layer2Id) (s : TclXcv) (script : List L2Reply)
    (h : s.ctx.rx.length ≤ s.ctx.rxLen) :
    let turns := ((tclClient l2).script s script).map TclXcv.turn
    InBounds l2 s script ↔ (∀ t ∈ turns, t.needs ≤ t.reply.frameLen) ∧
      s.ctx.rx.length + (turns.map Turn.infLen).sum ≤ s.ctx.rxLen := by
  induction script generalizing s with
  | nil => simpa [InBounds, Client.script] using h
  | cons r script ih =>
    cases hr : tclNext s r with
    | inr o =>
      have hr' : (tclClient l2).recv s r = .inr o := hr
      rw [inBounds_cons_inr hr, Client.script_inr hr', stepInBounds_iff]
      simp
    | inl s' =>
      have hr' : (tclClient l2).recv s r = .inl s' := hr
      obtain ⟨hrx, hcap⟩ := tclNext_inl_rx hr
      rw [inBounds_cons_inl hr, Client.script_inl hr']
      simp only [List.map_cons, List.forall_mem_cons, List.sum_cons]
      constructor
      · rintro ⟨hstep, hrest⟩
        have hw := hstep.writes
        rw [← hrx, ← hcap] at hw
        obtain ⟨hall, hsum⟩ := (ih s' hw).mp hrest
        rw [hrx, hcap, tclReceive_rx hstep.payload] at hsum
        exact ⟨⟨((stepInBounds_iff s r).mp hstep).1, hall⟩, by omega⟩
      · rintro ⟨⟨hneed, hall⟩, hsum⟩
        have hstep : StepInBounds s r := (stepInBounds_iff s r).mpr ⟨hneed, by omega⟩
        have hw := hstep.writes
        rw [← hrx, ← hcap] at hw
        refine ⟨hstep, (ih s' hw).mpr ⟨hall, ?_⟩⟩
        rw [hrx, hcap, tclReceive_rx hstep.payload]
        omega

theorem InBounds.rx_le {l2 : Layer2Id} {s : TclXcv} {script rest : List L2Reply}
    {fuel : Nat} {log : History} {o : TclOut} (h : InBounds l2 s script)
    (h₀ : s.ctx.rx.length ≤ s.ctx.rxLen)
    (hrun : (tclClient l2).run (Server.scripted silence) fuel s script = some (log, o, rest)) :
    o.s.ctx.rx.length ≤ s.ctx.rxLen := by
  induction fuel generalizing s script log with
  | zero => simp [Client.run] at hrun
  | succ fuel ih =>
    cases script with
    | nil =>
      have hs : Server.scripted silence ((tclClient l2).send s) [] = (silence, []) := rfl
      rw [Client.run_inr hs (tclClient_silence l2 s)] at hrun
      cases hrun
      exact h₀
    | cons r script =>
      have hs : Server.scripted silence ((tclClient l2).send s) (r :: script) = (r, script) := rfl
      cases hr : tclNext s r with
      | inr o' =>
        rw [inBounds_cons_inr hr] at h
        have hr' : (tclClient l2).recv s r = .inr o' := hr
        rw [Client.run_inr hs hr'] at hrun
        cases hrun
        rw [tclNext_inr_rx hr]
        exact h.writes
      | inl s' =>
        rw [inBounds_cons_inl hr] at h
        have hr' : (tclClient l2).recv s r = .inl s' := hr
        rw [Client.run_inl hs hr'] at hrun
        obtain ⟨⟨log', o', rest'⟩, hrun', heq⟩ := Option.map_eq_some_iff.mp hrun
        cases heq
        obtain ⟨hrx, hcap⟩ := tclNext_inl_rx hr
        have hw := h.1.writes
        rw [← hrx, ← hcap] at hw
        exact hcap ▸ ih h.2 hw hrun'

/-- A call stays in bounds, and reports no more than the caller's capacity, exactly when
every frame it listens to is as long as its kind needs and the information bytes fit. -/
theorem tclTransceive_inBounds_iff (l2 : Layer2Id) (th : TclHandle) (stack : Mem UInt8)
    (tx : List UInt8) (rxLen : Nat) (script : List L2Reply) :
    ∃ res rest, tclTransceive l2 (Server.scripted silence) (script.length + 1) th stack tx rxLen
        script = some (res, rest) ∧
      ((∀ s, tclRefillXcvb (tclLocals th stack tx rxLen) = some s → InBounds l2 s script) ∧
          res.rxLen ≤ rxLen ↔
        (∀ t ∈ heardBy th tx script, t.needs ≤ t.reply.frameLen) ∧
          ((heardBy th tx script).map Turn.infLen).sum ≤ rxLen) := by
  cases hf : tclRefillXcvb (tclLocals th stack tx rxLen) with
  | none =>
    refine ⟨_, script, tclTransceive_of_none hf, ?_⟩
    simp [heardBy_eq_nil hf, TclResult.ofOut, tclLocals]
  | some s =>
    obtain ⟨_, _, hctx, _⟩ := tclRefillXcvb_eq hf
    have hrx : s.ctx.rx = [] := by rw [hctx]; rfl
    have hcap : s.ctx.rxLen = rxLen := by rw [hctx]; rfl
    have hiff := inBounds_iff l2 s script (by simp [hrx])
    simp only [← heardBy_eq l2 hf, hrx, hcap, List.length_nil, Nat.zero_add] at hiff
    obtain ⟨log, s', w, r, o, rest, pre, hreach, hlast, hrun, hpre, hscript⟩ :=
      Client.run_scripted (fun s => ⟨_, tclClient_silence l2 s⟩) s script
    refine ⟨.ofOut (log ++ [(tclSend l2 s', r)]) o, rest, tclTransceive_of_some hf hrun, ?_⟩
    simp only [Option.some.injEq, forall_eq']
    rw [← hiff, and_iff_left_iff_imp]
    intro hin
    have := hin.rx_le (by simp [hrx]) hrun
    rw [hcap] at this
    exact Nat.le_trans (Nat.mod_le _ _) this

/-- Two information bytes are written to a buffer of one. -/
theorem tclTransceive_overrun :
    let reply : L2Reply := ⟨0, 3, Mem.ofList (fun _ => 0) [0x02, 0x90, 0x00]⟩
    ∃ res rest, tclTransceive .iso14443a (Server.scripted silence) 2 (plainHandle 256)
        (fun _ => 0) [0x00] 1 [reply] = some (res, rest) ∧ 1 < res.rxLen :=
  ⟨_, _, rfl, by decide⟩

end Librfid.Tcl
