import Librfid.Tcl.Decode
import Librfid.Tcl.Lifecycle

namespace Librfid.Tcl

open Exec Layer2

structure SameLink (th th' : TclHandle) : Prop where
  fsd : th'.fsd = th.fsd
  cid : th'.cid = th.cid
  state : th'.state = th.state
  toggle : th'.toggle = th.toggle

theorem SameLink.trans {th th' th'' : TclHandle} (h : SameLink th th') (h' : SameLink th' th'') :
    SameLink th th'' :=
  ⟨h'.fsd.trans h.fsd, h'.cid.trans h.cid, h'.state.trans h.state, h'.toggle.trans h.toggle⟩

section Ats

variable (id : Layer2Id) (ah : AsicHandle) (past : Nat) (th : TclHandle) (ats : Mem UInt8)
  (size cur : Nat) (t0 : UInt8)

theorem setFsc_same (fsdi : UInt8) : SameLink th (setFsc ah past fsdi th) := by
  unfold setFsc
  cases iso14443FsdiToFsd past fsdi.toNat <;> dsimp only <;> split_ifs <;>
    exact ⟨rfl, rfl, rfl, rfl⟩

theorem atsTa_same : SameLink th (atsTa t0 ats th cur).1 := by
  unfold atsTa
  split_ifs <;> exact ⟨rfl, rfl, rfl, rfl⟩

theorem atsTb_same : SameLink th (atsTb ah t0 ats th cur).1 := by
  unfold atsTb
  split_ifs <;> exact ⟨rfl, rfl, rfl, rfl⟩

theorem atsTc_same : SameLink th (atsTc t0 ats th cur).1 := by
  unfold atsTc
  dsimp only
  split_ifs <;> exact ⟨rfl, rfl, rfl, rfl⟩

theorem atsDefaults_same : SameLink th (atsDefaults id ah th) := by
  unfold atsDefaults
  dsimp only
  split_ifs <;> exact ⟨rfl, rfl, rfl, rfl⟩

theorem tclParseAts_same : SameLink th (tclParseAts id ah past th ats size).2 := by
  have hta : SameLink th { th with ta := 0 } := ⟨rfl, rfl, rfl, rfl⟩
  have hbytes : ∀ th : TclHandle, ∀ t0 cur,
      SameLink th (atsTc t0 ats (atsTb ah t0 ats (atsTa t0 ats th cur).1 (atsTa t0 ats th cur).2).1
        (atsTb ah t0 ats (atsTa t0 ats th cur).1 (atsTa t0 ats th cur).2).2).1 :=
    fun th t0 cur => ((atsTa_same _ _ _ _).trans (atsTb_same _ _ _ _ _)).trans (atsTc_same _ _ _ _)
  have hlast : ∀ {th th' : TclHandle} {p n}, SameLink th th' →
      SameLink th { th' with historicalLen := n, historicalBytes := p } :=
    fun h => ⟨h.fsd, h.cid, h.state, h.toggle⟩
  unfold tclParseAts
  dsimp only
  split_ifs
  · exact ⟨rfl, rfl, rfl, rfl⟩
  all_goals first
    | exact hta.trans (atsDefaults_same id ah _)
    | exact hta.trans (hlast ((setFsc_same ah past _ _).trans (hbytes _ _ _)))

theorem tclParseAts_ret :
    (tclParseAts id ah past th ats size).1 = if (ats 0).toNat = 0 ∨ size = 0 then -1 else 0 := by
  unfold tclParseAts
  dsimp only
  split_ifs <;> rfl

end Ats

section Invariant

variable {J : TclHandle → Prop} {s s' : TclXcv} {r : L2Reply}

theorem tclNext_inl_handle (hflip : ∀ th, J th → J th.flip) (h : tclNext s r = .inl s')
    (hs : J s.th) : J s'.th := by
  rw [tclNext_eq] at h
  cases hv : verdict s.th r with
  | ack =>
    simp only [hv] at h
    cases hf : tclRefillXcvb s with
    | none => simp [hf] at h
    | some s₁ =>
      simp only [hf] at h
      cases h
      exact (tclRefillXcvb_eq hf).2.1 ▸ hflip _ hs
  | wtx inf =>
    simp only [hv] at h
    cases h
    exact hs
  | chained =>
    simp only [hv] at h
    cases h
    rw [TclXcv.acknowledge_th]
    exact hflip _ hs
  | _ => simp [hv] at h

theorem tclNext_inr_handle {o : TclOut} (h : tclNext s r = .inr o) : o.s.th = s.th := by
  rw [tclNext_eq] at h
  cases hv : verdict s.th r with
  | ack =>
    simp only [hv] at h
    cases hf : tclRefillXcvb s with
    | none =>
      simp only [hf] at h
      cases h
      rfl
    | some s₁ => simp [hf] at h
  | failed | wrongNumber | wrongCid | unknownPcb | badSBlock | last =>
    simp only [hv] at h
    cases h
    rfl
  | wtx inf => simp [hv] at h
  | chained => simp [hv] at h

variable {σ : Type} (l2 : TclLayer2 σ)

theorem tclExchange_handle (hflip : ∀ th, J th → J th.flip) (fuel : Nat) (rx : Mem UInt8)
    (hs : J s.th) :
    Triple (fun _ => True) (tclExchange l2 fuel s rx) (Ends (fun _ => True) fun o _ => J o.s.th) := by
  induction fuel generalizing s rx with
  | zero => exact .ends_hang fun _ => id
  | succ fuel ih =>
    refine .ends_bind (Q := fun _ _ => True) (fun _ _ => ⟨trivial, fun _ _ => trivial⟩) fun r => ?_
    cases h : tclNext s r with
    | inl s' => exact (ih r.data (tclNext_inl_handle hflip h hs)).pre fun _ _ => trivial
    | inr o => exact .ends_pure fun _ _ => ⟨trivial, (tclNext_inr_handle h).symm ▸ hs⟩

theorem tclTransceiveL2_handle (hflip : ∀ th, J th → J th.flip) (fuel : Nat) (args : XcvArgs) :
    Exec.Keeps (fun s => J s.2) (tclTransceiveL2 l2 fuel args) := by
  refine keeps_get_bind fun th hth => ?_
  dsimp only
  cases hf : tclRefillXcvb (tclLocals th args.stack args.tx args.rxLen) with
  | none => exact .pure _
  | some s =>
    have hs : J s.th := (tclRefillXcvb_eq hf).2.1 ▸ hflip _ hth
    refine .ends_bind_const (Triple.ends_lift_snd (tclExchange_handle l2 hflip fuel args.rx hs))
      (fun _ => id) fun o => ?_
    exact Triple.bind (Q := fun _ s => J s.2) (fun s hs => hs.2) (fun _ _ => id) (fun _ _ => id)
      fun _ => id

end Invariant

/-- The card answers whatever belongs to an activation or a DESELECT, and the reader can set the
rates. -/
structure Cooperates {σ : Type} (l2 : TclLayer2 σ) : Prop where
  ats : ∀ th fsdi rx n s, ∃ r s', l2.transceive (ratsCall l2.ah th fsdi) rx n s = (.ok r, s') ∧
    0 ≤ r.ret ∧ r.data 0 ≠ 0 ∧ r.frameLen ≠ 0
  pps : ∀ th rx n s, ∃ r s', l2.transceive (ppsCall l2.speed th) rx n s = (.ok r, s') ∧
    0 ≤ r.ret ∧ r.data 0 = ppss th
  deselect : ∀ th frame rx n s, ∃ r s',
    l2.transceive (deselectCall l2.ah th frame) rx n s = (.ok r, s') ∧ 0 ≤ r.ret
  speed : ∀ tx di s, ∃ s', l2.setSpeed tx (diToSpeed di) s = (.ok (), s')

theorem Cooperates.logging {σ : Type} {l2 : TclLayer2 σ} (h : Cooperates l2) :
    Cooperates l2.logging where
  ats th fsdi rx n := by
    rintro ⟨s, log⟩
    obtain ⟨r, s', hr, hans⟩ := h.ats th fsdi rx n s
    exact ⟨r, (s', log ++ [ratsCall l2.ah th fsdi]), by simp [TclLayer2.logging, hr], hans⟩
  pps th rx n := by
    rintro ⟨s, log⟩
    obtain ⟨r, s', hr, hans⟩ := h.pps th rx n s
    exact ⟨r, (s', log ++ [ppsCall l2.speed th]), by simp [TclLayer2.logging, hr], hans⟩
  deselect th frame rx n := by
    rintro ⟨s, log⟩
    obtain ⟨r, s', hr, hans⟩ := h.deselect th frame rx n s
    exact ⟨r, (s', log ++ [deselectCall l2.ah th frame]), by simp [TclLayer2.logging, hr], hans⟩
  speed tx di := by
    rintro ⟨s, log⟩
    obtain ⟨s', hs⟩ := h.speed tx di s
    exact ⟨(s', log), by simp [TclLayer2.logging, lift, hs]⟩

section Connect

variable {σ : Type} {l2 : TclLayer2 σ}

theorem Cooperates.requestAts (h : Cooperates l2) (past : Nat) :
    Total (fun s => s.2.state = .initial ∧ s.2.fsd ∈ fsdiTable) (tclRequestAts l2 past)
      fun _ s => s.2.state = .atsRcvd := by
  refine .get_bind (J := fun th : TclHandle => th.state = .initial ∧ th.fsd ∈ fsdiTable) fun th hth => ?_
  obtain ⟨fsdi, hfsdi⟩ := iso14443FsdToFsdi_of_mem hth.2
  rw [when_of_not (not_not.mpr hth.1), hfsdi]
  refine .pure_bind (.bind (Total.lift_snd (J := fun t => t = th)
    (h.ats th fsdi th.ats th.atsLen)) fun r => ?_)
  refine .assume fun ⟨hret, h0, hlen⟩ => .modify_bind ?_
  rw [when_of_not (Int.not_lt.mpr hret)]
  refine .pure_bind (.modify_bind (.get_bind (J := fun t : TclHandle => t = _) fun th' hth' => ?_))
  have hparse : (tclParseAts l2.id l2.ah past th' th'.ats th'.atsLen).1 = 0 := by
    rw [tclParseAts_ret, hth', if_neg]
    rintro (h | h)
    · exact h0 (UInt8.toNat_inj.mp h)
    · exact hlen h
  rw [hparse]
  refine .modify_bind (.pure fun s hs => ?_)
  rw [hs, (tclParseAts_same _ _ _ _ _ _).state, hth']

theorem Cooperates.doPps (h : Cooperates l2) (stack : Mem UInt8) :
    Total (fun s => s.2.state = .atsRcvd) (tclDoPps l2 stack) fun _ _ => True := by
  refine .get_bind (J := fun th : TclHandle => th.state = .atsRcvd) fun th hth => ?_
  have hsame : ¬ (ppsDr th.ta ≠ ppsDs th.ta ∧ th.ta &&& 0x80 = 0) := fun h =>
    h.1 (ppsDs_eq_ppsDr th.ta).symm
  rw [when_of_not (not_not.mpr hth), when_of_not hsame]
  refine .pure_bind (.pure_bind (.bind (Total.lift_snd (J := fun t => t = th)
    fun s => h.pps th stack 1 s) fun r => .assume fun ⟨hret, hpps⟩ => ?_))
  rw [check_of_nonneg hret, when_of_not (not_not.mpr hpps)]
  have hspeed : ∀ tx, Total (fun s => s.2 = th)
      (lift (l2.setSpeed tx (diToSpeed (dToDi l2.speed (ppsDr th.ta))))) fun _ s => s.2 = th :=
    fun tx => (Total.lift_snd (J := fun t => t = th) (Q := fun _ => True) fun s =>
      (h.speed tx _ s).elim fun s' hs => ⟨(), s', hs, trivial⟩).post fun _ _ => And.right
  exact .pure_bind (.pure_bind ((hspeed false).bind fun _ => (hspeed true).post fun _ _ _ => trivial))

theorem Cooperates.connect (h : Cooperates l2) (past : Nat) (stack : Mem UInt8)
    (hid : l2.id = .iso14443a ∨ l2.id = .iso14443b) :
    Total (fun s => s.2.state.Admits ∧
        (l2.id = .iso14443a → s.2.state = .initial ∧ s.2.fsd ∈ fsdiTable))
      (tclConnect l2 past stack) fun _ s => s.2.state = .established := by
  refine .get_bind (J := fun th : TclHandle => th.state.Admits ∧
    (l2.id = .iso14443a → th.state = .initial ∧ th.fsd ∈ fsdiTable)) fun th hth => ?_
  rw [when_of_not (not_not.mpr hth.1)]
  refine .pure_bind (.bind (Q := fun _ _ => True) ?_ fun _ s _ => ⟨(), _, rfl, rfl⟩)
  unfold tclActivate
  rcases hid with hid | hid <;> rw [hid]
  · refine .bind ((h.requestAts past).pre fun s hs => hs ▸ hth.2 hid) fun _ =>
      .get_bind (J := fun th : TclHandle => th.state = .atsRcvd) fun th hth => ?_
    exact .when (fun _ => (h.doPps stack).pre fun s hs => hs ▸ hth) fun _ _ _ => trivial
  · exact fun s _ => ⟨(), _, rfl, trivial⟩

theorem tclConnect_deselected (past : Nat) (stack : Mem UInt8) (hid : l2.id = .iso14443a) (s : σ)
    {th : TclHandle} (hstate : th.state = .deselected) :
    tclConnect l2 past stack (s, th) = (.fail (-1), (s, th)) := by
  simp [tclConnect, tclActivate, tclRequestAts, bind_run, Exec.get, when, hid, hstate,
    TclState.Admits]

end Connect

def isIFrame (c : L2Call) : Bool := isIBlock (c.tx.headD 0xff)

def frameNumber (c : L2Call) : UInt8 := c.tx.headD 0xff &&& 0x01

namespace TclOp

def isConnect : TclOp → Bool
  | connect _ => true
  | _ => false

def sends : TclOp → Bool
  | transceive args => !args.tx.isEmpty
  | _ => false

end TclOp

section FirstBlock

theorem isIBlock_of_isSBlock {x : UInt8} (h : isSBlock x) : isIBlock x = false := by
  rw [isSBlock, beq_iff_eq] at h
  rw [isIBlock, h]
  decide

theorem isIFrame_rats (ah : AsicHandle) (th : TclHandle) (fsdi : UInt8) :
    isIFrame (ratsCall ah th fsdi) = false := by
  change isIBlock 0xe0 = false
  decide

theorem isIFrame_pps (speed : Nat) (th : TclHandle) : isIFrame (ppsCall speed th) = false := by
  have hD0 : (0xd0 : UInt8) &&& 0xc0 = 0xc0 := by decide
  change isIBlock (ppss th) = false
  rw [isIBlock, ppss, Bits.or_and, hD0]
  exact beq_eq_false_iff_ne.mpr fun h => absurd (UInt8.or_eq_zero_iff.mp h).1 (by decide)

theorem isIFrame_deselect (ah : AsicHandle) (th : TclHandle) (frame : Mem UInt8) :
    isIFrame (deselectCall ah th frame) = false := by
  have hpos : 0 < (tclBuildPrologueS th frame).2.2 := tclBuildPrologue2_len_pos th frame 0xc2
  rw [isIFrame, deselectCall_tx, Mem.headD_load _ _ hpos]
  exact isIBlock_of_isSBlock (tclBuildPrologueS_class th frame)

theorem send_head (id : Layer2Id) {s s' : TclXcv} (h : tclRefillXcvb s = some s') :
    isIFrame (tclSend id s') = true ∧ frameNumber (tclSend id s') = s.th.nextNumber := by
  have hpos : 0 < s'.xcvb.tx.frameLen := by
    obtain ⟨_, _, _, _, _, hlen, _⟩ := tclRefillXcvb_eq h
    have := tclPrlgLen_pos s.th
    omega
  have htx : (tclSend id s').tx.headD 0xff = s'.xcvb.tx.data 0 := Mem.headD_load _ _ hpos _
  refine ⟨by rw [isIFrame, htx, tclRefillXcvb_class h], ?_⟩
  rw [frameNumber, htx, tclRefillXcvb_pcb h (by decide), tclBuildPrologueI_number,
    TclHandle.nextNumber]

variable {σ : Type} (l2 : TclLayer2 σ) (past fuel : Nat) (s : σ) (th : TclHandle)

theorem firstBlock_none {op : TclOp} (h : op.sends = false) :
    (op.run l2.logging past fuel ((s, []), th)).2.1.2.find? isIFrame = none := by
  let quiet (s : σ × List L2Call) : Prop := ∀ c ∈ s.2, isIFrame c = false
  have hnil : quiet (s, []) := fun _ h => absurd h List.not_mem_nil
  suffices hquiet : quiet (op.run l2.logging past fuel ((s, []), th)).2.1 by
    rw [List.find?_eq_none]
    exact fun c hc => Bool.not_eq_true _ ▸ hquiet c hc
  cases op with
  | connect stack =>
    have hkeeps := tclConnect_keeps (I := quiet) past stack
      (fun _ th fsdi => logging_keeps l2 (isIFrame_rats l2.ah th fsdi))
      (fun _ th => logging_keeps l2 (isIFrame_pps l2.speed th)) fun _ _ _ _ => id
    exact TclOp.returning_triple hkeeps ((s, []), th) hnil
  | deselect frame rx =>
    intro c hc
    rw [sent_deselect, List.mem_singleton] at hc
    rw [hc, isIFrame_deselect]
  | transceive args =>
    have htx : args.tx = [] := by simpa [TclOp.sends] using h
    have hfill : tclRefillXcvb (tclLocals th args.stack args.tx args.rxLen) = none :=
      tclRefillXcvb_eq_none.mpr (by simp [htx, tclLocals])
    have hsame : Triple (fun w => w = ((s, []), th)) (tclTransceiveL2 l2.logging fuel args)
        fun _ w => quiet w.1 := by
      rintro _ rfl
      rw [tclTransceiveL2_of_none l2.logging hfill]
      exact hnil
    exact TclOp.returning_triple hsame ((s, []), th) rfl

theorem tclTransceiveL2_head {args : XcvArgs} {x : TclXcv}
    (hfill : tclRefillXcvb (tclLocals th args.stack args.tx args.rxLen) = some x) :
    (tclTransceiveL2 l2.logging (fuel + 1) args ((s, []), th)).2.1.2.head? =
      some (tclSend l2.id x) := by
  let begun (w : σ × List L2Call) : Prop := w.2.head? = some (tclSend l2.id x)
  have hsend : Triple (fun w => w.2 = []) (l2.logging.transceive (tclSend l2.id x) args.rx 256)
      fun _ => begun := by
    rintro ⟨w, log⟩ rfl
    rfl
  have hlater : ∀ call, l2.logging.Keeps begun call := by
    rintro call rx n ⟨w, log⟩ hlog
    change (log ++ [call]).head? = _
    rw [List.head?_append, hlog]
    rfl
  have hexch : Triple (fun w => w.2 = []) (tclExchange l2.logging (fuel + 1) x args.rx)
      fun _ => begun := by
    refine hsend.bind (fun r => ?_) (fun _ _ => id) fun _ => id
    cases tclNext x r with
    | inl x' => exact tclExchange_keeps (fun _ => hlater _) fuel x' r.data
    | inr o => exact Exec.Keeps.pure (I := begun) o
  have hset : ∀ o : TclOut, Exec.Keeps (fun w => begun w.1)
      (setTcl (fun _ => o.s.th) >>= fun _ => pure o) := fun o =>
    .bind (keeps_setTcl (I := begun) _) fun _ => .pure _
  rw [tclTransceiveL2_of_some l2.logging hfill]
  exact (hexch.lift.bind hset (fun _ _ => id) fun _ => id) ((s, []), th) rfl

theorem firstBlock_some {op : TclOp} (h : op.sends = true) :
    ∃ c, (op.run l2.logging past (fuel + 1) ((s, []), th)).2.1.2.find? isIFrame = some c ∧
      frameNumber c = th.nextNumber := by
  cases op with
  | connect stack => cases h
  | deselect frame rx => cases h
  | transceive args =>
    have htx : args.tx ≠ [] := by simpa [TclOp.sends] using h
    obtain ⟨x, hfill⟩ := exists_tclRefillXcvb_tclLocals th args.stack args.rxLen htx
    obtain ⟨hI, hnumber⟩ := send_head l2.id hfill
    have hxcv : Triple (fun w => w = ((s, []), th)) (tclTransceiveL2 l2.logging (fuel + 1) args)
        fun _ w => w.1.2.head? = some (tclSend l2.id x) := by
      rintro _ rfl
      exact tclTransceiveL2_head l2 fuel s th hfill
    have hhead := TclOp.returning_triple (f := fun o => o.ret) hxcv ((s, []), th) rfl
    refine ⟨tclSend l2.id x, ?_, hnumber⟩
    obtain ⟨rest, hlog⟩ := List.head?_eq_some_iff.mp hhead
    rw [TclOp.run, hlog, List.find?_cons, hI]

end FirstBlock

/-- Every connection that is asked for in a state that admits it is established, and the first
I-block after it has the number 0. -/
structure Reactivates (trace : List TclEvent) : Prop where
  connects : ∀ e ∈ trace, e.op.isConnect → e.before.state.Admits →
    e.out = .ok 0 ∧ e.after.state = .established
  number : ∀ pre e post, trace = pre ++ e :: post → e.op.isConnect → e.out = .ok 0 →
    ∀ c, (post.flatMap TclEvent.sent).find? isIFrame = some c → frameNumber c = 0

/-- Type A is connected once only, and the first request of a connection finds the toggle set. -/
structure StartsOver (id : Layer2Id) (trace : List TclEvent) : Prop where
  state : ∀ e ∈ trace, e.op.isConnect → e.before.state.Admits →
    id = .iso14443b ∨ e.before.state = .initial
  toggle : ∀ pre e mid e' post, trace = pre ++ e :: (mid ++ e' :: post) → e.op.isConnect →
    e.out = .ok 0 → (∀ x ∈ mid, x.op.sends = false) → e'.op.sends → e'.before.toggle ≠ 0

namespace StartsOver

variable {id : Layer2Id}

theorem nil : StartsOver id [] where
  state _ he := absurd he List.not_mem_nil
  toggle pre e mid e' post h := absurd h.symm (by simp)

theorem cons {e : TclEvent} {trace : List TclEvent}
    (hstate : e.op.isConnect → e.before.state.Admits → id = .iso14443b ∨ e.before.state = .initial)
    (htoggle : e.op.isConnect → e.out = .ok 0 → ∀ e' ∈ trace.find? fun x => x.op.sends,
      e'.before.toggle ≠ 0)
    (h : StartsOver id trace) : StartsOver id (e :: trace) where
  state x hx := by
    rcases List.mem_cons.mp hx with rfl | hx
    · exact hstate
    · exact h.state x hx
  toggle pre x mid e' post heq hc hout hmid hsends := by
    cases pre with
    | nil =>
      obtain ⟨rfl, rfl⟩ := List.cons.inj heq
      refine htoggle hc hout e' ?_
      have hnone : mid.find? (fun x => x.op.sends) = none :=
        List.find?_eq_none.mpr fun x hx => by simp [hmid x hx]
      rw [List.find?_append, hnone, Option.none_or]
      exact List.find?_cons_of_pos (p := fun x : TclEvent => x.op.sends) hsends
    | cons y pre => exact h.toggle pre x mid e' post (List.cons.inj heq).2 hc hout hmid hsends

end StartsOver

theorem nextNumber_eq_zero {th : TclHandle} : th.nextNumber = 0 ↔ th.toggle ≠ 0 := by
  unfold TclHandle.nextNumber
  split_ifs with h <;> simp [h]

structure EventSpec (id : Layer2Id) (e : TclEvent) : Prop where
  connects : e.op.isConnect → e.before.state.Admits →
    ((e.out = .ok 0 ∧ e.after.state = .established) ↔ id = .iso14443b ∨ e.before.state = .initial)
  quiet : e.op.sends = false → e.sent.find? isIFrame = none
  first : e.op.sends → ∃ c, e.sent.find? isIFrame = some c ∧ frameNumber c = e.before.nextNumber

theorem reactivates_iff {id : Layer2Id} {trace : List TclEvent} (h : ∀ e ∈ trace, EventSpec id e) :
    Reactivates trace ↔ StartsOver id trace := by
  constructor
  · refine fun hr => ⟨fun e he hc ha => ((h e he).connects hc ha).mp (hr.connects e he hc ha), ?_⟩
    intro pre e mid e' post htrace hc hout hmid hsends
    have hmem : ∀ x ∈ mid ++ e' :: post, x ∈ trace := fun x hx => by
      rw [htrace]
      exact List.mem_append_right _ (List.mem_cons_of_mem _ hx)
    obtain ⟨c, hfind, hnumber⟩ := (h e' (hmem e' (by simp))).first hsends
    have hfirst : ((mid ++ e' :: post).flatMap TclEvent.sent).find? isIFrame = some c := by
      rw [List.find?_flatMap, List.findSome?_eq_some_iff]
      exact ⟨mid, e', post, rfl, hfind, fun x hx =>
        (h x (hmem x (List.mem_append_left _ hx))).quiet (hmid x hx)⟩
    exact nextNumber_eq_zero.mp (hnumber ▸ hr.number pre e _ htrace hc hout c hfirst)
  · refine fun hr => ⟨fun e he hc ha => ((h e he).connects hc ha).mpr (hr.state e he hc ha), ?_⟩
    intro pre e post htrace hc hout c hfind
    rw [List.find?_flatMap, List.findSome?_eq_some_iff] at hfind
    obtain ⟨mid, e', post', rfl, hfind, hmid⟩ := hfind
    have hmem : ∀ x ∈ mid ++ e' :: post', x ∈ trace := fun x hx => by
      rw [htrace]
      exact List.mem_append_right _ (List.mem_cons_of_mem _ hx)
    have hquiet : ∀ x ∈ mid, x.op.sends = false := by
      intro x hx
      by_contra hs
      obtain ⟨c', hc', -⟩ := (h x (hmem x (List.mem_append_left _ hx))).first (by simpa using hs)
      exact absurd (hc'.symm.trans (hmid x hx)) (by simp)
    have he' := h e' (hmem e' (by simp))
    have hsends : e'.op.sends := by
      by_contra hs
      exact absurd (hfind.symm.trans (he'.quiet (by simpa using hs))) (by simp)
    obtain ⟨c', hc', hnumber⟩ := he'.first hsends
    obtain rfl : c' = c := Option.some.inj (hc'.symm.trans hfind)
    rw [hnumber, nextNumber_eq_zero]
    exact hr.toggle pre e mid e' post' htrace hc hout hquiet hsends

section Trace

variable {σ : Type} {l2 : TclLayer2 σ} (past fuel : Nat)

def Encodable (id : Layer2Id) (th : TclHandle) : Prop := id = .iso14443a → th.fsd ∈ fsdiTable

theorem tclRequestAts_fsd {J : TclHandle → Prop} (hJ : ∀ th th', th'.fsd = th.fsd → J th → J th') :
    Exec.Keeps (fun s => J s.2) (tclRequestAts l2 past) := by
  refine keeps_get_bind fun th hth => .bind (.when fun _ => .fail _) fun _ => ?_
  cases iso14443FsdToFsdi th.fsd with
  | none => exact .fail _
  | some fsdi =>
    refine .bind keeps_lift_snd fun r => .bind (keeps_modify_snd fun th => hJ th _ rfl) fun _ =>
      .bind (.when fun _ => .bind (keeps_modify_snd fun th => hJ th _ rfl) fun _ => .fail _) fun _ =>
      .bind (keeps_modify_snd fun th => hJ th _ rfl) fun _ => keeps_get_bind fun th hth =>
      .bind (keeps_modify_snd fun _ _ => hJ th _ (tclParseAts_same _ _ _ _ _ _).fsd hth) fun _ =>
      .check _

theorem tclDoPps_handle {J : TclHandle → Prop} (stack : Mem UInt8) :
    Exec.Keeps (fun s => J s.2) (tclDoPps l2 stack) :=
  keeps_get_bind fun _ _ => .bind (.when fun _ => .fail _) fun _ => .bind (.when fun _ => .fail _)
    fun _ => .bind keeps_lift_snd fun _ => .bind (.check _) fun _ => .bind (.when fun _ => .fail _)
    fun _ => .bind keeps_lift_snd fun _ => keeps_lift_snd

theorem run_fsd {J : TclHandle → Prop}
    (hJ : ∀ th th', (l2.id = .iso14443a → th'.fsd = th.fsd) → J th → J th') (op : TclOp) :
    Exec.Keeps (fun s => J s.2) (op.run l2 past fuel) := by
  cases op with
  | connect stack =>
    have hactivate : Exec.Keeps (fun s => J s.2) (tclActivate l2 past stack) := by
      unfold tclActivate
      cases hid : l2.id with
      | iso14443a =>
        refine .bind (tclRequestAts_fsd past fun th th' h => hJ th th' fun _ => h) fun _ =>
          keeps_get_bind fun _ _ => ?_
        exact .when fun _ => tclDoPps_handle stack
      | iso14443b => exact fun s => hJ s.2 _ fun ha => nomatch hid.symm.trans ha
      | none | iso15693 | icode1 => exact .fail _
    exact TclOp.returning_triple (keeps_get_bind fun _ _ => .bind (.when fun _ => .fail _) fun _ =>
      .bind hactivate fun _ => keeps_modify_snd fun th => hJ th _ fun _ => rfl)
  | transceive args =>
    have hflip : ∀ th : TclHandle, J th → J th.flip := fun th => hJ th _ fun _ => rfl
    exact TclOp.returning_triple (tclTransceiveL2_handle l2 hflip fuel args)
  | deselect frame rx =>
    exact TclOp.returning_triple (keeps_get_bind fun _ _ => .bind keeps_lift_snd fun _ =>
      .bind (.check _) fun _ => keeps_modify_snd fun th => hJ th _ fun _ => rfl)

theorem run_encodable (op : TclOp) :
    Exec.Keeps (fun s => Encodable l2.id s.2) (op.run l2 past fuel) :=
  run_fsd past fuel (fun _ _ hsame hth hid => hsame hid ▸ hth hid) op

theorem eventSpec (h : Cooperates l2) (hid : l2.id = .iso14443a ∨ l2.id = .iso14443b) (op : TclOp)
    (s : σ) (th : TclHandle) (hth : Encodable l2.id th) :
    EventSpec l2.id ⟨op, th, (op.run l2.logging past (fuel + 1) ((s, []), th)).1,
      (op.run l2.logging past (fuel + 1) ((s, []), th)).2.2,
      (op.run l2.logging past (fuel + 1) ((s, []), th)).2.1.2⟩ where
  connects hc ha := by
    cases op with
    | connect stack =>
      by_cases hok : l2.id = .iso14443a → th.state = .initial
      · obtain ⟨⟨⟩, s', hrun, hstate⟩ := h.logging.connect past stack hid ((s, []), th)
          ⟨ha, fun hida => ⟨hok hida, hth hida⟩⟩
        have hret := TclOp.returning_ok (bind_ok (f := fun _ => pure 0) hrun)
        refine iff_of_true ⟨congrArg Prod.fst hret, (congrArg (TclHandle.state ∘ Prod.snd ∘ Prod.snd)
          hret).trans hstate⟩ ?_
        exact hid.symm.imp_right hok
      · obtain ⟨hida, hstate⟩ : l2.id = .iso14443a ∧ th.state ≠ .initial := by
          simpa only [Classical.not_imp] using hok
        have hrun := @tclConnect_deselected _ l2.logging past stack hida (s, []) th
          (ha.resolve_right hstate)
        have hret := TclOp.returning_fail (bind_fail (f := fun _ => pure 0) hrun)
        refine iff_of_false (fun hout => ?_) ?_
        · have hcode : (.ok (-1) : Outcome Int) ≠ .ok 0 := by decide
          exact hcode ((congrArg Prod.fst hret).symm.trans hout.1)
        · rintro (hb | hs)
          · cases hida.symm.trans hb
          · exact hstate hs
    | transceive args => cases hc
    | deselect frame rx => cases hc
  quiet hq := firstBlock_none l2 past (fuel + 1) s th hq
  first hs := firstBlock_some l2 past fuel s th hs

/-- On a handle that `tcl_init` has made, with a card that cooperates: activation succeeds, and
the first I-block after it has the number 0, exactly in the runs that do not connect a deselected
card of Type A and start no connection while the toggle is cleared. -/
theorem tclTrace_reactivates_iff (h : Cooperates l2) (hid : l2.id = .iso14443a ∨ l2.id = .iso14443b)
    (ops : List TclOp) (s : σ) :
    Reactivates (tclTrace l2 past (fuel + 1) ops s (tclInit l2.ah)) ↔
      StartsOver l2.id (tclTrace l2 past (fuel + 1) ops s (tclInit l2.ah)) :=
  reactivates_iff (forall_mem_tclTrace l2 (fun op => run_encodable past _ op)
    (eventSpec past fuel h hid) ops s fun _ => iso14443FsdApprox_mem l2.ah.mru)

end Trace

def replyOf (bytes : List UInt8) : L2Reply := ⟨0, bytes.length, Mem.ofList (fun _ => 0) bytes⟩

def echoCard (id : Layer2Id) : TclLayer2 Unit where
  id := id
  transceive call _ _ := pure (replyOf
    (if call.tx.length = 2 ∧ call.tx.head? = some 0xe0 then [0x02, 0x05] else call.tx))
  setSpeed _ _ := pure ()
  iso14443b _ := { blankHandleB with fsc := 64, state := .selected }
  speed := rfid14443aSpeed106k
  ah := rc632Open

theorem echoCard_cooperates (id : Layer2Id) : Cooperates (echoCard id) where
  ats _ _ _ _ s := ⟨replyOf [0x02, 0x05], s, rfl, Int.le_refl 0, by decide, by decide⟩
  pps th _ _ s := by
    have hlen : (ppsCall (echoCard id).speed th).tx.length ≠ 2 := by simp [ppsCall]
    refine ⟨replyOf (ppsCall (echoCard id).speed th).tx, s, ?_, Int.le_refl 0, rfl⟩
    exact congrArg (fun bytes => (Outcome.ok (replyOf bytes), s)) (if_neg fun h => hlen h.1)
  deselect _ _ _ _ s := ⟨_, s, rfl, Int.le_refl 0⟩
  speed _ _ s := ⟨s, rfl⟩

def echoOps : List TclOp :=
  [.connect fun _ => 0, .transceive ⟨[0xb0], 16, fun _ => 0, fun _ => 0⟩,
    .deselect (fun _ => 0) fun _ => 0, .connect fun _ => 0,
    .transceive ⟨[0xb0], 16, fun _ => 0, fun _ => 0⟩]

def twoSessions : List TclOp :=
  [.connect fun _ => 0, .transceive ⟨[0xb0], 16, fun _ => 0, fun _ => 0⟩,
    .transceive ⟨[0xb1], 16, fun _ => 0, fun _ => 0⟩, .deselect (fun _ => 0) fun _ => 0,
    .connect fun _ => 0, .transceive ⟨[0xb0], 16, fun _ => 0, fun _ => 0⟩]

theorem tclTrace_reactivates_twoSessions :
    Reactivates (tclTrace (echoCard .iso14443b) 0 1 twoSessions () (tclInit rc632Open)) := by
  refine (tclTrace_reactivates_iff 0 0 (echoCard_cooperates .iso14443b) (.inr rfl) twoSessions
    ()).mpr ?_
  obtain ⟨a, b, c, d, e, f, htrace, hb, hbtoggle, hb', hc', hd', hf, hftoggle, hf'⟩ :
      ∃ a b c d e f, tclTrace (echoCard .iso14443b) 0 1 twoSessions () (tclInit rc632Open) =
          [a, b, c, d, e, f] ∧
        b.op.sends = true ∧ b.before.toggle = 1 ∧ b.op.isConnect = false ∧ c.op.isConnect = false ∧
        d.op.isConnect = false ∧ f.op.sends = true ∧ f.before.toggle = 1 ∧ f.op.isConnect = false :=
    ⟨_, _, _, _, _, _, rfl, rfl, rfl, rfl, rfl, rfl, rfl, rfl, rfl⟩
  have hstate : ∀ x : TclEvent, x.op.isConnect → x.before.state.Admits →
      (echoCard .iso14443b).id = .iso14443b ∨ x.before.state = .initial := fun _ _ _ => .inl rfl
  have hother : ∀ {x : TclEvent} {l : List TclEvent}, x.op.isConnect = false → x.op.isConnect →
      x.out = .ok 0 → ∀ e' ∈ l.find? fun x => x.op.sends, e'.before.toggle ≠ 0 :=
    fun hx hc => absurd (hx.symm.trans hc) Bool.false_ne_true
  refine htrace.symm ▸ ?_
  refine .cons (hstate a) (fun _ _ x hx => ?_) <| .cons (hstate b) (hother hb') <|
    .cons (hstate c) (hother hc') <| .cons (hstate d) (hother hd') <|
    .cons (hstate e) (fun _ _ x hx => ?_) <| .cons (hstate f) (hother hf') .nil
  · rw [List.find?_cons_of_pos (p := fun x : TclEvent => x.op.sends) hb] at hx
    cases hx
    rw [hbtoggle]
    decide
  · rw [List.find?_cons_of_pos (p := fun x : TclEvent => x.op.sends) hf] at hx
    cases hx
    rw [hftoggle]
    decide

/-- Type A is not connected again, and the second connection of Type B starts with a block
number of 1. -/
theorem tclTrace_not_reactivates :
    ¬ Reactivates (tclTrace (echoCard .iso14443a) 0 1 echoOps () (tclInit rc632Open)) ∧
      ¬ Reactivates (tclTrace (echoCard .iso14443b) 0 1 echoOps () (tclInit rc632Open)) := by
  constructor
  · intro h
    obtain ⟨a, b, c, d, e, htrace, hc, hstate, hout⟩ : ∃ a b c d e,
        tclTrace (echoCard .iso14443a) 0 1 echoOps () (tclInit rc632Open) = [a, b, c, d, e] ∧
          d.op.isConnect = true ∧ d.before.state = .deselected ∧ d.out = .ok (-1) :=
      ⟨_, _, _, _, _, rfl, rfl, rfl, rfl⟩
    have hok := (h.connects d (by simp [htrace]) hc (.inl hstate)).1
    rw [hout] at hok
    cases hok
  · intro h
    obtain ⟨a, b, c, d, e, f, htrace, hc, hout, hsent, hnumber⟩ : ∃ a b c d e f,
        tclTrace (echoCard .iso14443b) 0 1 echoOps () (tclInit rc632Open) = [a, b, c, d, e] ∧
          d.op.isConnect = true ∧ d.out = .ok 0 ∧
          ([e].flatMap TclEvent.sent).find? isIFrame = some f ∧ frameNumber f = 1 :=
      ⟨_, _, _, _, _, _, rfl, rfl, rfl, rfl, rfl⟩
    have hzero := h.number [a, b, c] d [e] htrace hc hout f hsent
    rw [hnumber] at hzero
    cases hzero

end Librfid.Tcl
