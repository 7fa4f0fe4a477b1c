import Librfid.Rc632.Faults

namespace Librfid.Rc632

open Exec

section Leaving

variable {σ : Type} (site : Site) (val : UInt8) (bytes : List UInt8) (t : Site → Transport σ)

theorem leaving_of_ne {x : Site} (h : x ≠ site) : leaving site val bytes t x = t x := by
  unfold leaving
  simp only [h, false_and, if_false]

theorem leaving_regRead_bind {α : Type} (x : Site) (reg : UInt8) {f : Int × UInt8 → Exec σ α}
    (hf : ∀ ret v v', ret < 0 → f (ret, v) = f (ret, v')) :
    (leaving site val bytes t x).regRead reg >>= f = (t x).regRead reg >>= f := by
  funext s
  change f (if x = site ∧ ((t x).readReg reg s).1.1 < 0 then _ else _) _ = f _ _
  split_ifs with h
  · rw [hf _ _ ((t x).readReg reg s).1.2 h.2]
    rfl
  · rfl

theorem leaving_read (x : Site) (reg : UInt8) :
    (leaving site val bytes t x).read reg = (t x).read reg := by
  refine leaving_regRead_bind site val bytes t x reg fun ret v v' hneg => ?_
  simp only [check_of_neg hneg]
  rfl

theorem leaving_clearBits (x : Site) (reg v : UInt8) :
    rc632ClearBits (leaving site val bytes t x).toBus reg v = rc632ClearBits (t x).toBus reg v :=
  leaving_regRead_bind site val bytes t x reg fun _ _ _ hneg =>
    (if_pos hneg).trans (if_pos hneg).symm

theorem leaving_setBitMask (x : Site) (reg mask v : UInt8) :
    rc632SetBitMask (leaving site val bytes t x).toBus reg mask v =
      rc632SetBitMask (t x).toBus reg mask v :=
  leaving_regRead_bind site val bytes t x reg fun _ _ _ hneg =>
    (if_pos hneg).trans (if_pos hneg).symm

theorem leaving_fifoRead (x : Site) (len : UInt8) (s : σ) :
    (leaving site val bytes t x).fifoRead len s =
      (.ok (if x = site ∧ ((t x).readFifo len s).1.1 < 0 then (((t x).readFifo len s).1.1, bytes)
        else ((t x).readFifo len s).1), ((t x).readFifo len s).2) := rfl

section Transceive

variable {site} (h : site ≠ .primaryStatus)
include h

theorem leaving_waitIdlePoll :
    rc632WaitIdlePollAt (leaving site val bytes t) = rc632WaitIdlePollAt t := by
  unfold rc632WaitIdlePollAt
  simp only [leaving_of_ne site val bytes t h.symm, leaving_read]
  rfl

theorem leaving_waitIdleTimer (fuel : Nat) :
    rc632WaitIdleTimerAt (leaving site val bytes t) fuel = rc632WaitIdleTimerAt t fuel := by
  have hloop : rc632WaitIdleLoopAt (leaving site val bytes t) fuel = rc632WaitIdleLoopAt t fuel := by
    induction fuel with
    | zero => rfl
    | succ fuel ih => rw [rc632WaitIdleLoopAt, rc632WaitIdleLoopAt, leaving_waitIdlePoll val bytes t h, ih]
  unfold rc632WaitIdleTimerAt
  rw [hloop, leaving_read]
  rfl

omit h in
theorem leaving_transmitLoop (tx : Mem UInt8) (txLen : UInt8) (fuel : Nat) (off cur : Int) :
    rc632TransmitLoopAt (leaving site val bytes t) tx txLen fuel off cur =
      rc632TransmitLoopAt t tx txLen fuel off cur := by
  induction fuel generalizing off cur with
  | zero => rfl
  | succ fuel ih =>
    simp only [rc632TransmitLoopAt, ih, leaving_read]
    rfl

theorem leaving_exchange (undef : UInt8) (fuel : Nat) (tx : Mem UInt8) (txLen : UInt8)
    (timer : Nat) :
    rc632ExchangeAt (leaving site val bytes t) undef fuel tx txLen timer =
      rc632ExchangeAt t undef fuel tx txLen timer := by
  unfold rc632ExchangeAt
  simp only [leaving_transmitLoop, leaving_waitIdleTimer val bytes t h, leaving_read]
  rfl

def SameXfer (x x' : Outcome Xfer × σ) : Prop :=
  x = x' ∨ ∃ y y' s, x = (.ok y, s) ∧ x' = (.ok y', s) ∧ y.ret = y'.ret ∧ y.ret < 0

theorem leaving_transceive (undef : UInt8) (fuel : Nat) (tx : Mem UInt8) (txLen rxLen : UInt8)
    (timer : Nat) (s : σ) :
    SameXfer (rc632TransceiveAt (leaving site val bytes t) undef fuel tx txLen rxLen timer s)
      (rc632TransceiveAt t undef fuel tx txLen rxLen timer s) := by
  unfold rc632TransceiveAt
  rw [leaving_exchange val bytes t h, bind_run, bind_run]
  rcases attempt (rc632ExchangeAt t undef fuel tx txLen timer) s with ⟨(_ | rxAvail) | _ | _, s₁⟩
  · exact .inl rfl
  · dsimp only
    by_cases hzero : rxAvail = 0
    · simp only [if_pos hzero]
      exact .inl rfl
    · simp only [if_neg hzero]
      generalize (if rxLen > rxAvail then rxAvail else rxLen) = n
      by_cases hfailed : Site.fifoRead = site ∧ ((t .fifoRead).readFifo n s₁).1.1 < 0
      · refine .inr ⟨⟨((t .fifoRead).readFifo n s₁).1.1, n, bytes⟩, _, _, ?_, rfl, rfl, hfailed.2⟩
        rw [bind_run, leaving_fifoRead, if_pos hfailed]
        rfl
      · refine .inl ?_
        rw [bind_run, leaving_fifoRead, if_neg hfailed]
        rfl
  · exact .inl rfl
  · exact .inl rfl

omit h in
theorem sameXfer_bind {α : Type} {x x' : Exec σ Xfer} {f f' : Xfer → Exec σ α}
    (hx : ∀ s, SameXfer (x s) (x' s)) (hf : ∀ y, f y = f' y)
    (hneg : ∀ y y' : Xfer, y.ret = y'.ret → y.ret < 0 → f' y = f' y') : x >>= f = x' >>= f' := by
  obtain rfl : f = f' := funext hf
  funext s
  rw [bind_run, bind_run]
  rcases hx s with heq | ⟨y, y', s₁, hy, hy', hret, hlt⟩
  · rw [heq]
  · rw [hy, hy']
    exact congrFun (hneg y y' hret hlt) s₁

theorem leaving_ab (undef : UInt8) (fuel : Nat) (frametype : RfidFrametype) (tx : Mem UInt8)
    (txLen : Nat) (rx : Mem UInt8) (rxLen timeout : Nat) :
    (rc632Iso14443abTransceive (asicAt (leaving site val bytes t) undef fuel) frametype tx txLen rx
        rxLen timeout >>= fun x => pure x.ret) =
      rc632Iso14443abTransceive (asicAt t undef fuel) frametype tx txLen rx rxLen timeout >>=
        fun x => pure x.ret := by
  unfold rc632Iso14443abTransceive
  cases channelRed frametype with
  | none => rfl
  | some red =>
    simp only [bind_bind]
    refine congrArg (_ >>= ·) (funext fun r => ?_)
    cases r with
    | error ret => rfl
    | ok _ =>
      simp only [bind_bind]
      refine sameXfer_bind (leaving_transceive val bytes t h undef fuel _ _ _ _) (fun _ => rfl) ?_
      intro y y' hret _
      change (pure (if y.ret < 0 then y.ret else 0) : Exec σ Int) =
        pure (if y'.ret < 0 then y'.ret else 0)
      rw [hret]

theorem leaving_sf (undef : UInt8) (fuel : Nat) (cmd : UInt8) (atqa : Mem UInt8) :
    (rc632Iso14443aTransceiveSf (asicAt (leaving site val bytes t) undef fuel) cmd atqa >>=
        fun x => pure x.ret) =
      rc632Iso14443aTransceiveSf (asicAt t undef fuel) cmd atqa >>= fun x => pure x.ret := by
  have hprepare : rc632Iso14443aPrepareSf (asicAt (leaving site val bytes t) undef fuel) =
      rc632Iso14443aPrepareSf (asicAt t undef fuel) := by
    simp only [rc632Iso14443aPrepareSf, rc632Iso14443aConfigSf, asicAt, leaving_clearBits]
    rfl
  have hfinish : rc632Iso14443aFinishSf (asicAt (leaving site val bytes t) undef fuel) =
      rc632Iso14443aFinishSf (asicAt t undef fuel) := by
    simp only [rc632Iso14443aFinishSf, asicAt, leaving_read]
    rfl
  unfold rc632Iso14443aTransceiveSf
  rw [hprepare, hfinish]
  simp only [bind_bind]
  refine congrArg (_ >>= ·) (funext fun r => ?_)
  cases r with
  | error ret => rfl
  | ok _ =>
    simp only [bind_bind]
    refine sameXfer_bind (leaving_transceive val bytes t h undef fuel _ _ _ _) (fun _ => rfl) ?_
    intro y y' hret hneg
    rw [if_pos hneg, if_pos (hret ▸ hneg), hret]
    rfl

theorem leaving_acf (undef : UInt8) (fuel : Nat) (acf : Mem UInt8) :
    (rc632Iso14443aTransceiveAcf (asicAt (leaving site val bytes t) undef fuel) acf >>=
        fun x => pure x.ret) =
      rc632Iso14443aTransceiveAcf (asicAt t undef fuel) acf >>= fun x => pure x.ret := by
  have hprepare : rc632Iso14443aPrepareAcf (asicAt (leaving site val bytes t) undef fuel) acf =
      rc632Iso14443aPrepareAcf (asicAt t undef fuel) acf := by
    simp only [rc632Iso14443aPrepareAcf, asicAt, leaving_clearBits]
    rfl
  have hboc : rc632Iso14443aBitOfCol (asicAt (leaving site val bytes t) undef fuel) =
      rc632Iso14443aBitOfCol (asicAt t undef fuel) := by
    simp only [rc632Iso14443aBitOfCol, asicAt, leaving_read]
  unfold rc632Iso14443aTransceiveAcf
  rw [hprepare, hboc]
  simp only [bind_bind]
  refine congrArg (_ >>= ·) (funext fun r => ?_)
  cases r with
  | error ret => rfl
  | ok _ =>
    simp only [bind_bind]
    refine sameXfer_bind (leaving_transceive val bytes t h undef fuel _ _ _ _) (fun _ => rfl) ?_
    intro y y' hret hneg
    rw [if_pos hneg, if_pos (hret ▸ hneg), hret]

theorem leaving_ac (undef : UInt8) (fuel : Nat) (acf : Mem UInt8) (acfLen rxLen : Nat)
    (bitOfCol : UInt8) :
    (rc632Iso15693TransceiveAc (asicAt (leaving site val bytes t) undef fuel) acf acfLen rxLen
        bitOfCol >>= fun x => pure x.ret) =
      rc632Iso15693TransceiveAc (asicAt t undef fuel) acf acfLen rxLen bitOfCol >>=
        fun x => pure x.ret := by
  unfold rc632Iso15693TransceiveAc
  simp only [bind_bind]
  refine sameXfer_bind (leaving_transceive val bytes t h undef fuel _ _ _ _) (fun y => ?_) ?_
  · simp only [asicAt, leaving_read]
  · intro y y' hret _
    rw [hret]
    by_cases hcode : y'.ret = -eTimedOut ∨ y'.ret = - eIO
    · rw [if_pos hcode, if_pos hcode]
      rfl
    rw [if_neg hcode, if_neg hcode, bind_bind, bind_bind]
    refine congrArg (_ >>= ·) (funext fun r => ?_)
    cases r with
    | error ret => rfl
    | ok errorFlag =>
      dsimp only
      split_ifs
      · rw [bind_bind, bind_bind]
        refine congrArg (_ >>= ·) (funext fun r => ?_)
        cases r <;> rfl
      · rfl
      · rfl

theorem leaving_setKey (undef : UInt8) (fuel : Nat) (key : Mem UInt8) :
    rc632MifareSetKey (mifareAt (leaving site val bytes t) undef fuel) key =
      rc632MifareSetKey (mifareAt t undef fuel) key := by
  simp only [rc632MifareSetKey, mifareAt, leaving_waitIdleTimer val bytes t h, leaving_read]
  rfl

theorem leaving_auth (undef : UInt8) (fuel : Nat) (cmd : UInt8) (serno : UInt32) (block : UInt8) :
    rc632MifareAuth (mifareAt (leaving site val bytes t) undef fuel) cmd serno block =
      rc632MifareAuth (mifareAt t undef fuel) cmd serno block := by
  simp only [rc632MifareAuth, mifareAt, leaving_waitIdleTimer val bytes t h, leaving_read,
    leaving_clearBits]
  rfl

end Transceive

theorem leaving_setSpeed (undef : UInt8) (fuel : Nat) (rxPast : RxConfig) (txPast : TxConfig)
    (tx : Bool) (rate : Nat) :
    rc632Iso14443aSetSpeed (asicAt (leaving site val bytes t) undef fuel).toBus rxPast txPast tx rate =
      rc632Iso14443aSetSpeed (asicAt t undef fuel).toBus rxPast txPast tx rate := by
  simp only [rc632Iso14443aSetSpeed, asicAt, leaving_setBitMask]
  rfl

theorem leaving_run (c : ChipCall) (e : Ambient)
    (h : site ≠ .primaryStatus ∨ c.operation = .iso14443aSetSpeed) :
    c.runAt (leaving site val bytes t) e = c.runAt t e := by
  have hne : c.operation ≠ .iso14443aSetSpeed → site ≠ .primaryStatus := h.resolve_right
  cases c with
  | ab frametype tx txLen rx rxLen timeout =>
    exact leaving_ab val bytes t (hne fun ho => by cases ho) _ _ _ _ _ _ _ _
  | sf cmd atqa => exact leaving_sf val bytes t (hne fun ho => by cases ho) _ _ _ _
  | acf cmd => exact leaving_acf val bytes t (hne fun ho => by cases ho) _ _ _
  | ac cmd acfLen rxLen bitOfCol =>
    exact leaving_ac val bytes t (hne fun ho => by cases ho) _ _ _ _ _ _
  | setKey key => exact congrArg retOf (leaving_setKey val bytes t (hne fun ho => by cases ho) _ _ _)
  | auth cmd serno block =>
    exact congrArg retOf (leaving_auth val bytes t (hne fun ho => by cases ho) _ _ _ _ _)
  | setSpeed tx rate => exact congrArg retOf (leaving_setSpeed site val bytes t _ _ _ _ _ _)

end Leaving

end Librfid.Rc632
