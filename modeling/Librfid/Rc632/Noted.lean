import Librfid.Rc632.Faults

namespace Librfid.Rc632

open Exec

variable {σ : Type}

/-- A state with the log of the accesses, and the state alone. -/
def Unlogged (w : σ × SiteLog) (s : σ) : Prop := w.1 = s

section Accesses

variable (t : Transport σ) (site : Site) (reg val : UInt8)

theorem noting_regWrite :
    Mimics Unlogged ((t.noting site).regWrite reg val) (t.regWrite reg val) Eq :=
  .step fun w s hw => by
    cases hw
    exact ⟨rfl, rfl⟩

theorem noting_regRead : Mimics Unlogged ((t.noting site).regRead reg) (t.regRead reg) Eq :=
  .step fun w s hw => by
    cases hw
    exact ⟨rfl, rfl⟩

theorem noting_fifoWrite (bytes : List UInt8) (flags : UInt8) :
    Mimics Unlogged ((t.noting site).fifoWrite bytes flags) (t.fifoWrite bytes flags) Eq :=
  .step fun w s hw => by
    cases hw
    exact ⟨rfl, rfl⟩

theorem noting_fifoRead (len : UInt8) :
    Mimics Unlogged ((t.noting site).fifoRead len) (t.fifoRead len) Eq :=
  .step fun w s hw => by
    cases hw
    exact ⟨rfl, rfl⟩

theorem check_unlogged (ret : Int) :
    Mimics (@Unlogged σ) (Exec.check ret) (Exec.check ret) Eq :=
  .check (.inl rfl)

theorem noting_write : Mimics Unlogged ((t.noting site).write reg val) (t.write reg val) Eq :=
  .bind_eq (noting_regWrite t site reg val) check_unlogged

theorem noting_read : Mimics Unlogged ((t.noting site).read reg) (t.read reg) Eq :=
  .bind_eq (noting_regRead t site reg) fun _ => .bind_eq (check_unlogged _) fun _ => .pure rfl

theorem noting_clearBits : Mimics Unlogged (rc632ClearBits (t.noting site).toBus reg val)
    (rc632ClearBits t.toBus reg val) Eq :=
  .bind_eq (noting_regRead t site reg) fun _ => .ite (fun _ => .pure rfl) fun _ =>
    .ite (fun _ => .pure rfl) fun _ => noting_regWrite t site reg _

theorem noting_setBitMask (mask : UInt8) : Mimics Unlogged
    (rc632SetBitMask (t.noting site).toBus reg mask val) (rc632SetBitMask t.toBus reg mask val) Eq :=
  .bind_eq (noting_regRead t site reg) fun _ => .ite (fun _ => .pure rfl) fun _ =>
    .ite (fun _ => .pure rfl) fun _ => noting_regWrite t site reg _

end Accesses

section Exchange

variable (t : Transport σ)

theorem timerSet_unlogged (undef : UInt8) (timeout : Nat) : Mimics Unlogged
    (rc632TimerSetAt t.noting undef timeout) (rc632TimerSet t.toBus undef timeout) Eq := by
  refine .bind_eq (noting_write t _ _ _) fun _ => .bind_eq (noting_regWrite t _ _ _) fun _ => ?_
  refine .bind_eq (noting_regWrite t _ _ _) fun _ => .bind_eq (noting_regWrite t _ _ _) fun _ => ?_
  exact .bind_eq (noting_regWrite t _ _ _) fun _ => check_unlogged _

theorem waitIdlePoll_unlogged :
    Mimics Unlogged (rc632WaitIdlePollAt t.noting) (rc632WaitIdlePoll t.toBus) Eq := by
  refine .bind_eq (noting_regRead t _ _) fun _ => .bind_eq (.when fun _ => ?_) fun _ =>
    .bind_eq (.when fun _ => ?_) fun _ => .bind_eq (noting_read t _ _) fun _ => ?_
  · exact .bind_eq (noting_read t _ _) fun _ => .when fun _ => .fail _
  · exact .bind_eq (noting_read t _ _) fun _ => .when fun _ =>
      .bind_eq (noting_regWrite t _ _ _) fun _ => .fail _
  · exact .ite (fun _ => .bind_eq (noting_regWrite t _ _ _) fun _ => .pure rfl) fun _ => .pure rfl

theorem waitIdleLoop_unlogged (fuel : Nat) :
    Mimics Unlogged (rc632WaitIdleLoopAt t.noting fuel) (rc632WaitIdleLoop t.toBus fuel) Eq := by
  induction fuel with
  | zero => exact .hang
  | succ fuel ih =>
    refine .bind_eq (waitIdlePoll_unlogged t) fun o => ?_
    cases o with
    | some => exact .pure rfl
    | none => exact ih

theorem waitIdleTimer_unlogged (fuel : Nat) :
    Mimics Unlogged (rc632WaitIdleTimerAt t.noting fuel) (rc632WaitIdleTimer t.toBus fuel) Eq :=
  .bind_eq (noting_read t _ _) fun _ => .bind_eq (noting_write t _ _ _) fun _ =>
    waitIdleLoop_unlogged t fuel

theorem transmitLoop_unlogged (tx : Mem UInt8) (txLen : UInt8) (fuel : Nat) (off cur : Int) :
    Mimics Unlogged (rc632TransmitLoopAt t.noting tx txLen fuel off cur)
      (rc632TransmitLoop t tx txLen fuel off cur) Eq := by
  induction fuel generalizing off cur with
  | zero => exact .hang
  | succ fuel ih =>
    refine .bind_eq (noting_fifoWrite t _ _ _) fun _ => .bind_eq (check_unlogged _) fun _ => ?_
    refine .bind_eq (.when fun _ => noting_write t _ _ _) fun _ => ?_
    refine .ite (fun _ => .bind_eq (noting_read t _ _) fun _ => ?_) fun _ => .pure rfl
    exact .ite (fun _ => .pure rfl) fun _ => ih _ _

theorem exchange_unlogged (undef : UInt8) (fuel : Nat) (tx : Mem UInt8) (txLen : UInt8) (timer : Nat) :
    Mimics Unlogged (rc632ExchangeAt t.noting undef fuel tx txLen timer)
      (rc632Exchange t undef fuel tx txLen timer) Eq := by
  refine .bind_eq (noting_regWrite t _ _ _) fun _ => .bind_eq (noting_regWrite t _ _ _) fun _ => ?_
  refine .bind_eq (noting_regRead t _ _) fun _ => .bind_eq (noting_regRead t _ _) fun _ => ?_
  refine .bind_eq (timerSet_unlogged t undef timer) fun _ => ?_
  refine .bind_eq (transmitLoop_unlogged t tx txLen fuel 0 _) fun _ => ?_
  exact .bind_eq (waitIdleTimer_unlogged t fuel) fun _ => noting_read t _ _

theorem transceive_unlogged (undef : UInt8) (fuel : Nat) (tx : Mem UInt8) (txLen rxLen : UInt8)
    (timer : Nat) : Mimics Unlogged (rc632TransceiveAt t.noting undef fuel tx txLen rxLen timer)
      (rc632Transceive t undef fuel tx txLen rxLen timer) Eq := by
  refine .bind_eq (exchange_unlogged t undef fuel tx txLen timer).attempt_eq fun o => ?_
  cases o with
  | error => exact .pure rfl
  | ok rxAvail =>
    refine .ite (fun _ => ?_) fun _ => .bind_eq (noting_fifoRead t _ _) fun _ => .pure rfl
    refine .bind_eq (noting_regRead t _ _) fun _ => .bind_eq (noting_regRead t _ _) fun _ => ?_
    exact .bind_eq (noting_regRead t _ _) fun _ => .pure rfl

end Exchange

section Operations

variable (t : Transport σ) (undef : UInt8) (fuel : Nat)

theorem ab_unlogged (frametype : RfidFrametype) (tx : Mem UInt8) (txLen : Nat) (rx : Mem UInt8)
    (rxLen timeout : Nat) : Mimics Unlogged
      (rc632Iso14443abTransceive (asicAt t.noting undef fuel) frametype tx txLen rx rxLen timeout)
      (rc632Iso14443abTransceive (t.asic undef fuel) frametype tx txLen rx rxLen timeout) Eq := by
  unfold rc632Iso14443abTransceive
  dsimp only
  cases channelRed frametype with
  | none => exact .pure rfl
  | some red =>
    refine .bind_eq (noting_write t .own _ red).attempt_eq fun o => ?_
    cases o with
    | error => exact .pure rfl
    | ok => exact .bind_eq (transceive_unlogged t undef fuel tx _ _ timeout) fun _ => .pure rfl

theorem sf_unlogged (cmd : UInt8) (atqa : Mem UInt8) : Mimics Unlogged
    (rc632Iso14443aTransceiveSf (asicAt t.noting undef fuel) cmd atqa)
    (rc632Iso14443aTransceiveSf (t.asic undef fuel) cmd atqa) Eq := by
  have hprepare : Mimics Unlogged (rc632Iso14443aPrepareSf (asicAt t.noting undef fuel))
      (rc632Iso14443aPrepareSf (t.asic undef fuel)) Eq :=
    .bind_eq (noting_write t .own _ _) fun _ => .bind_eq (noting_clearBits t .own _ _) fun _ =>
      .bind_eq (check_unlogged _) fun _ => .bind_eq (noting_clearBits t .own _ _) check_unlogged
  have hfinish : Mimics Unlogged (rc632Iso14443aFinishSf (asicAt t.noting undef fuel))
      (rc632Iso14443aFinishSf (t.asic undef fuel)) Eq :=
    .bind_eq (noting_write t .own _ _) fun _ => .bind_eq (noting_read t .own _) fun _ =>
      .when fun _ => .bind_eq (noting_read t .own _) fun _ => .pure rfl
  refine .bind_eq hprepare.attempt_eq fun o => ?_
  cases o with
  | error => exact .pure rfl
  | ok =>
    refine .bind_eq (transceive_unlogged t undef fuel _ _ _ _) fun x => ?_
    refine .ite (fun _ => .pure rfl) fun _ => ?_
    refine .bind_eq hfinish.attempt_eq fun o => ?_
    cases o with
    | error => exact .pure rfl
    | ok => exact .ite (fun _ => .pure rfl) fun _ => .pure rfl

theorem acf_unlogged (acf : Mem UInt8) : Mimics Unlogged
    (rc632Iso14443aTransceiveAcf (asicAt t.noting undef fuel) acf)
    (rc632Iso14443aTransceiveAcf (t.asic undef fuel) acf) Eq := by
  have hprepare : Mimics Unlogged (rc632Iso14443aPrepareAcf (asicAt t.noting undef fuel) acf)
      (rc632Iso14443aPrepareAcf (t.asic undef fuel) acf) Eq :=
    .bind_eq (noting_clearBits t .own _ _) fun _ => .bind_eq (check_unlogged _) fun _ =>
      .bind_eq (noting_clearBits t .own _ _) fun _ => .bind_eq (check_unlogged _) fun _ =>
        noting_write t .own _ _
  have hcol : Mimics Unlogged (rc632Iso14443aBitOfCol (asicAt t.noting undef fuel))
      (rc632Iso14443aBitOfCol (t.asic undef fuel)) Eq :=
    .bind_eq (noting_read t .own _) fun _ =>
      .ite (fun _ => .bind_eq (noting_read t .own _) fun _ => .pure rfl) fun _ => .pure rfl
  refine .bind_eq hprepare.attempt_eq fun o => ?_
  cases o with
  | error => exact .pure rfl
  | ok =>
    refine .bind_eq (transceive_unlogged t undef fuel _ _ _ _) fun x => ?_
    refine .ite (fun _ => .pure rfl) fun _ => ?_
    refine .bind_eq hcol.attempt_eq fun o => ?_
    cases o with
    | error => exact .pure rfl
    | ok => exact .pure rfl

theorem ac_unlogged (acf : Mem UInt8) (acfLen rxLen : Nat) (bitOfCol : UInt8) : Mimics Unlogged
    (rc632Iso15693TransceiveAc (asicAt t.noting undef fuel) acf acfLen rxLen bitOfCol)
    (rc632Iso15693TransceiveAc (t.asic undef fuel) acf acfLen rxLen bitOfCol) Eq := by
  refine .bind_eq (transceive_unlogged t undef fuel _ _ _ _) fun x => ?_
  refine .ite (fun _ => .pure rfl) fun _ => ?_
  refine .bind_eq (noting_read t .own _).attempt_eq fun o => ?_
  cases o with
  | error => exact .pure rfl
  | ok =>
    refine .ite (fun _ => .bind_eq (noting_read t .own _).attempt_eq fun o => ?_) fun _ =>
      .ite (fun _ => .pure rfl) fun _ => .pure rfl
    cases o with
    | error => exact .pure rfl
    | ok => exact .pure rfl

theorem setKey_unlogged (key : Mem UInt8) : Mimics Unlogged
    (rc632MifareSetKey (mifareAt t.noting undef fuel) key)
    (rc632MifareSetKey (t.mifare undef fuel) key) Eq := by
  refine .bind_eq (noting_write t .own _ _) fun _ => .bind_eq (noting_fifoWrite t .own _ _) fun _ => ?_
  refine .bind_eq (check_unlogged _) fun _ => .bind_eq (noting_write t .own _ _) fun _ => ?_
  refine .bind_eq (timerSet_unlogged t undef _) fun _ => ?_
  refine .bind_eq (waitIdleTimer_unlogged t fuel) fun _ => .bind_eq (noting_read t .own _) fun _ => ?_
  exact .when fun _ => .fail _

theorem auth_unlogged (cmd : UInt8) (serno : UInt32) (block : UInt8) : Mimics Unlogged
    (rc632MifareAuth (mifareAt t.noting undef fuel) cmd serno block)
    (rc632MifareAuth (t.mifare undef fuel) cmd serno block) Eq := by
  refine .ite (fun _ => .fail _) fun _ => ?_
  refine .bind_eq (noting_clearBits t .own _ _) fun _ => .bind_eq (check_unlogged _) fun _ => ?_
  refine .bind_eq (noting_fifoWrite t .own _ _) fun _ => .bind_eq (check_unlogged _) fun _ => ?_
  refine .bind_eq (noting_write t .own _ _) fun _ => .bind_eq (timerSet_unlogged t undef _) fun _ => ?_
  refine .bind_eq (waitIdleTimer_unlogged t fuel) fun _ => .bind_eq (noting_read t .own _) fun _ => ?_
  refine .bind_eq (.when fun _ => .fail _) fun _ => .bind_eq (noting_clearBits t .own _ _) fun _ => ?_
  refine .bind_eq (check_unlogged _) fun _ => .bind_eq (timerSet_unlogged t undef _) fun _ => ?_
  refine .bind_eq (noting_write t .own _ _) fun _ => ?_
  refine .bind_eq (waitIdleTimer_unlogged t fuel) fun _ => .bind_eq (noting_read t .own _) fun _ => ?_
  exact .when fun _ => .fail _

theorem setSpeed_unlogged (rxPast : RxConfig) (txPast : TxConfig) (tx : Bool) (rate : Nat) :
    Mimics Unlogged (rc632Iso14443aSetSpeed (t.noting .own).toBus rxPast txPast tx rate)
      (rc632Iso14443aSetSpeed t.toBus rxPast txPast tx rate) Eq := by
  refine .ite (fun _ => .ite (fun _ => .fail _) fun _ => ?_) fun _ =>
    .ite (fun _ => .fail _) fun _ => ?_
  · refine .bind_eq (noting_setBitMask t .own _ _ _) fun _ => .bind_eq (check_unlogged _) fun _ => ?_
    refine .bind_eq (noting_setBitMask t .own _ _ _) fun _ => .bind_eq (check_unlogged _) fun _ => ?_
    exact .bind_eq (noting_write t .own _ _) fun _ => .when fun _ => noting_write t .own _ _
  · refine .bind_eq (noting_setBitMask t .own _ _ _) fun _ => .bind_eq (check_unlogged _) fun _ => ?_
    exact noting_write t .own _ _

theorem ChipCall.runAt_unlogged (c : ChipCall) (e : Ambient) : Mimics Unlogged (c.runAt t.noting e)
    (c.run (t.asic e.undef e.fuel) (t.mifare e.undef e.fuel) e) Eq := by
  cases c with
  | ab frametype tx txLen rx rxLen timeout =>
    exact .bind_eq (ab_unlogged t e.undef e.fuel frametype tx txLen rx rxLen timeout) fun _ => .pure rfl
  | sf cmd atqa => exact .bind_eq (sf_unlogged t e.undef e.fuel cmd atqa) fun _ => .pure rfl
  | acf cmd => exact .bind_eq (acf_unlogged t e.undef e.fuel cmd) fun _ => .pure rfl
  | ac cmd acfLen rxLen bitOfCol =>
    exact .bind_eq (ac_unlogged t e.undef e.fuel cmd acfLen rxLen bitOfCol) fun _ => .pure rfl
  | setKey key => exact retOf_mimics (setKey_unlogged t e.undef e.fuel key)
  | auth cmd serno block => exact retOf_mimics (auth_unlogged t e.undef e.fuel cmd serno block)
  | setSpeed tx rate => exact retOf_mimics (setSpeed_unlogged t e.rxPast e.txPast tx rate)

/-- What is recorded is a run of the driver, with the log beside it. -/
theorem noted_run (c : ChipCall) (e : Ambient) (s : σ) :
    ((noted t c e s).1, (noted t c e s).2.1) =
      c.run (t.asic e.undef e.fuel) (t.mifare e.undef e.fuel) e s := by
  obtain ⟨halike, hstate⟩ := c.runAt_unlogged t e (s, []) s rfl
  exact Prod.ext halike.eq hstate

end Operations

end Librfid.Rc632
