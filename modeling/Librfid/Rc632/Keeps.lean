import Librfid.Rc632.Frames

namespace Librfid.Rc632

open Exec

variable {σ : Type}

/-- `I` survives writes to `regs` and all reads. -/
structure Bus.Keeps (b : Bus σ) (regs : List UInt8) (I : σ → Prop) : Prop where
  regWrite : ∀ reg ∈ regs, ∀ val, Exec.Keeps I (b.regWrite reg val)
  regRead : ∀ reg, Exec.Keeps I (b.regRead reg)

structure Transport.Keeps (t : Transport σ) (regs : List UInt8) (I : σ → Prop) : Prop
    extends Bus.Keeps t.toBus regs I where
  fifoWrite : ∀ bytes flags, Exec.Keeps I (t.fifoWrite bytes flags)
  fifoRead : ∀ len, Exec.Keeps I (t.fifoRead len)

structure Asic.Keeps (a : Asic σ) (regs : List UInt8) (I : σ → Prop) : Prop
    extends Bus.Keeps a.toBus regs I where
  transceive : ∀ tx txLen rxLen timer, Exec.Keeps I (a.transceive tx txLen rxLen timer)

theorem Bus.Keeps.mono {b : Bus σ} {regs regs' : List UInt8} {I : σ → Prop} (h : b.Keeps regs I)
    (hsub : regs' ⊆ regs) : b.Keeps regs' I where
  regWrite reg hreg := h.regWrite reg (hsub hreg)
  regRead := h.regRead

theorem Transport.Keeps.mono {t : Transport σ} {regs regs' : List UInt8} {I : σ → Prop}
    (h : t.Keeps regs I) (hsub : regs' ⊆ regs) : t.Keeps regs' I where
  toKeeps := h.toKeeps.mono hsub
  fifoWrite := h.fifoWrite
  fifoRead := h.fifoRead

theorem Transport.Keeps.and {t : Transport σ} {regs : List UInt8} {I J : σ → Prop}
    (h : t.Keeps regs I) (h' : t.Keeps regs J) : t.Keeps regs fun s => I s ∧ J s where
  regWrite reg hreg val := fun s hs => ⟨h.regWrite reg hreg val s hs.1, h'.regWrite reg hreg val s hs.2⟩
  regRead reg := fun s hs => ⟨h.regRead reg s hs.1, h'.regRead reg s hs.2⟩
  fifoWrite bytes flags := fun s hs =>
    ⟨h.fifoWrite bytes flags s hs.1, h'.fifoWrite bytes flags s hs.2⟩
  fifoRead len := fun s hs => ⟨h.fifoRead len s hs.1, h'.fifoRead len s hs.2⟩

theorem Asic.Keeps.mono {a : Asic σ} {regs regs' : List UInt8} {I : σ → Prop} (h : a.Keeps regs I)
    (hsub : regs' ⊆ regs) : a.Keeps regs' I where
  toKeeps := h.toKeeps.mono hsub
  transceive := h.transceive

theorem Asic.Keeps.congr {a : Asic σ} {regs : List UInt8} {I I' : σ → Prop} (h : a.Keeps regs I)
    (hI : ∀ s, I s ↔ I' s) : a.Keeps regs I' := by
  have : I = I' := funext fun s => propext (hI s)
  exact this ▸ h

section Bus

variable {b : Bus σ} {I : σ → Prop} {regs : List UInt8}

theorem write_keeps {reg : UInt8} (h : ∀ val, Exec.Keeps I (b.regWrite reg val)) (val : UInt8) :
    Exec.Keeps I (b.write reg val) :=
  .bind (h val) .check

theorem Bus.Keeps.write (h : b.Keeps regs I) {reg : UInt8} (hreg : reg ∈ regs) (val : UInt8) :
    Exec.Keeps I (b.write reg val) :=
  write_keeps (h.regWrite reg hreg) val

theorem Bus.Keeps.read (h : b.Keeps regs I) (reg : UInt8) : Exec.Keeps I (b.read reg) :=
  .bind (h.regRead reg) fun _ => .bind (.check _) fun _ => .pure _

theorem write_total {reg val : UInt8} {P Q : σ → Prop}
    (h : Total P (b.regWrite reg val) fun ret s => 0 ≤ ret ∧ Q s) :
    Total P (b.write reg val) fun _ => Q :=
  .bind h fun _ s hs => by
    rw [check_of_nonneg hs.1]
    exact ⟨(), s, rfl, hs.2⟩

theorem read_total {reg : UInt8} {P : σ → Prop} {Q : UInt8 → σ → Prop}
    (h : Total P (b.regRead reg) fun r s => 0 ≤ r.1 ∧ Q r.2 s) : Total P (b.read reg) Q :=
  .bind h fun r s hs => ⟨r.2, s, by simp [bind_run, check_of_nonneg hs.1], hs.2⟩

section View

variable {α : Type} {view : σ → α} {v : α}

theorem regRead_view (hread : ∀ reg s, 0 ≤ (b.readReg reg s).1.1 ∧ view (b.readReg reg s).2 = view s)
    (reg : UInt8) : Total (fun s => view s = v) (b.regRead reg) fun r s => 0 ≤ r.1 ∧ view s = v :=
  fun s hs => ⟨_, _, rfl, (hread reg s).1, (hread reg s).2.trans hs⟩

theorem regWrite_view (f : α → α) {reg val : UInt8}
    (hwrite : ∀ s, 0 ≤ (b.writeReg reg val s).1 ∧ view (b.writeReg reg val s).2 = f (view s)) :
    Total (fun s => view s = v) (b.regWrite reg val) fun ret s => 0 ≤ ret ∧ view s = f v :=
  fun s hs => ⟨_, _, rfl, (hwrite s).1, (hwrite s).2.trans (congrArg f hs)⟩

theorem clearBits_view (hread : ∀ reg s, 0 ≤ (b.readReg reg s).1.1 ∧ view (b.readReg reg s).2 = view s)
    {reg : UInt8}
    (hwrite : ∀ val s, 0 ≤ (b.writeReg reg val s).1 ∧ view (b.writeReg reg val s).2 = view s)
    (mask : UInt8) :
    Total (fun s => view s = v) (rc632ClearBits b reg mask) fun ret s => 0 ≤ ret ∧ view s = v := by
  refine .bind (regRead_view hread reg) fun (ret, tmp) => .assume fun hret => ?_
  refine .ite (fun hneg => absurd hret (Int.not_le.mpr hneg)) fun _ => ?_
  refine .ite (fun _ => .pure fun s hs => ⟨Int.le_refl 0, hs⟩) fun _ => ?_
  exact regWrite_view id (hwrite _)

end View

theorem rc632ClearBits_keeps (h : b.Keeps regs I) {reg : UInt8} (hreg : reg ∈ regs)
    (val : UInt8) : Exec.Keeps I (rc632ClearBits b reg val) :=
  .bind (h.regRead reg) fun _ =>
    .ite (fun _ => .pure _) fun _ => .ite (fun _ => .pure _) fun _ => h.regWrite reg hreg _

theorem rc632ExecuteScript_keeps {script : List (UInt8 × UInt8)}
    (h : ∀ f ∈ script, ∀ val, Exec.Keeps I (b.regWrite f.1 val)) :
    Exec.Keeps I (rc632ExecuteScript b script) := by
  induction script with
  | nil => exact .pure _
  | cons f script ih =>
    rw [List.forall_mem_cons] at h
    exact .bind (write_keeps h.1 f.2) fun _ => ih h.2

theorem write_errs (b : Bus σ) (reg val : UInt8) : Errs (b.write reg val) :=
  .bind (.step _) .check

theorem read_errs (b : Bus σ) (reg : UInt8) : Errs (b.read reg) :=
  .bind (.step _) fun _ => .bind (.check _) fun _ => .pure _

theorem rc632ClearBits_errs (b : Bus σ) (reg val : UInt8) : Errs (rc632ClearBits b reg val) :=
  .bind (.step _) fun _ => .ite (.pure _) (.ite (.pure _) (.step _))

def timerRegs : List UInt8 :=
  [regTimerClock, regTimerControl, regInterruptRq, regInterruptEn, regTimerReload]

theorem rc632TimerSet_keeps (h : ∀ reg ∈ timerRegs, ∀ val, Exec.Keeps I (b.regWrite reg val))
    (undef : UInt8) (timeout : Nat) : Exec.Keeps I (rc632TimerSet b undef timeout) := by
  have hw : ∀ reg ∈ timerRegs, ∀ val, Exec.Keeps I (b.write reg val) :=
    fun reg hreg => write_keeps (h reg hreg)
  refine .bind (hw regTimerClock (by decide) _) fun _ => ?_
  refine .bind (h regTimerControl (by decide) _) fun _ => ?_
  refine .bind (h regInterruptRq (by decide) _) fun _ => ?_
  refine .bind (h regInterruptEn (by decide) _) fun _ => ?_
  exact .bind (h regTimerReload (by decide) _) fun _ => .check _

theorem rc632WaitIdlePoll_keeps (h : b.Keeps [regInterruptRq] I) :
    Exec.Keeps I (rc632WaitIdlePoll b) := by
  have hirq : ∀ bits, Exec.Keeps I (rc632ClearIrqs b bits) :=
    fun _ => h.regWrite regInterruptRq (by decide) _
  refine .bind (h.regRead regPrimaryStatus) fun _ => .bind (.when fun _ => ?_) fun _ =>
    .bind (.when fun _ => ?_) fun _ => ?_
  · exact .bind (h.read regErrorFlag) fun _ => .when fun _ => .fail _
  · exact .bind (h.read regInterruptRq) fun _ => .when fun _ => .bind (hirq _) fun _ => .fail _
  · exact .bind (h.read regCommand) fun _ =>
      .ite (fun _ => .bind (hirq _) fun _ => .pure _) fun _ => .pure _

theorem rc632WaitIdleLoop_keeps (h : b.Keeps [regInterruptRq] I) (fuel : Nat) :
    Exec.Keeps I (rc632WaitIdleLoop b fuel) := by
  induction fuel with
  | zero => exact .hang
  | succ fuel ih =>
    refine .bind (rc632WaitIdlePoll_keeps h) fun o => ?_
    cases o with
    | some => exact .pure _
    | none => exact ih

theorem rc632WaitIdleTimer_keeps (h : b.Keeps [regInterruptRq, regInterruptEn] I) (fuel : Nat) :
    Exec.Keeps I (rc632WaitIdleTimer b fuel) :=
  .bind (h.read regInterruptEn) fun _ => .bind (h.write (by decide) _) fun _ =>
    rc632WaitIdleLoop_keeps ⟨fun reg hreg => h.regWrite reg (by simp_all), h.regRead⟩ fuel

end Bus

section Transport

variable {t : Transport σ} {I : σ → Prop}

def transceiveRegs : List UInt8 := regCommand :: timerRegs

theorem rc632TransmitLoop_keeps (h : t.Keeps [regCommand] I) (tx : Mem UInt8) (txLen : UInt8)
    (fuel : Nat) (off cur : Int) : Exec.Keeps I (rc632TransmitLoop t tx txLen fuel off cur) := by
  induction fuel generalizing off cur with
  | zero => exact .hang
  | succ fuel ih =>
    refine .bind (h.fifoWrite _ _) fun _ => .bind (.check _) fun _ =>
      .bind (.when fun _ => h.write (List.mem_singleton.mpr rfl) _) fun _ =>
      .ite (fun _ => ?_) fun _ => .pure _
    exact .bind (h.read regFifoLength) fun _ => .ite (fun _ => .pure _) fun _ => ih _ _

theorem rc632Exchange_keeps (h : t.Keeps transceiveRegs I) (undef : UInt8) (fuel : Nat)
    (tx : Mem UInt8) (txLen : UInt8) (timer : Nat) :
    Exec.Keeps I (rc632Exchange t undef fuel tx txLen timer) := by
  have hsub : ∀ regs, regs ⊆ transceiveRegs → t.Keeps regs I := fun _ => h.mono
  refine .bind (h.regWrite regCommand (by decide) _) fun _ =>
    .bind (h.regWrite regInterruptRq (by decide) _) fun _ =>
    .bind (h.regRead _) fun _ => .bind (h.regRead _) fun _ => ?_
  refine .bind (rc632TimerSet_keeps (hsub timerRegs (by decide)).regWrite undef timer) fun _ => ?_
  refine .bind (rc632TransmitLoop_keeps (hsub [regCommand] (by decide)) tx txLen fuel _ _)
    fun _ => ?_
  exact .bind (rc632WaitIdleTimer_keeps (hsub [regInterruptRq, regInterruptEn] (by decide)).toKeeps
    fuel) fun _ => h.read _

theorem rc632Transceive_keeps (h : t.Keeps transceiveRegs I) (undef : UInt8) (fuel : Nat)
    (tx : Mem UInt8) (txLen rxLen : UInt8) (timer : Nat) :
    Exec.Keeps I (rc632Transceive t undef fuel tx txLen rxLen timer) := by
  refine .bind (.attempt (rc632Exchange_keeps h undef fuel tx txLen timer)) fun o => ?_
  cases o with
  | error ret => exact .pure _
  | ok rxAvail =>
    refine .ite (fun _ => ?_) fun _ => .bind (h.fifoRead _) fun _ => .pure _
    exact .bind (h.regRead _) fun _ => .bind (h.regRead _) fun _ => .bind (h.regRead _)
      fun _ => .pure _

theorem rc632Transceive_stays (t : Transport σ) (undef : UInt8) (fuel : Nat) (tx : Mem UInt8)
    (txLen rxLen : UInt8) (timer : Nat) : Stays (rc632Transceive t undef fuel tx txLen rxLen timer) := by
  refine .bind (.attempt _) fun o => ?_
  cases o with
  | error ret => exact .pure _
  | ok rxAvail =>
    refine .ite ?_ ?_
    · exact .bind (.step _) fun _ => .bind (.step _) fun _ => .bind (.step _) fun _ => .pure _
    · exact .bind (.step _) fun _ => .pure _

theorem rc632Iso14443abTransceive_stays (t : Transport σ) (undef : UInt8) (fuel : Nat)
    (frametype : RfidFrametype) (tx : Mem UInt8) (txLen : Nat) (rx : Mem UInt8) (rxLen timeout : Nat) :
    Stays (rc632Iso14443abTransceive (t.asic undef fuel) frametype tx txLen rx rxLen timeout) := by
  unfold rc632Iso14443abTransceive
  cases channelRed frametype with
  | none => exact .pure _
  | some channelRed =>
    refine .bind (.attempt _) fun o => ?_
    cases o with
    | error ret => exact .pure _
    | ok => exact .bind (rc632Transceive_stays _ _ _ _ _ _ _) fun _ => .pure _

theorem Transport.Keeps.asic {regs : List UInt8} (h : t.Keeps regs I)
    (hsub : transceiveRegs ⊆ regs) (undef : UInt8) (fuel : Nat) :
    (t.asic undef fuel).Keeps regs I where
  toKeeps := h.toKeeps
  transceive := rc632Transceive_keeps (h.mono hsub) undef fuel

end Transport

section Asic

variable {a : Asic σ} {I : σ → Prop}

theorem rc632Iso14443aConfigSf_keeps (h : a.Keeps [regControl, regChannelRedundancy] I) :
    Exec.Keeps I (rc632Iso14443aConfigSf a) :=
  .bind (rc632ClearBits_keeps h.toKeeps (by decide) _) fun _ => .bind (.check _) fun _ =>
    .bind (rc632ClearBits_keeps h.toKeeps (by decide) _) fun _ => .check _

theorem rc632Iso14443aFinishSf_keeps (h : a.Keeps [regBitFraming] I) :
    Exec.Keeps I (rc632Iso14443aFinishSf a) :=
  .bind (h.write (by decide) _) fun _ => .bind (h.read _) fun _ =>
    .when fun _ => .bind (h.read _) fun _ => .pure _

theorem rc632Iso14443aPrepareSf_errs (a : Asic σ) : Errs (rc632Iso14443aPrepareSf a) :=
  .bind (write_errs _ _ _) fun _ => .bind (rc632ClearBits_errs _ _ _) fun _ => .bind (.check _)
    fun _ => .bind (rc632ClearBits_errs _ _ _) fun _ => .check _

def anticolRegs : List UInt8 := [regBitFraming, regControl, regChannelRedundancy]

theorem rc632Iso14443aTransceiveSf_keeps (h : a.Keeps anticolRegs I) (cmd : UInt8)
    (atqa : Mem UInt8) : Exec.Keeps I (rc632Iso14443aTransceiveSf a cmd atqa) := by
  have hprepare : Exec.Keeps I (rc632Iso14443aPrepareSf a) :=
    .bind (h.write (by decide) _) fun _ => rc632Iso14443aConfigSf_keeps (h.mono (by decide))
  refine .bind hprepare.attempt fun o => ?_
  cases o with
  | error ret => exact .pure _
  | ok =>
    refine .bind (h.transceive _ _ _ _) fun x => .ite (fun _ => .pure _) fun _ => ?_
    refine .bind (rc632Iso14443aFinishSf_keeps (h.mono (by decide))).attempt fun o => ?_
    cases o with
    | error ret => exact .pure _
    | ok => exact .ite (fun _ => .pure _) fun _ => .pure _

theorem rc632Iso14443aTransceiveAcf_keeps (h : a.Keeps [] I) (acf : Mem UInt8) {P : σ → Prop}
    (hprepare : Triple P (rc632Iso14443aPrepareAcf a acf) fun _ => I) :
    Triple P (rc632Iso14443aTransceiveAcf a acf) fun _ => I := by
  have hboc : Exec.Keeps I (rc632Iso14443aBitOfCol a) :=
    .bind (h.read _) fun _ => .ite (fun _ => .bind (h.read _) fun _ => .pure _) fun _ => .pure _
  refine .bind (.attempt_const hprepare) (fun o => ?_) (fun _ _ => id) fun _ => id
  cases o with
  | error ret => exact Exec.Keeps.pure _
  | ok =>
    refine Exec.Keeps.bind (h.transceive _ _ _ _) fun x => .ite (fun _ => .pure _) fun _ => ?_
    refine .bind hboc.attempt fun o => ?_
    cases o <;> exact .pure _

theorem rc632Iso14443aTransceiveAcf_acf (a : Asic σ) (acf : Mem UInt8) :
    Triple (fun _ => True) (rc632Iso14443aTransceiveAcf a acf)
      (Ends (fun _ => True) fun x _ => x.acf = acf ∨ ∃ y, x.acf = acfMerge acf y) := by
  have htrue : ∀ {α : Type} (x : Exec σ α), Triple (fun _ => True) x (Ends (fun _ => True)
      fun _ _ => True) := fun _ _ _ => ⟨trivial, fun _ _ => trivial⟩
  refine .ends_bind (htrue _) fun o => ?_
  cases o with
  | error ret => exact .ends_pure fun _ _ => ⟨trivial, .inl rfl⟩
  | ok =>
    refine .ends_bind ((htrue _).pre fun _ _ => trivial) fun x =>
      .ite (fun _ => .ends_pure fun _ _ => ⟨trivial, .inl rfl⟩) fun _ => ?_
    refine .ends_bind ((htrue _).pre fun _ _ => trivial) fun o => ?_
    cases o <;> exact .ends_pure fun _ _ => ⟨trivial, .inr ⟨x, rfl⟩⟩

theorem rc632Iso14443aPrepareAcf_keeps (h : a.Keeps anticolRegs I) (acf : Mem UInt8) :
    Exec.Keeps I (rc632Iso14443aPrepareAcf a acf) :=
  .bind (rc632ClearBits_keeps h.toKeeps (by decide) _) fun _ => .bind (.check _) fun _ =>
    .bind (rc632ClearBits_keeps h.toKeeps (by decide) _) fun _ => .bind (.check _) fun _ =>
    h.write (by decide) _

theorem rc632Iso14443abTransceive_keeps (h : a.Keeps [regChannelRedundancy] I)
    (frametype : RfidFrametype) (tx : Mem UInt8) (txLen : Nat) (rx : Mem UInt8)
    (rxLen timeout : Nat) :
    Exec.Keeps I (rc632Iso14443abTransceive a frametype tx txLen rx rxLen timeout) := by
  unfold rc632Iso14443abTransceive
  cases channelRed frametype with
  | none => exact .pure _
  | some red =>
    refine .bind (h.write (by decide) _).attempt fun o => ?_
    cases o with
    | error ret => exact .pure _
    | ok => exact .bind (h.transceive _ _ _ _) fun _ => .pure _

end Asic

end Librfid.Rc632
