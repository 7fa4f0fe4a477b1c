import Librfid.Rc632.Keeps

namespace Librfid.Rc632

open Exec

variable {σ τ : Type}

def Transport.watching (t : Transport σ) (f : List UInt8 → τ → τ) : Transport (σ × τ) where
  writeReg reg val s := ((t.writeReg reg val s.1).1, (t.writeReg reg val s.1).2, s.2)
  readReg reg s := ((t.readReg reg s.1).1, (t.readReg reg s.1).2, s.2)
  writeFifo bytes flags s :=
    ((t.writeFifo bytes flags s.1).1, (t.writeFifo bytes flags s.1).2, f bytes s.2)
  readFifo len s := ((t.readFifo len s.1).1, (t.readFifo len s.1).2, s.2)

variable (t : Transport σ) (f : List UInt8 → τ → τ) (J : τ → Prop)

theorem watching_bus (regs : List UInt8) : (t.watching f).toBus.Keeps regs fun s => J s.2 where
  regWrite _ _ _ := fun _ => id
  regRead _ := fun _ => id

variable {f J} in
theorem watching_keeps (regs : List UInt8) (h : ∀ bytes x, J x → J (f bytes x)) :
    (t.watching f).Keeps regs fun s => J s.2 where
  toKeeps := watching_bus t f J regs
  fifoWrite bytes _ := fun s => h bytes s.2
  fifoRead _ := fun _ => id

theorem rc632TransmitLoop_watching (tx : Mem UInt8) (txLen : UInt8) (fuel : Nat) (x : τ) :
    Triple (fun s => s.2 = x) (rc632TransmitLoop (t.watching f) tx txLen fuel 0 txLen.toNat)
      fun _ s => s.2 = x ∨ s.2 = f (tx.load 0 txLen.toNat) x := by
  cases fuel with
  | zero => exact fun _ => .inl
  | succ fuel =>
    have hcur : ((txLen.toNat : Int) % 256).toNat = txLen.toNat := by
      have hlt := txLen.toNat_lt
      omega
    have hdone : ¬ (0 + (txLen.toNat : Int) < txLen.toNat) := by omega
    have hfifo : Triple (fun s => s.2 = x) ((t.watching f).fifoWrite (tx.load 0 txLen.toNat) 0x03)
        fun _ s => s.2 = f (tx.load 0 txLen.toNat) x :=
      fun s hs => congrArg (f (tx.load 0 txLen.toNat)) hs
    have hbus : (t.watching f).toBus.Keeps [regCommand]
        fun s => s.2 = f (tx.load 0 txLen.toNat) x :=
      watching_bus t f (· = f (tx.load 0 txLen.toNat) x) _
    unfold rc632TransmitLoop
    rw [hcur, if_neg hdone]
    refine (Triple.bind hfifo (fun ret => ?_) (fun _ _ => id) fun _ => id).post fun _ _ => .inr
    exact Keeps.bind (.check ret) fun _ =>
      .bind (.when fun _ => hbus.write (List.mem_singleton.mpr rfl) _) fun _ => .pure _

theorem rc632Transceive_watching (undef : UInt8) (fuel : Nat) (tx : Mem UInt8) {txLen : UInt8}
    (hlen : txLen.toNat ≤ 64) (rxLen : UInt8) (timer : Nat) (x : τ) :
    Triple (fun s => s.2 = x) (rc632Transceive (t.watching f) undef fuel tx txLen rxLen timer)
      fun _ s => s.2 = x ∨ s.2 = f (tx.load 0 txLen.toNat) x := by
  let J : τ → Prop := fun y => y = x ∨ y = f (tx.load 0 txLen.toNat) x
  have hbefore : (t.watching f).toBus.Keeps transceiveRegs fun s => s.2 = x :=
    watching_bus t f (· = x) _
  have hafter : (t.watching f).toBus.Keeps transceiveRegs fun s => J s.2 := watching_bus t f J _
  have hfirst : ¬ txLen > 64 := by
    rw [gt_iff_lt, UInt8.lt_iff_toNat_lt]
    exact Nat.not_lt.mpr hlen
  -- what comes before the FIFO is written to
  have hprefix : ∀ {α β : Type} {c : Exec (σ × τ) α} {g : α → Exec (σ × τ) β},
      Keeps (fun s => s.2 = x) c → (∀ a, Triple (fun s => s.2 = x) (g a) fun _ s => J s.2) →
      Triple (fun s => s.2 = x) (c >>= g) fun _ s => J s.2 :=
    fun hc hg => .bind hc hg (fun _ _ => .inl) fun _ => .inl
  have hexchange : Triple (fun s => s.2 = x)
      (rc632Exchange (t.watching f) undef fuel tx txLen timer) fun _ s => J s.2 := by
    unfold rc632Exchange
    rw [if_neg hfirst]
    refine hprefix (hbefore.regWrite regCommand (by decide) _) fun _ =>
      hprefix (hbefore.regWrite regInterruptRq (by decide) _) fun _ =>
      hprefix (hbefore.regRead _) fun _ => hprefix (hbefore.regRead _) fun _ => ?_
    refine hprefix (rc632TimerSet_keeps (hbefore.mono (by decide)).regWrite undef timer) fun _ => ?_
    refine .bind (rc632TransmitLoop_watching t f tx txLen fuel x) (fun _ => ?_) (fun _ _ => id)
      fun _ => id
    exact Keeps.bind (rc632WaitIdleTimer_keeps (hafter.mono (by decide)) fuel)
      fun _ => hafter.read _
  refine Triple.bind (.attempt_const hexchange) (fun o => ?_) (fun _ _ => id) fun _ => id
  cases o with
  | error ret => exact Keeps.pure _
  | ok rxAvail =>
    refine Keeps.ite (fun _ => ?_) fun _ => .bind (fun _ => id) fun _ => .pure _
    exact .bind (hafter.regRead _) fun _ => .bind (hafter.regRead _) fun _ =>
      .bind (hafter.regRead _) fun _ => .pure _

end Librfid.Rc632
