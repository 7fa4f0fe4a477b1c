import Librfid.Rc632.Chip
import Librfid.Lib.Bits

namespace Librfid.Rc632

open Exec

variable {σ β : Type}

/-- `get` is the content of `reg`: a write that fails may or may not have been carried out. -/
structure Register (t : Transport σ) (reg : UInt8) (get : σ → UInt8) : Prop where
  others : ∀ v regs, reg ∉ regs → t.Keeps regs fun s => get s = v
  write : ∀ val s, get (t.writeReg reg val s).2 = val ∨
    get (t.writeReg reg val s).2 = get s ∧ (t.writeReg reg val s).1 < 0
  read : ∀ s, 0 ≤ (t.readReg reg s).1.1 → (t.readReg reg s).1.2 = get s

def Transport.logging (t : Transport σ) (obs : σ → β) : Transport (σ × List β) where
  writeReg reg val := fun (s, log) =>
    let (ret, s') := t.writeReg reg val s
    (ret, (s', if reg = regCommand ∧ val = cmdTransceive then log ++ [obs s] else log))
  readReg reg := fun (s, log) =>
    let (r, s) := t.readReg reg s
    (r, (s, log))
  writeFifo bytes flags := fun (s, log) =>
    let (ret, s) := t.writeFifo bytes flags s
    (ret, (s, log))
  readFifo len := fun (s, log) =>
    let (r, s) := t.readFifo len s
    (r, (s, log))

section Logging

variable {t : Transport σ} {obs : σ → β} {I : σ → Prop} {G : β → Prop}

@[simp] theorem logging_regWrite_run (reg val : UInt8) (s : σ) (log : List β) :
    (t.logging obs).regWrite reg val (s, log) =
      (.ok (t.writeReg reg val s).1, ((t.writeReg reg val s).2,
        if reg = regCommand ∧ val = cmdTransceive then log ++ [obs s] else log)) := rfl

theorem logging_keeps {regs : List UInt8} (h : t.Keeps regs I) (hobs : ∀ s, I s → G (obs s)) :
    (t.logging obs).Keeps regs fun s => I s.1 ∧ ∀ b ∈ s.2, G b where
  regWrite reg hreg val := by
    rintro ⟨s, log⟩ ⟨hI, hG⟩
    rw [logging_regWrite_run]
    refine ⟨h.regWrite reg hreg val s hI, ?_⟩
    split_ifs
    · rw [List.forall_mem_append]
      exact ⟨hG, List.forall_mem_singleton.mpr (hobs s hI)⟩
    · exact hG
  regRead reg := fun s hs => ⟨h.regRead reg s.1 hs.1, hs.2⟩
  fifoWrite bytes flags := fun s hs => ⟨h.fifoWrite bytes flags s.1 hs.1, hs.2⟩
  fifoRead len := fun s hs => ⟨h.fifoRead len s.1 hs.1, hs.2⟩

theorem logging_register {reg : UInt8} {get : σ → UInt8} (h : Register t reg get) :
    Register (t.logging obs) reg fun s => get s.1 where
  others v regs hreg :=
    ⟨⟨fun r hr val s hs => (h.others v regs hreg).regWrite r hr val s.1 hs,
      fun r s hs => (h.others v regs hreg).regRead r s.1 hs⟩,
      fun bytes flags s hs => (h.others v regs hreg).fifoWrite bytes flags s.1 hs,
      fun len s hs => (h.others v regs hreg).fifoRead len s.1 hs⟩
  write val s := h.write val s.1
  read s := h.read s.1

theorem keeps_true (t : Transport σ) (regs : List UInt8) : t.Keeps regs fun _ => True :=
  ⟨⟨fun _ _ _ _ _ => trivial, fun _ _ _ => trivial⟩, fun _ _ _ _ => trivial, fun _ _ _ => trivial⟩

/-- Writing the value a register holds changes nothing, carried out or not. -/
theorem Register.keeps_write {reg : UInt8} {get : σ → UInt8} (h : Register t reg get)
    (val : UInt8) : Exec.Keeps (fun s => get s = val) (t.toBus.write reg val) :=
  .bind (fun s hs => (h.write val s).elim id fun h => h.1.trans hs) .check

theorem logging_log (t : Transport σ) (obs : σ → β) {regs : List UInt8} (h : regCommand ∉ regs)
    (P : List β → Prop) : (t.logging obs).Keeps regs fun s => P s.2 where
  regWrite reg hreg val := by
    rintro ⟨s, log⟩ hs
    have hne : reg ≠ regCommand := fun he => h (he ▸ hreg)
    rw [logging_regWrite_run, if_neg fun h => hne h.1]
    exact hs
  regRead _ := fun _ => id
  fifoWrite _ _ := fun _ => id
  fifoRead _ := fun _ => id

theorem Register.others_pred {reg : UInt8} {get : σ → UInt8} (h : Register t reg get)
    (p : UInt8 → Prop) {regs : List UInt8} (hreg : reg ∉ regs) :
    t.Keeps regs fun s => p (get s) where
  regWrite r hr val := fun s hs => (congrArg p ((h.others _ regs hreg).regWrite r hr val s rfl)).mpr hs
  regRead r := fun s hs => (congrArg p ((h.others _ regs hreg).regRead r s rfl)).mpr hs
  fifoWrite bytes flags := fun s hs =>
    (congrArg p ((h.others _ regs hreg).fifoWrite bytes flags s rfl)).mpr hs
  fifoRead len := fun s hs => (congrArg p ((h.others _ regs hreg).fifoRead len s rfl)).mpr hs

theorem Transport.Keeps.asic_of {regs : List UInt8} (h : t.Keeps (transceiveRegs ++ regs) I)
    (undef : UInt8) (fuel : Nat) : (t.asic undef fuel).Keeps regs I :=
  (h.asic (fun _ h => List.mem_append_left _ h) undef fuel).mono fun _ h =>
    List.mem_append_right _ h

theorem Register.write_ok {reg val : UInt8} {get : σ → UInt8} (h : Register t reg get) {s s' : σ}
    (hw : t.toBus.write reg val s = (.ok (), s')) : get s' = val := by
  obtain ⟨ret, s₁, hret, hcheck⟩ := of_bind_ok hw
  obtain ⟨hnn, rfl⟩ := of_check_ok hcheck
  cases hret
  exact (h.write val s).resolve_right fun h => absurd h.2 (Int.not_lt.mpr hnn)

theorem Register.keeps_read {reg : UInt8} {get : σ → UInt8} (h : Register t reg get) (r : UInt8)
    (s : σ) : get (t.readReg r s).2 = get s :=
  (h.others (get s) [] List.not_mem_nil).regRead r s rfl

theorem Register.clearBits {reg : UInt8} {get : σ → UInt8} (h : Register t reg get)
    (mask : UInt8) (s : σ) :
    (get (rc632ClearBits t.toBus reg mask s).2 = get s ∨
        get (rc632ClearBits t.toBus reg mask s).2 = get s &&& ~~~mask) ∧
      ∀ ret, (rc632ClearBits t.toBus reg mask s).1 = .ok ret → 0 ≤ ret →
        get (rc632ClearBits t.toBus reg mask s).2 = get s &&& ~~~mask := by
  have hread := h.keeps_read reg s
  have hrun : rc632ClearBits t.toBus reg mask s =
      (if (t.readReg reg s).1.1 < 0 then (pure (-1) : Exec σ Int)
        else if (t.readReg reg s).1.2 &&& mask = 0 then pure 0
        else t.regWrite reg ((t.readReg reg s).1.2 &&& ~~~mask)) (t.readReg reg s).2 := rfl
  rw [hrun]
  split_ifs with hneg hclear
  · refine ⟨.inl hread, fun ret hret hnn => ?_⟩
    cases hret
    exact absurd hnn (by decide)
  · have hval := h.read s (Int.not_lt.mp hneg)
    have hsame : get s = get s &&& ~~~mask :=
      Bits.eq_and_not (hval ▸ hclear)
    exact ⟨.inl hread, fun _ _ _ => hread.trans hsame⟩
  · have hval := h.read s (Int.not_lt.mp hneg)
    rw [hval]
    rcases h.write (get s &&& ~~~mask) (t.readReg reg s).2 with hw | ⟨hw, hlt⟩
    · exact ⟨.inr hw, fun _ _ _ => hw⟩
    · refine ⟨.inl (hw.trans hread), fun ret hret hnn => ?_⟩
      cases hret
      exact absurd hlt (Int.not_lt.mpr hnn)

end Logging

def activeRegs : List UInt8 :=
  [regCommand, regControl, regFifoLength, regPrimaryStatus, regErrorFlag, regInterruptRq, regCollPos]

theorem chip_register {reg : UInt8} (h : reg ∉ activeRegs) :
    Register chip reg fun c => c.regs reg where
  others v regs hreg :=
    { regWrite := fun r hr val c hc => by
        have hne : reg ≠ r := fun h => hreg (h ▸ hr)
        simpa [Chip.write, hne] using hc
      regRead := fun _ _ => id
      fifoWrite := fun _ _ _ => id
      fifoRead := fun _ _ => id }
  write val c := by
    have hctl : reg ≠ regControl := fun hr => h (hr ▸ by decide)
    exact .inl (by simp [chip, Chip.write, hctl])
  read c _ := by
    simp only [activeRegs, List.mem_cons, List.not_mem_nil, or_false, not_or] at h
    simp [chip, Link.read, h]

end Librfid.Rc632
