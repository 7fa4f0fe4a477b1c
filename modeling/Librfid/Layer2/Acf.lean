import Librfid.Layer2.Iso14443a

namespace Librfid.Layer2

open Rc632 Exec

theorem iso14443aCodeNvbBits_some {bits : Nat} (hlo : 16 ≤ bits) (hhi : bits < 64) :
    ∃ nvb, iso14443aCodeNvbBits bits = some nvb ∧ (nvb >>> 4 &&& 0x07).toNat = bits / 8 ∧
      (nvb &&& 0x07).toNat = bits % 8 := by
  revert bits
  decide

theorem iso14443aCodeNvbBits_eq_none {bits : Nat} (h : bits < 16 ∨ 64 ≤ bits) :
    iso14443aCodeNvbBits bits = none := by
  simp only [iso14443aCodeNvbBits]
  rw [if_pos (by omega)]

@[simp] theorem codeNvb_zero (acf : Mem UInt8) (bits : Nat) : codeNvb acf bits 0 = acf 0 := by
  rw [codeNvb]
  cases iso14443aCodeNvbBits bits with
  | none => rfl
  | some nvb => exact Mem.set_ne _ _ (by decide)

theorem codeNvb_of_ge (acf : Mem UInt8) (bits : Nat) {i : Int} (h : 2 ≤ i) :
    codeNvb acf bits i = acf i := by
  rw [codeNvb]
  cases iso14443aCodeNvbBits bits with
  | none => rfl
  | some nvb => exact Mem.set_ne _ _ (by omega)

theorem acfTxBytes_codeNvb (acf : Mem UInt8) {bits : Nat} (hlo : 16 ≤ bits) (hhi : bits < 64) :
    (acfTxBytes (codeNvb acf bits)).toNat = bits / 8 := by
  obtain ⟨nvb, hnvb, hbytes, -⟩ := iso14443aCodeNvbBits_some hlo hhi
  simp [codeNvb, hnvb, acfTxBytes, hbytes]

theorem acfMerge_of_lt (acf : Mem UInt8) (x : Xfer) {i : Int} (h : i < (acfTxBytes acf).toNat) :
    acfMerge acf x i = acf i := by
  have hp : i ≠ acfUidBits + ((acfTxBytes acf).toNat - 2 : Int) := by
    rw [acfUidBits]
    omega
  simp only [acfMerge]
  split_ifs
  · rw [Mem.store_of_lt _ _ (by rw [acfUidBits]; omega), Mem.set_ne _ _ hp]
  · exact Mem.set_ne _ _ hp

structure AtLevel (sel : UInt8) (acf : Mem UInt8) : Prop where
  selCode : acf 0 = sel
  counted : 2 ≤ (acfTxBytes acf).toNat

namespace AtLevel

variable {sel : UInt8} {acf : Mem UInt8}

theorem first (h : acf 0 = sel) : AtLevel sel (codeNvb acf 16) where
  selCode := (codeNvb_zero acf 16).trans h
  counted := by rw [acfTxBytes_codeNvb acf (by decide) (by decide)]

theorem codeNvb (h : AtLevel sel acf) (bits : Nat) : AtLevel sel (codeNvb acf bits) where
  selCode := (codeNvb_zero acf bits).trans h.selCode
  counted := by
    by_cases hbits : bits < 16 ∨ 64 ≤ bits
    · rw [Layer2.codeNvb, iso14443aCodeNvbBits_eq_none hbits]
      exact h.counted
    · rw [acfTxBytes_codeNvb acf (by omega) (by omega)]
      omega

theorem merge (h : AtLevel sel acf) (x : Xfer) : AtLevel sel (acfMerge acf x) where
  selCode := (acfMerge_of_lt acf x (by have := h.counted; omega)).trans h.selCode
  counted := by
    rw [acfTxBytes, acfMerge_of_lt acf x (by have := h.counted; omega)]
    exact h.counted

theorem set (h : AtLevel sel acf) {i : Int} (hi : 2 ≤ i) (b : UInt8) : AtLevel sel (acf.set i b) where
  selCode := (Mem.set_ne _ _ (by omega)).trans h.selCode
  counted := by
    rw [acfTxBytes, Mem.set_ne _ _ (by omega)]
    exact h.counted

end AtLevel

section

variable {σ ρ : Type}

theorem setHandle_keeps (I : σ → Prop) (f : Handle → Handle) :
    Keeps (fun s : σ × Vars ρ => I s.1) (setHandle f) := fun _ => id

variable (randomBit : ρ → Bool × ρ)

theorem rndToggleBitInField_run (m : Mem UInt8) (base : Int) (size bit : Nat) (s : σ) (v : Vars ρ) :
    ∃ b v', rndToggleBitInField randomBit m base size bit (s, v) =
        (.ok (if bit ≠ 0 ∧ bit ≤ size * 8 then
          m.set (base + ((bit - 1) / 8 : Nat)) (m (base + ((bit - 1) / 8 : Nat)) ^^^
            UInt8.ofNat (Bool.toNat b <<< ((bit - 1) % 8))) else m), (s, v')) ∧
      v'.handle = v.handle := by
  unfold rndToggleBitInField
  split_ifs
  · exact ⟨(randomBit v.rand).1, { v with rand := (randomBit v.rand).2 }, rfl, rfl⟩
  · exact ⟨false, v, rfl, rfl⟩

structure RoundsKeep (r : Reader σ) (I : σ → Prop) : Prop where
  acf : ∀ acf, Keeps I (r.transceiveAcf acf)
  regular : ∀ frametype tx txLen rx rxLen timeout,
    Keeps I (r.transceive frametype tx txLen rx rxLen timeout)

structure ReaderKeeps (r : Reader σ) (I : σ → Prop) : Prop extends RoundsKeep r I where
  sf : ∀ cmd atqa, Keeps I (r.transceiveSf cmd atqa)

section

variable {r : Reader σ} {I : σ → Prop} (h : RoundsKeep r I)
include h

theorem iso14443aCollisions_keeps (fuel : Nat) (acf : Mem UInt8) (bitOfCol : Nat) :
    Keeps (fun s => I s.1) (iso14443aCollisions r randomBit fuel acf bitOfCol) := by
  induction fuel generalizing acf bitOfCol with
  | zero => exact .hang
  | succ fuel ih =>
    refine .ite (fun _ => .pure _) fun _ => ?_
    have htoggle : Keeps (fun s => I s.1) (rndToggleBitInField randomBit (codeNvb acf bitOfCol)
        acfUidBits 5 bitOfCol) := by
      rintro ⟨s, v⟩ hs
      obtain ⟨_, _, hrun, -⟩ := rndToggleBitInField_run randomBit (codeNvb acf bitOfCol) acfUidBits 5
        bitOfCol s v
      rw [hrun]
      exact hs
    exact .bind htoggle fun acf => .bind (.lift (h.acf acf)) fun x => .bind (.check _) fun _ => ih _ _

theorem iso14443aCascade_keeps (fuel : Nat) (acf sak : Mem UInt8) :
    Keeps (fun s => I s.1) (iso14443aCascade r randomBit fuel acf sak) := by
  induction fuel generalizing acf sak with
  | zero => exact .hang
  | succ fuel ih =>
    refine .bind (.lift (h.acf _)) fun x => .bind (.check _) fun _ =>
      .bind (iso14443aCollisions_keeps randomBit h fuel _ _) fun acf =>
      .bind (.lift (h.regular _ _ _ _ _ _)) fun y => .bind (.check _) fun _ => ?_
    have hset : ∀ f : Handle → Handle, Keeps (fun s : σ × Vars ρ => I s.1) (setHandle f) :=
      setHandle_keeps I
    refine .ite (fun _ => .ite (fun _ => .ite (fun _ => .fail _) fun _ => ?_) fun _ =>
      .ite (fun _ => ?_) fun _ => ?_) fun _ => ?_
    · exact .bind (hset _) fun _ => ih _ _
    · exact .bind (hset _) fun _ => ih _ _
    · exact .bind (hset _) fun _ => .fail _
    · exact .bind (hset _) fun _ => .pure _

theorem iso14443aHlta_keeps : Keeps (fun s : σ × Vars ρ => I s.1) (iso14443aHlta r) :=
  .bind (.lift (h.regular _ _ _ _ _ _)) fun _ => .ite (fun _ => .pure _) fun _ => .pure _

end

variable {r : Reader σ} {I : σ → Prop} (h : ReaderKeeps r I)
include h

theorem iso14443aAnticol_keeps (fuel : Nat) :
    Keeps (fun s => I s.1) (iso14443aAnticol r randomBit fuel) := by
  have hset : ∀ f : Handle → Handle, Keeps (fun s : σ × Vars ρ => I s.1) (setHandle f) :=
    setHandle_keeps I
  have hleave : ∀ (c : Prop) [Decidable c] (f : Handle → Handle) (ret : Int),
      Keeps (fun s : σ × Vars ρ => I s.1) (when c do
        setHandle f
        fail ret) := fun _ _ f ret => .when fun _ => .bind (hset f) fun _ => .fail ret
  refine .bind (hset _) fun _ => .bind keeps_get fun v => .bind (.lift (h.sf _ _)) fun x =>
    .bind (hset _) fun _ => .bind (hleave _ _ _) fun _ => .bind (hset _) fun _ =>
    .bind (hleave _ _ _) fun _ => .bind (hset _) fun _ => ?_
  exact .bind (iso14443aCascade_keeps randomBit h.toRoundsKeep fuel _ _) fun _ => hset _

end

end Librfid.Layer2
