import Librfid.Proto.MifareClassic
import Librfid.Rc632.Exchange
import Librfid.Rc632.Received

namespace Librfid.Proto

open Rc632 Exec

structure Copied (before after : Mem UInt8) (cap len : Nat) (level : UInt8) (bytes : List UInt8) :
    Prop where
  length : len = min cap (min 16 level.toNat)
  copied : after.load 0 len = bytes.take len
  others : ∀ p : Int, p < 0 ∨ len ≤ p → after p = before p

theorem Copied.of_filled {rx rx' : Mem UInt8} {len : Nat} {level : UInt8} {bytes : List UInt8}
    (h : Filled rx rx' 16 len bytes) (hlen : len = min 16 (min 255 level.toNat)) (before : Mem UInt8)
    (cap : Nat) :
    Copied before (before.store 0 (rx'.load 0 (if len < cap then len else cap))) cap
      (if len < cap then len else cap) level bytes := by
  have hcut : (if len < cap then len else cap) = min cap len := by
    rw [Nat.min_comm, Nat.min_def]
    split_ifs <;> omega
  rw [hcut]
  constructor
  · omega
  · rw [Mem.load_store_take _ _ _ (Nat.le_of_eq (Mem.length_load _ _ _).symm),
      Mem.take_load _ _ (Nat.le_refl _), ← Mem.take_load rx' 0 (Nat.min_le_right cap len), h.received,
      List.take_take, Nat.min_eq_left (Nat.min_le_right cap len)]
  · rintro p (hp | hp)
    · exact Mem.store_of_lt _ _ hp
    · apply Mem.store_of_ge
      rwa [Mem.length_load, Int.zero_add]

section

variable {σ : Type} {t : Transport σ} {fifo : σ → List UInt8} (h : Delivers t fifo) {undef : UInt8}
  {fuel : Nat} {stack rxData : Mem UInt8} {page cap : Nat} {s s' : σ}

include h

theorem mfclRead_copied {r : MifareReader σ}
    (hr : r.transceive = rc632Iso14443abTransceive (t.asic undef fuel)) {x : MfclReadResult}
    (hrun : mfclRead r stack page rxData cap s = (.ok x, s')) (hret : 0 ≤ x.ret) :
    ∃ level bytes, FifoAfter t fifo undef fuel .mifareFrame
        (Mem.ofList (fun _ => 0) [mifareClCmdRead, UInt8.ofNat (page &&& 0xff)]) 2 mifareClReadFwt s
        level bytes ∧ level ≠ 0 ∧ Copied rxData x.rxData cap x.rxLen level bytes := by
  by_cases hpage : page > mifareClPageMax
  · rw [mfclRead, if_pos hpage] at hrun
    cases hrun
    exact absurd hret (by decide : ¬ (0 : Int) ≤ -eInval)
  rw [mfclRead, if_neg hpage, hr] at hrun
  obtain ⟨y, s₁, hy, hrun⟩ := of_bind_ok hrun
  by_cases hneg : y.ret < 0
  · rw [if_pos hneg] at hrun
    cases hrun
    exact absurd hret (Int.not_le.mpr hneg)
  rw [if_neg hneg] at hrun
  by_cases hnak : y.rxLen = 1 ∧ y.rx 0 = 0x04
  · rw [if_pos hnak] at hrun
    cases hrun
    exact absurd hret (by decide : ¬ (0 : Int) ≤ -ePerm)
  rw [if_neg hnak] at hrun
  cases hrun
  obtain ⟨level, bytes, hafter, hzero, hlen, hfilled⟩ := rc632Iso14443abTransceive_received h hy hret
  exact ⟨level, bytes, hafter, hzero, .of_filled hfilled hlen rxData cap⟩

theorem mfulRead_copied {r : Reader σ}
    (hr : r.transceive = rc632Iso14443abTransceive (t.asic undef fuel)) {x : MfulReadResult}
    (hrun : mfulRead r stack page rxData cap s = (.ok x, s')) (hret : 0 ≤ x.ret) :
    ∃ level bytes, FifoAfter t fifo undef fuel .iso14443aFrameRegular
        (Mem.ofList (fun _ => 0) [mifareUlCmdRead, UInt8.ofNat (page &&& 0xff)]) 2 mifareUlReadFwt s
        level bytes ∧ level ≠ 0 ∧ Copied rxData x.rxData cap x.rxLen level bytes := by
  by_cases hpage : page > mifareUlPageMax
  · rw [mfulRead, if_pos hpage] at hrun
    cases hrun
    exact absurd hret (by decide : ¬ (0 : Int) ≤ -eInval)
  rw [mfulRead, if_neg hpage, hr] at hrun
  obtain ⟨y, s₁, hy, hrun⟩ := of_bind_ok hrun
  by_cases hneg : y.ret < 0
  · rw [if_pos hneg] at hrun
    cases hrun
    exact absurd hret (Int.not_le.mpr hneg)
  rw [if_neg hneg] at hrun
  cases hrun
  obtain ⟨level, bytes, hafter, hzero, hlen, hfilled⟩ := rc632Iso14443abTransceive_received h hy hret
  exact ⟨level, bytes, hafter, hzero, .of_filled hfilled hlen rxData cap⟩

/-- The lengths reported by the three layers. -/
theorem received_exact (undef : UInt8) (fuel : Nat) :
    (∀ (frametype : RfidFrametype) (tx rx : Mem UInt8) (txLen n timeout : Nat) (s s' : σ) (x : AbResult),
      rc632Iso14443abTransceive (t.asic undef fuel) frametype tx txLen rx n timeout s = (.ok x, s') →
      0 ≤ x.ret → ∃ level bytes, FifoAfter t fifo undef fuel frametype tx txLen timeout s level bytes ∧
        level ≠ 0 ∧ x.rxLen = min n (min 255 level.toNat) ∧ Filled rx x.rx n x.rxLen bytes) ∧
      (∀ r : MifareReader σ, r.transceive = rc632Iso14443abTransceive (t.asic undef fuel) →
        ∀ (stack rxData : Mem UInt8) (page cap : Nat) (s s' : σ) (x : MfclReadResult),
          mfclRead r stack page rxData cap s = (.ok x, s') → 0 ≤ x.ret →
          ∃ level bytes, FifoAfter t fifo undef fuel .mifareFrame
              (Mem.ofList (fun _ => 0) [mifareClCmdRead, UInt8.ofNat (page &&& 0xff)]) 2 mifareClReadFwt
              s level bytes ∧ level ≠ 0 ∧ Copied rxData x.rxData cap x.rxLen level bytes) ∧
      ∀ r : Reader σ, r.transceive = rc632Iso14443abTransceive (t.asic undef fuel) →
        ∀ (stack rxData : Mem UInt8) (page cap : Nat) (s s' : σ) (x : MfulReadResult),
          mfulRead r stack page rxData cap s = (.ok x, s') → 0 ≤ x.ret →
          ∃ level bytes, FifoAfter t fifo undef fuel .iso14443aFrameRegular
              (Mem.ofList (fun _ => 0) [mifareUlCmdRead, UInt8.ofNat (page &&& 0xff)]) 2 mifareUlReadFwt
              s level bytes ∧ level ≠ 0 ∧ Copied rxData x.rxData cap x.rxLen level bytes := by
  refine ⟨?_, ?_, ?_⟩
  · intro frametype tx rx txLen n timeout s s' x hrun hret
    exact rc632Iso14443abTransceive_received h hrun hret
  · intro r hr stack rxData page cap s s' x hrun hret
    exact mfclRead_copied h hr hrun hret
  · intro r hr stack rxData page cap s s' x hrun hret
    exact mfulRead_copied h hr hrun hret

end

theorem received_exact_three :
    ∃ x c', mfclRead ⟨rc632Iso14443abTransceive (chip.asic 0 300), none, none⟩ (fun _ => 0) 4
        (fun _ => 0) 20 (chipAhead [idleAtOnce [1, 2, 3] (by decide)]) = (.ok x, c') ∧
      ∃ level bytes, level ≠ 0 ∧ Copied (fun _ => 0) x.rxData 20 x.rxLen level bytes := by
  obtain ⟨x, c', hrun, hret⟩ : ∃ x c',
      mfclRead ⟨rc632Iso14443abTransceive (chip.asic 0 300), none, none⟩ (fun _ => 0) 4
        (fun _ => 0) 20 (chipAhead [idleAtOnce [1, 2, 3] (by decide)]) = (.ok x, c') ∧ 0 ≤ x.ret :=
    ⟨_, _, rfl, by decide⟩
  obtain ⟨level, bytes, -, hzero, hcopied⟩ :=
    (received_exact chip_delivers 0 300).2.1 _ rfl _ _ _ _ _ _ _ hrun hret
  exact ⟨x, c', hrun, level, bytes, hzero, hcopied⟩

end Librfid.Proto
