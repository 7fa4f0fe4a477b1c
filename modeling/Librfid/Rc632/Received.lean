import Librfid.Rc632.Chip
import Librfid.Rc632.Frames

namespace Librfid.Rc632

open Exec

variable {σ : Type} {t : Transport σ} {fifo : σ → List UInt8}

/-- `fifo` is the content of the FIFO: the register reports no more than there is, and a read gives
the first bytes of it. -/
structure Delivers (t : Transport σ) (fifo : σ → List UInt8) : Prop where
  level : ∀ s, 0 ≤ (t.readReg regFifoLength s).1.1 →
    (t.readReg regFifoLength s).1.2.toNat ≤ (fifo (t.readReg regFifoLength s).2).length
  read : ∀ len s, 0 ≤ (t.readFifo len s).1.1 → len.toNat ≤ (fifo s).length →
    (t.readFifo len s).1.2 = (fifo s).take len.toNat

theorem chip_delivers : Delivers chip fun c => c.link.fifo where
  level c _ := by
    have hval : c.link.readFifoLength.1 = UInt8.ofNat c.link.readFifoLength.2.fifo.length := by
      unfold Link.readFifoLength
      split <;> rfl
    change c.link.readFifoLength.1.toNat ≤ c.link.readFifoLength.2.fifo.length
    rw [hval, UInt8.toNat_ofNat']
    exact Nat.mod_le _ _
  read _ _ _ _ := rfl

/-- What `rc632_iso14443ab_transceive` finds after its exchange from `s`: the reported level, and the
bytes in the FIFO. -/
def FifoAfter (t : Transport σ) (fifo : σ → List UInt8) (undef : UInt8) (fuel : Nat)
    (frametype : RfidFrametype) (tx : Mem UInt8) (txLen timeout : Nat) (s : σ) (r : UInt8)
    (bytes : List UInt8) : Prop :=
  ∃ red s₀ s₁, channelRed frametype = some red ∧
    t.toBus.write regChannelRedundancy red s = (.ok (), s₀) ∧
    rc632Exchange t undef fuel tx (UInt8.ofNat txLen) timeout s₀ = (.ok r, s₁) ∧ fifo s₁ = bytes

structure Filled (rx rx' : Mem UInt8) (n len : Nat) (bytes : List UInt8) : Prop where
  received : rx'.load 0 len = bytes.take len
  cleared : ∀ p : Int, len ≤ p → p < n → rx' p = 0
  outside : ∀ p : Int, p < 0 ∨ n ≤ p → rx' p = rx p

theorem filled_store (rx : Mem UInt8) {n len : Nat} {bytes : List UInt8} (hn : len ≤ n)
    (hlen : len ≤ bytes.length) :
    Filled rx ((rx.store 0 (List.replicate n 0)).store 0 (bytes.take len)) n len bytes := by
  have htake : (bytes.take len).length = len := List.length_take_of_le hlen
  constructor
  · rw [Mem.load_store_take _ _ _ (Nat.le_of_eq htake.symm), List.take_take, Nat.min_self]
  · intro p hp hpn
    rw [Mem.store_of_ge _ _ (by rw [htake]; omega)]
    obtain ⟨i, rfl⟩ := Int.eq_ofNat_of_zero_le (by omega : 0 ≤ p)
    have hi : i < (List.replicate n (0 : UInt8)).length := by
      rw [List.length_replicate]
      omega
    have hget := Mem.store_add rx 0 _ i hi
    rw [Int.zero_add] at hget
    rw [hget, List.getElem_replicate]
  · rintro p (hp | hp)
    · rw [Mem.store_of_lt _ _ hp, Mem.store_of_lt _ _ hp]
    · rw [Mem.store_of_ge _ _ (by rw [htake]; omega), Mem.store_of_ge _ _ (by simpa using hp)]

theorem rc632Exchange_level (h : Delivers t fifo) {undef : UInt8} {fuel : Nat} {tx : Mem UInt8}
    {txLen : UInt8} {timer : Nat} {s s' : σ} {r : UInt8}
    (hrun : rc632Exchange t undef fuel tx txLen timer s = (.ok r, s')) :
    r.toNat ≤ (fifo s').length := by
  obtain ⟨_, _, -, hrun⟩ := of_bind_ok hrun
  obtain ⟨_, _, -, hrun⟩ := of_bind_ok hrun
  obtain ⟨_, _, -, hrun⟩ := of_bind_ok hrun
  obtain ⟨_, _, -, hrun⟩ := of_bind_ok hrun
  obtain ⟨_, _, -, hrun⟩ := of_bind_ok hrun
  obtain ⟨_, _, -, hrun⟩ := of_bind_ok hrun
  obtain ⟨_, s₁, -, hrun⟩ := of_bind_ok hrun
  obtain ⟨x, s₂, hread, hrun⟩ := of_bind_ok hrun
  cases hread
  obtain ⟨_, s₃, hcheck, hrun⟩ := of_bind_ok hrun
  obtain ⟨hret, rfl⟩ := of_check_ok hcheck
  cases hrun
  exact h.level s₁ hret

theorem rc632TimerSet_errs (b : Bus σ) (undef : UInt8) (timeout : Nat) :
    Errs (rc632TimerSet b undef timeout) :=
  .bind (write_errs b _ _) fun _ => .bind (.step _) fun _ => .bind (.step _) fun _ =>
    .bind (.step _) fun _ => .bind (.step _) fun _ => .check _

theorem rc632TransmitLoop_errs (tx : Mem UInt8) (txLen : UInt8) (fuel : Nat) (off cur : Int) :
    Errs (rc632TransmitLoop t tx txLen fuel off cur) := by
  induction fuel generalizing off cur with
  | zero => exact .hang
  | succ fuel ih =>
    refine .bind (.step _) fun _ => .bind (.check _) fun _ => ?_
    refine .bind (.when fun _ => write_errs _ _ _) fun _ => .ite ?_ (.pure ())
    exact .bind (read_errs _ _) fun _ => .ite (.pure ()) (ih _ _)

theorem rc632WaitIdlePoll_errs (b : Bus σ) : Errs (rc632WaitIdlePoll b) := by
  refine .bind (.step _) fun _ => .bind (.when fun _ => ?_) fun _ => .bind (.when fun _ => ?_) fun _ => ?_
  · exact .bind (read_errs b _) fun _ => .when fun _ => .fail (by decide)
  · exact .bind (read_errs b _) fun _ => .when fun _ => .bind (.step _) fun _ => .fail (by decide)
  · exact .bind (read_errs b _) fun _ => .ite (.bind (.step _) fun _ => .pure _) (.pure _)

theorem rc632WaitIdleTimer_errs (b : Bus σ) (fuel : Nat) :
    Errs (rc632WaitIdleTimer b fuel) := by
  refine .bind (read_errs b _) fun _ => .bind (write_errs b _ _) fun _ => ?_
  induction fuel with
  | zero => exact .hang
  | succ fuel ih =>
    refine .bind (rc632WaitIdlePoll_errs b) fun idle => ?_
    cases idle with
    | none => exact ih
    | some _ => exact .pure ()

theorem rc632Exchange_errs (undef : UInt8) (fuel : Nat) (tx : Mem UInt8) (txLen : UInt8)
    (timer : Nat) : Errs (rc632Exchange t undef fuel tx txLen timer) :=
  .bind (.step _) fun _ => .bind (.step _) fun _ => .bind (.step _) fun _ => .bind (.step _) fun _ =>
    .bind (rc632TimerSet_errs _ _ _) fun _ => .bind (rc632TransmitLoop_errs _ _ _ _ _) fun _ =>
      .bind (rc632WaitIdleTimer_errs _ _) fun _ => read_errs _ _

theorem rc632Transceive_received (h : Delivers t fifo) {undef : UInt8} {fuel : Nat} {tx : Mem UInt8}
    {txLen rxLen : UInt8} {timer : Nat} {s s' : σ} {x : Xfer}
    (hrun : rc632Transceive t undef fuel tx txLen rxLen timer s = (.ok x, s')) (hret : 0 ≤ x.ret) :
    ∃ r s₁, rc632Exchange t undef fuel tx txLen timer s = (.ok r, s₁) ∧ r ≠ 0 ∧
      x.rxLen.toNat = min rxLen.toNat r.toNat ∧ x.rxLen.toNat ≤ (fifo s₁).length ∧
      x.rx = (fifo s₁).take x.rxLen.toNat := by
  obtain ⟨o, s₁, hexchange, hrun⟩ := of_bind_ok hrun
  cases o with
  | error code =>
    cases hrun
    have hneg := rc632Exchange_errs undef fuel tx txLen timer s code
      (congrArg Prod.fst (of_attempt_error hexchange))
    exact absurd hret (Int.not_le.mpr hneg)
  | ok r =>
    replace hexchange := of_attempt_ok hexchange
    have hlevel := rc632Exchange_level h hexchange
    simp only at hrun
    by_cases hzero : r = 0
    · rw [if_pos hzero] at hrun
      obtain ⟨_, _, -, hrun⟩ := of_bind_ok hrun
      obtain ⟨_, _, -, hrun⟩ := of_bind_ok hrun
      obtain ⟨_, _, -, hrun⟩ := of_bind_ok hrun
      cases hrun
      exact absurd hret (by decide : ¬ (0 : Int) ≤ - eIO)
    · rw [if_neg hzero] at hrun
      obtain ⟨y, s₂, hread, hrun⟩ := of_bind_ok hrun
      cases hread
      cases hrun
      have hlen : (if rxLen > r then r else rxLen).toNat = min rxLen.toNat r.toNat := by
        rw [apply_ite UInt8.toNat, Nat.min_def]
        simp only [gt_iff_lt, UInt8.lt_iff_toNat_lt]
        split_ifs <;> omega
      have hle := (hlen.trans_le (Nat.min_le_right _ _)).trans hlevel
      exact ⟨r, s₁, hexchange, hzero, hlen, hle, h.read _ s₁ hret hle⟩

theorem rc632Iso14443abTransceive_received (h : Delivers t fifo) {undef : UInt8} {fuel : Nat}
    {frametype : RfidFrametype} {tx rx : Mem UInt8} {txLen n timeout : Nat} {s s' : σ} {x : AbResult}
    (hrun : rc632Iso14443abTransceive (t.asic undef fuel) frametype tx txLen rx n timeout s = (.ok x, s'))
    (hret : 0 ≤ x.ret) :
    ∃ r bytes, FifoAfter t fifo undef fuel frametype tx txLen timeout s r bytes ∧ r ≠ 0 ∧
      x.rxLen = min n (min 255 r.toNat) ∧ Filled rx x.rx n x.rxLen bytes := by
  unfold rc632Iso14443abTransceive at hrun
  cases hred : channelRed frametype with
  | none =>
    rw [hred] at hrun
    cases hrun
    exact absurd hret (by decide : ¬ (0 : Int) ≤ -eInval)
  | some red =>
    rw [hred] at hrun
    obtain ⟨o, s₀, hwrite, hrun⟩ := of_bind_ok hrun
    cases o with
    | error code =>
      cases hrun
      have hneg := write_errs t.toBus _ _ s code (congrArg Prod.fst (of_attempt_error hwrite))
      exact absurd hret (Int.not_le.mpr hneg)
    | ok u =>
      replace hwrite := of_attempt_ok hwrite
      obtain ⟨y, s₁, hxfer, hrun⟩ := of_bind_ok hrun
      cases hrun
      have hy : 0 ≤ y.ret := by
        by_contra hneg
        rw [if_pos (Int.not_le.mp hneg)] at hret
        exact hneg hret
      obtain ⟨r, s₂, hexchange, hzero, hlen, hle, hrx⟩ := rc632Transceive_received h hxfer hy
      have hcap : (if n > 0xff then 0xff else UInt8.ofNat n).toNat = min n 255 := by
        split_ifs with hn
        · rw [Nat.min_eq_right (Nat.le_of_lt hn)]
          rfl
        · rw [Nat.min_eq_left (Nat.not_lt.mp hn)]
          exact UInt8.toNat_ofNat_of_lt' (Nat.lt_succ_of_le (Nat.not_lt.mp hn))
      rw [hcap, Nat.min_assoc] at hlen
      refine ⟨r, fifo s₂, ⟨red, s₀, s₂, hred, hwrite, hexchange, rfl⟩, hzero, hlen, ?_⟩
      simp only [hrx]
      apply filled_store rx _ hle
      rw [hlen]
      exact Nat.min_le_left _ _

end Librfid.Rc632
