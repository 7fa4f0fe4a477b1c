import Librfid.Rc632.Driver
import Mathlib.Tactic.Ring

namespace Librfid.Rc632

/-- `fwi_to_fwt(14) * 59` -/
def longestTimeout : Nat := 291930112

def timerClk (i : Nat) : Nat := 13560000 / 2 ^ i

def timerDiv (timeout i : Nat) : Nat := timerClk i * timeout % 2 ^ 64 / 1000000 + 1

def timerDiff (timeout i : Nat) : Int :=
  ((1000000 / (timerClk i / timerDiv timeout i) : Nat) - (timeout : Int)).bmod (2 ^ 64)

/-- The iteration passes both cut-offs, divides by no zero, and has a difference to compare. -/
structure Accepts (timeout i : Nat) : Prop where
  byte : timerDiv timeout i ≤ 0xff
  clk : timerDiv timeout i ≤ timerClk i
  quotient : timerClk i / timerDiv timeout i ≠ 0
  diff : 0 ≤ timerDiff timeout i

instance (timeout i : Nat) : Decidable (Accepts timeout i) :=
  decidable_of_iff (timerDiv timeout i ≤ 0xff ∧ timerDiv timeout i ≤ timerClk i ∧
      timerClk i / timerDiv timeout i ≠ 0 ∧ 0 ≤ timerDiff timeout i)
    ⟨fun h => ⟨h.1, h.2.1, h.2.2.1, h.2.2.2⟩, fun h => ⟨h.byte, h.clk, h.quotient, h.diff⟩⟩

def choice (timeout i : Nat) : Prescaler :=
  ⟨UInt8.ofNat i, UInt8.ofNat (timerDiv timeout i), timerDiff timeout i⟩

theorem quotient_ne_zero {timeout i : Nat} (h : timerDiv timeout i ≤ timerClk i) :
    timerClk i / timerDiv timeout i ≠ 0 :=
  (Nat.div_pos h (Nat.succ_pos _)).ne'

theorem bestPrescalerStep_eq (timeout : Nat) (best : Prescaler) (i : Nat) :
    bestPrescalerStep timeout best i =
      if Accepts timeout i ∧ timerDiff timeout i < best.smallestDiff then choice timeout i
      else best := by
  have hstep : bestPrescalerStep timeout best i =
      if timerDiv timeout i > 0xff ∨ timerDiv timeout i > timerClk i then best
      else if timerDiff timeout i < 0 then best
      else if timerDiff timeout i < best.smallestDiff then choice timeout i else best := rfl
  rw [hstep]
  by_cases ha : Accepts timeout i
  · have hcut : ¬ (timerDiv timeout i > 0xff ∨ timerDiv timeout i > timerClk i) :=
      not_or.mpr ⟨Nat.not_lt.mpr ha.byte, Nat.not_lt.mpr ha.clk⟩
    rw [if_neg hcut, if_neg (Int.not_lt.mpr ha.diff)]
    simp only [ha, true_and]
  · have hnot : ¬ (Accepts timeout i ∧ timerDiff timeout i < best.smallestDiff) := fun h => ha h.1
    rw [if_neg hnot]
    split_ifs with hcut hneg hlt
    · rfl
    · rfl
    · rw [not_or, Nat.not_lt, Nat.not_lt] at hcut
      exact absurd ⟨hcut.1, hcut.2, quotient_ne_zero hcut.2, Int.not_lt.mp hneg⟩ ha
    · rfl

theorem foldl_bestPrescalerStep (timeout : Nat) (l : List Nat) (best : Prescaler) :
    l.foldl (bestPrescalerStep timeout) best = best ∨
      ∃ i ∈ l, Accepts timeout i ∧ l.foldl (bestPrescalerStep timeout) best = choice timeout i := by
  induction l generalizing best with
  | nil => exact .inl rfl
  | cons i l ih =>
    rw [List.foldl_cons, bestPrescalerStep_eq]
    split_ifs with h
    · rcases ih (choice timeout i) with hsame | ⟨j, hj, hacc, hbest⟩
      · exact .inr ⟨i, List.mem_cons_self, h.1, hsame⟩
      · exact .inr ⟨j, List.mem_cons_of_mem _ hj, hacc, hbest⟩
    · rcases ih best with hsame | ⟨j, hj, hacc, hbest⟩
      · exact .inl hsame
      · exact .inr ⟨j, List.mem_cons_of_mem _ hj, hacc, hbest⟩

theorem foldl_bestPrescalerStep_le (timeout : Nat) (l : List Nat) (best : Prescaler) :
    (l.foldl (bestPrescalerStep timeout) best).smallestDiff ≤ best.smallestDiff ∧
      ∀ i ∈ l, Accepts timeout i →
        (l.foldl (bestPrescalerStep timeout) best).smallestDiff ≤ timerDiff timeout i := by
  induction l generalizing best with
  | nil => exact ⟨Int.le_refl _, by simp⟩
  | cons i l ih =>
    rw [List.foldl_cons, bestPrescalerStep_eq]
    split_ifs with h
    · have hchoice := (ih (choice timeout i)).1
      refine ⟨Int.le_trans hchoice (Int.le_of_lt h.2), fun j hj hacc => ?_⟩
      rcases List.mem_cons.mp hj with rfl | hj
      · exact hchoice
      · exact (ih _).2 j hj hacc
    · refine ⟨(ih best).1, fun j hj hacc => ?_⟩
      rcases List.mem_cons.mp hj with rfl | hj
      · exact Int.le_trans (ih best).1 (Int.not_lt.mp fun hlt => h ⟨hacc, hlt⟩)
      · exact (ih best).2 j hj hacc

theorem foldl_bestPrescalerStep_undef (timeout : Nat) (l : List Nat) {b b' : Prescaler}
    (h : b.smallestDiff = b'.smallestDiff) :
    l.foldl (bestPrescalerStep timeout) b = b ∧ l.foldl (bestPrescalerStep timeout) b' = b' ∨
      l.foldl (bestPrescalerStep timeout) b = l.foldl (bestPrescalerStep timeout) b' := by
  induction l generalizing b b' with
  | nil => exact .inl ⟨rfl, rfl⟩
  | cons i l ih =>
    simp only [List.foldl_cons, bestPrescalerStep_eq, h]
    split_ifs
    · exact .inr rfl
    · exact ih h

section Range

variable {timeout : Nat}

theorem timerClk_le (i : Nat) : timerClk i ≤ 13560000 := Nat.div_le_self _ _

theorem timerDiv_eq (h : timeout < 10 * longestTimeout + 10) (i : Nat) :
    timerDiv timeout i = timerClk i * timeout / 1000000 + 1 := by
  have hmul : timerClk i * timeout ≤ 13560000 * (10 * longestTimeout + 10) :=
    Nat.mul_le_mul (timerClk_le i) h.le
  have hlt : timerClk i * timeout < 2 ^ 64 := by
    rw [longestTimeout] at hmul
    omega
  rw [timerDiv, Nat.mod_eq_of_lt hlt]

theorem timerDiff_nonneg (h : timeout < 10 * longestTimeout + 10) {i : Nat}
    (hclk : timerDiv timeout i ≤ timerClk i) :
    0 ≤ timerDiff timeout i ∧ timerDiff timeout i ≤ 1000000 := by
  have hq : timerClk i / timerDiv timeout i ≠ 0 := quotient_ne_zero hclk
  have hres : timeout ≤ 1000000 / (timerClk i / timerDiv timeout i) := by
    rw [Nat.le_div_iff_mul_le (Nat.pos_of_ne_zero hq)]
    have hround : timerClk i * timeout < 1000000 * timerDiv timeout i := by
      rw [timerDiv_eq h]
      exact Nat.lt_mul_div_succ _ (by decide)
    have hquot : timerClk i / timerDiv timeout i * timerDiv timeout i ≤ timerClk i :=
      Nat.div_mul_le_self _ _
    have hlt : timeout * (timerClk i / timerDiv timeout i) * timerDiv timeout i <
        1000000 * timerDiv timeout i := by
      calc timeout * (timerClk i / timerDiv timeout i) * timerDiv timeout i
          = timeout * (timerClk i / timerDiv timeout i * timerDiv timeout i) := Nat.mul_assoc _ _ _
        _ ≤ timeout * timerClk i := Nat.mul_le_mul_left _ hquot
        _ = timerClk i * timeout := Nat.mul_comm _ _
        _ < 1000000 * timerDiv timeout i := hround
    exact (Nat.lt_of_mul_lt_mul_right hlt).le
  have hle : 1000000 / (timerClk i / timerDiv timeout i) ≤ 1000000 := Nat.div_le_self _ _
  rw [timerDiff, Int.bmod_eq_of_le (by omega) (by omega)]
  omega

theorem accepts_iff (h : timeout < 10 * longestTimeout + 10) (i : Nat) :
    Accepts timeout i ↔ timerDiv timeout i ≤ 0xff ∧ timerDiv timeout i ≤ timerClk i :=
  ⟨fun ha => ⟨ha.byte, ha.clk⟩,
    fun hc => ⟨hc.1, hc.2, quotient_ne_zero hc.2, (timerDiff_nonneg h hc.2).1⟩⟩

theorem exists_accepts_iff (h : timeout < 10 * longestTimeout + 10) :
    (∃ i < 21, Accepts timeout i) ↔ timeout < 1000000 := by
  constructor
  · rintro ⟨i, -, ha⟩
    by_contra hlong
    have hdiv : timerClk i ≤ timerClk i * timeout / 1000000 := by
      rw [Nat.le_div_iff_mul_le (by decide)]
      exact Nat.mul_le_mul_left _ (Nat.not_lt.mp hlong)
    have hclk := ha.clk
    rw [timerDiv_eq h] at hclk
    omega
  · intro hshort
    have hclk : timerClk 20 = 12 := rfl
    refine ⟨20, by decide, (accepts_iff h 20).mpr ?_⟩
    rw [timerDiv_eq h, hclk]
    omega

end Range

def timerRecorder : Bus (List (UInt8 × UInt8)) where
  writeReg reg val := fun log => (0, log ++ [(reg, val)])
  readReg _ := fun log => ((0, 0), log)

def timerScript (prescaler divisor : UInt8) : List (UInt8 × UInt8) := [
  (regTimerClock, prescaler &&& 0x1f),
  (regTimerControl, tmrStartTxEnd ||| tmrStopRxBegin),
  (regInterruptRq, ~~~intSet &&& irqTimer),
  (regInterruptEn, irqSet ||| irqTimer),
  (regTimerReload, divisor)]

/-- The waiting time can be set: the prescaler and the divisor are those of an accepted
iteration, in range, and these are what the registers receive. -/
def Programmable (timeout : Nat) : Prop :=
  ∃ i < 21, ∃ divisor, 1 ≤ divisor ∧ divisor ≤ 255 ∧
    Accepts (timeout * timerRelaxFactor % 2 ^ 64) i ∧
    divisor = timerDiv (timeout * timerRelaxFactor % 2 ^ 64) i ∧
    ∀ undef, bestPrescaler undef (timeout * timerRelaxFactor % 2 ^ 64) =
        (UInt8.ofNat i, UInt8.ofNat divisor) ∧
      rc632TimerSet timerRecorder undef timeout [] =
        (.ok (), timerScript (UInt8.ofNat i) (UInt8.ofNat divisor))

theorem bestPrescaler_of_accepts {timeout : Nat} (h : timeout < 10 * longestTimeout + 10)
    (hex : ∃ i < 21, Accepts timeout i) :
    ∃ i < 21, Accepts timeout i ∧ ∀ undef, bestPrescaler undef timeout =
      (UInt8.ofNat i, UInt8.ofNat (timerDiv timeout i)) := by
  obtain ⟨k, hk, hacc⟩ := hex
  have hne : ∀ undef, (List.range 21).foldl (bestPrescalerStep timeout) ⟨0, undef, 2 ^ 63 - 1⟩ ≠
      ⟨0, undef, 2 ^ 63 - 1⟩ := by
    intro undef heq
    have hle := (foldl_bestPrescalerStep_le timeout (List.range 21) ⟨0, undef, 2 ^ 63 - 1⟩).2 k
      (List.mem_range.mpr hk) hacc
    have hdiff := (timerDiff_nonneg h hacc.clk).2
    rw [heq] at hle
    dsimp only at hle
    omega
  obtain hsame | ⟨i, hi, hacc, hbest⟩ := foldl_bestPrescalerStep timeout (List.range 21)
    ⟨0, 0, 2 ^ 63 - 1⟩
  · exact absurd hsame (hne 0)
  refine ⟨i, List.mem_range.mp hi, hacc, fun undef => ?_⟩
  have hundef : (List.range 21).foldl (bestPrescalerStep timeout) ⟨0, undef, 2 ^ 63 - 1⟩ =
      choice timeout i := by
    have hdiff : (⟨0, undef, 2 ^ 63 - 1⟩ : Prescaler).smallestDiff =
        (⟨0, 0, 2 ^ 63 - 1⟩ : Prescaler).smallestDiff := rfl
    rcases foldl_bestPrescalerStep_undef timeout (List.range 21) hdiff with hinit | heq
    · exact absurd hinit.1 (hne undef)
    · exact heq.trans hbest
  rw [bestPrescaler, hundef]
  rfl

theorem bestPrescaler_of_not_accepts {timeout : Nat} (h : ¬ ∃ i < 21, Accepts timeout i)
    (undef : UInt8) : bestPrescaler undef timeout = (0, undef) := by
  rw [bestPrescaler]
  rcases foldl_bestPrescalerStep timeout (List.range 21) ⟨0, undef, 2 ^ 63 - 1⟩ with
    hinit | ⟨i, hi, hacc, -⟩
  · rw [hinit]
  · exact absurd ⟨i, List.mem_range.mp hi, hacc⟩ h

theorem rc632TimerSet_recorder (undef : UInt8) (timeout : Nat) :
    rc632TimerSet timerRecorder undef timeout [] =
      (.ok (), timerScript (bestPrescaler undef (timeout * timerRelaxFactor % 2 ^ 64)).1
        (bestPrescaler undef (timeout * timerRelaxFactor % 2 ^ 64)).2) := rfl

/-- A waiting time can be set exactly when it is below a tenth of a second. -/
theorem programmable_iff (timeout : Nat) (h : timeout ≤ longestTimeout) :
    Programmable timeout ↔ timeout < 100000 := by
  have hrelax : timeout * timerRelaxFactor % 2 ^ 64 = 10 * timeout := by
    rw [longestTimeout] at h
    rw [timerRelaxFactor]
    omega
  have hrange : 10 * timeout < 10 * longestTimeout + 10 := by omega
  rw [Programmable, hrelax]
  constructor
  · rintro ⟨i, hi, divisor, -, -, ha, -⟩
    have := (exists_accepts_iff hrange).mp ⟨i, hi, ha⟩
    omega
  · intro hshort
    obtain ⟨i, hi, ha, hbest⟩ := bestPrescaler_of_accepts hrange
      ((exists_accepts_iff hrange).mpr (by omega))
    refine ⟨i, hi, timerDiv (10 * timeout) i, Nat.succ_pos _, ha.byte, ha, rfl, fun undef =>
      ⟨hbest undef, ?_⟩⟩
    rw [rc632TimerSet_recorder, hrelax, hbest]

theorem programmable_302 : Programmable 302 :=
  (programmable_iff 302 (by decide)).mpr (by decide)

/-- A tenth of a second: the register receives whatever the divisor held before. -/
theorem not_programmable_100000 :
    ¬ Programmable 100000 ∧ ∀ undef, rc632TimerSet timerRecorder undef 100000 [] =
      (.ok (), timerScript 0 undef) := by
  have hno : ¬ ∃ i < 21, Accepts (100000 * timerRelaxFactor % 2 ^ 64) i := fun h =>
    absurd ((exists_accepts_iff (by decide)).mp h) (by decide)
  refine ⟨fun ⟨i, hi, _, _, _, ha, _⟩ => hno ⟨i, hi, ha⟩, fun undef => ?_⟩
  rw [rc632TimerSet_recorder, bestPrescaler_of_not_accepts hno]

end Librfid.Rc632
