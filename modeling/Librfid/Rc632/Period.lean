import Librfid.Rc632.Timer

namespace Librfid.Rc632

/-- In periods of 13.56 MHz, the time is at least the one asked for. -/
def NotEarly (timeout : Nat) (x : UInt8 × UInt8) : Prop :=
  timeout * 13560000 ≤ x.2.toNat * 2 ^ x.1.toNat * 1000000

instance (timeout : Nat) (x : UInt8 × UInt8) : Decidable (NotEarly timeout x) :=
  inferInstanceAs (Decidable (_ ≤ _))

/-- What `13560000 >> i` cuts off. -/
def timerCut (i : Nat) : Nat := 13560000 % 2 ^ i

theorem timerClk_cut (i : Nat) : timerClk i * 2 ^ i + timerCut i = 13560000 := Nat.div_add_mod' _ _

/-- What rounding the divisor up adds makes good for what the clock lacks. -/
def MakesGood (timeout i : Nat) : Prop :=
  timerCut i * timeout ≤ (1000000 - timerClk i * timeout % 1000000) * 2 ^ i

/-- The first of the prescalers with the smallest overshoot, as the loop estimates it. -/
structure LeastOvershoot (timeout i : Nat) : Prop where
  lt : i < 21
  accepts : Accepts timeout i
  before : ∀ j < i, Accepts timeout j → timerDiff timeout i < timerDiff timeout j
  least : ∀ j < 21, Accepts timeout j → timerDiff timeout i ≤ timerDiff timeout j

theorem LeastOvershoot.unique {timeout i j : Nat} (h : LeastOvershoot timeout i)
    (h' : LeastOvershoot timeout j) : i = j := by
  rcases Nat.lt_trichotomy i j with hlt | heq | hlt
  · exact absurd (h.least j h'.lt h'.accepts) (Int.not_le.mpr (h'.before i hlt h.accepts))
  · exact heq
  · exact absurd (h'.least i h.lt h.accepts) (Int.not_le.mpr (h.before j hlt h'.accepts))

section Search

variable {timeout : Nat} {init : Prescaler}

theorem foldl_range_least (hinit : ∀ i, Accepts timeout i → timerDiff timeout i < init.smallestDiff)
    (n : Nat) :
    ((∀ j < n, ¬ Accepts timeout j) ∧
        (List.range n).foldl (bestPrescalerStep timeout) init = init) ∨
      ∃ i < n, Accepts timeout i ∧
        (∀ j < i, Accepts timeout j → timerDiff timeout i < timerDiff timeout j) ∧
        (∀ j < n, Accepts timeout j → timerDiff timeout i ≤ timerDiff timeout j) ∧
        (List.range n).foldl (bestPrescalerStep timeout) init = choice timeout i := by
  induction n with
  | zero => exact .inl ⟨fun j hj => absurd hj (Nat.not_lt_zero j), rfl⟩
  | succ n ih =>
    rw [List.range_succ, List.foldl_append, List.foldl_cons, List.foldl_nil, bestPrescalerStep_eq]
    rcases ih with ⟨hnone, hbest⟩ | ⟨i, hi, hacc, hbefore, hleast, hbest⟩
    · rw [hbest]
      by_cases ha : Accepts timeout n
      · rw [if_pos ⟨ha, hinit n ha⟩]
        refine .inr ⟨n, Nat.lt_succ_self n, ha, fun j hj h => absurd h (hnone j hj), ?_, rfl⟩
        intro j hj h
        rcases Nat.lt_succ_iff_lt_or_eq.mp hj with hlt | rfl
        · exact absurd h (hnone j hlt)
        · exact Int.le_refl _
      · rw [if_neg fun h => ha h.1]
        refine .inl ⟨fun j hj => ?_, rfl⟩
        rcases Nat.lt_succ_iff_lt_or_eq.mp hj with hlt | rfl
        · exact hnone j hlt
        · exact ha
    · rw [hbest]
      by_cases hbetter : Accepts timeout n ∧ timerDiff timeout n < (choice timeout i).smallestDiff
      · rw [if_pos hbetter]
        have hlt : timerDiff timeout n < timerDiff timeout i := hbetter.2
        refine .inr ⟨n, Nat.lt_succ_self n, hbetter.1,
          fun j hj h => Int.lt_of_lt_of_le hlt (hleast j hj h), ?_, rfl⟩
        intro j hj h
        rcases Nat.lt_succ_iff_lt_or_eq.mp hj with hj | rfl
        · exact Int.le_of_lt (Int.lt_of_lt_of_le hlt (hleast j hj h))
        · exact Int.le_refl _
      · rw [if_neg hbetter]
        refine .inr ⟨i, Nat.lt_succ_of_lt hi, hacc, hbefore, ?_, rfl⟩
        intro j hj h
        rcases Nat.lt_succ_iff_lt_or_eq.mp hj with hj | rfl
        · exact hleast j hj h
        · exact Int.not_lt.mp fun hlt => hbetter ⟨h, hlt⟩

theorem bestPrescaler_least (h : timeout < 10 * longestTimeout + 10)
    (hex : ∃ i < 21, Accepts timeout i) (undef : UInt8) :
    ∃ i, LeastOvershoot timeout i ∧
      bestPrescaler undef timeout = (UInt8.ofNat i, UInt8.ofNat (timerDiv timeout i)) := by
  have hinit : ∀ i, Accepts timeout i →
      timerDiff timeout i < (⟨0, undef, 2 ^ 63 - 1⟩ : Prescaler).smallestDiff := fun i ha =>
    Int.lt_of_le_of_lt (timerDiff_nonneg h ha.clk).2 (show (1000000 : Int) < 2 ^ 63 - 1 by decide)
  rcases foldl_range_least hinit 21 with ⟨hnone, -⟩ | ⟨i, hi, hacc, hbefore, hleast, hbest⟩
  · obtain ⟨i, hi, ha⟩ := hex
    exact absurd ha (hnone i hi)
  · refine ⟨i, ⟨hi, hacc, hbefore, hleast⟩, ?_⟩
    rw [bestPrescaler, hbest]
    rfl

end Search

section Period

variable {timeout : Nat}

theorem toNat_ofNat_of_le {n : Nat} (h : n ≤ 255) : (UInt8.ofNat n).toNat = n :=
  UInt8.toNat_ofNat_of_lt' (Nat.lt_succ_of_le h)

theorem succ_div_mul (a : Nat) {b : Nat} (h : 0 < b) : (a / b + 1) * b = a + (b - a % b) := by
  have hdiv := Nat.div_add_mod' a b
  have hmod := Nat.mod_lt a h
  rw [Nat.add_mul, Nat.one_mul]
  omega

theorem notEarly_choice (h : timeout < 10 * longestTimeout + 10) {i : Nat} (hi : i < 21)
    (hacc : Accepts timeout i) :
    NotEarly timeout (UInt8.ofNat i, UInt8.ofNat (timerDiv timeout i)) ↔ MakesGood timeout i := by
  unfold NotEarly MakesGood
  dsimp only
  have hprescaler : (UInt8.ofNat i).toNat = i := toNat_ofNat_of_le (by omega)
  rw [hprescaler, toNat_ofNat_of_le hacc.byte, timerDiv_eq h]
  have hclk := timerClk_cut i
  -- both sides have the same multiple of the clock in them
  have hleft : timeout * 13560000 = timerClk i * timeout * 2 ^ i + timerCut i * timeout := by
    rw [← hclk]
    ring
  have hright : (timerClk i * timeout / 1000000 + 1) * 2 ^ i * 1000000 =
      timerClk i * timeout * 2 ^ i + (1000000 - timerClk i * timeout % 1000000) * 2 ^ i := by
    rw [← Nat.add_mul]
    have hsum := succ_div_mul (timerClk i * timeout) (show 0 < 1000000 by decide)
    rw [← hsum]
    ring
  rw [hleft, hright]
  omega

theorem not_notEarly_of_ge (h : ¬ timeout < 10 * longestTimeout + 10) {x : UInt8 × UInt8}
    (hx : x.1.toNat ≤ 20) : ¬ NotEarly timeout x := by
  intro hlate
  unfold NotEarly at hlate
  rw [longestTimeout] at h
  have hbyte := x.2.toNat_lt
  have hpow : 2 ^ x.1.toNat ≤ 2 ^ 20 := Nat.pow_le_pow_right (by decide) hx
  have hle : x.2.toNat * 2 ^ x.1.toNat ≤ 255 * 2 ^ 20 := Nat.mul_le_mul (by omega) hpow
  omega

theorem bestPrescaler_le (undef : UInt8) (timeout : Nat) : (bestPrescaler undef timeout).1.toNat ≤ 20 := by
  rw [bestPrescaler]
  rcases foldl_bestPrescalerStep timeout (List.range 21) ⟨0, undef, 2 ^ 63 - 1⟩ with
    hinit | ⟨i, hi, -, hbest⟩
  · rw [hinit]
    exact Nat.zero_le 20
  · rw [hbest]
    have hlt := List.mem_range.mp hi
    change (UInt8.ofNat i).toNat ≤ 20
    rw [toNat_ofNat_of_le (by omega)]
    omega

end Period

/-- The timer does not expire early exactly when nothing overflows and the rounding of the divisor
outweighs that of the clock. -/
theorem notEarly_iff (undef : UInt8) (timeout : Nat) (h : ∃ i < 21, Accepts timeout i) :
    NotEarly timeout (bestPrescaler undef timeout) ↔
      timeout < 1000000 ∧ ∃ i, LeastOvershoot timeout i ∧ MakesGood timeout i := by
  by_cases hrange : timeout < 10 * longestTimeout + 10
  · obtain ⟨i, hleast, hbest⟩ := bestPrescaler_least hrange h undef
    rw [hbest, notEarly_choice hrange hleast.lt hleast.accepts]
    constructor
    · exact fun hgood => ⟨(exists_accepts_iff hrange).mp h, i, hleast, hgood⟩
    · rintro ⟨-, j, hj, hgood⟩
      rw [hleast.unique hj]
      exact hgood
  · refine iff_of_false (not_notEarly_of_ge hrange (bestPrescaler_le undef timeout)) fun hc => ?_
    rw [longestTimeout] at hrange
    omega

theorem notEarly_3020 : (∃ i < 21, Accepts 3020 i) ∧
    (NotEarly 3020 (bestPrescaler 0 3020) ↔
      3020 < 1000000 ∧ ∃ i, LeastOvershoot 3020 i ∧ MakesGood 3020 i) :=
  have h : ∃ i < 21, Accepts 3020 i := ⟨8, by decide, by decide⟩
  ⟨h, notEarly_iff 0 3020 h⟩

/-- One tick of 2416.5 microseconds. -/
theorem early_2420 : (∃ i < 21, Accepts 2420 i) ∧ bestPrescaler 0 2420 = (15, 1) ∧
    ¬ NotEarly 2420 (bestPrescaler 0 2420) :=
  ⟨⟨15, by decide, by decide⟩, by decide, by decide⟩

end Librfid.Rc632
