import Mathlib.Data.Nat.Bitwise
import Mathlib.Tactic.Common

namespace Bits

def bit (x : UInt8) (i : Nat) : Bool := x.toNat.testBit i

theorem bit_of_ge (x : UInt8) {i : Nat} (h : 8 ≤ i) : bit x i = false :=
  Nat.testBit_lt_two_pow (Nat.lt_of_lt_of_le x.toNat_lt (Nat.pow_le_pow_right (by omega) h))

theorem ext {x y : UInt8} (h : ∀ i < 8, bit x i = bit y i) : x = y := by
  apply UInt8.toNat_inj.mp
  apply Nat.eq_of_testBit_eq
  intro i
  by_cases hi : i < 8
  · exact h i hi
  · exact (bit_of_ge x (by omega)).trans (bit_of_ge y (by omega)).symm

@[simp] theorem bit_and (x y : UInt8) (i : Nat) : bit (x &&& y) i = (bit x i && bit y i) := by
  simp [bit, Nat.testBit_and]

@[simp] theorem bit_or (x y : UInt8) (i : Nat) : bit (x ||| y) i = (bit x i || bit y i) := by
  simp [bit, Nat.testBit_or]

@[simp] theorem bit_xor (x y : UInt8) (i : Nat) : bit (x ^^^ y) i = (bit x i ^^ bit y i) := by
  simp [bit, Nat.testBit_xor]

@[simp] theorem bit_zero (i : Nat) : bit 0 i = false := by simp [bit]

theorem or_and (x y z : UInt8) : (x ||| y) &&& z = x &&& z ||| y &&& z := by
  refine ext fun i _ => ?_
  simp [Bool.and_or_distrib_right]

theorem eq_zero_iff {x : UInt8} : x = 0 ↔ ∀ i < 8, bit x i = false :=
  ⟨fun h i _ => h ▸ bit_zero i, fun h => ext fun i hi => (h i hi).trans (bit_zero i).symm⟩

theorem and_or_eq_zero {x y z : UInt8} : x &&& (y ||| z) = 0 ↔ x &&& y = 0 ∧ x &&& z = 0 := by
  simp only [eq_zero_iff, bit_and, bit_or, Bool.and_or_distrib_left, Bool.or_eq_false_iff]
  exact forall₂_and

@[simp] theorem bit_not (x : UInt8) {i : Nat} (h : i < 8) : bit (~~~x) i = !bit x i := by
  have hsub : (~~~x).toNat = 2 ^ 8 - (x.toNat + 1) := by
    rw [UInt8.toNat_not, UInt8.size]
    omega
  rw [bit, hsub, Nat.testBit_two_pow_sub_succ x.toNat_lt]
  simp [bit, h]

theorem bit_ofNat (n : Nat) {i : Nat} (h : i < 8) : bit (UInt8.ofNat n) i = n.testBit i := by
  rw [bit, UInt8.toNat_ofNat', Nat.testBit_mod_two_pow, decide_eq_true h, Bool.true_and]

theorem bit_ofBits (f : Fin 8 → Bool) {i : Nat} (h : i < 8) :
    bit (UInt8.ofNat (Nat.ofBits f)) i = f ⟨i, h⟩ := by
  rw [bit_ofNat _ h, Nat.testBit_ofBits_lt _ _ h]

theorem bit_low {n : Nat} (h : n ≤ 8) (i : Nat) :
    bit (UInt8.ofNat (0xff >>> (8 - n))) i = decide (i < n) := by
  have hlt : 0xff >>> (8 - n) < 2 ^ 8 := Nat.lt_of_le_of_lt (Nat.shiftRight_le _ _) (by decide)
  have hff : (0xff : Nat) = 2 ^ 8 - 1 := rfl
  rw [bit, UInt8.toNat_ofNat_of_lt' hlt, Nat.testBit_shiftRight, hff, Nat.testBit_two_pow_sub_one,
    decide_eq_decide]
  omega

theorem and_two_pow_ne_zero (x : UInt8) {i : Nat} (h : i < 8) :
    x &&& UInt8.ofNat (2 ^ i) ≠ 0 ↔ bit x i := by
  have hlt : 2 ^ i < 2 ^ 8 := Nat.pow_lt_pow_right (by omega) h
  rw [Ne, ← UInt8.toNat_inj, UInt8.toNat_and, UInt8.toNat_ofNat_of_lt' hlt, Nat.and_two_pow, bit]
  cases x.toNat.testBit i <;> simp

theorem bit_foldl_or {α : Type} (l : List α) (p : α → Prop) [DecidablePred p] (f : α → Nat) (x : UInt8)
    {i : Nat} (h : i < 8) :
    bit (l.foldl (fun c a => if p a then c ||| UInt8.ofNat (1 <<< f a) else c) x) i ↔
      bit x i ∨ ∃ a ∈ l, p a ∧ f a = i := by
  induction l generalizing x with
  | nil => simp
  | cons a l ih =>
    rw [List.foldl_cons, ih]
    simp only [List.mem_cons, exists_eq_or_imp]
    rw [← or_assoc]
    apply or_congr_left
    by_cases hp : p a
    · rw [if_pos hp, bit_or, Bool.or_eq_true, bit_ofNat _ h, Nat.one_shiftLeft, Nat.testBit_two_pow,
        decide_eq_true_iff, and_iff_right hp]
    · rw [if_neg hp]
      exact (or_iff_left fun ha => hp ha.1).symm

theorem bit_shiftRight (x : UInt8) {y : UInt8} (h : y.toNat < 8) (i : Nat) :
    bit (x >>> y) i = bit x (y.toNat + i) := by
  rw [bit, UInt8.toNat_shiftRight, Nat.mod_eq_of_lt h, Nat.testBit_shiftRight, bit]

theorem bit_shiftLeft (x : UInt8) {y : UInt8} (h : y.toNat < 8) {i : Nat} (hi : i < 8) :
    bit (x <<< y) i = (decide (y.toNat ≤ i) && bit x (i - y.toNat)) := by
  rw [bit, UInt8.toNat_shiftLeft, Nat.mod_eq_of_lt h, Nat.testBit_mod_two_pow, decide_eq_true hi,
    Bool.true_and, Nat.testBit_shiftLeft, bit]

theorem bit_nibble {x : UInt8} (h : x &&& 0xf = x) {i : Nat} (hi : 4 ≤ i) : bit x i = false := by
  have hmask : ∀ i < 8, 4 ≤ i → bit 0xf i = false := by decide
  rcases Nat.lt_or_ge i 8 with hlt | hge
  · rw [← h, bit_and, hmask i hlt hi, Bool.and_false]
  · exact bit_of_ge x hge

theorem bit_and_nibble (x : UInt8) {i : Nat} (h : i < 8) :
    bit (x &&& 0xf) i = (bit x i && decide (i < 4)) := by
  have hmask : ∀ i < 8, bit 0xf i = decide (i < 4) := by decide
  rw [bit_and, hmask i h]

theorem nibble_idem (x : UInt8) : x &&& 0xf &&& 0xf = x &&& 0xf := by
  apply ext
  intro i hi
  rw [bit_and_nibble _ hi, bit_and_nibble _ hi, Bool.and_assoc, Bool.and_self]

theorem nibble_shiftRight (x : UInt8) : (x >>> 4) &&& (0xf : UInt8) = x >>> 4 := by
  apply ext
  intro i hi
  rw [bit_and_nibble _ hi, bit_shiftRight x (by decide)]
  rcases Nat.lt_or_ge i 4 with hlt | hge
  · rw [decide_eq_true hlt, Bool.and_true]
  · have hge8 : 8 ≤ (4 : UInt8).toNat + i := Nat.add_le_add_left hge 4
    rw [bit_of_ge x hge8, Bool.false_and]

theorem nibbles {lo hi x : UInt8} (hlo : lo &&& 0xf = lo) (hhi : hi &&& 0xf = hi) :
    lo ||| hi <<< 4 = x ↔ x &&& 0xf = lo ∧ x >>> 4 = hi := by
  have hshift : ∀ i < 8, bit (hi <<< 4) i = (decide (4 ≤ i) && bit hi (i - 4)) :=
    fun i => bit_shiftLeft hi (by decide)
  constructor
  · rintro rfl
    constructor
    · apply ext
      intro i hi'
      rw [bit_and_nibble _ hi', bit_or, hshift i hi']
      rcases Nat.lt_or_ge i 4 with hlt | hge
      · simp [hlt, Nat.not_le.mpr hlt]
      · simp [Nat.not_lt.mpr hge, bit_nibble hlo hge]
    · apply ext
      intro i hi'
      rw [bit_shiftRight _ (by decide), bit_or]
      rcases Nat.lt_or_ge i 4 with hlt | hge
      · have hi4 : (4 : UInt8).toNat + i < 8 := Nat.add_lt_add_left hlt 4
        have hge4 : 4 ≤ (4 : UInt8).toNat + i := Nat.le_add_right 4 i
        rw [hshift _ hi4, bit_nibble hlo hge4, Bool.false_or, decide_eq_true hge4, Bool.true_and]
        exact congrArg (bit hi) (Nat.add_sub_cancel_left 4 i)
      · have hge8 : 8 ≤ (4 : UInt8).toNat + i := Nat.add_le_add_left hge 4
        rw [bit_of_ge _ hge8, bit_of_ge _ hge8, bit_nibble hhi hge, Bool.false_or]
  · rintro ⟨rfl, rfl⟩
    apply ext
    intro i hi'
    rw [bit_or, bit_and_nibble _ hi', hshift i hi', bit_shiftRight x (by decide)]
    rcases Nat.lt_or_ge i 4 with hlt | hge
    · simp [hlt, Nat.not_le.mpr hlt]
    · simp [hge, Nat.not_lt.mpr hge]

def put (mask val x : UInt8) : UInt8 := x &&& ~~~mask ||| val &&& mask

theorem bit_put (mask val x : UInt8) {i : Nat} (h : i < 8) :
    bit (put mask val x) i = if bit mask i then bit val i else bit x i := by
  rw [put, bit_or, bit_and, bit_and, bit_not mask h]
  cases bit mask i <;> simp

theorem put_and (mask val x : UInt8) : put mask val x &&& mask = val &&& mask := by
  apply ext
  intro i hi
  rw [bit_and, bit_and, bit_put mask val x hi]
  cases bit mask i <;> simp

theorem put_put (mask val val' x : UInt8) : put mask val' (put mask val x) = put mask val' x := by
  apply ext
  intro i hi
  rw [bit_put mask val' _ hi, bit_put mask val' x hi, bit_put mask val x hi]
  cases bit mask i <;> simp

theorem put_of_and {mask val x : UInt8} (h : x &&& mask = val) : put mask val x = x := by
  apply ext
  intro i hi
  rw [bit_put mask val x hi, ← h, bit_and]
  cases bit mask i <;> simp

theorem put_full (val x : UInt8) : put 0xff val x = val := by
  have hfull : ∀ i < 8, bit 0xff i = true := by decide
  apply ext
  intro i hi
  rw [bit_put _ _ _ hi, hfull i hi, if_pos rfl]

theorem foldl_put (mask x : UInt8) (l : List UInt8) :
    l.foldl (fun x val => put mask val x) x = l.getLast?.elim x fun val => put mask val x := by
  induction l generalizing x with
  | nil => rfl
  | cons val l ih =>
    rw [List.foldl_cons, ih, List.getLast?_cons]
    cases l.getLast? with
    | none => rfl
    | some val' => exact put_put mask val val' x

theorem or_and_ne_zero (x y z : UInt32) : (x ||| y) &&& z ≠ 0 ↔ x &&& z ≠ 0 ∨ y &&& z ≠ 0 := by
  have hor : (x ||| y) &&& z = x &&& z ||| y &&& z := by
    apply UInt32.toBitVec_inj.mp
    ext i hi
    simp [Bool.and_or_distrib_right]
  rw [hor, Ne, UInt32.or_eq_zero_iff, not_and_or]

theorem or_ite_and_ne_zero (x y z : UInt32) (p : Prop) [Decidable p] :
    (x ||| if p then y else 0) &&& z ≠ 0 ↔ x &&& z ≠ 0 ∨ p ∧ y &&& z ≠ 0 := by
  rw [or_and_ne_zero]
  split_ifs with hp <;> simp [hp]

theorem eq_or {x y : UInt8} (h : x &&& y = y) : x = x ||| y := by
  refine ext fun i hi => ?_
  have hbit : (bit x i && bit y i) = bit y i := by
    rw [← bit_and, h]
  rw [bit_or]
  cases hx : bit x i
  · simpa [hx] using hbit
  · rfl

theorem eq_and_not {x y : UInt8} (h : x &&& y = 0) : x = x &&& ~~~y := by
  refine ext fun i hi => ?_
  have hbit : (bit x i && bit y i) = false := by
    rw [← bit_and, h, bit_zero]
  rw [bit_and, bit_not y hi]
  cases hx : bit x i
  · rfl
  · simpa [hx] using hbit

end Bits
