import Librfid.Layer2.Narrowing
import Mathlib.Data.Nat.Digits.Defs

namespace Librfid.Layer2

section Mask

def lowBits : Nat → List UInt8 → List UInt8
  | _, [] => []
  | n, b :: l => (b &&& UInt8.ofNat (2 ^ min 8 n - 1)) :: lowBits (n - 8) l

@[simp] theorem length_lowBits (n : Nat) (l : List UInt8) : (lowBits n l).length = l.length := by
  induction l generalizing n with
  | nil => rfl
  | cons b l ih => simp [lowBits, ih]

def leValue (l : List UInt8) : Nat := Nat.ofDigits 256 (l.map UInt8.toNat)

@[simp] theorem leValue_cons (b : UInt8) (l : List UInt8) :
    leValue (b :: l) = b.toNat + 256 * leValue l := by
  rw [leValue, List.map_cons, Nat.ofDigits_cons]
  rfl

theorem toNat_and_low (b : UInt8) {k : Nat} (h : k ≤ 8) :
    (b &&& UInt8.ofNat (2 ^ k - 1)).toNat = b.toNat % 2 ^ k := by
  have hpow : 2 ^ k ≤ 2 ^ 8 := Nat.pow_le_pow_right (by decide) h
  have hpos : 0 < 2 ^ k := Nat.two_pow_pos k
  rw [UInt8.toNat_and, UInt8.toNat_ofNat_of_lt' (show 2 ^ k - 1 < 2 ^ 8 by omega),
    Nat.and_two_pow_sub_one_eq_mod]

theorem leValue_lowBits (n : Nat) (l : List UInt8) : leValue (lowBits n l) = leValue l % 2 ^ n := by
  induction l generalizing n with
  | nil => exact (Nat.zero_mod _).symm
  | cons b l ih =>
    rw [lowBits, leValue_cons, leValue_cons, ih, toNat_and_low b (Nat.min_le_left 8 n)]
    rcases Nat.le_total 8 n with h | h
    · have hpow : 2 ^ n = 256 * 2 ^ (n - 8) := by
        rw [show 256 = 2 ^ 8 by rfl, ← Nat.pow_add, Nat.add_sub_cancel' h]
      have hlt : b.toNat < 256 := b.toNat_lt
      rw [Nat.min_eq_left h, hpow, Nat.mod_mul, Nat.add_mul_mod_self_left,
        Nat.add_mul_div_left _ _ (by decide), Nat.div_eq_of_lt hlt, Nat.zero_add]
      rfl
    · have hdvd : 256 = 2 ^ n * 2 ^ (8 - n) := by
        rw [← Nat.pow_add, Nat.add_sub_cancel' h]
      rw [Nat.min_eq_right h, Nat.sub_eq_zero_of_le h, Nat.pow_zero, Nat.mod_one, Nat.mul_zero,
        Nat.add_zero, hdvd, Nat.mul_assoc, Nat.add_mul_mod_self_left]

end Mask

def afiField (flags afi : UInt8) : Option UInt8 := if flags &&& f5AfiPres ≠ 0 then some afi else none

def acfFrame (flags afi maskLen : UInt8) (mask : Mem UInt8) : List UInt8 :=
  flags :: cmdInventory :: (afiField flags afi).toList ++
    maskLen :: lowBits maskLen.toNat (mask.load 0 (maskSize maskLen))

structure AcfFields where
  flags : UInt8
  afi : Option UInt8
  maskLen : UInt8
  mask : Nat
  deriving DecidableEq

def decodeAcf : List UInt8 → Option AcfFields
  | flags :: command :: data =>
    let afi := if flags &&& f5AfiPres ≠ 0 then data.head? else none
    match data.drop afi.toList.length with
    | maskLen :: mask =>
      if command = cmdInventory ∧ mask.length = maskSize maskLen
      then some ⟨flags, afi, maskLen, leValue mask⟩ else none
    | [] => none
  | _ => none

theorem decodeAcf_acfFrame (flags afi maskLen : UInt8) (mask : Mem UInt8) :
    decodeAcf (acfFrame flags afi maskLen mask) = some {
      flags := flags
      afi := afiField flags afi
      maskLen := maskLen
      mask := leValue (mask.load 0 (maskSize maskLen)) % 2 ^ maskLen.toNat } := by
  have hlen : (lowBits maskLen.toNat (mask.load 0 (maskSize maskLen))).length = maskSize maskLen := by
    rw [length_lowBits, Mem.length_load]
  rw [← leValue_lowBits]
  unfold acfFrame afiField
  split_ifs with ha <;> simp [decodeAcf, ha, hlen]

/-- The frame is written, and nothing behind it. -/
structure BuildsAcf (target : Mem UInt8) (flags afi maskLen : UInt8) (mask : Mem UInt8)
    (x : Mem UInt8 × Nat) : Prop where
  length : x.2 = (acfFrame flags afi maskLen mask).length
  frame : x.1.load 0 x.2 = acfFrame flags afi maskLen mask
  rest : ∀ i : Int, i < 0 ∨ x.2 ≤ i → x.1 i = target i
  decoded : decodeAcf (x.1.load 0 x.2) = some {
    flags := flags
    afi := afiField flags afi
    maskLen := maskLen
    mask := leValue (mask.load 0 (maskSize maskLen)) % 2 ^ maskLen.toNat }

section Build

variable (target mask : Mem UInt8) (flags afi maskLen : UInt8)

def builtAcf : List UInt8 :=
  flags :: cmdInventory :: (afiField flags afi).toList ++
    if maskLen = 0 then [0] else [maskLen, mask 0 &&& cutMask maskLen]

theorem iso15693BuildAcf_eq :
    iso15693BuildAcf target flags afi maskLen mask =
      (target.store 0 (builtAcf mask flags afi maskLen), (builtAcf mask flags afi maskLen).length) := by
  have hbytes : (if maskLen.toNat / 8 + maskLen.toNat % 8 ≠ 0 then 1 else 0) =
      if maskLen = 0 then 0 else 1 := by
    by_cases hm : maskLen = 0
    · rw [hm]
      rfl
    · have hpos : maskLen.toNat ≠ 0 := fun h => hm (UInt8.toNat_inj.mp h)
      rw [if_neg hm, if_pos (by omega)]
  unfold iso15693BuildAcf builtAcf afiField
  dsimp only
  rw [hbytes]
  -- the bytes are stored one after the other, and the last one again
  by_cases ha : flags &&& f5AfiPres ≠ 0 <;> by_cases hm : maskLen = 0
  all_goals
    simp only [ne_eq, ha, hm, if_true, if_false, not_false_eq_true]
    refine Prod.ext (funext fun q => ?_) rfl
    simp [Mem.store, Mem.set, cutMask]
    split_ifs <;> first | rfl | omega

theorem buildsAcf_iff_eq :
    BuildsAcf target flags afi maskLen mask (iso15693BuildAcf target flags afi maskLen mask) ↔
      builtAcf mask flags afi maskLen = acfFrame flags afi maskLen mask := by
  rw [iso15693BuildAcf_eq]
  have hload : (target.store 0 (builtAcf mask flags afi maskLen)).load 0
      (builtAcf mask flags afi maskLen).length = builtAcf mask flags afi maskLen := Mem.load_store _ _ _
  constructor
  · exact fun h => hload.symm.trans h.frame
  · intro heq
    refine ⟨congrArg List.length heq, hload.trans heq, ?_, ?_⟩
    · rintro i (hi | hi)
      · exact Mem.store_of_lt _ _ hi
      · exact Mem.store_of_ge _ _ (by rwa [Int.zero_add])
    · dsimp only
      rw [hload, heq]
      exact decodeAcf_acfFrame flags afi maskLen mask

end Build

/-- A mask of less than a byte is built right, and one of eight bits if there is nothing to lose. -/
theorem buildsAcf_iff (target mask : Mem UInt8) (flags afi maskLen : UInt8) :
    BuildsAcf target flags afi maskLen mask (iso15693BuildAcf target flags afi maskLen mask) ↔
      maskLen.toNat ≤ 7 ∨ maskLen = 8 ∧ mask 0 = 0 := by
  rw [buildsAcf_iff_eq]
  unfold builtAcf acfFrame
  rw [List.append_right_inj]
  by_cases hzero : maskLen = 0
  · subst hzero
    exact iff_of_true rfl (.inl (by decide))
  have hpos : maskLen.toNat ≠ 0 := fun h => hzero (UInt8.toNat_inj.mp h)
  rw [if_neg hzero, List.cons_inj_right]
  rcases Nat.lt_trichotomy maskLen.toNat 8 with hlt | heq | hgt
  · have hsize : maskSize maskLen = 1 := by
      unfold maskSize
      omega
    have hcut : ∀ n < 8, 0xff >>> (8 - n % 8) = 2 ^ min 8 n - 1 := by decide
    refine iff_of_true ?_ (.inl (Nat.le_of_lt_succ hlt))
    rw [hsize, cutMask, hcut _ hlt]
    rfl
  · have h8 : maskLen = 8 := UInt8.toNat_inj.mp heq
    subst h8
    have hall : mask 0 &&& 0xff = mask 0 := UInt8.and_neg_one
    have hnone : mask 0 &&& 0x00 = 0 := UInt8.and_zero
    refine Iff.trans ?_ (or_iff_right (by decide : ¬ UInt8.toNat 8 ≤ 7)).symm
    change [mask 0 &&& 0x00] = [mask 0 &&& 0xff] ↔ _
    rw [hall, hnone, List.singleton_inj, and_iff_right rfl]
    exact eq_comm
  · refine iff_of_false (fun h => ?_) fun h => ?_
    · have hlen := congrArg List.length h
      rw [length_lowBits, Mem.length_load, maskSize, List.length_singleton] at hlen
      omega
    · rcases h with h | ⟨rfl, -⟩
      · omega
      · exact absurd hgt (by decide)

/-- A mask of sixteen bits, of which one byte is sent. -/
theorem longMask_truncated :
    iso15693BuildAcf (fun _ => 0) 0x06 0 16 (fun _ => 0xff) =
      (Mem.store (fun _ => 0) 0 [0x06, 0x01, 0x10, 0x00], 4) ∧
    ¬ BuildsAcf (fun _ => 0) 0x06 0 16 (fun _ => 0xff)
      (iso15693BuildAcf (fun _ => 0) 0x06 0 16 (fun _ => 0xff)) := by
  refine ⟨iso15693BuildAcf_eq _ _ _ _ _, fun h => ?_⟩
  exact absurd h.length (by decide)

end Librfid.Layer2
