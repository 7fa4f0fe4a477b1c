import Librfid.Layer2.Acf
import Librfid.Layer2.Cards
import Librfid.Rc632.Chip

namespace Librfid.Layer2

open Rc632 Exec

def branched (acf : Mem UInt8) (bitOfCol : Nat) (rnd : Bool) : Mem UInt8 :=
  let acf := codeNvb acf bitOfCol
  if bitOfCol ≠ 0 ∧ bitOfCol ≤ 5 * 8 then
    let byte : Int := acfUidBits + ((bitOfCol - 1) / 8 : Nat)
    acf.set byte (acf byte ^^^ UInt8.ofNat (rnd.toNat <<< ((bitOfCol - 1) % 8)))
  else acf

def uidBit (acf : Mem UInt8) (i : Nat) : Bool := bufBit acf (15 + i)

/-- The branch at UID bit `k`: the frames that may follow announce the bits up to it, differ from the
last one in no other bit, and have either value there. -/
structure BranchTaken (k : Nat) (acf : Mem UInt8) (next : Bool → Mem UInt8) : Prop where
  announced : ∀ rnd, 8 * (acfTxBytes (next rnd)).toNat + (acfTxLastBits (next rnd)).toNat = 16 + k
  before : ∀ rnd i, 1 ≤ i → i < k → uidBit (next rnd) i = uidBit acf i
  others : ∀ rnd i, 1 ≤ i → i ≤ 40 → i ≠ k → uidBit (next rnd) i = uidBit acf i
  chosen : ∀ b, ∃ rnd, uidBit (next rnd) k = b

theorem bufBit_toggle (m : Mem UInt8) (rnd : Bool) (n i : Nat) :
    bufBit (m.set (n / 8 : Nat) (m (n / 8 : Nat) ^^^ UInt8.ofNat (rnd.toNat <<< (n % 8)))) i =
      (bufBit m i ^^ (rnd && decide (i = n))) := by
  have hmod : i % 8 < 8 := Nat.mod_lt i (by decide)
  unfold bufBit
  by_cases hbyte : i / 8 = n / 8
  · have hn : i = n ↔ i % 8 = n % 8 := by omega
    have hbit : (rnd.toNat <<< (n % 8)).testBit (i % 8) = (rnd && decide (i % 8 = n % 8)) := by
      cases rnd with
      | false => simp
      | true =>
        rw [Bool.toNat_true, Nat.one_shiftLeft, Nat.testBit_two_pow, Bool.true_and, decide_eq_decide]
        exact eq_comm
    rw [hbyte, Mem.set_self, Bits.bit_xor, Bits.bit_ofNat _ hmod, hbit, decide_eq_decide.mpr hn]
  · have hn : i ≠ n := fun h => hbyte (h ▸ rfl)
    rw [Mem.set_ne _ _ (by omega), decide_eq_false hn, Bool.and_false, Bool.xor_false]

theorem uidBit_codeNvb (acf : Mem UInt8) (bits : Nat) {i : Nat} (h : 1 ≤ i) :
    uidBit (codeNvb acf bits) i = uidBit acf i := by
  unfold uidBit bufBit
  rw [codeNvb_of_ge _ _ (by omega)]

/-- `bit_of_col` counts from the start of the frame and `rnd_toggle_bit_in_field` from that of
`uid_bits`: the bit is 16 behind the one that collided, or there is none. -/
theorem uidBit_branched (acf : Mem UInt8) (k : Nat) (rnd : Bool) {i : Nat} (h : 1 ≤ i) (hi : i ≤ 40) :
    uidBit (branched acf (16 + k) rnd) i = (uidBit acf i ^^ (rnd && decide (i = 16 + k))) := by
  unfold branched
  split_ifs with hin
  · have hbyte : acfUidBits + ((16 + k - 1) / 8 : Nat) = ((31 + k) / 8 : Nat) := by
      rw [acfUidBits]
      omega
    have hmod : (16 + k - 1) % 8 = (31 + k) % 8 := by omega
    have hpos : 15 + i = 31 + k ↔ i = 16 + k := by omega
    simp only [hbyte, hmod]
    rw [uidBit, bufBit_toggle, decide_eq_decide.mpr hpos]
    exact congrArg (· ^^ _) (uidBit_codeNvb acf (16 + k) h)
  · have hne : i ≠ 16 + k := by omega
    rw [uidBit_codeNvb acf _ h, decide_eq_false hne, Bool.and_false, Bool.xor_false]

theorem acfLength_branched (acf : Mem UInt8) {k : Nat} (hk : k ≤ 40) (rnd : Bool) :
    8 * (acfTxBytes (branched acf (16 + k) rnd)).toNat +
      (acfTxLastBits (branched acf (16 + k) rnd)).toNat = 16 + k := by
  obtain ⟨nvb, hnvb, hbytes, hbits⟩ := iso14443aCodeNvbBits_some (Nat.le_add_right 16 k)
    (by omega : 16 + k < 64)
  have hset : branched acf (16 + k) rnd 1 = nvb := by
    have hcode : codeNvb acf (16 + k) 1 = nvb := by
      simp [codeNvb, hnvb]
    unfold branched
    split_ifs
    · exact (Mem.set_ne _ _ (by rw [acfUidBits]; omega)).trans hcode
    · exact hcode
  rw [acfTxBytes, acfTxLastBits, hset, hbytes, hbits]
  omega

section

variable {σ ρ : Type} (r : Reader σ) (randomBit : ρ → Bool × ρ)

theorem iso14443aCollisions_step (fuel : Nat) (acf : Mem UInt8) {bitOfCol : Nat}
    (h : bitOfCol ≠ iso14443aBitOfColNone) (s : σ) (v : Vars ρ) :
    ∃ v', v'.handle = v.handle ∧ iso14443aCollisions r randomBit (fuel + 1) acf bitOfCol (s, v) =
      (do
        let x ← lift (r.transceiveAcf (branched acf bitOfCol (randomBit v.rand).1))
        check x.ret
        iso14443aCollisions r randomBit fuel x.acf x.bitOfCol : Iso14443aM σ ρ (Mem UInt8)) (s, v') := by
  rw [iso14443aCollisions, if_neg h]
  unfold rndToggleBitInField branched
  dsimp only
  split_ifs
  · exact ⟨{ v with rand := (randomBit v.rand).2 }, rfl, rfl⟩
  · exact ⟨v, rfl, rfl⟩

/-- The prefix that is announced is right, and the branch is never taken at the collided bit: the one
that is toggled is another one, if any. -/
theorem branch_never {k : Nat} (h : 1 ≤ k) (hk : k ≤ 40) (acf : Mem UInt8) :
    (∀ (fuel : Nat) (s : σ) (v : Vars ρ), ∃ v', v'.handle = v.handle ∧
      iso14443aCollisions r randomBit (fuel + 1) acf (16 + k) (s, v) =
        (do
          let x ← lift (r.transceiveAcf (branched acf (16 + k) (randomBit v.rand).1))
          check x.ret
          iso14443aCollisions r randomBit fuel x.acf x.bitOfCol : Iso14443aM σ ρ (Mem UInt8)) (s, v')) ∧
      ¬ BranchTaken k acf (branched acf (16 + k)) ∧
      ∀ rnd, 8 * (acfTxBytes (branched acf (16 + k) rnd)).toNat +
          (acfTxLastBits (branched acf (16 + k) rnd)).toNat = 16 + k ∧
        (∀ i, 1 ≤ i → i ≤ k → uidBit (branched acf (16 + k) rnd) i = uidBit acf i) ∧
        ((∀ i, 1 ≤ i → i ≤ 40 → i ≠ k → uidBit (branched acf (16 + k) rnd) i = uidBit acf i) ↔
          rnd = false ∨ 24 < k) := by
  have hkept : ∀ rnd i, 1 ≤ i → i ≤ k → uidBit (branched acf (16 + k) rnd) i = uidBit acf i := by
    intro rnd i hi hik
    have hne : i ≠ 16 + k := by omega
    rw [uidBit_branched acf k rnd hi (by omega), decide_eq_false hne, Bool.and_false, Bool.xor_false]
  refine ⟨fun fuel s v => ?_, fun hbranch => ?_, fun rnd => ⟨?_, hkept rnd, ?_, ?_⟩⟩
  · have hcol : 16 + k ≠ iso14443aBitOfColNone := by
      rw [iso14443aBitOfColNone]
      omega
    exact iso14443aCollisions_step r randomBit fuel acf hcol s v
  · obtain ⟨rnd, hrnd⟩ := hbranch.chosen (!uidBit acf k)
    rw [hkept rnd k h (Nat.le_refl k)] at hrnd
    exact absurd hrnd.symm (Bool.not_ne_self _)
  · exact acfLength_branched acf hk rnd
  · intro hothers
    by_contra hno
    obtain ⟨hrnd, hlow⟩ := not_or.mp hno
    have hbit := hothers (16 + k) (by omega) (by omega) (by omega)
    rw [uidBit_branched acf k rnd (by omega) (by omega), Bool.eq_true_of_not_eq_false hrnd,
      decide_eq_true rfl] at hbit
    exact absurd hbit (by cases uidBit acf (16 + k) <;> decide)
  · rintro hor i hi hi40 -
    rw [uidBit_branched acf k rnd hi hi40]
    rcases hor with rfl | hhigh
    · rw [Bool.false_and, Bool.xor_false]
    · rw [decide_eq_false (by omega), Bool.and_false, Bool.xor_false]

end

theorem branch_never_third : ¬ BranchTaken 3 (fun _ => 0) (branched (fun _ => 0) 19) :=
  (branch_never (reader ⟨0, 0, 0, 0⟩ ⟨0, 0⟩ (fun _ => chip.asic 0 300) rfid14443aSpeed106k) randomBit
    (by decide) (by decide) fun _ => 0).2.1

/-- After a collision at the first bit it is bit 17 that is toggled. -/
theorem branch_first :
    uidBit (branched (fun _ => 0) 17 true) 17 = true ∧
      (∀ rnd, uidBit (branched (fun _ => 0) 17 rnd) 1 = false) ∧
      ¬ BranchTaken 1 (fun _ => 0) (branched (fun _ => 0) 17) := by
  have hsame : ∀ rnd, uidBit (branched (fun _ => 0) 17 rnd) 1 = false := by decide
  refine ⟨by decide, hsame, fun hbranch => ?_⟩
  obtain ⟨rnd, hrnd⟩ := hbranch.chosen true
  rw [hsame rnd] at hrnd
  cases hrnd

end Librfid.Layer2
