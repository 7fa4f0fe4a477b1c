import Librfid.Lib.Bits

/-! Access conditions of Mifare Classic: `rfid_access_mifare_classic.c`. -/

namespace Librfid.Proto

structure MfclAccessSect where
  block : Fin 4 → UInt8

/-- One of `c1`, `c2` and `c3` in `mfcl_compile_access`, with the mask of its bit in a block. -/
def accessNibble (ac : MfclAccessSect) (mask : UInt8) : UInt8 :=
  (List.finRange 4).foldl
    (fun c b => if ac.block b &&& mask ≠ 0 then c ||| UInt8.ofNat (1 <<< b.val) else c) 0

def mfclCompileAccess (ac : MfclAccessSect) : Fin 4 → UInt8 :=
  let c1 := accessNibble ac 0x01
  let c2 := accessNibble ac 0x02
  let c3 := accessNibble ac 0x04
  fun
    | 0 => (~~~c1 &&& (0xf : UInt8)) ||| (~~~c2 &&& (0xf : UInt8)) <<< 4
    | 1 => (~~~c3 &&& (0xf : UInt8)) ||| c1 <<< 4
    | 2 => c2 ||| c3 <<< 4
    | 3 => 0x00

def parseBlock (c1 c2 c3 : UInt8) (b : Fin 4) : UInt8 :=
  let block := if c1 &&& UInt8.ofNat (1 <<< b.val) ≠ 0 then 0x1 else 0
  let block := if c2 &&& UInt8.ofNat (1 <<< b.val) ≠ 0 then block ||| 0x2 else block
  if c3 &&& UInt8.ofNat (1 <<< b.val) ≠ 0 then block ||| 0x4 else block

def mfclParseAccess (encoded : Fin 4 → UInt8) : MfclAccessSect where
  block := parseBlock (encoded 1 >>> 4) (encoded 2 &&& 0xf) (encoded 2 >>> 4)

/-- The inverted nibbles are the complements of the plain ones. -/
structure Consistent (e : Fin 4 → UInt8) : Prop where
  c1 : e 0 &&& (0xf : UInt8) = ~~~(e 1 >>> 4) &&& (0xf : UInt8)
  c2 : e 0 >>> 4 = ~~~(e 2 &&& 0xf) &&& (0xf : UInt8)
  c3 : e 1 &&& (0xf : UInt8) = ~~~(e 2 >>> 4) &&& (0xf : UInt8)
  last : e 3 = 0

namespace MfclAccessSect

variable (ac : MfclAccessSect)

theorem bit_accessNibble {j : Nat} (hj : j < 8) (b : Fin 4) :
    Bits.bit (accessNibble ac (UInt8.ofNat (2 ^ j))) b = Bits.bit (ac.block b) j := by
  have hlt : b.val < 8 := Nat.lt_trans b.isLt (by decide)
  rw [Bool.eq_iff_iff, accessNibble, Bits.bit_foldl_or _ _ _ _ hlt, Bits.bit_zero]
  simp [Bits.and_two_pow_ne_zero _ hj, Fin.val_inj]

theorem accessNibble_nibble (mask : UInt8) :
    accessNibble ac mask &&& 0xf = accessNibble ac mask := by
  apply Bits.ext
  intro i hi
  rw [Bits.bit_and_nibble _ hi]
  apply Bool.eq_iff_iff.mpr
  rw [accessNibble, Bool.and_eq_true, Bits.bit_foldl_or _ _ _ _ hi, Bits.bit_zero]
  constructor
  · exact And.left
  · rintro (h | ⟨b, hb, hblock, rfl⟩)
    · cases h
    · exact ⟨.inr ⟨b, hb, hblock, rfl⟩, decide_eq_true b.isLt⟩

theorem accessNibble_eq {j : Nat} (hj : j < 8) {c : UInt8} (hc : c &&& 0xf = c)
    (h : ∀ b, Bits.bit (ac.block b) j = Bits.bit c b) : accessNibble ac (UInt8.ofNat (2 ^ j)) = c := by
  apply Bits.ext
  intro i hi
  rcases Nat.lt_or_ge i 4 with hlt | hge
  · exact (ac.bit_accessNibble hj ⟨i, hlt⟩).trans (h ⟨i, hlt⟩)
  · rw [Bits.bit_nibble (ac.accessNibble_nibble _) hge, Bits.bit_nibble hc hge]

end MfclAccessSect

section

variable (c1 c2 c3 : UInt8) (b : Fin 4)

theorem bit_parseBlock {j : Nat} (hj : j < 8) :
    Bits.bit (parseBlock c1 c2 c3 b) j ↔
      Bits.bit c1 b ∧ j = 0 ∨ Bits.bit c2 b ∧ j = 1 ∨ Bits.bit c3 b ∧ j = 2 := by
  have hlt : b.val < 8 := Nat.lt_trans b.isLt (by decide)
  have hbit : ∀ c : UInt8, c &&& UInt8.ofNat (1 <<< b.val) ≠ 0 ↔ Bits.bit c b := fun c => by
    rw [Nat.one_shiftLeft, Bits.and_two_pow_ne_zero c hlt]
  have h1 : ∀ j < 8, (Bits.bit 0x1 j ↔ j = 0) := by decide
  have h2 : ∀ j < 8, (Bits.bit 0x2 j ↔ j = 1) := by decide
  have h4 : ∀ j < 8, (Bits.bit 0x4 j ↔ j = 2) := by decide
  simp only [parseBlock, hbit]
  split_ifs <;> simp [*, or_assoc]

end

theorem mfclParseAccess_compile (ac : MfclAccessSect) (b : Fin 4) :
    (mfclParseAccess (mfclCompileAccess ac)).block b = ac.block b &&& 0x07 := by
  have hnibble := ac.accessNibble_nibble
  have hc1 : mfclCompileAccess ac 1 >>> 4 = accessNibble ac 0x01 :=
    ((Bits.nibbles (Bits.nibble_idem _) (hnibble _)).mp rfl).2
  obtain ⟨hc2, hc3⟩ : mfclCompileAccess ac 2 &&& 0xf = accessNibble ac 0x02 ∧
      mfclCompileAccess ac 2 >>> 4 = accessNibble ac 0x04 :=
    (Bits.nibbles (hnibble _) (hnibble _)).mp rfl
  have hmask : ∀ j < 8, (Bits.bit 0x07 j ↔ j = 0 ∨ j = 1 ∨ j = 2) := by decide
  apply Bits.ext
  intro j hj
  rw [Bool.eq_iff_iff, mfclParseAccess, hc1, hc2, hc3, bit_parseBlock _ _ _ _ hj, Bits.bit_and,
    Bool.and_eq_true, hmask j hj, and_or_left, and_or_left]
  refine or_congr ?_ (or_congr ?_ ?_) <;> apply and_congr_left <;> rintro rfl
  · exact Bool.eq_iff_iff.mp (ac.bit_accessNibble (j := 0) (by decide) b)
  · exact Bool.eq_iff_iff.mp (ac.bit_accessNibble (j := 1) (by decide) b)
  · exact Bool.eq_iff_iff.mp (ac.bit_accessNibble (j := 2) (by decide) b)

theorem accessNibble_parse {c1 c2 c3 : UInt8} (h1 : c1 &&& 0xf = c1) (h2 : c2 &&& 0xf = c2)
    (h3 : c3 &&& 0xf = c3) :
    accessNibble ⟨parseBlock c1 c2 c3⟩ 0x01 = c1 ∧ accessNibble ⟨parseBlock c1 c2 c3⟩ 0x02 = c2 ∧
      accessNibble ⟨parseBlock c1 c2 c3⟩ 0x04 = c3 := by
  refine ⟨MfclAccessSect.accessNibble_eq _ (j := 0) (by decide) h1 fun b => ?_,
    MfclAccessSect.accessNibble_eq _ (j := 1) (by decide) h2 fun b => ?_,
    MfclAccessSect.accessNibble_eq _ (j := 2) (by decide) h3 fun b => ?_⟩
  all_goals
    rw [Bool.eq_iff_iff, bit_parseBlock _ _ _ _ (by decide)]
    simp

theorem mfclCompileAccess_parse (e : Fin 4 → UInt8) :
    mfclCompileAccess (mfclParseAccess e) = e ↔ Consistent e := by
  obtain ⟨hc1, hc2, hc3⟩ := accessNibble_parse (Bits.nibble_shiftRight (e 1)) (Bits.nibble_idem (e 2))
    (Bits.nibble_shiftRight (e 2))
  have hinv : ∀ c : UInt8, ~~~c &&& (0xf : UInt8) &&& 0xf = ~~~c &&& 0xf := fun c => Bits.nibble_idem _
  have h0 : mfclCompileAccess (mfclParseAccess e) 0 = e 0 ↔
      e 0 &&& (0xf : UInt8) = ~~~(e 1 >>> 4) &&& (0xf : UInt8) ∧
        e 0 >>> 4 = ~~~(e 2 &&& 0xf) &&& (0xf : UInt8) := by
    simp only [mfclCompileAccess, mfclParseAccess, hc1, hc2]
    exact Bits.nibbles (hinv _) (hinv _)
  have h1 : mfclCompileAccess (mfclParseAccess e) 1 = e 1 ↔
      e 1 &&& (0xf : UInt8) = ~~~(e 2 >>> 4) &&& (0xf : UInt8) := by
    simp only [mfclCompileAccess, mfclParseAccess, hc1, hc3]
    exact (Bits.nibbles (hinv _) (Bits.nibble_shiftRight _)).trans (and_iff_left rfl)
  have h2 : mfclCompileAccess (mfclParseAccess e) 2 = e 2 := by
    simp only [mfclCompileAccess, mfclParseAccess, hc2, hc3]
    exact (Bits.nibbles (Bits.nibble_idem _) (Bits.nibble_shiftRight _)).mpr ⟨rfl, rfl⟩
  constructor
  · intro h
    obtain ⟨hlow, hhigh⟩ := h0.mp (congrFun h 0)
    exact ⟨hlow, hhigh, h1.mp (congrFun h 1), (congrFun h 3).symm⟩
  · rintro ⟨hlow, hhigh, hone, hlast⟩
    funext i
    match i with
    | 0 => exact h0.mpr ⟨hlow, hhigh⟩
    | 1 => exact h1.mpr hone
    | 2 => exact h2
    | 3 => exact hlast.symm

theorem consistent_compile (ac : MfclAccessSect) : Consistent (mfclCompileAccess ac) := by
  have hnibble := ac.accessNibble_nibble
  have hinv : ∀ c : UInt8, ~~~c &&& (0xf : UInt8) &&& 0xf = ~~~c &&& 0xf := fun c => Bits.nibble_idem _
  obtain ⟨hlow, hhigh⟩ := (Bits.nibbles (hinv _) (hinv _)).mp (rfl : _ = mfclCompileAccess ac 0)
  obtain ⟨hone, hc1⟩ := (Bits.nibbles (hinv _) (hnibble _)).mp (rfl : _ = mfclCompileAccess ac 1)
  obtain ⟨hc2, hc3⟩ := (Bits.nibbles (hnibble _) (hnibble _)).mp (rfl : _ = mfclCompileAccess ac 2)
  exact ⟨by rw [hlow, hc1], by rw [hhigh, hc2], by rw [hone, hc3], rfl⟩

/-- Access conditions and the words for them. -/
theorem mfclAccess_roundTrip :
    (∀ (ac : MfclAccessSect) (b : Fin 4),
        (mfclParseAccess (mfclCompileAccess ac)).block b = ac.block b &&& 0x07) ∧
      (∀ e : Fin 4 → UInt8, mfclCompileAccess (mfclParseAccess e) = e ↔ Consistent e) ∧
      ∀ e : Fin 4 → UInt8, (∃ ac, mfclCompileAccess ac = e) ↔ Consistent e := by
  refine ⟨mfclParseAccess_compile, mfclCompileAccess_parse, fun e => ⟨?_, fun h => ?_⟩⟩
  · rintro ⟨ac, rfl⟩
    exact consistent_compile ac
  · exact ⟨mfclParseAccess e, (mfclCompileAccess_parse e).mpr h⟩

end Librfid.Proto
