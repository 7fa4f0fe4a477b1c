import Librfid.Layer2.Inventory
import Librfid.Lib.Bits
import Librfid.Rc632.Keeps

namespace Librfid.Layer2

open Rc632 Exec

def maskLenPos (flags : UInt8) : Nat := if flags &&& f5AfiPres ≠ 0 then 3 else 2

def maskSize (maskLen : UInt8) : Nat := (maskLen.toNat + 7) / 8

structure Vicc where
  uid : UInt64
  dsfid : UInt8

namespace Vicc

def uidBit (v : Vicc) (i : Nat) : Bool := v.uid.toNat.testBit i

def uidBytes (v : Vicc) : List UInt8 :=
  (List.range uidLen15693).map fun j => UInt8.ofNat (v.uid.toNat >>> (8 * j))

theorem length_uidBytes (v : Vicc) : v.uidBytes.length = uidLen15693 := by
  simp [uidBytes]

/-- The response to an inventory: flags, DSFID and UID, least significant bit first. -/
def bit (v : Vicc) (i : Nat) : Bool :=
  if i < 8 then false else if i < 16 then Bits.bit v.dsfid (i - 8) else v.uidBit (i - 16)

def Answers (v : Vicc) (frame : Mem UInt8) (len : Nat) : Prop :=
  let i := maskLenPos (frame 0)
  frame 1 = cmdInventory ∧ len = i + 1 + maskSize (frame i) ∧
    ∀ b < maskSize (frame i) * 8, Bits.bit (frame (i + 1 + (b / 8 : Nat))) (b % 8) =
      (decide (b < (frame i).toNat) && v.uidBit b)

instance (v : Vicc) (frame : Mem UInt8) (len : Nat) : Decidable (v.Answers frame len) :=
  inferInstanceAs (Decidable (_ ∧ _ ∧ _))

end Vicc

def responseBits : Nat := 80

def collision (S : List Vicc) : Option Nat :=
  (List.range responseBits).find? fun i => decide (∃ v ∈ S, ∃ w ∈ S, v.bit i ≠ w.bit i)

def received (v : Vicc) (n : Nat) : List UInt8 :=
  (List.range 10).map fun j =>
    UInt8.ofNat (Nat.ofBits fun b : Fin 8 => decide (8 * j + b < n) && v.bit (8 * j + b))

def inventoryAnswer (T : List Vicc) (frame : Mem UInt8) (len rxLen : Nat) (boc : UInt8) : AcResult :=
  match T.filter fun v => v.Answers frame len with
  | [] => ⟨-eTimedOut, rxLen, [], boc⟩
  | v :: S =>
    match collision (v :: S) with
    | none => ⟨0, 10, received v responseBits, 0⟩
    | some i => ⟨0, 10, received v i, UInt8.ofNat (i + 1)⟩

def Reports {σ : Type} (r : Iso15693Reader σ) (T : List Vicc) : Prop :=
  ∀ acf len n boc s, ∃ s', r.transceiveAc acf len n boc s = (.ok (inventoryAnswer T acf len n boc), s')

/-- The VICCs that answer when position `p` of the UID has collided in the response of `v`: those
that agree with it before `p` and have no bits at `p` and behind it; a mask of eight bits is lost. -/
def survivors (T : List Vicc) (v : Vicc) (p : Nat) : List Vicc :=
  T.filter fun w => decide (∀ b ≤ p, w.uidBit b = (decide (b + 1 < p ∧ p < 7) && v.uidBit b))

/-- The VICCs that answer after a collision at bit `i`: none, if it is in the header or the mask is
longer than a byte. -/
def answerNext (T S : List Vicc) (i : Nat) : List Vicc :=
  match S with
  | [] => []
  | v :: _ => if 16 ≤ i ∧ i ≤ 22 then survivors T v (i - 15) else []

inductive Narrows (T : List Vicc) : List Vicc → Prop
  | single (v : Vicc) : Narrows T [v]
  | collided {S : List Vicc} {i : Nat} (hi : collision S = some i)
      (h : Narrows T (answerNext T S i)) : Narrows T S

section Frame

variable (target mask : Mem UInt8) (flags afi maskLen : UInt8)

def cutMask (maskLen : UInt8) : UInt8 := UInt8.ofNat (0xff >>> (8 - maskLen.toNat % 8))

theorem buildAcf_empty :
    let x := iso15693BuildAcf target flags afi 0 mask
    x.1 0 = flags ∧ x.1 1 = cmdInventory ∧ x.1 (maskLenPos flags) = 0 ∧ x.2 = maskLenPos flags + 1 := by
  unfold iso15693BuildAcf maskLenPos
  by_cases h : flags &&& f5AfiPres ≠ 0
  · simp [h, Mem.set, Mem.store]
  · simp [h, Mem.set, Mem.store]

theorem buildAcf_mask (hlen : maskLen ≠ 0) :
    let x := iso15693BuildAcf target flags afi maskLen mask
    x.1 0 = flags ∧ x.1 1 = cmdInventory ∧ x.1 (maskLenPos flags) = maskLen ∧
      x.1 (maskLenPos flags + 1) = mask 0 &&& cutMask maskLen ∧ x.2 = maskLenPos flags + 2 := by
  have hbytes : (if maskLen.toNat / 8 + maskLen.toNat % 8 ≠ 0 then 1 else 0) = 1 := by
    have hpos : maskLen.toNat ≠ 0 := fun h => hlen (UInt8.toNat_inj.mp h)
    exact if_pos (by omega)
  unfold iso15693BuildAcf maskLenPos cutMask
  dsimp only
  rw [hbytes]
  by_cases h : flags &&& f5AfiPres ≠ 0
  · simp [h, Mem.set, Mem.store]
  · simp [h, Mem.set, Mem.store]

theorem bit_cutMask (b : Nat) :
    Bits.bit (cutMask maskLen) b = decide (b < maskLen.toNat % 8) :=
  Bits.bit_low (Nat.le_of_lt (Nat.mod_lt _ (by decide))) b

theorem answers_empty (v : Vicc) :
    v.Answers (iso15693BuildAcf target flags afi 0 mask).1
      (iso15693BuildAcf target flags afi 0 mask).2 := by
  obtain ⟨hflags, hcmd, hlen, hsize⟩ := buildAcf_empty target mask flags afi
  unfold Vicc.Answers
  rw [hflags]
  dsimp only
  rw [hlen, hsize, hcmd]
  exact ⟨rfl, rfl, fun b hb => absurd hb (Nat.not_lt_zero b)⟩

/-- A mask of more than eight bits is not sent. -/
theorem answers_mask (v : Vicc) (hne : maskLen ≠ 0) :
    v.Answers (iso15693BuildAcf target flags afi maskLen mask).1
        (iso15693BuildAcf target flags afi maskLen mask).2 ↔
      maskLen.toNat ≤ 8 ∧ ∀ b < 8, (Bits.bit (mask 0) b && decide (b < maskLen.toNat % 8)) =
        (decide (b < maskLen.toNat) && v.uidBit b) := by
  obtain ⟨hflags, hcmd, hlen, hmask, hsize⟩ := buildAcf_mask target mask flags afi maskLen hne
  have hpos : maskLen.toNat ≠ 0 := fun h => hne (UInt8.toNat_inj.mp h)
  have hbits : ∀ b < 8, Bits.bit (mask 0 &&& cutMask maskLen) b =
      (Bits.bit (mask 0) b && decide (b < maskLen.toNat % 8)) := fun b hb => by
    rw [Bits.bit_and, bit_cutMask]
  unfold Vicc.Answers
  rw [hflags]
  dsimp only
  rw [hlen, hsize, hcmd]
  constructor
  · rintro ⟨-, hlen8, hall⟩
    have hone : maskSize maskLen = 1 := by omega
    refine ⟨by rw [maskSize] at hone; omega, fun b hb => ?_⟩
    rw [← hbits b hb, ← hmask]
    have := hall b (by omega)
    rwa [Nat.div_eq_of_lt hb, Nat.mod_eq_of_lt hb, Nat.cast_zero, Int.add_zero] at this
  · rintro ⟨hle, hall⟩
    have hone : maskSize maskLen = 1 := by rw [maskSize]; omega
    refine ⟨rfl, by omega, fun b hb => ?_⟩
    have hb8 : b < 8 := by omega
    rw [Nat.div_eq_of_lt hb8, Nat.mod_eq_of_lt hb8, Nat.cast_zero, Int.add_zero, hmask, hbits b hb8]
    exact hall b hb8

end Frame

section Round

variable {T : List Vicc}

theorem collision_spec {S : List Vicc} {i : Nat} (h : collision S = some i) : 8 ≤ i ∧ i < 80 := by
  have hmem := List.mem_of_find?_eq_some h
  have hbit := List.find?_some h
  simp only [decide_eq_true_eq] at hbit
  obtain ⟨v, -, w, -, hne⟩ := hbit
  refine ⟨Nat.not_lt.mp fun hlt => hne ?_, List.mem_range.mp hmem⟩
  rw [Vicc.bit, Vicc.bit, if_pos hlt, if_pos hlt]

theorem collision_single (v : Vicc) : collision [v] = none := by
  rw [collision, List.find?_eq_none]
  simp

def respMem (resp : List UInt8) : Mem UInt8 := Mem.store (fun _ => 0) 0 resp

def respUuid (resp : List UInt8) : Mem UInt8 := fun j => respMem resp (j + 2)

theorem respMem_received (v : Vicc) (n : Nat) {j : Nat} (hj : j < 10) {b : Nat} (hb : b < 8) :
    Bits.bit (respMem (received v n) j) b = (decide (8 * j + b < n) && v.bit (8 * j + b)) := by
  have hlen : j < (received v n).length := by simpa [received] using hj
  have hstore := Mem.store_add (fun _ => 0) 0 (received v n) j hlen
  rw [Int.zero_add] at hstore
  rw [respMem, hstore]
  simp only [received, List.getElem_map, List.getElem_range, Bits.bit_ofBits _ hb]

def collPos (i : Nat) : Nat := if 16 ≤ i then i - 15 else i + 1

theorem uidPos_eq {i : Nat} (hi : i < 80) : (uidPos (UInt8.ofNat (i + 1))).toNat = collPos i := by
  have hboc : (UInt8.ofNat (i + 1)).toNat = i + 1 := UInt8.toNat_ofNat_of_lt' (show i + 1 < 2 ^ 8 by omega)
  have h16 : (16 : UInt8).toNat = 16 := rfl
  unfold uidPos collPos
  by_cases hpos : 16 ≤ i
  · have hgt : UInt8.ofNat (i + 1) > 16 := UInt8.lt_iff_toNat_lt.mpr (by omega)
    rw [if_pos hgt, if_pos hpos, UInt8.toNat_sub_of_le _ _ (UInt8.le_of_lt hgt)]
    omega
  · have hle : ¬ UInt8.ofNat (i + 1) > 16 := fun h => by
      have := UInt8.lt_iff_toNat_lt.mp h
      omega
    rw [if_neg hle, if_neg hpos, hboc]

theorem maskLen_eq {i : Nat} (hi : i < 80) :
    (uidPos (UInt8.ofNat (i + 1)) + 1).toNat = collPos i + 1 := by
  have hlt : collPos i + 1 < 2 ^ 8 := by
    unfold collPos
    split_ifs <;> omega
  have hone : (1 : UInt8).toNat = 1 := rfl
  rw [UInt8.toNat_add, uidPos_eq hi, hone, Nat.mod_eq_of_lt hlt]

theorem mask_iff (v w : Vicc) {i : Nat} (hi : 16 ≤ i ∧ i ≤ 22) :
    (∀ b < 8, (Bits.bit (respUuid (received v i) 0) b && decide (b < (i - 14) % 8)) =
        (decide (b < i - 14) && w.uidBit b)) ↔
      ∀ b ≤ i - 15, w.uidBit b = (decide (b + 1 < i - 15 ∧ i - 15 < 7) && v.uidBit b) := by
  have hbit : ∀ b < 8, Bits.bit (respUuid (received v i) 0) b =
      (decide (b + 1 < i - 15) && v.uidBit b) := by
    intro b hb
    have hge : ¬ 8 * 2 + b < 8 := by omega
    have hge' : ¬ 8 * 2 + b < 16 := by omega
    have hpos : 8 * 2 + b < i ↔ b + 1 < i - 15 := by omega
    have := respMem_received v i (by decide : 2 < 10) hb
    rw [Vicc.bit, if_neg hge, if_neg hge', Nat.add_sub_cancel_left, decide_eq_decide.mpr hpos] at this
    exact this
  -- a mask of eight bits has no bit left
  have hcut : ∀ b ≤ i - 15, ∀ x : Bool, (decide (b + 1 < i - 15) && x && decide (b < (i - 14) % 8)) =
      (decide (b + 1 < i - 15 ∧ i - 15 < 7) && x) := by
    intro b hb x
    have hiff : (b + 1 < i - 15 ∧ b < (i - 14) % 8) ↔ b + 1 < i - 15 ∧ i - 15 < 7 := by omega
    rw [← decide_eq_decide.mpr hiff, Bool.decide_and, Bool.and_right_comm]
  constructor
  · intro h b hb
    have := h b (by omega)
    rw [hbit b (by omega), hcut b hb, decide_eq_true (show b < i - 14 by omega),
      Bool.true_and] at this
    exact this.symm
  · intro h b hb
    rw [hbit b hb]
    by_cases hle : b ≤ i - 15
    · rw [hcut b hle, decide_eq_true (show b < i - 14 by omega), Bool.true_and, h b hle]
    · rw [decide_eq_false (show ¬ b + 1 < i - 15 by omega), decide_eq_false (show ¬ b < i - 14 by omega)]
      rfl

theorem filter_answers (acf : Mem UInt8) (flags afi : UInt8) (v : Vicc) (S : List Vicc) {i : Nat}
    (hi : 8 ≤ i ∧ i < 80) :
    (T.filter fun w => w.Answers
      (iso15693BuildAcf acf flags afi (uidPos (UInt8.ofNat (i + 1)) + 1)
        (respUuid (received v i))).1
      (iso15693BuildAcf acf flags afi (uidPos (UInt8.ofNat (i + 1)) + 1)
        (respUuid (received v i))).2) = answerNext T (v :: S) i := by
  have hlen := maskLen_eq hi.2
  have hne : uidPos (UInt8.ofNat (i + 1)) + 1 ≠ 0 := fun h => by
    rw [h] at hlen
    exact absurd hlen (Nat.succ_ne_zero _).symm
  have hnext : answerNext T (v :: S) i =
      if 16 ≤ i ∧ i ≤ 22 then survivors T v (i - 15) else [] := rfl
  simp only [answers_mask _ _ _ _ _ _ hne, hlen]
  rw [hnext]
  by_cases hrange : 16 ≤ i ∧ i ≤ 22
  · have hpos : collPos i + 1 = i - 14 := by
      rw [collPos, if_pos hrange.1]
      omega
    simp only [hpos]
    rw [if_pos hrange, survivors]
    refine List.filter_congr fun w _ => ?_
    rw [decide_eq_decide, ← mask_iff v w hrange]
    exact and_iff_right (by omega)
  · have hlong : ¬ collPos i + 1 ≤ 8 := by
      unfold collPos
      split_ifs <;> omega
    rw [if_neg hrange, List.filter_eq_nil_iff]
    intro w _ h
    exact hlong (of_decide_eq_true h).1

theorem uuid_received (v : Vicc) (rxLen : Nat) (boc : UInt8) :
    (⟨0, rxLen, received v responseBits, boc⟩ : AcResult).uuid = v.uidBytes := by
  have hlen : v.uidBytes.length = 8 := v.length_uidBytes
  refine List.ext_getElem ((Mem.length_load _ _ _).trans hlen.symm) fun j hj hj' =>
    Bits.ext fun b hb => ?_
  have hj8 : j < 8 := hlen ▸ hj'
  have hbit := respMem_received v responseBits (show j + 2 < 10 by omega) hb
  have hlt : 8 * (j + 2) + b < responseBits := by
    rw [responseBits]
    omega
  have hge : ¬ 8 * (j + 2) + b < 8 := by omega
  have hge' : ¬ 8 * (j + 2) + b < 16 := by omega
  have hpos : 8 * (j + 2) + b - 16 = 8 * j + b := by omega
  rw [decide_eq_true hlt, Bool.true_and, Vicc.bit, if_neg hge, if_neg hge', hpos] at hbit
  have hload : (⟨0, rxLen, received v responseBits, boc⟩ : AcResult).uuid[j] =
      respMem (received v responseBits) ((j + 2 : Nat) : Int) := by
    refine (Mem.getElem_load _ _ hj).trans (congrArg (respMem (received v responseBits)) ?_)
    push_cast
    omega
  refine (congrArg (Bits.bit · b) hload).trans (hbit.trans ?_)
  simp only [Vicc.uidBytes, List.getElem_map, List.getElem_range, Bits.bit_ofNat _ hb,
    Nat.testBit_shiftRight, Vicc.uidBit]

end Round

section Run

variable {σ : Type} {r : Iso15693Reader σ} {T : List Vicc} {h : Iso15693Handle}

theorem iso15693Slots_one {acf : Mem UInt8} {txLen : Nat} {boc : UInt8} {x : AcResult} {s s' : σ}
    (hx : r.transceiveAc acf txLen 10 boc s = (.ok x, s')) :
    iso15693Slots r acf txLen 1 [] (fun _ => 0) boc (s, h) =
      if x.ret < 0 then (.ok (.slots [.none] (respUuid x.resp) x.bitOfCol), (s', h))
      else if x.bitOfCol ≠ 0 then
        (.ok (.slots [.collided x.bitOfCol x.uuid] (respUuid x.resp) x.bitOfCol), (s', h))
      else (.ok .found, (s', h.withUid x.uuid)) := by
  have hlift : lift (r.transceiveAc acf txLen 10 boc) (s, h) = (.ok x, (s', h)) := lift_run hx
  change (lift (r.transceiveAc acf txLen 10 boc) >>= _) (s, h) = _
  rw [bind_ok hlift]
  dsimp only
  split_ifs <;> rfl

theorem acLoop_answer (hsingle : h.singleSlot) (fuel : Nat) {acf : Mem UInt8} {txLen : Nat}
    {boc : UInt8} {x : AcResult} {s s' : σ}
    (hx : r.transceiveAc acf txLen 10 boc s = (.ok x, s')) :
    iso15693AcLoop r h (fuel + 1) acf txLen boc (s, h) =
      if x.ret < 0 then (.ok (-1), (s', h))
      else if x.bitOfCol ≠ 0 ∧ uidPos x.bitOfCol < 65 then
        let y := iso15693BuildAcf acf (iso15693AnticolFlags h) h.afi (uidPos x.bitOfCol + 1)
          (respUuid x.resp)
        iso15693AcLoop r h fuel y.1 y.2 0 (s', h)
      else (.ok 1, (s', h.withUid x.uuid)) := by
  rw [iso15693AcLoop, if_pos hsingle, bind_run, iso15693Slots_one hx]
  by_cases hneg : x.ret < 0
  · rw [if_pos hneg, if_pos hneg]
    rfl
  · rw [if_neg hneg, if_neg hneg]
    by_cases hcol : x.bitOfCol ≠ 0
    · have hboc : (if x.bitOfCol > 16 then x.bitOfCol - 16 else x.bitOfCol) = uidPos x.bitOfCol := rfl
      rw [if_pos hcol]
      dsimp only [firstCollided]
      rw [hboc]
      by_cases hpos : uidPos x.bitOfCol < 65
      · rw [if_pos hpos, if_pos ⟨hcol, hpos⟩]
      · rw [if_neg hpos, if_neg fun h => hpos h.2]
        rfl
    · rw [if_neg hcol, if_neg fun h => hcol h.1]
      rfl

theorem acLoop_step (hr : Reports r T) (hsingle : h.singleSlot) (fuel : Nat) (acf : Mem UInt8)
    (txLen : Nat) (boc : UInt8) (s : σ) :
    ∃ s', iso15693AcLoop r h (fuel + 1) acf txLen boc (s, h) =
      match T.filter fun v => v.Answers acf txLen with
      | [] => (.ok (-1), (s', h))
      | v :: S =>
        match collision (v :: S) with
        | none => (.ok 1, (s', h.withUid v.uidBytes))
        | some i =>
          let x := iso15693BuildAcf acf (iso15693AnticolFlags h) h.afi
            (uidPos (UInt8.ofNat (i + 1)) + 1) (respUuid (received v i))
          iso15693AcLoop r h fuel x.1 x.2 0 (s', h) := by
  obtain ⟨s', hs⟩ := hr acf txLen 10 boc s
  have hans : inventoryAnswer T acf txLen 10 boc =
      match T.filter fun v => v.Answers acf txLen with
      | [] => ⟨-eTimedOut, 10, [], boc⟩
      | v :: S =>
        match collision (v :: S) with
        | none => ⟨0, 10, received v responseBits, 0⟩
        | some i => ⟨0, 10, received v i, UInt8.ofNat (i + 1)⟩ := rfl
  refine ⟨s', (acLoop_answer hsingle fuel hs).trans ?_⟩
  cases hS : T.filter fun v => v.Answers acf txLen with
  | nil =>
    rw [hS] at hans
    rw [hans]
    rfl
  | cons v S =>
    rw [hS] at hans
    dsimp only at hans ⊢
    cases hcol : collision (v :: S) with
    | none =>
      rw [hcol] at hans
      dsimp only at hans ⊢
      rw [hans, if_neg (Int.lt_irrefl 0), if_neg fun h => h.1 rfl, uuid_received]
    | some i =>
      rw [hcol] at hans
      dsimp only at hans ⊢
      have hi := (collision_spec hcol).2
      have hne : UInt8.ofNat (i + 1) ≠ 0 := fun h0 => by
        have := congrArg UInt8.toNat h0
        rw [UInt8.toNat_ofNat_of_lt' (show i + 1 < 2 ^ 8 by omega)] at this
        exact absurd this (Nat.succ_ne_zero i)
      have hlt : uidPos (UInt8.ofNat (i + 1)) < 65 := by
        have h65 : (65 : UInt8).toNat = 65 := rfl
        rw [UInt8.lt_iff_toNat_lt, uidPos_eq hi, h65, collPos]
        split_ifs <;> omega
      rw [hans, if_neg (Int.lt_irrefl 0), if_pos ⟨hne, hlt⟩]

theorem eq_single {v : Vicc} {S : List Vicc} (hdist : (v :: S).Pairwise fun v w => v.uid ≠ w.uid)
    (hcol : collision (v :: S) = none) : S = [] := by
  cases S with
  | nil => rfl
  | cons w S =>
    have hne : v.uid ≠ w.uid := (List.pairwise_cons.mp hdist).1 w List.mem_cons_self
    refine absurd (UInt64.toNat_inj.mp (Nat.eq_of_testBit_eq fun b => ?_)) hne
    by_cases hb : b < 64
    · have hnone := List.find?_eq_none.mp hcol (16 + b) (List.mem_range.mpr (by rw [responseBits]; omega))
      simp only [decide_eq_true_eq, not_exists, not_and, not_not] at hnone
      have hbit := hnone v List.mem_cons_self w (List.mem_cons_of_mem _ List.mem_cons_self)
      rwa [Vicc.bit, Vicc.bit, if_neg (by omega), if_neg (by omega), if_neg (by omega),
        if_neg (by omega), Nat.add_sub_cancel_left] at hbit
    · have hge : 2 ^ 64 ≤ 2 ^ b := Nat.pow_le_pow_right (by decide) (Nat.not_lt.mp hb)
      rw [Nat.testBit_lt_two_pow (Nat.lt_of_lt_of_le v.uid.toNat_lt hge),
        Nat.testBit_lt_two_pow (Nat.lt_of_lt_of_le w.uid.toNat_lt hge)]

theorem narrows_of_ok (hr : Reports r T) (hsingle : h.singleSlot)
    (hdist : T.Pairwise fun v w => v.uid ≠ w.uid) (fuel : Nat) (acf : Mem UInt8) (txLen : Nat)
    (boc : UInt8) (s : σ) {s' : σ × Iso15693Handle}
    (hok : iso15693AcLoop r h fuel acf txLen boc (s, h) = (.ok 1, s')) :
    Narrows T (T.filter fun v => v.Answers acf txLen) := by
  induction fuel generalizing acf txLen boc s with
  | zero => cases hok
  | succ fuel ih =>
    obtain ⟨s₁, hstep⟩ := acLoop_step hr hsingle fuel acf txLen boc s
    rw [hstep] at hok
    have hsub := hdist.filter fun v => v.Answers acf txLen
    cases hS : T.filter fun v => v.Answers acf txLen with
    | nil =>
      rw [hS] at hok
      cases hok
    | cons v S =>
      rw [hS] at hok hsub
      dsimp only at hok
      cases hcol : collision (v :: S) with
      | none =>
        rw [eq_single hsub hcol]
        exact .single v
      | some i =>
        rw [hcol] at hok
        have hnext := ih _ _ _ _ hok
        rw [filter_answers acf _ _ v S (collision_spec hcol)] at hnext
        exact .collided hcol hnext

theorem ok_of_narrows (hr : Reports r T) (hsingle : h.singleSlot) {S : List Vicc}
    (hnarrows : Narrows T S) {acf : Mem UInt8} {txLen : Nat}
    (hS : T.filter (fun v => v.Answers acf txLen) = S) :
    ∃ n, ∀ fuel, n ≤ fuel → ∀ boc s, ∃ v ∈ T, ∃ s',
      iso15693AcLoop r h fuel acf txLen boc (s, h) = (.ok 1, (s', h.withUid v.uidBytes)) := by
  induction hnarrows generalizing acf txLen with
  | single v =>
    refine ⟨1, fun fuel hfuel boc s => ?_⟩
    obtain ⟨fuel, rfl⟩ := Nat.exists_eq_add_of_le' hfuel
    obtain ⟨s', hstep⟩ := acLoop_step hr hsingle fuel acf txLen boc s
    have hmem : v ∈ T.filter fun v => v.Answers acf txLen := hS ▸ List.mem_singleton_self v
    rw [hS] at hstep
    dsimp only at hstep
    rw [collision_single] at hstep
    exact ⟨v, (List.mem_filter.mp hmem).1, s', hstep⟩
  | @collided S i hcol _ ih =>
    cases S with
    | nil => exact absurd hcol (by simp [collision])
    | cons v S =>
      obtain ⟨n, hn⟩ := ih (filter_answers acf (iso15693AnticolFlags h) h.afi v S (collision_spec hcol))
      refine ⟨n + 1, fun fuel hfuel boc s => ?_⟩
      obtain ⟨fuel, rfl⟩ := Nat.exists_eq_add_of_le' (Nat.le_of_add_left_le hfuel)
      obtain ⟨s', hstep⟩ := acLoop_step hr hsingle fuel acf txLen boc s
      rw [hS] at hstep
      dsimp only at hstep
      rw [hcol] at hstep
      rw [hstep]
      exact hn fuel (Nat.le_of_succ_le_succ hfuel) 0 s'

/-- With one slot and every VICC in the field answering, the handle gets the UID of one of them. -/
theorem findsTag_iff (hr : Reports r T) (hsingle : h.singleSlot)
    (hdist : T.Pairwise fun v w => v.uid ≠ w.uid) (stack : Mem UInt8) (boc : UInt8) (s : σ) :
    Returns (fun w => w = (s, h)) (iso15693Anticol r stack boc)
        (fun ret w => ret = 1 ∧ ∃ v ∈ T, w.2.uidBytes = v.uidBytes) ↔ Narrows T T := by
  have hrun : ∀ fuel, iso15693Anticol r stack boc fuel (s, h) =
      iso15693AcLoop r h fuel (iso15693BuildAcf stack (iso15693AnticolFlags h) h.afi 0 fun _ => 0).1
        (iso15693BuildAcf stack (iso15693AnticolFlags h) h.afi 0 fun _ => 0).2 boc (s, h) :=
    fun _ => rfl
  have hall : T.filter (fun v => v.Answers
      (iso15693BuildAcf stack (iso15693AnticolFlags h) h.afi 0 fun _ => 0).1
      (iso15693BuildAcf stack (iso15693AnticolFlags h) h.afi 0 fun _ => 0).2) = T :=
    List.filter_eq_self.mpr fun v _ => decide_eq_true (answers_empty _ _ _ _ v)
  constructor
  · rintro ⟨n, hn⟩
    obtain ⟨ret, w, hok, rfl, -⟩ := hn n (Nat.le_refl n) (s, h) rfl
    rw [hrun] at hok
    have := narrows_of_ok hr hsingle hdist n _ _ boc s hok
    rwa [hall] at this
  · intro hnarrows
    obtain ⟨n, hn⟩ := ok_of_narrows hr hsingle hnarrows hall
    refine ⟨n, fun fuel hfuel => ?_⟩
    rintro _ rfl
    obtain ⟨v, hv, s', hok⟩ := hn fuel hfuel boc s
    exact ⟨1, _, (hrun fuel).trans hok, rfl, v, hv, withUid_uidBytes h v.length_uidBytes⟩

end Run

/-- What the chip reports of an inventory frame: the return value of `rc632_transceive`, and the
error flags as they are read after it. -/
structure AcOutcome where
  ret : Int
  errorFlag : UInt8

def acOutcome {σ : Type} (a : Asic σ) (acf : Mem UInt8) (acfLen rxLen : Nat) (_ : UInt8) (s : σ) :
    AcOutcome :=
  let fast : Bool := acf 0 &&& rfid15693FRateHigh ≠ 0
  let (o, s) := a.transceive acf (UInt8.ofNat acfLen) (UInt8.ofNat rxLen) (iso15693TimingT1 fast) s
  ⟨match o with
    | .ok x => x.ret
    | _ => -1, (a.readReg regErrorFlag s).1.2⟩

namespace AcOutcome

def ErrorFree (o : AcOutcome) : Prop :=
  0 ≤ o.ret ∧ o.errorFlag &&&
    (errFlagColErr ||| errFlagParityErr ||| errFlagFramingErr ||| errFlagCrcErr) = 0

def Passed (o : AcOutcome) : Prop :=
  0 ≤ o.ret ∧ o.errorFlag &&& (errFlagColErr ||| errFlagParityErr ||| errFlagFramingErr) = 0

end AcOutcome

section Errors

theorem read_ok {σ : Type} {b : Bus σ} {reg val : UInt8} {s s' : σ}
    (h : b.read reg s = (.ok val, s')) : val = (b.readReg reg s).1.2 := by
  obtain ⟨⟨ret, val'⟩, s₁, hr, h⟩ := of_bind_ok h
  obtain ⟨_, _, -, h⟩ := of_bind_ok h
  cases h
  have hrun : (Outcome.ok (b.readReg reg s).1, (b.readReg reg s).2) = (.ok (ret, val), s₁) := hr
  simp only [Prod.mk.injEq, Outcome.ok.injEq] at hrun
  rw [hrun.1]

variable {σ : Type} (a : Asic σ)

def Belongs (e : AcOutcome × AcResult) : Prop :=
  0 ≤ e.2.ret → (e.1.Passed → e.1.ErrorFree)

theorem belongs_transceiveAc (acf : Mem UInt8) (acfLen rxLen : Nat) (boc : UInt8) {s s' : σ}
    {x : AcResult} (hx : rc632Iso15693TransceiveAc a acf acfLen rxLen boc s = (.ok x, s')) :
    Belongs (acOutcome a acf acfLen rxLen boc s, x) := by
  intro hret hpassed
  refine ⟨hpassed.1, ?_⟩
  obtain ⟨xfer, s₁, hxfer, hrest⟩ := of_bind_ok hx
  have hflag : (acOutcome a acf acfLen rxLen boc s).errorFlag = (a.readReg regErrorFlag s₁).1.2 := by
    rw [acOutcome, hxfer]
  have hmask := hpassed.2
  rw [hflag] at hmask ⊢
  by_cases hcode : xfer.ret = -eTimedOut ∨ xfer.ret = - eIO
  · rw [if_pos hcode] at hrest
    cases hrest
    change 0 ≤ xfer.ret at hret
    have hneg : -eTimedOut < 0 ∧ - eIO < 0 := by decide
    omega
  · rw [if_neg hcode] at hrest
    obtain ⟨y, s₂, hread, hrest⟩ := of_bind_ok hrest
    cases y with
    | error ret =>
      cases hrest
      have hneg := read_errs a.toBus regErrorFlag s₁ ret (congrArg Prod.fst (of_attempt_error hread))
      exact absurd hret (Int.not_le.mpr hneg)
    | ok errorFlag =>
      obtain rfl : errorFlag = (a.readReg regErrorFlag s₁).1.2 := read_ok (of_attempt_ok hread)
      have hcol : ¬ (a.readReg regErrorFlag s₁).1.2 &&& errFlagColErr ≠ 0 :=
        not_not.mpr (Bits.and_or_eq_zero.mp (Bits.and_or_eq_zero.mp hmask).1).1
      dsimp only at hrest
      rw [if_neg hcol] at hrest
      by_cases hcrc : (a.readReg regErrorFlag s₁).1.2 &&& errFlagCrcErr ≠ 0
      · rw [if_pos hcrc] at hrest
        cases hrest
        have hneg : ¬ 0 ≤ - eIO := by decide
        exact absurd hret hneg
      · exact Bits.and_or_eq_zero.mpr ⟨hmask, not_not.mp hcrc⟩

theorem belongs_logging (acf : Mem UInt8) (n m : Nat) (boc : UInt8) :
    Exec.Keeps (fun s : σ × AirLog AcOutcome => ∀ e ∈ s.2.ac, Belongs e)
      (((Iso15693Reader.ofAsic a).logging (acOutcome a)).transceiveAc acf n m boc) := by
  rintro ⟨s, log⟩ hlog
  simp only [Iso15693Reader.logging, Iso15693Reader.ofAsic]
  rcases hx : rc632Iso15693TransceiveAc a acf n m boc s with ⟨_ | _ | _, s'⟩
  · rw [List.forall_mem_append]
    exact ⟨hlog, List.forall_mem_singleton.mpr (belongs_transceiveAc a acf n m boc hx)⟩
  · exact hlog
  · exact hlog

/-- Whatever the chip reports: when a UID is found, the answer that it was taken from was received
without any error exactly if it was received without those that are not looked at. -/
theorem errorFree_iff (stack : Mem UInt8) (boc : UInt8) (fuel : Nat) (h : Iso15693Handle) (s : σ)
    {w : (σ × AirLog AcOutcome) × Iso15693Handle} :
    iso15693Anticol ((Iso15693Reader.ofAsic a).logging (acOutcome a)) stack boc fuel
        ((s, .empty), h) = (.ok 1, w) →
      ∃ e, takenFrom h.slots w.1.2.ac = some e ∧ (e.1.ErrorFree ↔ e.1.Passed) := by
  intro hrun
  have hdone := iso15693Anticol_spec (Iso15693Reader.ofAsic a) (acOutcome a) h stack boc fuel
    ((s, .empty), h) rfl
  have hlog := iso15693Anticol_keeps (r := (Iso15693Reader.ofAsic a).logging (acOutcome a))
    (I := fun s => ∀ e ∈ s.2.ac, Belongs e) (belongs_logging a) stack boc fuel ((s, .empty), h) nofun
  rw [hrun] at hdone hlog
  obtain ⟨-, e, htaken, -⟩ | ⟨habsurd, -⟩ := hdone
  · obtain ⟨hmem, hret⟩ := takenFrom_mem htaken
    refine ⟨e, htaken, fun hfree => ⟨hfree.1, ?_⟩, hlog e hmem hret⟩
    exact (Bits.and_or_eq_zero.mp hfree.2).1
  · exact absurd habsurd (by decide)

end Errors

/-- A UID of the field is found exactly if the rounds narrow it down, and an answer with a UID is
without error exactly if it is without the errors that are not looked at. -/
theorem inventory_iff {σ : Type} (r : Iso15693Reader σ) (T : List Vicc) (h : Iso15693Handle)
    (stack : Mem UInt8) (boc : UInt8) :
    (Reports r T → h.singleSlot → T.Pairwise (fun v w => v.uid ≠ w.uid) → ∀ s : σ,
        (Returns (fun w => w = (s, h)) (iso15693Anticol r stack boc)
          (fun ret w => ret = 1 ∧ ∃ v ∈ T, w.2.uidBytes = v.uidBytes) ↔ Narrows T T)) ∧
      ∀ {τ : Type} (a : Asic τ) (fuel : Nat) (s : τ) (w : (τ × AirLog AcOutcome) × Iso15693Handle),
        iso15693Anticol ((Iso15693Reader.ofAsic a).logging (acOutcome a)) stack boc fuel
            ((s, .empty), h) = (.ok 1, w) →
          ∃ e, takenFrom h.slots w.1.2.ac = some e ∧ (e.1.ErrorFree ↔ e.1.Passed) :=
  ⟨fun hr hsingle hdist => findsTag_iff hr hsingle hdist stack boc,
    fun a fuel s _ => errorFree_iff a stack boc fuel h s⟩

def viccReader (T : List Vicc) : Iso15693Reader Unit where
  transceive _ _ _ rx rxLen _ := pure ⟨-eTimedOut, rxLen, rx⟩
  transceiveAc acf len n boc := pure (inventoryAnswer T acf len n boc)

theorem inventory_iff_two :
    Returns (fun w => w = ((), initHandle15693))
        (iso15693Anticol (viccReader [⟨0x00, 0⟩, ⟨0x01, 0⟩]) (fun _ => 0) 0)
        (fun ret w => ret = 1 ∧ ∃ v ∈ [⟨0x00, 0⟩, ⟨0x01, 0⟩], w.2.uidBytes = Vicc.uidBytes v) ↔
      Narrows [⟨0x00, 0⟩, ⟨0x01, 0⟩] [⟨0x00, 0⟩, ⟨0x01, 0⟩] :=
  (inventory_iff (viccReader [⟨0x00, 0⟩, ⟨0x01, 0⟩]) _ initHandle15693 _ _).1
    (fun _ _ _ _ s => ⟨s, rfl⟩) rfl (by decide) _

theorem not_narrows_nil (T : List Vicc) : ¬ Narrows T [] := by
  intro h
  generalize hS : ([] : List Vicc) = S at h
  cases h with
  | single v => cases hS
  | collided hi =>
    subst hS
    exact absurd hi (by simp [collision])

/-- The UIDs differ in their eighth bit: the next mask has nine bits, and nothing answers it. -/
theorem inventory_eighthBit :
    ¬ Returns (fun w => w = ((), initHandle15693))
        (iso15693Anticol (viccReader [⟨0x00, 0⟩, ⟨0x80, 0⟩]) (fun _ => 0) 0)
        (fun ret w => ret = 1 ∧ ∃ v ∈ [⟨0x00, 0⟩, ⟨0x80, 0⟩], w.2.uidBytes = Vicc.uidBytes v) := by
  have hcol : collision [⟨0x00, 0⟩, ⟨0x80, 0⟩] = some 23 := by decide +kernel
  intro h
  have hnarrows := (findsTag_iff (r := viccReader [⟨0x00, 0⟩, ⟨0x80, 0⟩]) (fun _ _ _ _ s => ⟨s, rfl⟩)
    rfl (by decide) _ _ _).mp h
  cases hnarrows with
  | collided hi hnext =>
    obtain rfl := Option.some.inj (hi.symm.trans hcol)
    exact not_narrows_nil _ hnext

end Librfid.Layer2
