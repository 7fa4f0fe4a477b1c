import Librfid.Lib.Bits
import Librfid.Rc632.Reader

/-! Mifare Ultralight: `rfid_proto_mifare_ul.c`, and the lock bytes of a tag. -/

namespace Librfid.Proto

open Rc632 Exec

def mifareUlReadFwt : Nat := 100
def mifareUlWriteFwt : Nat := 100

def mifareUlCmdWrite : UInt8 := 0xa2
def mifareUlCmdRead : UInt8 := 0x30
def mifareUlRespAck : UInt8 := 0x0a

def mifareUlPageMax : Nat := 15
def mifareUlPageLock : Nat := 2
def mifareUlPageOtp : Nat := 3

structure MfulReadResult where
  ret : Int
  rxData : Mem UInt8
  rxLen : Nat

def mfulWriteFrame (page : Nat) (txData : List UInt8) : List UInt8 :=
  mifareUlCmdWrite :: UInt8.ofNat (page &&& 0xff) :: txData

/-- `1 << n` in an `unsigned char`; `undef` is what a shift by the width of an `int` or more
leaves there. -/
def shiftedOne (undef : UInt8) (n : Nat) : UInt8 := if n < 32 then UInt8.ofNat (1 <<< n) else undef

def mfulLockBuf (undef : UInt8) (page : Nat) : List UInt8 :=
  if page > 8 then [0x00, 0x00, shiftedOne undef page, 0x00]
  else [0x00, 0x00, 0x00, shiftedOne undef (u32Sub page 8)]

section

variable {σ : Type} (r : Reader σ)

def mfulRead (stack : Mem UInt8) (page : Nat) (rxData : Mem UInt8) (rxLen : Nat) :
    Exec σ MfulReadResult :=
  if page > mifareUlPageMax then pure ⟨-eInval, rxData, rxLen⟩
  else do
    let tx := Mem.ofList (fun _ => 0) [mifareUlCmdRead, UInt8.ofNat (page &&& 0xff)]
    let x ← r.transceive .iso14443aFrameRegular tx 2 stack 16 mifareUlReadFwt
    if x.ret < 0 then pure ⟨x.ret, rxData, rxLen⟩
    else
      let rxLen := if x.rxLen < rxLen then x.rxLen else rxLen
      pure ⟨x.ret, rxData.store 0 (x.rx.load 0 rxLen), rxLen⟩

def mfulWrite (stack : Mem UInt8) (page : Nat) (txData : List UInt8) : Exec σ Int :=
  if txData.length ≠ 4 ∨ page > mifareUlPageMax then pure (-eInval)
  else do
    let x ← r.transceive .iso14443aFrameRegular
      (Mem.ofList (fun _ => 0) (mfulWriteFrame page txData)) 6 stack 10 mifareUlWriteFwt
    if x.ret < 0 then pure x.ret
    else if x.rx 0 ≠ mifareUlRespAck then pure (- eIO)
    else pure x.ret

/-- `mful` says whether the handle is one of this protocol. -/
def rfidMfulLockPage (undef : UInt8) (stack : Mem UInt8) (mful : Bool) (page : Nat) : Exec σ Int :=
  if ¬ mful then pure (-eInval)
  else if page < 3 ∨ page > 15 then pure (-eInval)
  else mfulWrite r stack mifareUlPageLock (mfulLockBuf undef page)

def rfidMfulLockOtp (undef : UInt8) (stack : Mem UInt8) (mful : Bool) : Exec σ Int :=
  rfidMfulLockPage r undef stack mful mifareUlPageOtp

def lockPages (undef : UInt8) (stack : Mem UInt8) (mful : Bool) : List Nat → Exec σ Unit
  | [] => pure ()
  | page :: pages => do
    let ret ← rfidMfulLockPage r undef stack mful page
    check ret
    lockPages undef stack mful pages

end

structure LockBytes where
  lock0 : UInt8
  lock1 : UInt8

namespace LockBytes

def Locked (l : LockBytes) (page : Nat) : Prop :=
  if page < 8 then 3 ≤ page ∧ Bits.bit l.lock0 page else Bits.bit l.lock1 (page - 8)

def write (l : LockBytes) (byte2 byte3 : UInt8) : LockBytes := ⟨l.lock0 ||| byte2, l.lock1 ||| byte3⟩

variable (l : LockBytes)

theorem locked_of_lt {page : Nat} (h : page < 8) :
    l.Locked page ↔ 3 ≤ page ∧ Bits.bit l.lock0 page := by
  rw [Locked, if_pos h]

theorem locked_of_ge {page : Nat} (h : 8 ≤ page) :
    l.Locked page ↔ Bits.bit l.lock1 (page - 8) := by
  rw [Locked, if_neg (Nat.not_lt.mpr h)]

theorem locked_write (byte2 byte3 : UInt8) (page : Nat) :
    (l.write byte2 byte3).Locked page ↔ l.Locked page ∨ (⟨byte2, byte3⟩ : LockBytes).Locked page := by
  rcases Nat.lt_or_ge page 8 with h | h
  · simp only [locked_of_lt _ h, write, Bits.bit_or, Bool.or_eq_true]
    exact and_or_left
  · simp only [locked_of_ge _ h, write, Bits.bit_or, Bool.or_eq_true]

end LockBytes

/-- The pages that the bytes of one call lock. -/
def Written (undef : UInt8) (page q : Nat) : Prop :=
  (page = 8 ∧ q = 8) ∨ (page < 8 ∧ 8 ≤ q ∧ Bits.bit undef (q - 8))

theorem locked_lockBuf (undef : UInt8) {page : Nat} (hpage : page ≤ 15) (q : Nat) :
    ∃ byte2 byte3, mfulLockBuf undef page = [0x00, 0x00, byte2, byte3] ∧
      ((⟨byte2, byte3⟩ : LockBytes).Locked q ↔ Written undef page q) := by
  unfold mfulLockBuf
  split_ifs with hgt
  · refine ⟨_, _, rfl, ?_⟩
    have hzero : shiftedOne undef page = 0 := by
      rw [shiftedOne, if_pos (Nat.lt_of_le_of_lt hpage (by decide))]
      apply Bits.ext
      intro i hi
      rw [Bits.bit_ofNat _ hi, Bits.bit_zero, Nat.one_shiftLeft, Nat.testBit_two_pow]
      exact decide_eq_false (by omega)
    have hclear : ¬ (⟨0, 0⟩ : LockBytes).Locked q := by
      simp [LockBytes.Locked]
    rw [hzero]
    refine iff_of_false hclear ?_
    rintro (⟨rfl, -⟩ | ⟨hlt, -⟩) <;> omega
  · refine ⟨_, _, rfl, ?_⟩
    rcases Nat.eq_or_lt_of_le (Nat.not_lt.mp hgt) with rfl | hlt
    · have hone : shiftedOne undef (u32Sub 8 8) = 1 := rfl
      have hbit : ∀ i, Bits.bit 1 i ↔ i = 0 := fun i => by
        simp [Bits.bit, Nat.testBit_one_eq_true_iff_self_eq_zero]
      rw [hone]
      rcases Nat.lt_or_ge q 8 with hq | hq
      · rw [LockBytes.locked_of_lt _ hq, Bits.bit_zero]
        apply iff_of_false
        · exact fun h => absurd h.2 Bool.false_ne_true
        · rintro (⟨-, rfl⟩ | ⟨hlt, -⟩) <;> omega
      · rw [LockBytes.locked_of_ge _ hq, hbit]
        constructor
        · exact fun h => .inl ⟨rfl, by omega⟩
        · rintro (⟨-, rfl⟩ | ⟨hlt, -⟩) <;> omega
    · have hundef : shiftedOne undef (u32Sub page 8) = undef := by
        rw [u32Sub_of_lt hlt, shiftedOne, if_neg (by omega)]
      rw [hundef]
      rcases Nat.lt_or_ge q 8 with hq | hq
      · rw [LockBytes.locked_of_lt _ hq, Bits.bit_zero]
        apply iff_of_false
        · exact fun h => absurd h.2 Bool.false_ne_true
        · rintro (⟨rfl, -⟩ | ⟨-, hge, -⟩) <;> omega
      · rw [LockBytes.locked_of_ge _ hq]
        constructor
        · exact fun h => .inr ⟨hlt, hq, h⟩
        · rintro (⟨rfl, -⟩ | ⟨-, -, h⟩)
          · exact absurd hlt (by decide)
          · exact h

/-- A tag sets its lock bits when it acknowledges a write to their page. -/
structure LockTag {σ : Type} (r : Reader σ) (locks : σ → LockBytes) : Prop where
  acked : ∀ {byte0 byte1 byte2 byte3 : UInt8} {rx : Mem UInt8} {rxLen timeout : Nat} {s s' : σ}
    {x : AbResult},
    r.transceive .iso14443aFrameRegular (Mem.ofList (fun _ => 0)
      (mfulWriteFrame mifareUlPageLock [byte0, byte1, byte2, byte3])) 6 rx rxLen timeout s = (.ok x, s') →
    0 ≤ x.ret → x.rx 0 = mifareUlRespAck → locks s' = (locks s).write byte2 byte3

section

variable {σ : Type} {r : Reader σ} {locks : σ → LockBytes} (tag : LockTag r locks) {undef : UInt8}
  {stack : Mem UInt8} {mful : Bool}

include tag

theorem rfidMfulLockPage_locked {page : Nat} {ret : Int} {s s' : σ}
    (h : rfidMfulLockPage r undef stack mful page s = (.ok ret, s')) (hret : 0 ≤ ret) (q : Nat) :
    3 ≤ page ∧ page ≤ 15 ∧ ((locks s').Locked q ↔ (locks s).Locked q ∨ Written undef page q) := by
  have hinval : ∀ {s : σ}, (pure (-eInval) : Exec σ Int) s ≠ (.ok ret, s') := fun hpure => by
    cases hpure
    exact absurd hret (by decide)
  by_cases hmful : mful
  · rw [rfidMfulLockPage, if_neg (not_not.mpr hmful)] at h
    by_cases hrange : page < 3 ∨ page > 15
    · rw [if_pos hrange] at h
      exact absurd h hinval
    · obtain ⟨hlow, hhigh⟩ : 3 ≤ page ∧ page ≤ 15 := by omega
      refine ⟨hlow, hhigh, ?_⟩
      obtain ⟨byte2, byte3, hbuf, hlocked⟩ := locked_lockBuf undef hhigh q
      have hvalid : ¬ ([0x00, 0x00, byte2, byte3].length ≠ 4 ∨ mifareUlPageLock > mifareUlPageMax) :=
        not_or.mpr ⟨not_not.mpr rfl, by decide⟩
      rw [if_neg hrange, hbuf, mfulWrite, if_neg hvalid] at h
      obtain ⟨x, s₁, hx, h⟩ := of_bind_ok h
      by_cases hneg : x.ret < 0
      · rw [if_pos hneg] at h
        cases h
        exact absurd hret (by omega)
      rw [if_neg hneg] at h
      by_cases hack : x.rx 0 = mifareUlRespAck
      · rw [if_neg (not_not.mpr hack)] at h
        cases h
        rw [tag.acked hx hret hack, LockBytes.locked_write, hlocked]
      · rw [if_pos hack] at h
        cases h
        exact absurd hret (by decide)
  · rw [rfidMfulLockPage, if_pos hmful] at h
    exact absurd h hinval

theorem lockPages_locked {pages : List Nat} {s s' : σ}
    (h : lockPages r undef stack mful pages s = (.ok (), s')) (q : Nat) :
    (∀ page ∈ pages, 3 ≤ page ∧ page ≤ 15) ∧
      ((locks s').Locked q ↔ (locks s).Locked q ∨ ∃ page ∈ pages, Written undef page q) := by
  induction pages generalizing s with
  | nil =>
    cases h
    simp
  | cons page pages ih =>
    obtain ⟨ret, s₁, hcall, h⟩ := of_bind_ok h
    obtain ⟨u, s₂, hcheck, h⟩ := of_bind_ok h
    obtain ⟨hret, rfl⟩ := of_check_ok hcheck
    obtain ⟨hlow, hhigh, hpage⟩ := rfidMfulLockPage_locked tag hcall hret q
    obtain ⟨hrange, hpages⟩ := ih h
    constructor
    · exact List.forall_mem_cons.mpr ⟨⟨hlow, hhigh⟩, hrange⟩
    · simp only [hpages, hpage, List.mem_cons, exists_eq_or_imp, or_assoc]

/-- Only page 8 is locked by a call for it.  So the pages locked afterwards are those from before
and the requested ones, whatever the undefined shift gives, exactly when all others were locked
already, together with those that a call for a page below 8 may lock by chance. -/
theorem lockPages_exact_iff {pages : List Nat} {s : σ}
    (hsucc : ∀ undef, ∃ s', lockPages r undef stack mful pages s = (.ok (), s')) :
    ((∀ undef s', lockPages r undef stack mful pages s = (.ok (), s') →
        ∀ q, (locks s').Locked q ↔ (locks s).Locked q ∨ q ∈ pages) ↔
      (∀ page ∈ pages, page = 8 ∨ (locks s).Locked page) ∧
        ((∃ page ∈ pages, page < 8) → ∀ q, 8 ≤ q → q ≤ 15 → (locks s).Locked q ∨ q ∈ pages)) ∧
      ∀ undef ret s', rfidMfulLockOtp r undef stack mful s = (.ok ret, s') → 0 ≤ ret →
        ((locks s').Locked mifareUlPageOtp ↔ (locks s).Locked mifareUlPageOtp) := by
  refine ⟨⟨fun h => ⟨fun page hpage => ?_, fun hbelow q hlow hhigh => ?_⟩, ?_⟩, ?_⟩
  · obtain ⟨s', hrun⟩ := hsucc 0
    have hafter := (h 0 s' hrun page).mpr (.inr hpage)
    rw [(lockPages_locked tag hrun page).2] at hafter
    rcases hafter with hbefore | ⟨_, -, ⟨-, height⟩ | ⟨-, -, hbit⟩⟩
    · exact .inr hbefore
    · exact .inl height
    · rw [Bits.bit_zero] at hbit
      cases hbit
  · obtain ⟨page, hpage, hlt⟩ := hbelow
    obtain ⟨s', hrun⟩ := hsucc 0xff
    apply (h 0xff s' hrun q).mp
    apply (lockPages_locked tag hrun q).2.mpr
    have hall : ∀ i < 8, Bits.bit 0xff i := by decide
    exact .inr ⟨page, hpage, .inr ⟨hlt, hlow, hall _ (by omega)⟩⟩
  · rintro ⟨hothers, hbelow⟩ undef s' hrun q
    rw [(lockPages_locked tag hrun q).2]
    constructor
    · rintro (hbefore | ⟨page, hpage, ⟨rfl, rfl⟩ | ⟨hlt, hge, hbit⟩⟩)
      · exact .inl hbefore
      · exact .inr hpage
      · have hhigh : q - 8 < 8 := by
          by_contra hout
          rw [Bits.bit_of_ge undef (Nat.not_lt.mp hout)] at hbit
          cases hbit
        exact hbelow ⟨page, hpage, hlt⟩ q hge (by omega)
    · rintro (hbefore | hq)
      · exact .inl hbefore
      · rcases hothers q hq with rfl | hbefore
        · exact .inr ⟨8, hq, .inl ⟨rfl, rfl⟩⟩
        · exact .inl hbefore
  · intro undef ret s' hrun hret
    rw [(rfidMfulLockPage_locked tag hrun hret mifareUlPageOtp).2.2]
    apply or_iff_left
    rintro (⟨h, -⟩ | ⟨-, h, -⟩)
    · exact absurd h (by decide)
    · exact absurd h (by decide)

end

def lockTag : Reader LockBytes where
  transceive _ tx _ rx rxLen _ l :=
    if tx 0 = mifareUlCmdWrite ∧ tx 1 = 0x02 then
      (.ok ⟨0, 1, rx.set 0 mifareUlRespAck⟩, l.write (tx 4) (tx 5))
    else (.ok ⟨-eTimedOut, rxLen, rx⟩, l)
  init := pure ()
  transceiveSf _ atqa := pure ⟨-eTimedOut, atqa⟩
  transceiveAcf acf := pure ⟨-eTimedOut, acf, iso14443aBitOfColNone⟩
  speed := rfid14443aSpeed106k
  setSpeed _ _ := pure ()

theorem lockTag_acked : LockTag lockTag id where
  acked := by
    intro byte0 byte1 byte2 byte3 rx rxLen timeout s s' x h hret hack
    cases h
    rfl

theorem lockPages_exact_eight :
    (∃ s', lockPages lockTag 0 (fun _ => 0) true [8, 8] ⟨0, 0⟩ = (.ok (), s')) ∧
      ∀ undef s', lockPages lockTag undef (fun _ => 0) true [8, 8] ⟨0, 0⟩ = (.ok (), s') →
        ∀ q, s'.Locked q ↔ (⟨0, 0⟩ : LockBytes).Locked q ∨ q ∈ [8, 8] := by
  have hsucc : ∀ undef, ∃ s', lockPages lockTag undef (fun _ => 0) true [8, 8] ⟨0, 0⟩ = (.ok (), s') :=
    fun undef => ⟨_, rfl⟩
  refine ⟨hsucc 0, (lockPages_exact_iff lockTag_acked hsucc).1.mpr ⟨?_, ?_⟩⟩
  · simp
  · simp

/-- Calls for page 9 and for the OTP page succeed and lock nothing. -/
theorem lockPages_nothing :
    (∃ s', lockPages lockTag 0 (fun _ => 0) true [9] ⟨0, 0⟩ = (.ok (), s') ∧ ¬ s'.Locked 9) ∧
      ∃ s', rfidMfulLockOtp lockTag 0 (fun _ => 0) true ⟨0, 0⟩ = (.ok 0, s') ∧
        ¬ s'.Locked mifareUlPageOtp := by
  refine ⟨⟨_, rfl, ?_⟩, _, rfl, ?_⟩
  · rw [LockBytes.locked_of_ge _ (by decide)]
    decide
  · rw [LockBytes.locked_of_lt _ (by decide)]
    decide

end Librfid.Proto
