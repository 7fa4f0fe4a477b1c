import Librfid.Proto.Crypto

namespace Librfid.Proto

open Rc632 Layer2 Exec

inductive MfclCall
  | setKey (key : List UInt8)
  | auth (cmd block : UInt8)
  | read (page : Nat) (rxData : Mem UInt8) (rxLen : Nat)
  | write (page : Nat) (txData : List UInt8)

inductive MfclAnswer
  | ret (ret : Int)
  | read (x : MfclReadResult)

section

variable {σ : Type} (r : MifareReader σ) (stack : Mem UInt8) (hd : Handle)

def MfclCall.run : MfclCall → Exec σ MfclAnswer
  | .setKey key => do
    let ret ← mfclSetKey r key
    pure (.ret ret)
  | .auth cmd block => do
    let ret ← mfclAuth r hd cmd block
    pure (.ret ret)
  | .read page rxData rxLen => do
    let x ← mfclRead r stack page rxData rxLen
    pure (.read x)
  | .write page txData => do
    let ret ← mfclWrite r stack page txData
    pure (.ret ret)

def mfclCalls : List MfclCall → Exec σ (List MfclAnswer)
  | [] => pure []
  | c :: calls => do
    let x ← c.run r stack hd
    let xs ← mfclCalls calls
    pure (x :: xs)

end

section

variable {γ : Type} (card : CryptoCard γ) (undef : UInt8) (fuel : Nat) (stack : Mem UInt8) (hd : Handle)

def OnDesk (c : CryptoChip γ) (w : Desk γ) : Prop := ∃ silent, c.unit = w.unit silent

theorem transceive_mimics {tx : Mem UInt8} {txLen rxLen : Nat} (rx : Mem UInt8) (timeout : Nat)
    (hpos : 0 < txLen) (hle : txLen ≤ 64) (hroom : answerRoom (tx.load 0 txLen) ≤ rxLen)
    (hmax : rxLen ≤ 0xff) :
    Mimics OnDesk
      ((cryptoReader card undef (fuel + 1)).transceive .mifareFrame tx txLen rx rxLen timeout)
      ((deskReader card undef).transceive .mifareFrame tx txLen rx rxLen timeout) Eq :=
  Runs.mimics fun w silent => abTransceive_runs undef fuel rx timeout hpos hle hroom hmax w silent

theorem mfclSetKey_mimics (key : List UInt8) :
    Mimics OnDesk (mfclSetKey (cryptoReader card undef (fuel + 1)) key)
      (mfclSetKey (deskReader card undef) key) Eq :=
  Runs.mimics fun w silent => ⟨false, retOf_ok (setKey_runs card undef fuel _ w silent)⟩

theorem mfclAuth_mimics (cmd block : UInt8) :
    Mimics OnDesk (mfclAuth (cryptoReader card undef (fuel + 1)) hd cmd block)
      (mfclAuth (deskReader card undef) hd cmd block) Eq :=
  Runs.mimics fun w silent => auth_runs undef fuel cmd block _ _ _ _ w silent

theorem mfclRead_mimics (page : Nat) (rxData : Mem UInt8) (rxLen : Nat) :
    Mimics OnDesk (mfclRead (cryptoReader card undef (fuel + 1)) stack page rxData rxLen)
      (mfclRead (deskReader card undef) stack page rxData rxLen) Eq := by
  refine .ite (fun _ => .pure rfl) fun _ => .bind_eq ?_ fun x => ?_
  · exact transceive_mimics card undef fuel stack mifareClReadFwt (by decide) (by decide)
      (Nat.le_refl 16) (by decide)
  · exact .ite (fun _ => .pure rfl) fun _ => .ite (fun _ => .pure rfl) fun _ => .pure rfl

theorem transceive_nibble (frame : List UInt8) (hframe : answerRoom frame = 1) {rx : Mem UInt8}
    {rxLen : Nat} {w : Desk γ} {x : AbResult} (h : (Desk.transceive card frame rx rxLen w).1 = .ok x) :
    0 ≤ x.ret → x.rxLen = 1 := by
  rw [Desk.transceive_run] at h
  cases hanswer : (card.hear w.crypto frame w.card).1 with
  | none =>
    rw [hanswer] at h
    cases h
    exact fun hret => absurd hret (by decide : ¬ 0 ≤ -eTimedOut)
  | some bytes =>
    rw [hanswer] at h
    cases h
    obtain ⟨hne, hlen⟩ := card.answers hanswer
    rw [hframe] at hlen
    exact fun _ => Nat.le_antisymm hlen (List.length_pos_iff.mpr hne)

theorem mfclWrite_mimics (page : Nat) (txData : List UInt8) :
    Mimics OnDesk (mfclWrite (cryptoReader card undef (fuel + 1)) stack page txData)
      (mfclWrite (deskReader card undef) stack page txData) Eq := by
  refine .ite (fun _ => .pure rfl) fun _ => .ite (fun _ => .pure rfl) fun hlen => ?_
  rw [not_not] at hlen
  have hfirst : Mimics OnDesk
      ((cryptoReader card undef (fuel + 1)).transceive .mifareFrame
        (Mem.ofList (fun _ => 0) [mifareClCmdWrite16, UInt8.ofNat (page &&& 0xff)]) 2 stack 1
        mifareClWriteFwt)
      ((deskReader card undef).transceive .mifareFrame
        (Mem.ofList (fun _ => 0) [mifareClCmdWrite16, UInt8.ofNat (page &&& 0xff)]) 2 stack 1
        mifareClWriteFwt) Eq :=
    transceive_mimics card undef fuel stack mifareClWriteFwt (by decide) (by decide) (Nat.le_refl 1)
      (by decide)
  have hroom : answerRoom ((Mem.ofList (fun _ => 0) txData).load 0 txData.length) = 1 :=
    if_neg fun h => by
      have hload := (Mem.length_load _ _ _).symm.trans h.1
      omega
  have hnibble := hfirst.and_right (P := fun x => 0 ≤ x.ret → x.rxLen = 1) fun _ w x _ hx =>
    transceive_nibble card [mifareClCmdWrite16, UInt8.ofNat (page &&& 0xff)] rfl hx
  refine hnibble.bind ?_
  rintro x _ ⟨rfl, hone⟩
  refine .ite (fun _ => .pure rfl) fun hneg => .bind_eq ?_ fun x => ?_
  · rw [hone (Int.not_lt.mp hneg)]
    exact transceive_mimics card undef fuel x.rx mifareClWriteFwt (by omega) (by omega)
      (Nat.le_of_eq hroom) (by decide)
  · exact .ite (fun _ => .pure rfl) fun _ => .ite (fun _ => .pure rfl) fun _ => .pure rfl

theorem MfclCall.run_mimics (c : MfclCall) :
    Mimics OnDesk (c.run (cryptoReader card undef (fuel + 1)) stack hd)
      (c.run (deskReader card undef) stack hd) Eq := by
  cases c with
  | setKey key => exact .bind_eq (mfclSetKey_mimics card undef fuel key) fun _ => .pure rfl
  | auth cmd block => exact .bind_eq (mfclAuth_mimics card undef fuel hd cmd block) fun _ => .pure rfl
  | read page rxData rxLen =>
    exact .bind_eq (mfclRead_mimics card undef fuel stack page rxData rxLen) fun _ => .pure rfl
  | write page txData =>
    exact .bind_eq (mfclWrite_mimics card undef fuel stack page txData) fun _ => .pure rfl

/-- Keys, authentications, reads and writes in any order, with any card: what the program gets, and what
the card is left with, are as if there were no chip and no driver. -/
theorem mfclCalls_mimics (calls : List MfclCall) :
    Mimics OnDesk (mfclCalls (cryptoReader card undef (fuel + 1)) stack hd calls)
      (mfclCalls (deskReader card undef) stack hd calls) Eq := by
  induction calls with
  | nil => exact .pure rfl
  | cons c calls ih =>
    exact .bind_eq (c.run_mimics card undef fuel stack hd) fun _ => .bind_eq ih fun _ => .pure rfl

end

end Librfid.Proto
