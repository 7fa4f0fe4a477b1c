import Librfid.Layer2.Iso14443b

namespace Librfid.Layer2

open Rc632 Exec

section

variable {σ : Type} (r : Iso14443bReader σ) (past : Nat)

/-- The guard on the receive length holds of every pointer. -/
theorem transceiveAttrib_refused (stack : Mem UInt8) (inf : List UInt8) (rxData : Mem UInt8)
    (rxLenPtr rxLen : Nat) :
    transceiveAttrib r stack inf rxData rxLenPtr rxLen = pure ⟨-eInval, rxData, rxLen⟩ :=
  if_pos (Nat.sub_le rxLenPtr 1)

theorem iso14443bAnticol_eq (loc : AnticolLocals) :
    iso14443bAnticol r past loc =
      sendReqb r past loc.atqb 0 false 0 >>= fun ret =>
        if ret < 0 then pure ret else pure (-eInval) := by
  simp only [iso14443bAnticol, transceiveAttrib_refused]
  rfl

theorem iso14443bAnticol_neg {loc : AnticolLocals} {s s' : σ × Iso14443bHandle} {ret : Int}
    (h : iso14443bAnticol r past loc s = (.ok ret, s')) : ret < 0 := by
  rw [iso14443bAnticol_eq] at h
  obtain ⟨ret', s₁, -, hrest⟩ := of_bind_ok h
  split_ifs at hrest with hneg
  · cases hrest
    exact hneg
  · cases hrest
    decide

def GivesAnswer (answer : List UInt8) (s : σ × Iso14443bHandle) : Prop :=
  ∀ (stack rxData : Mem UInt8) (inf : List UInt8) (rxLenPtr rxLen : Nat), answer.length ≤ rxLen →
    ∃ x s', transceiveAttrib r stack inf rxData rxLenPtr rxLen s = (.ok x, s') ∧ 0 ≤ x.ret ∧
      x.rxData.load 0 x.rxLen = answer.tail

/-- What activation is to leave, once the card has answered ATTRIB. -/
structure Activated (answer : List UInt8) (loc : AnticolLocals) (s s' : σ × Iso14443bHandle) :
    Prop where
  ret : iso14443bAnticol r past loc s = (.ok 0, s')
  state : s'.2.state = .selected
  mbl : ∀ mbli, (answer.headD 0 >>> 4).toNat = mbli + 1 → s'.2.mbl = s'.2.fsc * 2 ^ mbli
  attrib : GivesAnswer r answer s

/-- There is no card, no reader and no handle with which it does. -/
theorem not_activated (answer : List UInt8) (loc : AnticolLocals) (s s' : σ × Iso14443bHandle) :
    ¬ Activated r past answer loc s s' := fun h =>
  absurd (iso14443bAnticol_neg r past h.ret) (by decide)

end

def cardB (atqb answer : List UInt8) : Iso14443bReader Nat where
  transceive _ tx _ rx rxLen _ := fun n =>
    let bytes := if tx 0 = 0x05 then atqb else answer
    (.ok ⟨0, bytes.length, rx.store 0 (bytes.take rxLen)⟩, n + 1)
  init := pure ()
  ah := rc632Open

def plainCardB : Iso14443bReader Nat :=
  cardB [0x50, 1, 2, 3, 4, 0, 0, 0, 0, 0x00, 0x81, 0x40] [0x10]

def blankHandleB : Iso14443bHandle where
  uid := fun _ => 0
  uidLen := 0
  protoSupported := 0
  tclCapable := 0
  cid := 0
  fsc := 0
  fsd := 0
  fwt := 0
  mbl := 0
  tr0 := 0
  tr1 := 0
  flags := 0
  state := .error

/-- The ATQB is accepted, and ATTRIB never sent. -/
theorem iso14443bAnticol_invalid :
    let loc : AnticolLocals := ⟨fun _ => 0, fun _ => 0, fun _ => 0, 0x1000⟩
    ∃ h n h', (iso14443bInit plainCardB blankHandleB 0).1 = .ok h ∧
      iso14443bAnticol plainCardB 0 loc (0, h) = (.ok (-eInval), (n, h')) ∧ n = 1 ∧
      h'.state = .atqbRcvd ∧ h'.fsc = 256 ∧ h'.tclCapable = 1 ∧ h'.cid = 0 ∧
      ∀ s', ¬ Activated plainCardB 0 [0x10] loc (0, h) s' := by
  refine ⟨_, _, _, rfl, rfl, rfl, rfl, rfl, rfl, rfl, fun s' => not_activated plainCardB 0 _ _ _ _⟩

end Librfid.Layer2
