import Librfid.Layer2.Acf
import Librfid.Lib.Bits

namespace Librfid.Layer2

open Rc632 Exec

def cascadeTag : UInt8 := 0x88

/-- A card, by its UID: four, seven or ten bytes, and none of them passes for a cascade tag. -/
structure Card where
  uid : List UInt8
  sized : uid.length = 4 ∨ uid.length = 7 ∨ uid.length = 10
  untagged : uid.length ≠ 10 → uid[uid.length - 4]? ≠ some cascadeTag
  deriving DecidableEq

/-- Bit `i` of a buffer, in the order in which it is sent. -/
def bufBit (m : Mem UInt8) (i : Nat) : Bool := Bits.bit (m (i / 8 : Nat)) (i % 8)

namespace Card

variable (c : Card) (level : Nat)

def Complete : Prop := c.uid.length = 4 + 3 * level

instance : Decidable (c.Complete level) := inferInstanceAs (Decidable (_ = _))

def Reaches : Prop := 4 + 3 * level ≤ c.uid.length

def levelUid : List UInt8 :=
  if c.Complete level then c.uid.drop (3 * level)
  else cascadeTag :: (c.uid.drop (3 * level)).take 3

def levelBytes : List UInt8 := c.levelUid level ++ [(c.levelUid level).foldl (· ^^^ ·) 0]

def bit (i : Nat) : Bool := bufBit (Mem.ofList (fun _ => 0) (c.levelBytes level)) i

variable {c d : Card} {level : Nat}

theorem Reaches.succ (h : c.Reaches level) (hc : ¬ c.Complete level) : c.Reaches (level + 1) := by
  have hsized := c.sized
  have hle : 4 + 3 * level ≤ c.uid.length := h
  have hne : c.uid.length ≠ 4 + 3 * level := hc
  unfold Reaches
  omega

theorem Reaches.lt (h : c.Reaches level) : level < 3 := by
  have hsized := c.sized
  have hle : 4 + 3 * level ≤ c.uid.length := h
  omega

theorem reaches_zero (c : Card) : c.Reaches 0 := by
  have hsized := c.sized
  unfold Reaches
  omega

theorem levelUid_of_complete (h : c.Complete level) : c.levelUid level = c.uid.drop (3 * level) :=
  if_pos h

theorem levelUid_of_not_complete (h : ¬ c.Complete level) :
    c.levelUid level = cascadeTag :: (c.uid.drop (3 * level)).take 3 := if_neg h

theorem length_levelUid (h : c.Reaches level) : (c.levelUid level).length = 4 := by
  by_cases hc : c.Complete level
  · rw [levelUid_of_complete hc, List.length_drop, hc]
    omega
  · have hmore : 4 + 3 * (level + 1) ≤ c.uid.length := h.succ hc
    rw [levelUid_of_not_complete hc, List.length_cons, List.length_take, List.length_drop]
    omega

theorem length_levelBytes (h : c.Reaches level) : (c.levelBytes level).length = 5 := by
  rw [levelBytes, List.length_append, length_levelUid h, List.length_singleton]

theorem take_levelBytes (h : c.Reaches level) : (c.levelBytes level).take 4 = c.levelUid level :=
  List.take_left' (length_levelUid h)

theorem levelUid_tag (hlevel : level < 2) :
    (c.levelUid level)[0]? = some cascadeTag ↔ ¬ c.Complete level := by
  constructor
  · intro htag hc
    have hc' : c.uid.length = 4 + 3 * level := hc
    rw [levelUid_of_complete hc, List.getElem?_drop] at htag
    refine c.untagged (by omega) ?_
    rwa [show c.uid.length - 4 = 3 * level + 0 by omega]
  · intro hc
    rw [levelUid_of_not_complete hc]
    rfl

theorem complete_iff (hc : c.Reaches level) (hd : d.Reaches level)
    (h : c.levelUid level = d.levelUid level) : c.Complete level ↔ d.Complete level := by
  by_cases hlevel : level < 2
  · rw [← not_iff_not, ← levelUid_tag hlevel, ← levelUid_tag hlevel, h]
  · have hcs := c.sized
    have hds := d.sized
    unfold Complete Reaches at *
    omega

end Card

theorem bufBit_ofList (l : List UInt8) {j b : Nat} (hj : j < l.length) (hb : b < 8) :
    bufBit (Mem.ofList (fun _ => 0) l) (8 * j + b) = Bits.bit l[j] b := by
  have hdiv : (8 * j + b) / 8 = j := by omega
  have hmod : (8 * j + b) % 8 = b := by omega
  have hstore : Mem.ofList (fun _ => 0) l j = l[j] := by
    rw [← Mem.store_add (fun _ => 0) 0 l j hj, Int.zero_add]
    rfl
  rw [bufBit, hdiv, hmod, hstore]

theorem Card.bit_eq {c : Card} {level j b : Nat} (hj : j < (c.levelBytes level).length) (hb : b < 8) :
    c.bit level (8 * j + b) = Bits.bit (c.levelBytes level)[j] b :=
  bufBit_ofList _ _ hb

namespace Card

variable {c d : Card} {level : Nat}

theorem levelBytes_of_levelUid (h : c.levelUid level = d.levelUid level) :
    c.levelBytes level = d.levelBytes level := by
  rw [levelBytes, levelBytes, h]

theorem bit_eq_of_lt (hc : c.Reaches level) (hd : d.Reaches level)
    (h : ∀ i < 32, c.bit level i = d.bit level i) (i : Nat) : c.bit level i = d.bit level i := by
  have huid : c.levelUid level = d.levelUid level := by
    rw [← take_levelBytes hc, ← take_levelBytes hd]
    have hclen := length_levelBytes hc
    have hdlen := length_levelBytes hd
    refine List.ext_getElem (by simp [hclen, hdlen]) fun j hj _ => Bits.ext fun b hb => ?_
    have hj4 : j < 4 := by
      rw [List.length_take] at hj
      omega
    rw [List.getElem_take, List.getElem_take, ← bit_eq (by omega) hb,
      ← bit_eq (by omega) hb]
    exact h _ (by omega)
  rw [bit, bit, levelBytes_of_levelUid huid]

theorem load_of_bits {acf : Mem UInt8} (h : c.Reaches level)
    (hbits : ∀ i < 40, bufBit acf (16 + i) = c.bit level i) : acf.load 2 5 = c.levelBytes level := by
  have hlen := length_levelBytes h
  refine List.ext_getElem (by simp [hlen]) fun j hj _ => Bits.ext fun b hb => ?_
  have hj5 : j < 5 := by rwa [Mem.length_load] at hj
  rw [Mem.getElem_load, ← bit_eq (by omega) hb, ← hbits (8 * j + b) (by omega), bufBit]
  have hdiv : (16 + (8 * j + b)) / 8 = 2 + j := by omega
  have hmod : (16 + (8 * j + b)) % 8 = b := by omega
  rw [hdiv, hmod]
  push_cast
  rfl

end Card

def levelCollision (S : List Card) (level : Nat) : Option Nat :=
  (List.range 40).find? fun i => decide (∃ c ∈ S, ∃ d ∈ S, c.bit level i ≠ d.bit level i)

theorem levelCollision_eq_some {S : List Card} {level k : Nat} : levelCollision S level = some k ↔
    (∃ c ∈ S, ∃ d ∈ S, c.bit level k ≠ d.bit level k) ∧ k < 40 ∧
      ∀ i < k, ∀ c ∈ S, ∀ d ∈ S, c.bit level i = d.bit level i := by
  rw [levelCollision, List.find?_range_eq_some]
  simp

theorem levelCollision_eq_none {S : List Card} {level : Nat} : levelCollision S level = none ↔
    ∀ i < 40, ∀ c ∈ S, ∀ d ∈ S, c.bit level i = d.bit level i := by
  rw [levelCollision, List.find?_eq_none]
  simp

inductive Field
  | idle
  | ready (level : Nat) (cards : List Card)
  | active

/-- The framing of the next exchange, the collision seen in the last one, and the cards. -/
structure Air where
  framing : UInt8
  collision : Option Nat
  field : Field

def Air.write (v : Air) (reg val : UInt8) : Air :=
  if reg = regBitFraming then { v with framing := val } else v

def framingTxLastBits (framing : UInt8) : Nat := (framing &&& 0x07).toNat

def framingRxAlign (framing : UInt8) : Nat := (framing >>> 4 &&& 0x07).toNat

def acSelCode : Nat → UInt8
  | 0 => acSelCodeCl1
  | 1 => acSelCodeCl2
  | _ => acSelCodeCl3

structure BitFrame (level n : Nat) (framing : UInt8) (tx : Mem UInt8) (len : UInt8) : Prop where
  selCode : tx 0 = acSelCode level
  nvb : tx 1 = UInt8.ofNat (16 * (2 + n / 8) + n % 8)
  txLastBits : framingTxLastBits framing = n % 8
  length : len.toNat = 2 + (n + 7) / 8

def Agrees (acf : Mem UInt8) (level n : Nat) (c : Card) : Prop :=
  ∀ i < n, bufBit acf (16 + i) = c.bit level i

instance (acf : Mem UInt8) (level n : Nat) (c : Card) : Decidable (Agrees acf level n c) :=
  inferInstanceAs (Decidable (∀ i < n, _))

def answering (ready : List Card) (level n : Nat) (tx : Mem UInt8) : List Card :=
  ready.filter fun c => Agrees tx level n c

def rxBuf (x : Xfer) : Mem UInt8 := Mem.ofList (fun _ => 0) x.rx

/-- The bits behind the first `n`, stored from bit `align` on.  Up to a collision they are the cards',
there it is one card's, and behind it whatever the chip makes of it. -/
structure Received (S : List Card) (level n align : Nat) (x : Xfer) : Prop where
  ret : 0 ≤ x.ret
  rxLen : x.rxLen.toNat = (align + (40 - n) + 7) / 8
  length : x.rx.length = x.rxLen.toNat
  low : ∀ j < align, bufBit (rxBuf x) j = false
  same : ∀ i, n ≤ i → i < (levelCollision S level).getD 40 → ∀ c ∈ S,
    bufBit (rxBuf x) (align + (i - n)) = c.bit level i
  collided : ∀ k, levelCollision S level = some k → ∃ c ∈ S,
    bufBit (rxBuf x) (align + (k - n)) = c.bit level k

def named (ready : List Card) (level : Nat) (tx : Mem UInt8) : List Card :=
  ready.filter fun c => decide (tx.load 2 5 = c.levelBytes level)

def afterSelect (level : Nat) (S : List Card) : Field :=
  if ∃ c ∈ S, ¬ c.Complete level then .ready (level + 1) S else .active

/-- The chip with these cards in its field.  BIT_FRAMING is for one exchange: the chip clears it. -/
structure InField {σ : Type} (cards : List Card) (a : Asic σ) (air : σ → Air) : Prop where
  write : ∀ reg ∈ [regControl, regChannelRedundancy, regBitFraming], ∀ val s,
    0 ≤ (a.writeReg reg val s).1 ∧ air (a.writeReg reg val s).2 = (air s).write reg val
  read : ∀ reg s, 0 ≤ (a.readReg reg s).1.1 ∧ air (a.readReg reg s).2 = air s
  errorFlag : ∀ s, (a.readReg regErrorFlag s).1.2 &&& errFlagColErr ≠ 0 ↔ (air s).collision ≠ none
  collPos : ∀ s k, (air s).collision = some k → k < 40 →
    (a.readReg regCollPos s).1.2.toNat = k + 1
  request : ∀ (v : Air) (tx : Mem UInt8) (cap : UInt8) (timer : Nat),
    tx 0 = sfCmdReqa ∨ tx 0 = sfCmdWupa → v.framing = 0x07 → v.field = .idle → 2 ≤ cap.toNat →
    Total (fun s => air s = v) (a.transceive tx 1 cap timer) fun x s =>
      0 ≤ x.ret ∧ x.rxLen = 2 ∧ (∃ b b', x.rx = [b, b'] ∧ b &&& 0x1f ≠ 0) ∧
        (air s).framing = 0 ∧ (air s).field = .ready 0 cards
  bitFrame : ∀ (v : Air) (level n : Nat) (ready : List Card) (tx : Mem UInt8) (len cap : UInt8)
    (timer : Nat), v.field = .ready level ready → n < 40 → BitFrame level n v.framing tx len →
    answering ready level n tx ≠ [] → 5 ≤ cap.toNat →
    Total (fun s => air s = v) (a.transceive tx len cap timer) fun x s =>
      Received (answering ready level n tx) level n (framingRxAlign v.framing) x ∧
        air s = ⟨0, levelCollision (answering ready level n tx) level, .ready level ready⟩
  /-- The cascade bit of the SAK says that the UID is incomplete. -/
  select : ∀ (v : Air) (level : Nat) (ready : List Card) (tx : Mem UInt8) (cap : UInt8)
    (timer : Nat), v.field = .ready level ready → (∀ c ∈ ready, c.Reaches level) → v.framing = 0 →
    tx.load 0 2 = [acSelCode level, 0x70] → named ready level tx ≠ [] → 1 ≤ cap.toNat →
    Total (fun s => air s = v) (a.transceive tx 7 cap timer) fun x s =>
      0 ≤ x.ret ∧ (∃ sak l, x.rx = sak :: l ∧
        ∀ c ∈ named ready level tx, sak &&& 0x04 ≠ 0 ↔ ¬ c.Complete level) ∧
        (air s).framing = 0 ∧ (air s).field = afterSelect level (named ready level tx)

end Librfid.Layer2
