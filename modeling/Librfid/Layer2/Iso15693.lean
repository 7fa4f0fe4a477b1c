import Librfid.Rc632.Frames

/-! ISO 15693: `rfid_layer2_iso15693.c`. -/

namespace Librfid.Layer2

open Rc632 Exec

def uidLen15693 : Nat := 8
def blockSizeMax : Nat := 32
def respSizeMax : Nat := 36

def fSubcTwo : UInt8 := 0x01
def fRateHigh : UInt8 := 0x02
def fInvTable5 : UInt8 := 0x04
def f4Selected : UInt8 := 0x10
def f4Address : UInt8 := 0x20
def f4Custom : UInt8 := 0x40
def f5AfiPres : UInt8 := 0x10
def f5Nslots1 : UInt8 := 0x20
def rfError : UInt8 := 0x01

def cmdInventory : UInt8 := 0x01
def cmdStayQuiet : UInt8 := 0x02
def cmdReadBlockSingle : UInt8 := 0x20
def cmdWriteBlockSingle : UInt8 := 0x21
def cmdSelect : UInt8 := 0x25

/-- The field `state` has values of two enumerations: `rfid_15693_state` before, and
`iso15693_vicc_states` after the first command to a VICC. -/
inductive Iso15693State
  | error | none | quiet | selected
  deriving DecidableEq

structure Iso15693Handle where
  uid : Mem UInt8
  uidLen : Nat
  state : Iso15693State
  vcdAsk100 : Bool
  viccTwoSubc : Bool
  viccFast : Bool
  singleSlot : Bool
  useAfi : Bool
  vcdOut256 : Bool
  afi : UInt8

def iso15693TimingT4 (fast : Bool) : Nat := if fast then 304 else 1216

def iso15693TimingT4Write (_ : Bool) : Nat := 20000

structure Iso15693Reader (σ : Type) where
  transceive : RfidFrametype → Mem UInt8 → Nat → Mem UInt8 → Nat → Nat → Exec σ AbResult
  transceiveAc : Mem UInt8 → Nat → Nat → UInt8 → Exec σ AcResult

def Iso15693Reader.ofAsic {σ : Type} (a : Asic σ) : Iso15693Reader σ where
  transceive := rc632Iso14443abTransceive a
  transceiveAc := rc632Iso15693TransceiveAc a

namespace Iso15693Handle

variable (h : Iso15693Handle)

def rateFlags : UInt8 := if h.viccFast then fRateHigh else 0

def subcFlags : UInt8 := if h.viccTwoSubc then fSubcTwo else 0

def uidBytes : List UInt8 := h.uid.load 0 uidLen15693

end Iso15693Handle

section Requests

variable (h : Iso15693Handle)

def addressedRequest (command : UInt8) : List UInt8 :=
  (f4Address ||| h.rateFlags ||| h.subcFlags) :: command :: h.uidBytes

def blockRequest (command flags blocknr : UInt8) (data : List UInt8) : List UInt8 :=
  let flags := flags ||| h.rateFlags ||| h.subcFlags
  if h.state = .selected then (flags ||| f4Selected) :: command :: blocknr :: data
  else (flags ||| f4Address) :: command :: h.uidBytes ++ blocknr :: data

end Requests

section Blocks

variable {σ : Type} (r : Iso15693Reader σ)

abbrev Iso15693M (σ : Type) := Exec (σ × Iso15693Handle)

def iso15693Transceive (tx : List UInt8) (rx : Mem UInt8) (rxLen timeout : Nat) :
    Iso15693M σ AbResult :=
  lift (r.transceive .iso15693Frame (Mem.ofList (fun _ => 0) tx) tx.length rx rxLen timeout)

structure ReadResult where
  ret : Int
  data : List UInt8

/-- `len + 1`, `rx_len - 1` and `rx_len - 2` are of type `unsigned int`; the value is returned as
an `int`. -/
def iso15693ReadBlock (stack : Mem UInt8) (blocknr : UInt8) (len : Nat) (blockSecOut : Bool) :
    Iso15693M σ ReadResult := do
  let h ← get
  let flags := if blockSecOut then f4Custom else 0
  let tx := blockRequest h cmdReadBlockSingle flags blocknr []
  let x ← iso15693Transceive r tx stack respSizeMax (iso15693TimingT4 h.viccFast)
  if x.ret < 0 then pure ⟨x.ret, []⟩
  else if x.rxLen > (len + 1) % 2 ^ 32 then pure ⟨-1, []⟩
  else if x.rx 0 &&& rfError ≠ 0 then pure ⟨-1, []⟩
  else
    let skip := if blockSecOut then 2 else 1
    let n := u32Sub x.rxLen skip
    pure ⟨(n : Int).bmod (2 ^ 32), x.rx.load skip n⟩

def iso15693WriteBlock (stack : Mem UInt8) (blocknr : UInt8) (data : List UInt8) :
    Iso15693M σ Int := do
  if data.length > blockSizeMax then pure (-1)
  else
    let h ← get
    let tx := blockRequest h cmdWriteBlockSingle 0 blocknr data
    let x ← iso15693Transceive r tx stack respSizeMax (iso15693TimingT4Write h.viccFast)
    if x.ret < 0 then pure x.ret
    else if x.rxLen > data.length + 1 then pure (-1)
    else if x.rx 0 &&& rfError ≠ 0 then pure (-1)
    else pure 0

/-- The size of `rx_buf` in `iso15693_select` and `iso15693_stay_quiet`. -/
def errRespSize : Nat := 4

/-- The return value of the exchange is not looked at. -/
def iso15693Select (stack : Mem UInt8) : Iso15693M σ Int := do
  let h ← get
  let x ← iso15693Transceive r (addressedRequest h cmdSelect) stack errRespSize
    (iso15693TimingT4 h.viccFast)
  if x.rx 0 &&& rfError ≠ 0 then pure (-1)
  else
    modify fun h => { h with state := .selected }
    pure 0

def iso15693StayQuiet (stack : Mem UInt8) : Iso15693M σ Int := do
  let h ← get
  let _ ← iso15693Transceive r (addressedRequest h cmdStayQuiet) stack errRespSize 30
  modify fun h => { h with state := .quiet }
  pure 0

end Blocks

/-- `heap` is what `malloc` gives. -/
def iso15693Init {σ : Type} (init : Exec σ Unit) (heap : Iso15693Handle) : Exec σ Iso15693Handle := do
  init
  pure { heap with
    state := .none, vcdAsk100 := true, viccTwoSubc := false, viccFast := true, singleSlot := true
    vcdOut256 := false, useAfi := false, afi := 0 }

def initHandle15693 : Iso15693Handle where
  uid _ := 0
  uidLen := 0
  state := .none
  vcdAsk100 := true
  viccTwoSubc := false
  viccFast := true
  singleSlot := true
  useAfi := false
  vcdOut256 := false
  afi := 0

def iso15693BuildAcf (target : Mem UInt8) (flags afi maskLen : UInt8) (mask : Mem UInt8) :
    Mem UInt8 × Nat :=
  let target := (target.set 0 flags).set 1 cmdInventory
  let i : Nat := 2
  let (target, i) := if flags &&& f5AfiPres ≠ 0 then (target.set i afi, i + 1) else (target, i)
  let target := target.set i maskLen
  let i := i + 1
  -- the sum is the condition of the conditional operator
  let maskBytes : Nat := if maskLen.toNat / 8 + maskLen.toNat % 8 ≠ 0 then 1 else 0
  let target := target.store i (mask.load 0 maskBytes)
  let i := i + maskBytes
  let byte := UInt8.ofNat (0xff >>> (8 - maskLen.toNat % 8))
  (target.set (i - 1 : Nat) (target (i - 1 : Nat) &&& byte), i)

/-- `uuid_list_valid[i]` and `uuid_list[i]`: `collided` has `boc`. -/
inductive Slot
  | none
  | collided (boc : UInt8) (uuid : List UInt8)

/-- The first loop of `iso15693_anticol`: a UID was found, or the slots, the last response and
`boc` are as given. -/
inductive Inventory
  | found
  | slots (l : List Slot) (uuid : Mem UInt8) (boc : UInt8)

section Anticol

variable {σ : Type} (r : Iso15693Reader σ)

def setUid (uuid : List UInt8) : Iso15693M σ Unit :=
  modify fun h => { h with uid := h.uid.store 0 uuid, uidLen := uidLen15693 }

def iso15693Slots (acf : Mem UInt8) (txLen : Nat) :
    Nat → List Slot → Mem UInt8 → UInt8 → Iso15693M σ Inventory
  | 0, l, uuid, boc => pure (.slots l uuid boc)
  | n + 1, l, _, boc => do
    let x ← lift (r.transceiveAc acf txLen 10 boc)
    let resp : Mem UInt8 := Mem.store (fun _ => 0) 0 x.resp
    let uuid : Mem UInt8 := fun i => resp (i + 2)
    if x.ret < 0 then iso15693Slots acf txLen n (l ++ [.none]) uuid x.bitOfCol
    else if x.bitOfCol ≠ 0 then
      iso15693Slots acf txLen n (l ++ [.collided x.bitOfCol (uuid.load 0 uidLen15693)]) uuid x.bitOfCol
    else do
      setUid (uuid.load 0 uidLen15693)
      pure .found

def Iso15693Handle.slots (h : Iso15693Handle) : Nat := if h.singleSlot then 1 else 16

theorem Iso15693Handle.slots_ne_zero (h : Iso15693Handle) : h.slots ≠ 0 := by
  unfold slots
  split_ifs <;> decide

def firstCollided : List Slot → Option (UInt8 × List UInt8)
  | [] => Option.none
  | .none :: l => firstCollided l
  | .collided boc uuid :: _ => some (boc, uuid)

theorem firstCollided_append (l : List Slot) (e : Slot) :
    firstCollided (l ++ [e]) = (firstCollided l).or (firstCollided [e]) := by
  induction l with
  | nil => rfl
  | cons e' l ih =>
    cases e' with
    | none => exact ih
    | collided boc uuid => rfl

def iso15693AnticolFlags (h : Iso15693Handle) : UInt8 :=
  fInvTable5 ||| h.rateFlags ||| h.subcFlags ||| (if h.singleSlot then f5Nslots1 else 0) |||
    (if h.useAfi then f5AfiPres else 0)

def iso15693AcLoop (h : Iso15693Handle) : Nat → Mem UInt8 → Nat → UInt8 → Iso15693M σ Int
  | 0, _, _, _ => hang
  | fuel + 1, acf, txLen, boc => do
    match ← iso15693Slots r acf txLen (if h.singleSlot then 1 else 16) [] (fun _ => 0) boc with
    | .found => pure 1
    | .slots l uuid _ =>
      match firstCollided l with
      | Option.none => pure (-1)
      | some (boc, collided) =>
        let boc := if boc > 16 then boc - 16 else boc
        if boc < 65 then
          let (acf, txLen) := iso15693BuildAcf acf (iso15693AnticolFlags h) h.afi (boc + 1) uuid
          iso15693AcLoop h fuel acf txLen 0
        else do
          setUid collided
          pure 1

/-- `stack` is what `acf` and `boc` hold before anything is written to them. -/
def iso15693Anticol (stack : Mem UInt8) (boc : UInt8) (fuel : Nat) : Iso15693M σ Int := do
  let h ← get
  let (acf, txLen) := iso15693BuildAcf stack (iso15693AnticolFlags h) h.afi 0 fun _ => 0
  iso15693AcLoop r h fuel acf txLen boc

end Anticol

end Librfid.Layer2
