import Librfid.Layer2.Selected

namespace Librfid.Layer2

open Rc632 Exec

def selReqSize : Nat := 3

def addrReqSize : Nat := 11

def adressedReqSize : Nat := 10

def orFlag (tx : Mem UInt8) (c : Bool) (flag : UInt8) : Mem UInt8 :=
  if c then tx.set 0 (tx 0 ||| flag) else tx

section Build

variable (stack : Mem UInt8) (h : Iso15693Handle)

/-- `tx_req` and `tx_len` of `iso15693_read_block`; `stack` is what is there before `memset`. -/
def readBlockReq (blocknr : UInt8) (blockSecOut : Bool) : Mem UInt8 × Nat :=
  let tx := stack.store 0 (List.replicate addrReqSize 0)
  let tx := tx.set 1 cmdReadBlockSingle
  let tx := orFlag tx h.viccFast fRateHigh
  let tx := orFlag tx h.viccTwoSubc fSubcTwo
  let tx := orFlag tx blockSecOut f4Custom
  if h.state = .selected then
    let tx := tx.set 2 blocknr
    (orFlag tx true f4Selected, selReqSize)
  else
    let tx := tx.store 2 h.uidBytes
    let tx := orFlag tx true f4Address
    (tx.set 10 blocknr, addrReqSize)

/-- The union has room for `sizeof(struct iso15693_request_block_addressed)+ISO15693_BLOCK_SIZE_MAX`
words. -/
def writeBlockReq (blocknr : UInt8) (data : List UInt8) : Mem UInt8 × Nat :=
  let tx := stack.store 0 (List.replicate (4 * (addrReqSize + blockSizeMax)) 0)
  let tx := tx.set 1 cmdWriteBlockSingle
  let tx := orFlag tx h.viccFast fRateHigh
  let tx := orFlag tx h.viccTwoSubc fSubcTwo
  if h.state = .selected then
    let tx := orFlag tx true f4Selected
    let tx := tx.set 2 blocknr
    (tx.store 3 data, selReqSize + data.length)
  else
    let tx := tx.store 2 h.uidBytes
    let tx := orFlag tx true f4Address
    let tx := tx.set 10 blocknr
    (tx.store 11 data, addrReqSize + data.length)

/-- The first flag is set in a byte that nothing has been written to. -/
def selectReq : Mem UInt8 × Nat :=
  let tx := orFlag stack h.viccFast fRateHigh
  let tx := tx.set 1 cmdSelect
  let tx := tx.set 0 f4Address
  let tx := orFlag tx h.viccFast fRateHigh
  let tx := orFlag tx h.viccTwoSubc fSubcTwo
  (tx.store 2 h.uidBytes, adressedReqSize)

def stayQuietReq : Mem UInt8 × Nat :=
  let tx := stack.set 1 cmdStayQuiet
  let tx := tx.set 0 f4Address
  let tx := orFlag tx h.viccFast fRateHigh
  let tx := orFlag tx h.viccTwoSubc fSubcTwo
  (tx.store 2 h.uidBytes, adressedReqSize)

end Build

section Bytes

variable (tx : Mem UInt8)

theorem orFlag_zero (c : Bool) (flag : UInt8) :
    orFlag tx c flag 0 = tx 0 ||| if c then flag else 0 := by
  unfold orFlag
  split_ifs
  · exact Mem.set_self _ _ _
  · rw [UInt8.or_zero]

theorem orFlag_of_ne (c : Bool) (flag : UInt8) {i : Int} (h : i ≠ 0) : orFlag tx c flag i = tx i := by
  unfold orFlag
  split_ifs
  · exact Mem.set_ne _ _ h
  · rfl

theorem orFlag_set (c : Bool) (flag b : UInt8) {p : Int} (h : p ≠ 0) :
    orFlag (tx.set p b) c flag = (orFlag tx c flag).set p b := by
  unfold orFlag
  split_ifs
  · rw [Mem.set_ne _ _ h.symm, Mem.set_comm _ _ _ h]
  · rfl

theorem load_head (n : Nat) : tx.load 0 (2 + n) = tx 0 :: tx 1 :: tx.load 2 n := by
  rw [Nat.add_comm]
  rfl

theorem load_addressed (flags blocknr : UInt8) {uid : List UInt8} (hu : uid.length = 8)
    (data : List UInt8) {m : Mem UInt8}
    (hm : m = (((tx.store 2 uid).set 0 flags).set 10 blocknr).store 11 data) :
    m.load 0 (addrReqSize + data.length) = flags :: tx 1 :: uid ++ blocknr :: data := by
  have hflags : m 0 = flags := by
    rw [hm, Mem.store_of_lt _ _ (by decide), Mem.set_ne _ _ (by decide), Mem.set_self]
  have hcmd : m 1 = tx 1 := by
    rw [hm, Mem.store_of_lt _ _ (by decide), Mem.set_ne _ _ (by decide), Mem.set_ne _ _ (by decide),
      Mem.store_of_lt _ _ (by decide)]
  have huid : m.load 2 8 = uid := by
    rw [hm, Mem.load_store_of_le _ _ _ (by omega), Mem.load_set_of_ge _ _ _ (by omega),
      Mem.load_set_of_lt _ _ _ (by omega), ← hu, Mem.load_store]
  have hblock : m 10 = blocknr := by
    rw [hm, Mem.store_of_lt _ _ (by decide), Mem.set_self]
  have hdata : m.load 11 data.length = data := by
    rw [hm, Mem.load_store]
  have hsize : addrReqSize + data.length = 2 + (8 + (data.length + 1)) := by
    unfold addrReqSize
    omega
  rw [hsize, load_head, Mem.load_add, huid, hflags, hcmd]
  change flags :: tx 1 :: (uid ++ m 10 :: m.load 11 data.length) = _
  rw [hblock, hdata]
  rfl

theorem load_selected (flags blocknr : UInt8) (data : List UInt8) {m : Mem UInt8}
    (hm : m = ((tx.set 0 flags).set 2 blocknr).store 3 data) :
    m.load 0 (selReqSize + data.length) = flags :: tx 1 :: blocknr :: data := by
  have hflags : m 0 = flags := by
    rw [hm, Mem.store_of_lt _ _ (by decide), Mem.set_ne _ _ (by decide), Mem.set_self]
  have hcmd : m 1 = tx 1 := by
    rw [hm, Mem.store_of_lt _ _ (by decide), Mem.set_ne _ _ (by decide), Mem.set_ne _ _ (by decide)]
  have hblock : m 2 = blocknr := by
    rw [hm, Mem.store_of_lt _ _ (by decide), Mem.set_self]
  have hdata : m.load 3 data.length = data := by
    rw [hm, Mem.load_store]
  have hsize : selReqSize + data.length = 2 + (data.length + 1) := by
    unfold selReqSize
    omega
  rw [hsize, load_head, hflags, hcmd]
  change flags :: tx 1 :: m 2 :: m.load 3 data.length = _
  rw [hblock, hdata]

theorem load_adressed {uid : List UInt8} (hu : uid.length = 8) :
    (tx.store 2 uid).load 0 adressedReqSize = tx 0 :: tx 1 :: uid := by
  have huid : (tx.store 2 uid).load 2 8 = uid := by
    rw [← hu, Mem.load_store]
  change (tx.store 2 uid).load 0 (2 + 8) = _
  rw [load_head, huid, Mem.store_of_lt _ _ (by decide), Mem.store_of_lt _ _ (by decide)]

end Bytes

section Frames

variable (stack : Mem UInt8) (h : Iso15693Handle)

theorem length_uidBytes15693 : h.uidBytes.length = 8 := Mem.length_load _ _ _

theorem memset_zero {n : Nat} (hn : 0 < n) : stack.store 0 (List.replicate n (0 : UInt8)) 0 = 0 := by
  have hstore := stack.store_add 0 (List.replicate n (0 : UInt8)) 0 (by rwa [List.length_replicate])
  rw [List.getElem_replicate] at hstore
  exact hstore

theorem block_flags (flags : UInt8) :
    0 ||| (if h.viccFast then fRateHigh else 0) ||| (if h.viccTwoSubc then fSubcTwo else 0) ||| flags =
      flags ||| h.rateFlags ||| h.subcFlags := by
  rw [UInt8.zero_or, UInt8.or_comm, UInt8.or_assoc flags]
  rfl

theorem block_head (command flag : UInt8) (c : Bool) {n : Nat} (hn : 0 < n) {tx : Mem UInt8}
    (htx : tx = orFlag (orFlag (orFlag ((stack.store 0 (List.replicate n 0)).set 1 command)
      h.viccFast fRateHigh) h.viccTwoSubc fSubcTwo) c flag) :
    tx 0 = (if c then flag else 0) ||| h.rateFlags ||| h.subcFlags ∧ tx 1 = command := by
  constructor
  · rw [htx, orFlag_zero, orFlag_zero, orFlag_zero, Mem.set_ne _ _ (by decide), memset_zero stack hn,
      block_flags]
  · rw [htx, orFlag_of_ne _ _ _ (by decide), orFlag_of_ne _ _ _ (by decide),
      orFlag_of_ne _ _ _ (by decide), Mem.set_self]

theorem block_load (command flags blocknr : UInt8) (data : List UInt8) {tx : Mem UInt8}
    (hhead : tx 0 = flags ||| h.rateFlags ||| h.subcFlags ∧ tx 1 = command) :
    (if h.state = .selected then
      (((orFlag tx true f4Selected).set 2 blocknr).store 3 data).load 0 (selReqSize + data.length)
    else (((orFlag (tx.store 2 h.uidBytes) true f4Address).set 10 blocknr).store 11 data).load 0
      (addrReqSize + data.length)) = blockRequest h command flags blocknr data := by
  have h0 : tx.store 2 h.uidBytes 0 = tx 0 := Mem.store_of_lt _ _ (by decide)
  unfold blockRequest
  dsimp only
  split_ifs
  · refine (load_selected tx (tx 0 ||| f4Selected) blocknr data rfl).trans ?_
    rw [hhead.1, hhead.2]
  · have hm : (((orFlag (tx.store 2 h.uidBytes) true f4Address).set 10 blocknr).store 11 data) =
        (((tx.store 2 h.uidBytes).set 0 (tx 0 ||| f4Address)).set 10 blocknr).store 11 data := by
      rw [← h0]
      rfl
    rw [load_addressed tx _ blocknr (length_uidBytes15693 h) data hm, hhead.1, hhead.2]

theorem readBlockReq_load (blocknr : UInt8) (blockSecOut : Bool) :
    (readBlockReq stack h blocknr blockSecOut).1.load 0 (readBlockReq stack h blocknr blockSecOut).2 =
      blockRequest h cmdReadBlockSingle (if blockSecOut then f4Custom else 0) blocknr [] := by
  have hhead := block_head stack h cmdReadBlockSingle f4Custom blockSecOut
    (show 0 < addrReqSize by decide) rfl
  rw [← block_load h cmdReadBlockSingle _ blocknr [] hhead]
  unfold readBlockReq
  dsimp only
  split_ifs
  · -- here the block number is stored before the flag is set
    rw [orFlag_set _ _ _ _ (by decide)]
    rfl
  · rfl

theorem writeBlockReq_load (blocknr : UInt8) (data : List UInt8) :
    (writeBlockReq stack h blocknr data).1.load 0 (writeBlockReq stack h blocknr data).2 =
      blockRequest h cmdWriteBlockSingle 0 blocknr data := by
  have hhead := block_head stack h cmdWriteBlockSingle 0 false
    (show 0 < 4 * (addrReqSize + blockSizeMax) by decide) rfl
  rw [if_neg Bool.false_ne_true] at hhead
  rw [← block_load h cmdWriteBlockSingle _ blocknr data hhead]
  unfold writeBlockReq
  dsimp only
  split_ifs <;> rfl

theorem selectReq_load :
    (selectReq stack h).1.load 0 (selectReq stack h).2 = addressedRequest h cmdSelect := by
  refine (load_adressed _ (length_uidBytes15693 h)).trans ?_
  rw [orFlag_zero, orFlag_zero, Mem.set_self, orFlag_of_ne _ _ _ (by decide),
    orFlag_of_ne _ _ _ (by decide), Mem.set_ne _ _ (by decide), Mem.set_self]
  rfl

theorem stayQuietReq_load :
    (stayQuietReq stack h).1.load 0 (stayQuietReq stack h).2 = addressedRequest h cmdStayQuiet := by
  refine (load_adressed _ (length_uidBytes15693 h)).trans ?_
  rw [orFlag_zero, orFlag_zero, Mem.set_self, orFlag_of_ne _ _ _ (by decide),
    orFlag_of_ne _ _ _ (by decide), Mem.set_ne _ _ (by decide), Mem.set_self]
  rfl

end Frames

inductive RequestMode
  | selected
  | addressed (uid : List UInt8)
  deriving DecidableEq

structure DecodedRequest where
  command : UInt8
  mode : RequestMode
  rateHigh : Bool
  twoSubc : Bool
  option : Bool
  params : List UInt8
  deriving DecidableEq

def decodeRequest : List UInt8 → Option DecodedRequest
  | flags :: command :: data =>
    let req mode params : DecodedRequest :=
      ⟨command, mode, flags &&& fRateHigh ≠ 0, flags &&& fSubcTwo ≠ 0, flags &&& f4Custom ≠ 0, params⟩
    let mode := flags &&& (f4Selected ||| f4Address)
    if mode = f4Selected then some (req .selected data)
    else if mode = f4Address ∧ uidLen15693 ≤ data.length
    then some (req (.addressed (data.take uidLen15693)) (data.drop uidLen15693))
    else none
  | _ => none

inductive BlockCall
  | readBlock (blocknr : UInt8) (len : Nat) (blockSecOut : Bool)
  | writeBlock (blocknr : UInt8) (data : List UInt8)
  | select
  | stayQuiet

namespace BlockCall

def run {σ : Type} (r : Iso15693Reader σ) (stack : Mem UInt8) : BlockCall → Iso15693M σ Int
  | readBlock blocknr len blockSecOut => do
    let x ← iso15693ReadBlock r stack blocknr len blockSecOut
    pure x.ret
  | writeBlock blocknr data => iso15693WriteBlock r stack blocknr data
  | select => iso15693Select r stack
  | stayQuiet => iso15693StayQuiet r stack

def bytes (stack : Mem UInt8) (h : Iso15693Handle) (c : BlockCall) : List UInt8 :=
  let x := match c with
    | readBlock blocknr _ blockSecOut => readBlockReq stack h blocknr blockSecOut
    | writeBlock blocknr data => writeBlockReq stack h blocknr data
    | select => selectReq stack h
    | stayQuiet => stayQuietReq stack h
  x.1.load 0 x.2

def asked (h : Iso15693Handle) : BlockCall → DecodedRequest
  | readBlock blocknr _ blockSecOut =>
    ⟨cmdReadBlockSingle, if h.state = .selected then .selected else .addressed h.uidBytes, h.viccFast,
      h.viccTwoSubc, blockSecOut, [blocknr]⟩
  | writeBlock blocknr data =>
    ⟨cmdWriteBlockSingle, if h.state = .selected then .selected else .addressed h.uidBytes, h.viccFast,
      h.viccTwoSubc, false, blocknr :: data⟩
  | select => ⟨cmdSelect, .addressed h.uidBytes, h.viccFast, h.viccTwoSubc, false, []⟩
  | stayQuiet => ⟨cmdStayQuiet, .addressed h.uidBytes, h.viccFast, h.viccTwoSubc, false, []⟩

def TooLong : BlockCall → Prop
  | writeBlock _ data => data.length > blockSizeMax
  | _ => False

instance : (c : BlockCall) → Decidable c.TooLong
  | writeBlock _ data => inferInstanceAs (Decidable (data.length > blockSizeMax))
  | readBlock .. => inferInstanceAs (Decidable False)
  | select => inferInstanceAs (Decidable False)
  | stayQuiet => inferInstanceAs (Decidable False)

end BlockCall

def DecodedRequest.size (d : DecodedRequest) : Nat :=
  1 + 1 + (match d.mode with | .selected => 0 | .addressed uid => uid.length) + d.params.length

/-- The request can be read in one way only. -/
structure ReadsAs (frame : List UInt8) (d : DecodedRequest) : Prop where
  decoded : decodeRequest frame = some d
  exclusive : ¬ (frame.headD 0 &&& f4Selected ≠ 0 ∧ frame.headD 0 &&& f4Address ≠ 0)
  length : frame.length = d.size

section Decode

variable (h : Iso15693Handle)

structure FlagsOf (flags mode : UInt8) (option : Bool) : Prop where
  mode : flags &&& (f4Selected ||| f4Address) = mode
  exclusive : ¬ (flags &&& f4Selected ≠ 0 ∧ flags &&& f4Address ≠ 0)
  rateHigh : decide (flags &&& fRateHigh ≠ 0) = h.viccFast
  twoSubc : decide (flags &&& fSubcTwo ≠ 0) = h.viccTwoSubc
  option : decide (flags &&& f4Custom ≠ 0) = option

theorem flagsOf_block (option : Bool) {mode : UInt8}
    (hmode : mode = f4Selected ∨ mode = f4Address) :
    FlagsOf h ((if option then f4Custom else 0) ||| h.rateFlags ||| h.subcFlags ||| mode) mode
      option := by
  unfold Iso15693Handle.rateFlags Iso15693Handle.subcFlags
  rcases hmode with rfl | rfl <;> cases option <;> constructor <;> cases h.viccFast <;>
    cases h.viccTwoSubc <;> decide

theorem flagsOf_addressed :
    FlagsOf h (f4Address ||| h.rateFlags ||| h.subcFlags) f4Address false := by
  unfold Iso15693Handle.rateFlags Iso15693Handle.subcFlags
  constructor <;> cases h.viccFast <;> cases h.viccTwoSubc <;> decide

variable {h} {flags command : UInt8} {option : Bool} {params : List UInt8}

theorem readsAs_selected (hf : FlagsOf h flags f4Selected option) :
    ReadsAs (flags :: command :: params)
      ⟨command, .selected, h.viccFast, h.viccTwoSubc, option, params⟩ where
  decoded := by
    unfold decodeRequest
    dsimp only
    rw [if_pos hf.mode, hf.rateHigh, hf.twoSubc, hf.option]
  exclusive := hf.exclusive
  length := by
    simp only [DecodedRequest.size, List.length_cons]
    omega

theorem readsAs_addressed (hf : FlagsOf h flags f4Address option) :
    ReadsAs (flags :: command :: h.uidBytes ++ params)
      ⟨command, .addressed h.uidBytes, h.viccFast, h.viccTwoSubc, option, params⟩ where
  decoded := by
    have hne : f4Address ≠ f4Selected := by decide
    have hlen : h.uidBytes.length = uidLen15693 := length_uidBytes15693 h
    have hroom : uidLen15693 ≤ (h.uidBytes ++ params).length := by
      rw [List.length_append, hlen]
      exact Nat.le_add_right _ _
    rw [List.cons_append, List.cons_append, decodeRequest]
    dsimp only
    rw [hf.mode, if_neg hne, if_pos ⟨rfl, hroom⟩, hf.rateHigh, hf.twoSubc, hf.option,
      List.take_left' hlen, List.drop_left' hlen]
  exclusive := hf.exclusive
  length := by
    simp only [DecodedRequest.size, List.length_append, List.length_cons]
    omega

theorem readsAs_block (h : Iso15693Handle) (command blocknr : UInt8) (option : Bool)
    (data : List UInt8) :
    ReadsAs (blockRequest h command (if option then f4Custom else 0) blocknr data)
      ⟨command, if h.state = .selected then .selected else .addressed h.uidBytes, h.viccFast,
        h.viccTwoSubc, option, blocknr :: data⟩ := by
  unfold blockRequest
  dsimp only
  by_cases hsel : h.state = .selected
  · rw [if_pos hsel, if_pos hsel]
    exact readsAs_selected (flagsOf_block h option (.inl rfl))
  · rw [if_neg hsel, if_neg hsel]
    exact readsAs_addressed (flagsOf_block h option (.inr rfl))

theorem readsAs_bytes (stack : Mem UInt8) (h : Iso15693Handle) (c : BlockCall) :
    ReadsAs (c.bytes stack h) (c.asked h) := by
  have haddressed : ∀ command, ReadsAs (addressedRequest h command)
      ⟨command, .addressed h.uidBytes, h.viccFast, h.viccTwoSubc, false, []⟩ := by
    intro command
    rw [addressedRequest, ← List.append_nil (_ :: _)]
    exact readsAs_addressed (flagsOf_addressed h)
  cases c with
  | readBlock blocknr len blockSecOut =>
    rw [BlockCall.bytes, readBlockReq_load]
    exact readsAs_block h cmdReadBlockSingle blocknr blockSecOut []
  | writeBlock blocknr data =>
    rw [BlockCall.bytes, writeBlockReq_load]
    exact readsAs_block h cmdWriteBlockSingle blocknr false data
  | select =>
    rw [BlockCall.bytes, selectReq_load]
    exact haddressed cmdSelect
  | stayQuiet =>
    rw [BlockCall.bytes, stayQuietReq_load]
    exact haddressed cmdStayQuiet

end Decode

section Sent

variable {σ : Type}

def Iso15693Reader.noting (r : Iso15693Reader σ) : Iso15693Reader (σ × List (List UInt8)) where
  transceive frametype tx txLen rx rxLen timeout := fun (s, l) =>
    let x := r.transceive frametype tx txLen rx rxLen timeout s
    (x.1, (x.2, l ++ [tx.load 0 txLen]))
  transceiveAc acf acfLen rxLen boc := lift (r.transceiveAc acf acfLen rxLen boc)

variable (r : Iso15693Reader σ) (h : Iso15693Handle)

def Fresh (s : (σ × List (List UInt8)) × Iso15693Handle) : Prop := s.1.2 = [] ∧ s.2 = h

theorem iso15693Transceive_notes (tx : List UInt8) (rx : Mem UInt8) (rxLen timeout : Nat) :
    Triple (Fresh h) (iso15693Transceive r.noting tx rx rxLen timeout) fun _ s => s.1.2 = [tx] := by
  rintro ⟨⟨s, _⟩, _⟩ ⟨rfl, rfl⟩
  exact congrArg (fun l => [l]) (Mem.load_ofList _ tx)

theorem notes_bind {α : Type} {tx : List UInt8} (rx : Mem UInt8) (rxLen timeout : Nat)
    {f : AbResult → Iso15693M (σ × List (List UInt8)) α}
    (hf : ∀ x, Keeps (fun s => s.1.2 = [tx]) (f x)) :
    Triple (Fresh h) (iso15693Transceive r.noting tx rx rxLen timeout >>= f) fun _ s =>
      s.1.2 = [tx] :=
  .bind (iso15693Transceive_notes r h tx rx rxLen timeout) hf (fun _ _ => id) fun _ => id

theorem blockCall_notes (stack tx : Mem UInt8) (c : BlockCall) :
    Triple (Fresh h) (c.run r.noting stack) fun _ s =>
      s.1.2 = if c.TooLong then [] else [c.bytes tx h] := by
  cases c with
  | readBlock blocknr len blockSecOut =>
    have hread : Triple (Fresh h) (iso15693ReadBlock r.noting stack blocknr len blockSecOut)
        fun _ s => s.1.2 = [BlockCall.bytes tx h (.readBlock blocknr len blockSecOut)] := by
      rw [BlockCall.bytes, readBlockReq_load]
      rintro ⟨s, _⟩ ⟨hl, rfl⟩
      refine notes_bind r _ stack respSizeMax _ (fun x => ?_) _ ⟨hl, rfl⟩
      exact .ite (fun _ => .pure _) fun _ => .ite (fun _ => .pure _) fun _ =>
        .ite (fun _ => .pure _) fun _ => .pure _
    rw [if_neg (show ¬ BlockCall.TooLong (.readBlock blocknr len blockSecOut) from id)]
    exact .bind hread (fun x => Keeps.pure _) (fun _ _ => id) fun _ => id
  | writeBlock blocknr data =>
    refine Triple.ite (fun hlong => ?_) fun hshort => ?_
    · rw [if_pos (show BlockCall.TooLong (.writeBlock blocknr data) from hlong)]
      exact fun s hs => hs.1
    · rw [if_neg (show ¬ BlockCall.TooLong (.writeBlock blocknr data) from hshort), BlockCall.bytes,
        writeBlockReq_load]
      rintro ⟨s, _⟩ ⟨hl, rfl⟩
      refine notes_bind r _ stack respSizeMax _ (fun x => ?_) _ ⟨hl, rfl⟩
      exact .ite (fun _ => .pure _) fun _ => .ite (fun _ => .pure _) fun _ =>
        .ite (fun _ => .pure _) fun _ => .pure _
  | select =>
    rw [if_neg (show ¬ BlockCall.select.TooLong from id), BlockCall.bytes, selectReq_load]
    rintro ⟨s, _⟩ ⟨hl, rfl⟩
    refine notes_bind r _ stack errRespSize _ (fun x => ?_) _ ⟨hl, rfl⟩
    exact .ite (fun _ => .pure _) fun _ => .bind (fun _ => id) fun _ => .pure _
  | stayQuiet =>
    rw [if_neg (show ¬ BlockCall.stayQuiet.TooLong from id), BlockCall.bytes, stayQuietReq_load]
    rintro ⟨s, _⟩ ⟨hl, rfl⟩
    exact notes_bind r _ stack errRespSize _ (fun x => .bind (fun _ => id) fun _ => .pure _) _ ⟨hl, rfl⟩

end Sent

/-- What a call hands to the transport is the request it builds, whatever was on the stack, and it
reads as what was asked for. -/
theorem blockCall_reads {σ : Type} (r : Iso15693Reader σ) (c : BlockCall) (h : Iso15693Handle)
    (stack tx : Mem UInt8) (s : σ) :
    ((c.run r.noting stack) ((s, []), h)).2.1.2 = (if c.TooLong then [] else [c.bytes tx h]) ∧
      (∀ tx', c.bytes tx' h = c.bytes tx h) ∧ ReadsAs (c.bytes tx h) (c.asked h) := by
  have hsame : ∀ tx', c.bytes tx' h = c.bytes tx h := by
    intro tx'
    cases c with
    | readBlock blocknr len blockSecOut =>
      rw [BlockCall.bytes, BlockCall.bytes, readBlockReq_load, readBlockReq_load]
    | writeBlock blocknr data =>
      rw [BlockCall.bytes, BlockCall.bytes, writeBlockReq_load, writeBlockReq_load]
    | select => rw [BlockCall.bytes, BlockCall.bytes, selectReq_load, selectReq_load]
    | stayQuiet => rw [BlockCall.bytes, BlockCall.bytes, stayQuietReq_load, stayQuietReq_load]
  exact ⟨blockCall_notes r h stack tx c _ ⟨rfl, rfl⟩, hsame, readsAs_bytes tx h c⟩

end Librfid.Layer2
