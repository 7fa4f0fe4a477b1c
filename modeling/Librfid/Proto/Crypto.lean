import Librfid.Lib.View
import Librfid.Rc632.Chip
import Librfid.Rc632.Mifare
import Librfid.Rc632.Sites
import Librfid.Proto.MifareClassic

namespace Librfid.Proto

open Rc632 Exec

def answerRoom (frame : List UInt8) : Nat :=
  if frame.length = 2 ∧ frame.headD 0 = mifareClCmdRead then mifareClPageSize else 1

theorem answerRoom_le (frame : List UInt8) : answerRoom frame ≤ mifareClPageSize := by
  unfold answerRoom
  split_ifs <;> decide

/-- A card, whatever it does.  `challenge` is its part in the first pass of an authentication, of which
`verify` is the rest; a frame comes enciphered or not, and there may be an answer. -/
structure CryptoCard (γ : Type) where
  challenge : UInt8 → UInt8 → List UInt8 → γ → Bool × γ
  verify : List UInt8 → γ → Bool × γ
  hear : Bool → List UInt8 → γ → Option (List UInt8) × γ
  answers : ∀ {crypto : Bool} {frame : List UInt8} {g : γ} {answer : List UInt8},
    (hear crypto frame g).1 = some answer → answer ≠ [] ∧ answer.length ≤ answerRoom frame

def codedNibble (b : UInt8) : Option UInt8 :=
  if b >>> 4 = ~~~b &&& 0x0f then some (b &&& 0x0f) else none

def decodeKey : List UInt8 → Option (List UInt8)
  | [] => some []
  | [_] => none
  | h :: l :: rest =>
    (codedNibble h).bind fun hn => (codedNibble l).bind fun ln =>
      (decodeKey rest).map fun key => (hn <<< 4 ||| ln) :: key

/-- The part of the chip that takes keys and frames.  It is `silent` while it waits for an answer that
does not come; the timer has always run out when it is looked at then. -/
structure CryptoUnit (γ : Type) where
  fifo : List UInt8
  key : List UInt8
  keyErr : Bool
  crypto : Bool
  silent : Bool
  card : γ

namespace CryptoUnit

variable {γ : Type} (card : CryptoCard γ)

def command (k : CryptoUnit γ) (val : UInt8) : CryptoUnit γ :=
  if val = cmdLoadKey then
    { k with
      fifo := k.fifo.drop 12
      key := (decodeKey (k.fifo.take 12)).getD k.key
      keyErr := (decodeKey (k.fifo.take 12)).isNone
      silent := false }
  else if val = cmdAuthent1 then
    let (heard, g) := card.challenge (k.fifo.getD 0 0) (k.fifo.getD 1 0) ((k.fifo.drop 2).take 4) k.card
    { k with fifo := k.fifo.drop 6, keyErr := false, crypto := false, silent := !heard, card := g }
  else if val = cmdAuthent2 then
    let (verified, g) := card.verify k.key k.card
    { k with keyErr := false, crypto := verified, silent := false, card := g }
  else if val = cmdTransceive then
    let (answer, g) := card.hear k.crypto k.fifo k.card
    { k with fifo := answer.getD [], keyErr := false, silent := answer.isNone, card := g }
  else { k with keyErr := false, silent := false }

def write (k : CryptoUnit γ) (reg val : UInt8) : CryptoUnit γ :=
  if reg = regCommand then k.command card val
  else if reg = regControl then
    { k with
      fifo := if val &&& controlFifoFlush ≠ 0 then [] else k.fifo
      crypto := k.crypto && val &&& controlCrypto1On ≠ 0 }
  else k

def read (k : CryptoUnit γ) (regs : UInt8 → UInt8) (reg : UInt8) : UInt8 :=
  if reg = regPrimaryStatus then (if k.keyErr then statErr else 0) ||| if k.silent then statIrq else 0
  else if reg = regErrorFlag then if k.keyErr then errFlagKeyErr else 0
  else if reg = regInterruptRq then if k.silent then irqTimer else 0
  else if reg = regCommand then if k.silent then cmdTransceive else 0
  else if reg = regFifoLength then UInt8.ofNat k.fifo.length
  else if reg = regSecondaryStatus then 0
  else if reg = regControl then if k.crypto then controlCrypto1On else 0
  else regs reg

end CryptoUnit

structure CryptoChip (γ : Type) where
  regs : UInt8 → UInt8
  unit : CryptoUnit γ

def cryptoChip {γ : Type} (card : CryptoCard γ) : Transport (CryptoChip γ) where
  writeReg reg val c :=
    (0, ⟨fun r => if r = reg then val else c.regs r, c.unit.write card reg val⟩)
  readReg reg c := ((0, c.unit.read c.regs reg), c)
  writeFifo bytes _ c := (0, ⟨c.regs, { c.unit with fifo := (c.unit.fifo ++ bytes).take fifoSize }⟩)
  readFifo len c :=
    ((0, c.unit.fifo.take len.toNat), ⟨c.regs, { c.unit with fifo := c.unit.fifo.drop len.toNat }⟩)

section

variable {γ : Type} {card : CryptoCard γ} {k : CryptoUnit γ} {reg : UInt8}

theorem regWrite_runs (card : CryptoCard γ) (k : CryptoUnit γ) (reg val : UInt8) :
    Runs CryptoChip.unit ((cryptoChip card).regWrite reg val) k (.ok 0) (k.write card reg val) :=
  .step fun _ hs => ⟨rfl, hs ▸ rfl⟩

theorem regWrite_plain (hcmd : reg ≠ regCommand) (hctl : reg ≠ regControl) (val : UInt8) :
    Runs CryptoChip.unit ((cryptoChip card).regWrite reg val) k (.ok 0) k := by
  have hrun := regWrite_runs card k reg val
  rwa [CryptoUnit.write, if_neg hcmd, if_neg hctl] at hrun

theorem write_runs {val : UInt8} {k' : CryptoUnit γ}
    (h : Runs CryptoChip.unit ((cryptoChip card).regWrite reg val) k (.ok 0) k') :
    Runs CryptoChip.unit ((cryptoChip card).write reg val) k (.ok ()) k' :=
  h.bind (.pure () k')

theorem command_runs (card : CryptoCard γ) (k : CryptoUnit γ) (val : UInt8) :
    Runs CryptoChip.unit ((cryptoChip card).write regCommand val) k (.ok ()) (k.command card val) :=
  write_runs (regWrite_runs card k regCommand val)

theorem regRead_runs {val : UInt8} (h : ∀ regs, k.read regs reg = val) :
    Runs CryptoChip.unit ((cryptoChip card).regRead reg) k (.ok (0, val)) k :=
  .step fun s hs => ⟨Prod.ext rfl ((congrArg (·.read s.regs reg) hs).trans (h s.regs)), hs⟩

theorem read_runs {val : UInt8} (h : ∀ regs, k.read regs reg = val) :
    Runs CryptoChip.unit ((cryptoChip card).read reg) k (.ok val) k :=
  (regRead_runs h).bind (.pure val k)

theorem regRead_any (card : CryptoCard γ) (k : CryptoUnit γ) (reg : UInt8) :
    Total (fun c => c.unit = k) ((cryptoChip card).regRead reg) fun _ c => c.unit = k :=
  fun c hc => ⟨_, c, rfl, hc⟩

theorem read_any (card : CryptoCard γ) (k : CryptoUnit γ) (reg : UInt8) :
    Total (fun c => c.unit = k) ((cryptoChip card).read reg) fun _ c => c.unit = k :=
  fun c hc => ⟨_, c, rfl, hc⟩

theorem clearBits_plain (hcmd : reg ≠ regCommand) (hctl : reg ≠ regControl) (val : UInt8) :
    Runs CryptoChip.unit (rc632ClearBits (cryptoChip card).toBus reg val) k (.ok 0) k := by
  intro c hc
  have hread : (cryptoChip card).regRead reg c = (.ok (0, c.unit.read c.regs reg), c) := rfl
  rw [rc632ClearBits, bind_ok hread]
  dsimp only
  rw [if_neg (by decide)]
  split_ifs
  · exact ⟨c, rfl, hc⟩
  · exact regWrite_plain hcmd hctl _ c hc

theorem timerSet_runs (card : CryptoCard γ) (k : CryptoUnit γ) (undef : UInt8) (timeout : Nat) :
    Runs CryptoChip.unit (rc632TimerSet (cryptoChip card).toBus undef timeout) k (.ok ()) k := by
  have hplain : ∀ reg : UInt8, reg ≠ regCommand → reg ≠ regControl → ∀ val,
      Runs CryptoChip.unit ((cryptoChip card).regWrite reg val) k (.ok 0) k := fun _ => regWrite_plain
  refine (write_runs (hplain regTimerClock (by decide) (by decide) _)).bind ?_
  refine (hplain regTimerControl (by decide) (by decide) _).bind ?_
  refine (hplain regInterruptRq (by decide) (by decide) _).bind ?_
  refine (hplain regInterruptEn (by decide) (by decide) _).bind ?_
  exact (hplain regTimerReload (by decide) (by decide) _).bind (.pure () k)

theorem waitIdle_runs {o : Outcome (Option Unit)} {o' : Outcome Unit} (fuel : Nat)
    (h : Runs CryptoChip.unit (rc632WaitIdlePoll (cryptoChip card).toBus) k o k)
    (ho : o = .ok (some ()) ∧ o' = .ok () ∨ ∃ code, o = .fail code ∧ o' = .fail code) :
    Runs CryptoChip.unit (rc632WaitIdleTimer (cryptoChip card).toBus (fuel + 1)) k o' k := by
  refine .bind_any (read_any card k regInterruptEn) fun _ => ?_
  refine (write_runs (regWrite_plain (by decide) (by decide) _)).bind ?_
  obtain ⟨rfl, rfl⟩ | ⟨code, rfl, rfl⟩ := ho
  · exact h.bind (.pure () k)
  · exact h.bind_fail

theorem waitIdle_idle (fuel : Nat) (h : k.silent = false) :
    Runs CryptoChip.unit (rc632WaitIdleTimer (cryptoChip card).toBus (fuel + 1)) k (.ok ()) k := by
  have hstat : ∀ regs, k.read regs regPrimaryStatus = if k.keyErr then statErr else 0 := fun regs => by
    simp [CryptoUnit.read, h]
  have herr : ∀ regs, k.read regs regErrorFlag = if k.keyErr then errFlagKeyErr else 0 := fun _ => rfl
  have hcmd : ∀ regs, k.read regs regCommand = 0 := fun regs => by
    have hread : k.read regs regCommand = if k.silent then cmdTransceive else 0 := rfl
    rw [hread, h]
    rfl
  refine waitIdle_runs fuel ?_ (.inl ⟨rfl, rfl⟩)
  refine (regRead_runs hstat).bind ?_
  refine .skip ?_ ?_
  · by_cases hkey : k.keyErr
    · rw [hkey] at herr ⊢
      rw [when_of (by decide)]
      exact (read_runs herr).bind (.when_not (by decide) k)
    · rw [Bool.not_eq_true] at hkey
      rw [hkey]
      exact .when_not (by decide) k
  refine .skip ?_ ?_
  · cases k.keyErr with
    | true => exact .when_not (by decide) k
    | false => exact .when_not (by decide) k
  refine (read_runs hcmd).bind ?_
  rw [if_pos rfl]
  exact (regWrite_plain (by decide) (by decide) _).bind (.pure _ k)

theorem waitIdle_silent (fuel : Nat) (h : k.silent = true) (hkey : k.keyErr = false) :
    Runs CryptoChip.unit (rc632WaitIdleTimer (cryptoChip card).toBus (fuel + 1)) k
      (.fail (-eTimedOut)) k := by
  have hstat : ∀ regs, k.read regs regPrimaryStatus = statIrq := fun regs => by
    simp [CryptoUnit.read, h, hkey]
  have hirq : ∀ regs, k.read regs regInterruptRq = irqTimer := fun regs => by
    have hread : k.read regs regInterruptRq = if k.silent then irqTimer else 0 := rfl
    rw [hread, h]
    rfl
  refine waitIdle_runs fuel ?_ (.inr ⟨_, rfl, rfl⟩)
  refine (regRead_runs hstat).bind ?_
  refine (Runs.when_not (by decide) k).bind (.bind_fail ?_)
  rw [when_of (by decide)]
  refine (read_runs hirq).bind ?_
  rw [when_of (by decide)]
  exact (regWrite_plain (by decide) (by decide) _).bind (.fail _ k)

theorem codedNibble_transform (b : UInt8) :
    codedNibble (~~~(b >>> 4) <<< 4 ||| b >>> 4) = some (b >>> 4) ∧
      codedNibble (~~~(b &&& 0x0f) <<< 4 ||| (b &&& 0x0f)) = some (b &&& 0x0f) ∧
      (b >>> 4) <<< 4 ||| (b &&& 0x0f) = b := by
  have hall : ∀ n < 256, codedNibble (~~~(UInt8.ofNat n >>> 4) <<< 4 ||| UInt8.ofNat n >>> 4) =
        some (UInt8.ofNat n >>> 4) ∧
      codedNibble (~~~(UInt8.ofNat n &&& 0x0f) <<< 4 ||| (UInt8.ofNat n &&& 0x0f)) =
        some (UInt8.ofNat n &&& 0x0f) ∧
      (UInt8.ofNat n >>> 4) <<< 4 ||| (UInt8.ofNat n &&& 0x0f) = UInt8.ofNat n := by decide +kernel
  have hb := hall b.toNat b.toNat_lt
  rwa [UInt8.ofNat_toNat] at hb

theorem decodeKey_transform (key : Mem UInt8) :
    decodeKey (rc632MifareTransformKey key) = some (key.load 0 6) := by
  rw [rc632MifareTransformKey]
  induction key.load 0 6 with
  | nil => rfl
  | cons b bytes ih =>
    obtain ⟨hhigh, hlow, hbyte⟩ := codedNibble_transform b
    simp only [List.flatMap_cons, List.cons_append, List.nil_append, decodeKey, hhigh, hlow,
      Option.bind_some, ih, Option.map_some, hbyte]

theorem fifoWrite_runs (card : CryptoCard γ) (k : CryptoUnit γ) (bytes : List UInt8) (flags : UInt8) :
    Runs CryptoChip.unit ((cryptoChip card).fifoWrite bytes flags) k (.ok 0)
      { k with fifo := (k.fifo ++ bytes).take fifoSize } :=
  .step fun _ hs => ⟨rfl, hs ▸ rfl⟩

theorem fifoRead_runs (card : CryptoCard γ) (k : CryptoUnit γ) (len : UInt8) :
    Runs CryptoChip.unit ((cryptoChip card).fifoRead len) k (.ok (0, k.fifo.take len.toNat))
      { k with fifo := k.fifo.drop len.toNat } :=
  .step fun _ hs => ⟨hs ▸ rfl, hs ▸ rfl⟩

end

structure Desk (γ : Type) where
  key : List UInt8
  crypto : Bool
  card : γ

def Desk.unit {γ : Type} (w : Desk γ) (silent : Bool) : CryptoUnit γ :=
  ⟨[], w.key, false, w.crypto, silent, w.card⟩

section

variable {γ : Type} {card : CryptoCard γ}

theorem setKey_runs (card : CryptoCard γ) (undef : UInt8) (fuel : Nat) (key : Mem UInt8) (w : Desk γ)
    (silent : Bool) :
    Runs CryptoChip.unit (rc632MifareSetKey ((cryptoChip card).mifare undef (fuel + 1)) key)
      (w.unit silent) (.ok ()) (({ w with key := key.load 0 6 } : Desk γ).unit false) := by
  have hfifo : ([] ++ rc632MifareTransformKey key).take fifoSize = rc632MifareTransformKey key := rfl
  have hload : CryptoUnit.command card { w.unit false with fifo := rc632MifareTransformKey key }
      cmdLoadKey = ({ w with key := key.load 0 6 } : Desk γ).unit false := by
    have hdecode : decodeKey ((rc632MifareTransformKey key).take 12) = some (key.load 0 6) :=
      decodeKey_transform key
    rw [CryptoUnit.command, if_pos rfl]
    simp only [hdecode]
    rfl
  refine (command_runs card (w.unit silent) cmdIdle).bind ?_
  refine (fifoWrite_runs card (w.unit false) _ _).bind_check (Int.le_refl 0) ?_
  refine (command_runs card _ cmdLoadKey).bind ?_
  rw [Desk.unit, hfifo]
  rw [Desk.unit] at hload
  rw [hload]
  refine (timerSet_runs card _ undef _).bind ?_
  refine (waitIdle_idle fuel rfl).bind ?_
  exact (read_runs fun _ => rfl).bind (.when_not (by decide) _)

theorem retOf_ok {x : Exec (CryptoChip γ) Unit} {k k' : CryptoUnit γ}
    (h : Runs CryptoChip.unit x k (.ok ()) k') : Runs CryptoChip.unit (retOf x) k (.ok 0) k' :=
  h.attempt_ok.bind (.pure 0 k')

theorem retOf_fail {x : Exec (CryptoChip γ) Unit} {k k' : CryptoUnit γ} {code : Int}
    (h : Runs CryptoChip.unit x k (.fail code) k') : Runs CryptoChip.unit (retOf x) k (.ok code) k' :=
  h.attempt_fail.bind (.pure code k')

theorem retOf_decided {x : Exec (CryptoChip γ) Unit} {k k' : CryptoUnit γ} {code : Int} {p : Prop}
    [Decidable p] (h : Runs CryptoChip.unit x k (if p then .ok () else .fail code) k') :
    Runs CryptoChip.unit (retOf x) k (.ok (if p then 0 else code)) k' := by
  split_ifs at h ⊢
  · exact retOf_ok h
  · exact retOf_fail h

end

/-- `serno` in `mfcl_auth`: the first four bytes of the UID, as they are in memory. -/
def sernoOf (uid : List UInt8) : UInt32 :=
  UInt32.ofNat ((uid.getD 0 0).toNat + (uid.getD 1 0).toNat * 2 ^ 8 + (uid.getD 2 0).toNat * 2 ^ 16 +
    (uid.getD 3 0).toNat * 2 ^ 24)

theorem mifareAuthcmd_serno (cmd block a b c d : UInt8) :
    mifareAuthcmd cmd block (sernoOf [a, b, c, d]) = [cmd, block, a, b, c, d] := by
  have ha := a.toNat_lt
  have hb := b.toNat_lt
  have hc := c.toNat_lt
  have hd := d.toNat_lt
  have h8 : (8 : UInt32).toNat % 32 = 8 := rfl
  have h16 : (16 : UInt32).toNat % 32 = 16 := rfl
  have h24 : (24 : UInt32).toNat % 32 = 24 := rfl
  simp only [mifareAuthcmd, sernoOf, List.cons.injEq, true_and, and_true, ← UInt8.toNat_inj,
    UInt32.toNat_toUInt8, UInt32.toNat_shiftRight, UInt32.toNat_ofNat', List.getD_cons_zero,
    List.getD_cons_succ, Nat.shiftRight_eq_div_pow, h8, h16, h24]
  omega

section

variable {γ : Type} (card : CryptoCard γ)

def cryptoReader (undef : UInt8) (fuel : Nat) : MifareReader (CryptoChip γ) where
  transceive := rc632Iso14443abTransceive ((cryptoChip card).asic undef fuel)
  setkey := some fun key =>
    retOf (rc632MifareSetKey ((cryptoChip card).mifare undef fuel) (Mem.ofList (fun _ => undef) key))
  auth := some fun cmd uid block =>
    retOf (rc632MifareAuth ((cryptoChip card).mifare undef fuel) cmd (sernoOf uid) block)

def Desk.challenge (cmd block : UInt8) (uid : List UInt8) : Exec (Desk γ) Bool := fun w =>
  (.ok (card.challenge cmd block uid w.card).1,
    { w with crypto := false, card := (card.challenge cmd block uid w.card).2 })

def Desk.verify : Exec (Desk γ) Bool := fun w =>
  (.ok (card.verify w.key w.card).1,
    { w with crypto := (card.verify w.key w.card).1, card := (card.verify w.key w.card).2 })

def Desk.hear (frame : List UInt8) : Exec (Desk γ) (Option (List UInt8)) := fun w =>
  (.ok (card.hear w.crypto frame w.card).1, { w with card := (card.hear w.crypto frame w.card).2 })

def Desk.setKey (key : List UInt8) : Exec (Desk γ) Int := fun w => (.ok 0, { w with key := key })

def Desk.auth (cmd block : UInt8) (uid : List UInt8) : Exec (Desk γ) Int :=
  if cmd ≠ cmdMifareAuth1a ∧ cmd ≠ cmdMifareAuth1b then pure (-eInval)
  else do
    if ← Desk.challenge card cmd block uid then
      if ← Desk.verify card then pure 0 else pure (-eAcces)
    else pure (-eTimedOut)

def Desk.transceive (frame : List UInt8) (rx : Mem UInt8) (rxLen : Nat) : Exec (Desk γ) AbResult := do
  let answer ← Desk.hear card frame
  let rx := rx.store 0 (List.replicate rxLen 0)
  pure (answer.elim ⟨-eTimedOut, rxLen, rx⟩ fun bytes => ⟨0, bytes.length, rx.store 0 bytes⟩)

def deskReader (undef : UInt8) : MifareReader (Desk γ) where
  transceive _ tx txLen rx rxLen _ := Desk.transceive card (tx.load 0 txLen) rx rxLen
  setkey := some fun key => Desk.setKey ((Mem.ofList (fun _ => undef) key).load 0 6)
  auth := some fun cmd uid block => Desk.auth card cmd block uid

end

section

variable {γ : Type} {card : CryptoCard γ}

theorem Desk.transceive_run (frame : List UInt8) (rx : Mem UInt8) (rxLen : Nat) (w : Desk γ) :
    Desk.transceive card frame rx rxLen w =
      (.ok ((card.hear w.crypto frame w.card).1.elim
          ⟨-eTimedOut, rxLen, rx.store 0 (List.replicate rxLen 0)⟩ fun bytes =>
          ⟨0, bytes.length, (rx.store 0 (List.replicate rxLen 0)).store 0 bytes⟩),
        (Desk.hear card frame w).2) := rfl

theorem Desk.auth_unheard {cmd block : UInt8} {uid : List UInt8} {w : Desk γ}
    (hcmd : ¬ (cmd ≠ cmdMifareAuth1a ∧ cmd ≠ cmdMifareAuth1b))
    (h : (card.challenge cmd block uid w.card).1 = false) :
    Desk.auth card cmd block uid w = (.ok (-eTimedOut), (Desk.challenge card cmd block uid w).2) := by
  have hfirst : Desk.challenge card cmd block uid w =
      (.ok false, (Desk.challenge card cmd block uid w).2) := Prod.ext (congrArg Outcome.ok h) rfl
  rw [Desk.auth, if_neg hcmd, bind_ok hfirst]
  rfl

theorem Desk.auth_heard {cmd block : UInt8} {uid : List UInt8} {w w₁ : Desk γ}
    (hcmd : ¬ (cmd ≠ cmdMifareAuth1a ∧ cmd ≠ cmdMifareAuth1b))
    (h : (card.challenge cmd block uid w.card).1 = true)
    (hw : (Desk.challenge card cmd block uid w).2 = w₁) :
    Desk.auth card cmd block uid w =
      (.ok (if (card.verify w₁.key w₁.card).1 then 0 else -eAcces), (Desk.verify card w₁).2) := by
  have hfirst : Desk.challenge card cmd block uid w = (.ok true, w₁) :=
    Prod.ext (congrArg Outcome.ok h) hw
  have hsecond : Desk.verify card w₁ = (.ok (card.verify w₁.key w₁.card).1, (Desk.verify card w₁).2) :=
    rfl
  rw [Desk.auth, if_neg hcmd, bind_ok hfirst, if_pos rfl, bind_ok hsecond]
  split_ifs <;> rfl

theorem auth_runs (undef : UInt8) (fuel : Nat) (cmd block a b c d : UInt8) (w : Desk γ)
    (silent : Bool) : ∃ silent',
    Runs CryptoChip.unit (retOf (rc632MifareAuth ((cryptoChip card).mifare undef (fuel + 1)) cmd
        (sernoOf [a, b, c, d]) block)) (w.unit silent)
      (Desk.auth card cmd block [a, b, c, d] w).1
      ((Desk.auth card cmd block [a, b, c, d] w).2.unit silent') := by
  by_cases hcmd : cmd ≠ cmdMifareAuth1a ∧ cmd ≠ cmdMifareAuth1b
  · rw [Desk.auth, if_pos hcmd, rc632MifareAuth, if_pos hcmd]
    exact ⟨silent, retOf_fail (.fail _ _)⟩
  obtain ⟨w₁, hw⟩ : ∃ w₁, (Desk.challenge card cmd block [a, b, c, d] w).2 = w₁ := ⟨_, rfl⟩
  have hclear : ∀ (k : CryptoUnit γ) (val : UInt8), Runs CryptoChip.unit
      (rc632ClearBits ((cryptoChip card).mifare undef (fuel + 1)).toBus regChannelRedundancy val) k
      (.ok 0) k := fun k => clearBits_plain (by decide) (by decide)
  have hfirst : CryptoUnit.command card { w.unit silent with
      fifo := ((w.unit silent).fifo ++ mifareAuthcmd cmd block (sernoOf [a, b, c, d])).take fifoSize }
      cmdAuthent1 = w₁.unit (!(card.challenge cmd block [a, b, c, d] w.card).1) := by
    rw [mifareAuthcmd_serno, ← hw]
    rfl
  have hsecond : CryptoUnit.command card (w₁.unit false) cmdAuthent2 =
      (Desk.verify card w₁).2.unit false := rfl
  rw [rc632MifareAuth, if_neg hcmd]
  cases hheard : (card.challenge cmd block [a, b, c, d] w.card).1 with
  | false =>
    rw [Desk.auth_unheard hcmd hheard, hw]
    rw [hheard] at hfirst
    refine ⟨true, retOf_fail ?_⟩
    refine (hclear _ _).bind_check (Int.le_refl 0) ?_
    refine (fifoWrite_runs card _ _ _).bind_check (Int.le_refl 0) ?_
    refine (command_runs card _ cmdAuthent1).bind ?_
    rw [hfirst]
    refine (timerSet_runs card _ undef _).bind ?_
    exact (waitIdle_silent fuel rfl rfl).bind_fail
  | true =>
    rw [Desk.auth_heard hcmd hheard hw]
    rw [hheard] at hfirst
    refine ⟨false, ?_⟩
    have hcontrol : ∀ regs, ((Desk.verify card w₁).2.unit false).read regs regControl =
        if (card.verify w₁.key w₁.card).1 then controlCrypto1On else 0 := fun _ => rfl
    refine retOf_decided ?_
    refine (hclear _ _).bind_check (Int.le_refl 0) ?_
    refine (fifoWrite_runs card _ _ _).bind_check (Int.le_refl 0) ?_
    refine (command_runs card _ cmdAuthent1).bind ?_
    rw [hfirst]
    refine (timerSet_runs card _ undef _).bind ?_
    refine (waitIdle_idle fuel rfl).bind ?_
    refine (read_runs fun _ => rfl).bind ((Runs.when_not (by decide) _).bind ?_)
    refine (hclear _ _).bind_check (Int.le_refl 0) ?_
    refine (timerSet_runs card _ undef _).bind ?_
    refine (command_runs card _ cmdAuthent2).bind ?_
    refine (waitIdle_idle fuel rfl).bind ?_
    refine (read_runs hcontrol).bind ?_
    cases (card.verify w₁.key w₁.card).1 with
    | true => exact .when_not (by decide) _
    | false =>
      rw [when_of (by decide)]
      exact .fail _ _

theorem transmit_runs (fuel : Nat) {tx : Mem UInt8} {txLen : UInt8} (hpos : txLen ≠ 0)
    (hle : txLen ≤ 64) (w : Desk γ) (silent : Bool) :
    Runs CryptoChip.unit
      (rc632TransmitLoop (cryptoChip card) tx txLen (fuel + 1) 0
        ((if txLen > 64 then 64 else txLen.toNat : Nat) : Int)) (w.unit silent) (.ok ())
      (CryptoUnit.command card { w.unit silent with fifo := tx.load 0 txLen.toNat } cmdTransceive) := by
  have hlen : txLen.toNat ≤ 64 := UInt8.le_iff_toNat_le.mp hle
  have hnat : 0 < txLen.toNat := Nat.pos_of_ne_zero fun h => hpos (UInt8.toNat_inj.mp h)
  have hbytes : ((txLen.toNat : Int) % 256).toNat = txLen.toNat := by omega
  have htake : ((w.unit silent).fifo ++ tx.load 0 txLen.toNat).take fifoSize = tx.load 0 txLen.toNat := by
    rw [List.take_of_length_le (by rwa [List.length_append, Mem.length_load, Desk.unit, List.length_nil,
      Nat.zero_add])]
    rfl
  rw [if_neg (UInt8.not_lt.mpr hle), rc632TransmitLoop, hbytes]
  refine (fifoWrite_runs card _ _ _).bind_check (Int.le_refl 0) ?_
  rw [when_of rfl, htake]
  refine (command_runs card _ cmdTransceive).bind ?_
  rw [if_neg (by omega)]
  exact .pure _ _

theorem exchange_runs (card : CryptoCard γ) (undef : UInt8) (fuel : Nat) (tx : Mem UInt8)
    {txLen : UInt8} (timer : Nat) (hpos : txLen ≠ 0) (hle : txLen ≤ 64) (w : Desk γ) (silent : Bool) :
    Runs CryptoChip.unit (rc632Exchange (cryptoChip card) undef (fuel + 1) tx txLen timer)
      (w.unit silent)
      ((card.hear w.crypto (tx.load 0 txLen.toNat) w.card).1.elim (.fail (-eTimedOut)) fun bytes =>
        .ok (UInt8.ofNat bytes.length))
      (CryptoUnit.command card { w.unit false with fifo := tx.load 0 txLen.toNat } cmdTransceive) := by
  refine (regWrite_runs card (w.unit silent) regCommand cmdIdle).bind ?_
  refine (regWrite_plain (k := w.unit false) (by decide) (by decide) _).bind ?_
  refine .bind_any (regRead_any card _ _) fun _ => .bind_any (regRead_any card _ _) fun _ => ?_
  refine (timerSet_runs card _ undef timer).bind ((transmit_runs fuel hpos hle w false).bind ?_)
  have hsilent : (CryptoUnit.command card { w.unit false with fifo := tx.load 0 txLen.toNat }
      cmdTransceive).silent = (card.hear w.crypto (tx.load 0 txLen.toNat) w.card).1.isNone := rfl
  have hfifo : (CryptoUnit.command card { w.unit false with fifo := tx.load 0 txLen.toNat }
      cmdTransceive).fifo = (card.hear w.crypto (tx.load 0 txLen.toNat) w.card).1.getD [] := rfl
  cases hanswer : (card.hear w.crypto (tx.load 0 txLen.toNat) w.card).1 with
  | none =>
    rw [hanswer] at hsilent
    exact (waitIdle_silent fuel hsilent rfl).bind_fail
  | some bytes =>
    rw [hanswer] at hsilent hfifo
    refine (waitIdle_idle fuel hsilent).bind (read_runs fun regs => ?_)
    exact congrArg (fun fifo => UInt8.ofNat (List.length fifo)) hfifo

theorem transceive_runs (undef : UInt8) (fuel : Nat) {tx : Mem UInt8} {txLen rxLen : UInt8}
    (timer : Nat) (hpos : txLen ≠ 0) (hle : txLen ≤ 64)
    (hroom : answerRoom (tx.load 0 txLen.toNat) ≤ rxLen.toNat) (w : Desk γ) (silent : Bool) :
    ∃ silent', Runs CryptoChip.unit
      (rc632Transceive (cryptoChip card) undef (fuel + 1) tx txLen rxLen timer) (w.unit silent)
      (.ok ((card.hear w.crypto (tx.load 0 txLen.toNat) w.card).1.elim ⟨-eTimedOut, rxLen, []⟩
        fun bytes => ⟨0, UInt8.ofNat bytes.length, bytes⟩))
      ((Desk.hear card (tx.load 0 txLen.toNat) w).2.unit silent') := by
  have hexch := exchange_runs card undef fuel tx timer hpos hle w silent
  have hunit : CryptoUnit.command card { w.unit false with fifo := tx.load 0 txLen.toNat } cmdTransceive =
      { (Desk.hear card (tx.load 0 txLen.toNat) w).2.unit
          (card.hear w.crypto (tx.load 0 txLen.toNat) w.card).1.isNone with
        fifo := (card.hear w.crypto (tx.load 0 txLen.toNat) w.card).1.getD [] } := rfl
  rw [hunit] at hexch
  cases hanswer : (card.hear w.crypto (tx.load 0 txLen.toNat) w.card).1 with
  | none =>
    rw [hanswer] at hexch
    exact ⟨true, hexch.attempt_fail.bind (.pure _ _)⟩
  | some bytes =>
    rw [hanswer] at hexch
    obtain ⟨hne, hlen⟩ := card.answers hanswer
    have hnat : (UInt8.ofNat bytes.length).toNat = bytes.length :=
      UInt8.toNat_ofNat_of_lt' (Nat.lt_of_le_of_lt (hlen.trans (answerRoom_le _)) (by decide))
    have havail : (if rxLen > UInt8.ofNat bytes.length then UInt8.ofNat bytes.length else rxLen) =
        UInt8.ofNat bytes.length := by
      split_ifs with hgt
      · rfl
      · apply UInt8.toNat_inj.mp
        have hge : rxLen.toNat ≤ (UInt8.ofNat bytes.length).toNat :=
          UInt8.le_iff_toNat_le.mp (UInt8.not_lt.mp hgt)
        rw [hnat] at hge ⊢
        exact Nat.le_antisymm hge (hlen.trans hroom)
    have hsome : UInt8.ofNat bytes.length ≠ 0 := fun hzero => by
      rw [hzero] at hnat
      exact hne (List.eq_nil_of_length_eq_zero hnat.symm)
    refine ⟨false, hexch.attempt_ok.bind ?_⟩
    dsimp only
    rw [havail, if_neg hsome]
    have hread := fifoRead_runs card { (Desk.hear card (tx.load 0 txLen.toNat) w).2.unit false with
      fifo := bytes } (UInt8.ofNat bytes.length)
    rw [hnat, List.take_length, List.drop_length] at hread
    exact hread.bind (.pure _ _)

theorem abTransceive_runs (undef : UInt8) (fuel : Nat) {tx : Mem UInt8} {txLen rxLen : Nat}
    (rx : Mem UInt8) (timeout : Nat) (hpos : 0 < txLen) (hle : txLen ≤ 64)
    (hroom : answerRoom (tx.load 0 txLen) ≤ rxLen) (hmax : rxLen ≤ 0xff) (w : Desk γ) (silent : Bool) :
    ∃ silent', Runs CryptoChip.unit
      ((cryptoReader card undef (fuel + 1)).transceive .mifareFrame tx txLen rx rxLen timeout)
      (w.unit silent) (Desk.transceive card (tx.load 0 txLen) rx rxLen w).1
      ((Desk.transceive card (tx.load 0 txLen) rx rxLen w).2.unit silent') := by
  have htx : (UInt8.ofNat txLen).toNat = txLen :=
    UInt8.toNat_ofNat_of_lt' (Nat.lt_of_le_of_lt hle (by decide))
  have hrx : (UInt8.ofNat rxLen).toNat = rxLen := UInt8.toNat_ofNat_of_lt' (Nat.lt_succ_of_le hmax)
  have hpos' : UInt8.ofNat txLen ≠ 0 := fun h => by
    rw [h] at htx
    exact absurd hpos (by rw [← htx]; decide)
  have hle' : UInt8.ofNat txLen ≤ 64 := UInt8.le_iff_toNat_le.mpr (by rwa [htx])
  have hroom' : answerRoom (tx.load 0 (UInt8.ofNat txLen).toNat) ≤ (UInt8.ofNat rxLen).toNat := by
    rwa [htx, hrx]
  have hwrite : Runs CryptoChip.unit
      (Exec.attempt ((cryptoChip card).write regChannelRedundancy
        (crRxCrcEnable ||| crTxCrcEnable ||| crParityEnable ||| crParityOdd))) (w.unit silent)
      (.ok (.ok ())) (w.unit silent) :=
    (write_runs (regWrite_plain (by decide) (by decide) _)).attempt_ok
  obtain ⟨silent', hruns⟩ := transceive_runs undef fuel timeout hpos' hle' hroom' w silent
  rw [htx] at hruns
  refine ⟨silent', hwrite.bind ?_⟩
  dsimp only
  rw [if_neg (Nat.not_lt.mpr hmax)]
  refine hruns.bind ?_
  rw [Desk.transceive_run]
  cases hanswer : (card.hear w.crypto (tx.load 0 txLen) w.card).1 with
  | none =>
    dsimp only [Option.elim_none]
    rw [hrx]
    exact .pure _ _
  | some bytes =>
    have hlen := (card.answers hanswer).2
    have hnat : (UInt8.ofNat bytes.length).toNat = bytes.length :=
      UInt8.toNat_ofNat_of_lt' (Nat.lt_of_le_of_lt (hlen.trans (answerRoom_le _)) (by decide))
    dsimp only [Option.elim_some]
    rw [hnat]
    exact .pure _ _

end

end Librfid.Proto
