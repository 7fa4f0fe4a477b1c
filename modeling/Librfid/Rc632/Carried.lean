import Librfid.Lib.Mimic
import Librfid.Rc632.Chip
import Librfid.Rc632.Configuration

namespace Librfid.Rc632

open Exec

def regFifo : UInt8 := 0x02

def Direct (reg : UInt8) : Prop := reg ≠ regFifo ∧ reg < 64

instance (reg : UInt8) : Decidable (Direct reg) := inferInstanceAs (Decidable (_ ∧ _))

/-- Accesses over the link are accesses to the chip, and none fails.  The queue holds 64 bytes. -/
structure Carries {τ σ : Type} (l : Transport τ) (t : Transport σ) (R : τ → σ → Prop) : Prop where
  regWrite : ∀ {reg : UInt8} (val : UInt8), Direct reg →
    Mimics R (l.regWrite reg val) (t.regWrite reg val) Fine
  regRead : ∀ {reg : UInt8}, Direct reg →
    Mimics R (l.regRead reg) (t.regRead reg) fun a b => Fine a.1 b.1 ∧ a.2 = b.2
  level : ∀ {w : τ} {s : σ}, R w s → (t.readReg regFifoLength s).1.2.toNat ≤ fifoSize
  fifoWrite : ∀ {bytes : List UInt8}, bytes ≠ [] → bytes.length ≤ fifoSize →
    Mimics R (l.fifoWrite bytes 0x03) (t.fifoWrite bytes 0x03) Fine
  fifoRead : ∀ {len : UInt8}, len ≠ 0 → len.toNat ≤ fifoSize →
    Mimics R (l.fifoRead len) (t.fifoRead len) fun a b => Fine a.1 b.1 ∧ a.2 = b.2

theorem fine_zero : Fine 0 0 := ⟨Int.le_refl 0, Int.le_refl 0⟩

theorem fine_lor {a a' b b' : Int} (h : Fine a a') (h' : Fine b b') :
    Fine (Int.lor a b) (Int.lor a' b') := by
  obtain ⟨m, rfl⟩ := Int.eq_ofNat_of_zero_le h.1
  obtain ⟨m', rfl⟩ := Int.eq_ofNat_of_zero_le h.2
  obtain ⟨n, rfl⟩ := Int.eq_ofNat_of_zero_le h'.1
  obtain ⟨n', rfl⟩ := Int.eq_ofNat_of_zero_le h'.2
  exact ⟨Int.natCast_nonneg _, Int.natCast_nonneg _⟩

def XferAlike (x y : Xfer) : Prop := SameVerdict x.ret y.ret ∧ x.rxLen = y.rxLen ∧ x.rx = y.rx

theorem value_of_read {σ : Type} {b : Bus σ} {reg v : UInt8} {s : σ} (h : (b.read reg s).1 = .ok v) :
    v = (b.readReg reg s).1.2 := by
  rcases hread : b.read reg s with ⟨o, s'⟩
  rw [hread] at h
  cases h
  obtain ⟨r, s₁, hreg, hread⟩ := of_bind_ok hread
  obtain ⟨u, s₂, -, hread⟩ := of_bind_ok hread
  cases hread
  cases hreg
  rfl

theorem retOf_carried {τ σ : Type} {R : τ → σ → Prop} {x : Exec τ Unit} {y : Exec σ Unit}
    (h : Mimics R x y Eq) : Mimics R (retOf x) (retOf y) SameVerdict :=
  (retOf_mimics h).post fun _ _ => .inl

namespace Carries

variable {τ σ : Type} {l : Transport τ} {t : Transport σ} {R : τ → σ → Prop} (h : Carries l t R)

include h

section Bus

variable {reg : UInt8} (hreg : Direct reg)

include hreg

theorem write (val : UInt8) : Mimics R (l.write reg val) (t.write reg val) Eq :=
  (h.regWrite val hreg).bind fun _ _ hc => .check (.inr hc)

theorem read : Mimics R (l.read reg) (t.read reg) Eq :=
  (h.regRead hreg).bind fun _ _ hr => .bind_eq (.check (.inr hr.1)) fun _ => .pure hr.2

/-- A register is read, and written back unless it already holds what it should. -/
theorem readModify (code : Int → Int) (done : UInt8 → Prop) [DecidablePred done] (f : UInt8 → UInt8) :
    Mimics R
      (l.regRead reg >>= fun x =>
        if x.1 < 0 then pure (code x.1) else if done x.2 then pure 0 else l.regWrite reg (f x.2))
      (t.regRead reg >>= fun x =>
        if x.1 < 0 then pure (code x.1) else if done x.2 then pure 0 else t.regWrite reg (f x.2)) Fine := by
  refine (h.regRead hreg).bind fun a b hab => ?_
  obtain ⟨⟨ha, hb⟩, hval⟩ := hab
  rw [if_neg (Int.not_lt.mpr ha), if_neg (Int.not_lt.mpr hb), hval]
  exact .ite (fun _ => .pure fine_zero) fun _ => h.regWrite _ hreg

theorem setBits (val : UInt8) :
    Mimics R (rc632SetBits l.toBus reg val) (rc632SetBits t.toBus reg val) Fine :=
  h.readModify hreg (fun _ => -1) (fun tmp => tmp &&& val = val) (· ||| val)

theorem setBitMask (mask val : UInt8) :
    Mimics R (rc632SetBitMask l.toBus reg mask val) (rc632SetBitMask t.toBus reg mask val) Fine :=
  h.readModify hreg id (fun tmp => tmp &&& mask = val) (· &&& ~~~mask ||| val &&& mask)

theorem clearBits (val : UInt8) :
    Mimics R (rc632ClearBits l.toBus reg val) (rc632ClearBits t.toBus reg val) Fine :=
  h.readModify hreg (fun _ => -1) (fun tmp => tmp &&& val = 0) (· &&& ~~~val)

end Bus

theorem clearIrqs (bits : UInt8) :
    Mimics R (rc632ClearIrqs l.toBus bits) (rc632ClearIrqs t.toBus bits) Fine :=
  h.regWrite _ (by decide)

theorem executeScript {script : List (UInt8 × UInt8)} (hscript : script.all (Direct ·.1)) :
    Mimics R (rc632ExecuteScript l.toBus script) (rc632ExecuteScript t.toBus script) Eq := by
  induction script with
  | nil => exact .pure rfl
  | cons f script ih =>
    rw [List.all_cons, Bool.and_eq_true] at hscript
    exact .bind_eq (h.write (of_decide_eq_true hscript.1) _) fun _ => ih hscript.2

theorem timerSet (undef : UInt8) (timeout : Nat) :
    Mimics R (rc632TimerSet l.toBus undef timeout) (rc632TimerSet t.toBus undef timeout) Eq := by
  refine .bind_eq (h.write (by decide) _) fun _ => ?_
  refine (h.regWrite _ (by decide)).bind fun _ _ _ => ?_
  refine (h.clearIrqs _).bind fun _ _ hirqs => ?_
  refine (h.regWrite _ (by decide)).bind fun _ _ hen => ?_
  refine (h.regWrite _ (by decide)).bind fun _ _ hreload => ?_
  exact .check (.inr (fine_lor (fine_lor hirqs hen) hreload))

theorem waitIdlePoll : Mimics R (rc632WaitIdlePoll l.toBus) (rc632WaitIdlePoll t.toBus) Eq := by
  refine (h.regRead (by decide)).bind ?_
  rintro ⟨_, stat⟩ ⟨_, _⟩ ⟨-, rfl⟩
  refine .bind_eq (.when fun _ => ?_) fun _ => .bind_eq (.when fun _ => ?_) fun _ => ?_
  · exact .bind_eq (h.read (by decide)) fun _ => .when fun _ => .fail _
  · exact .bind_eq (h.read (by decide)) fun _ => .when fun _ =>
      (h.clearIrqs _).bind fun _ _ _ => .fail _
  · exact .bind_eq (h.read (by decide)) fun _ =>
      .ite (fun _ => (h.clearIrqs _).bind fun _ _ _ => .pure rfl) fun _ => .pure rfl

theorem waitIdleLoop (fuel : Nat) :
    Mimics R (rc632WaitIdleLoop l.toBus fuel) (rc632WaitIdleLoop t.toBus fuel) Eq := by
  induction fuel with
  | zero => exact .hang
  | succ fuel ih =>
    refine .bind_eq h.waitIdlePoll fun o => ?_
    cases o with
    | some => exact .pure rfl
    | none => exact ih

theorem waitIdleTimer (fuel : Nat) :
    Mimics R (rc632WaitIdleTimer l.toBus fuel) (rc632WaitIdleTimer t.toBus fuel) Eq :=
  .bind_eq (h.read (by decide)) fun _ => .bind_eq (h.write (by decide) _) fun _ => h.waitIdleLoop fuel

theorem fifoLength : Mimics R (l.read regFifoLength) (t.read regFifoLength) fun a b =>
    a = b ∧ b.toNat ≤ fifoSize := by
  refine (h.read (by decide)).and_right fun w s b hr hb => ?_
  rw [value_of_read hb]
  exact h.level hr

theorem transmitLoop (tx : Mem UInt8) (txLen : UInt8) (fuel : Nat) (off : Int) {cur : Int}
    (hpos : 0 < cur) (hcur : cur ≤ fifoSize) :
    Mimics R (rc632TransmitLoop l tx txLen fuel off cur) (rc632TransmitLoop t tx txLen fuel off cur)
      Eq := by
  induction fuel generalizing off cur with
  | zero => exact .hang
  | succ fuel ih =>
    have hlen : (tx.load off (cur % 256).toNat).length = cur.toNat := by
      have hsize : (fifoSize : Int) = 64 := rfl
      rw [Mem.length_load, Int.emod_eq_of_lt (Int.le_of_lt hpos) (by omega)]
    have hne : tx.load off (cur % 256).toNat ≠ [] := fun hnil => by
      rw [hnil, List.length_nil] at hlen
      omega
    refine .bind_check (h.fifoWrite hne (by omega)) fun _ => ?_
    refine .bind_eq (.when fun _ => h.write (by decide) _) fun _ => .ite (fun _ => ?_) fun _ => .pure rfl
    refine h.fifoLength.bind fun a b hab => ?_
    obtain ⟨rfl, hlevel⟩ := hab
    have hsize : fifoSize = 64 := rfl
    exact .ite (fun _ => .pure rfl) fun hne => ih _ (by omega) (by omega)

theorem exchange (undef : UInt8) (fuel : Nat) (tx : Mem UInt8) {txLen : UInt8} (hlen : txLen ≠ 0)
    (timer : Nat) : Mimics R (rc632Exchange l undef fuel tx txLen timer)
      (rc632Exchange t undef fuel tx txLen timer) fun a b => a = b ∧ b.toNat ≤ fifoSize := by
  have hpos : 0 < txLen.toNat := Nat.pos_of_ne_zero fun h0 => hlen (UInt8.toNat_inj.mp h0)
  refine (h.regWrite _ (by decide)).bind fun _ _ _ => (h.regWrite _ (by decide)).bind fun _ _ _ => ?_
  refine (h.regRead (by decide)).bind fun _ _ _ => (h.regRead (by decide)).bind fun _ _ _ => ?_
  refine .bind_eq (h.timerSet undef timer) fun _ => ?_
  refine .bind_eq (h.transmitLoop tx txLen fuel 0 ?_ ?_) fun _ =>
    .bind_eq (h.waitIdleTimer fuel) fun _ => h.fifoLength
  · split_ifs <;> omega
  · have hsize : fifoSize = 64 := rfl
    split_ifs with hgt
    · omega
    · have hle : txLen.toNat ≤ 64 := UInt8.le_iff_toNat_le.mp (UInt8.not_lt.mp hgt)
      omega

theorem transceive (undef : UInt8) (fuel : Nat) (tx : Mem UInt8) {txLen rxLen : UInt8}
    (htx : txLen ≠ 0) (hrx : rxLen ≠ 0) (timer : Nat) :
    Mimics R (rc632Transceive l undef fuel tx txLen rxLen timer)
      (rc632Transceive t undef fuel tx txLen rxLen timer) XferAlike := by
  refine (h.exchange undef fuel tx htx timer).attempt.bind fun a b hab => ?_
  rcases hab with ⟨code, rfl, rfl⟩ | ⟨rxAvail, _, rfl, rfl, rfl, hlevel⟩
  · exact .pure ⟨.inl rfl, rfl, rfl⟩
  · refine .ite (fun _ => ?_) fun havail => ?_
    · refine (h.regRead (by decide)).bind fun _ _ _ => (h.regRead (by decide)).bind fun _ _ _ => ?_
      exact (h.regRead (by decide)).bind fun _ _ _ => .pure ⟨.inl rfl, rfl, rfl⟩
    · refine (h.fifoRead ?_ ?_).bind fun x y hxy => .pure ⟨.inr hxy.1, rfl, hxy.2⟩
      · split_ifs
        · exact havail
        · exact hrx
      · split_ifs with hgt
        · exact hlevel
        · exact (UInt8.le_iff_toNat_le.mp (UInt8.not_lt.mp hgt)).trans hlevel

section Frames

variable (undef : UInt8) (fuel : Nat)

theorem ab (frametype : RfidFrametype) (tx : Mem UInt8) {txLen : Nat} (rx : Mem UInt8) {rxLen : Nat}
    (timeout : Nat) (htx : UInt8.ofNat txLen ≠ 0) (hrx : 0 < rxLen) :
    Mimics R (rc632Iso14443abTransceive (l.asic undef fuel) frametype tx txLen rx rxLen timeout)
      (rc632Iso14443abTransceive (t.asic undef fuel) frametype tx txLen rx rxLen timeout) Eq := by
  unfold rc632Iso14443abTransceive
  dsimp only
  cases channelRed frametype with
  | none => exact .pure rfl
  | some red =>
    refine .bind_eq (h.write (by decide) red).attempt_eq fun o => ?_
    cases o with
    | error => exact .pure rfl
    | ok =>
      have hrxl : (if rxLen > 0xff then 0xff else UInt8.ofNat rxLen : UInt8) ≠ 0 := by
        split_ifs with hgt
        · decide
        · exact fun h0 => by
            have hmod : rxLen % 2 ^ 8 = 0 := congrArg UInt8.toNat h0
            omega
      refine (h.transceive undef fuel tx htx hrxl timeout).bind fun x y hxy => .pure ?_
      obtain ⟨hret, hlen, hbytes⟩ := hxy
      rw [hlen, hbytes]
      by_cases hneg : x.ret < 0
      · rw [if_pos hneg, if_pos (hret.neg_iff.mp hneg), hret.eq_of_neg hneg]
      · rw [if_neg hneg, if_neg (mt hret.neg_iff.mpr hneg)]

theorem sf (cmd : UInt8) (atqa : Mem UInt8) :
    Mimics R (rc632Iso14443aTransceiveSf (l.asic undef fuel) cmd atqa)
      (rc632Iso14443aTransceiveSf (t.asic undef fuel) cmd atqa) Eq := by
  have hprepare : Mimics R (rc632Iso14443aPrepareSf (l.asic undef fuel))
      (rc632Iso14443aPrepareSf (t.asic undef fuel)) Eq :=
    .bind_eq (h.write (by decide) _) fun _ => .bind_check (h.clearBits (by decide) _) fun _ =>
      (h.clearBits (by decide) _).bind fun _ _ hc => .check (.inr hc)
  have hfinish : Mimics R (rc632Iso14443aFinishSf (l.asic undef fuel))
      (rc632Iso14443aFinishSf (t.asic undef fuel)) Eq :=
    .bind_eq (h.write (by decide) _) fun _ => .bind_eq (h.read (by decide)) fun _ =>
      .when fun _ => .bind_eq (h.read (by decide)) fun _ => .pure rfl
  refine .bind_eq hprepare.attempt_eq fun o => ?_
  cases o with
  | error => exact .pure rfl
  | ok =>
    refine (h.transceive undef fuel _ (by decide) (by decide) _).bind fun x y hxy => ?_
    obtain ⟨hret, hlen, hbytes⟩ := hxy
    dsimp only
    rw [hlen, hbytes]
    by_cases hneg : x.ret < 0
    · rw [if_pos hneg, if_pos (hret.neg_iff.mp hneg), hret.eq_of_neg hneg]
      exact .pure rfl
    · rw [if_neg hneg, if_neg (mt hret.neg_iff.mpr hneg)]
      refine .bind_eq hfinish.attempt_eq fun o => ?_
      cases o with
      | error => exact .pure rfl
      | ok => exact .ite (fun _ => .pure rfl) fun _ => .pure rfl

theorem acf {acf : Mem UInt8} (hbytes : acfTxBytesTotal acf ≠ 0) :
    Mimics R (rc632Iso14443aTransceiveAcf (l.asic undef fuel) acf)
      (rc632Iso14443aTransceiveAcf (t.asic undef fuel) acf) Eq := by
  have hprepare : Mimics R (rc632Iso14443aPrepareAcf (l.asic undef fuel) acf)
      (rc632Iso14443aPrepareAcf (t.asic undef fuel) acf) Eq :=
    .bind_check (h.clearBits (by decide) _) fun _ => .bind_check (h.clearBits (by decide) _) fun _ =>
      h.write (by decide) _
  have hcol : Mimics R (rc632Iso14443aBitOfCol (l.asic undef fuel))
      (rc632Iso14443aBitOfCol (t.asic undef fuel)) Eq :=
    .bind_eq (h.read (by decide)) fun _ => .ite (fun _ => .bind_eq (h.read (by decide)) fun _ =>
      .pure rfl) fun _ => .pure rfl
  refine .bind_eq hprepare.attempt_eq fun o => ?_
  cases o with
  | error => exact .pure rfl
  | ok =>
    refine (h.transceive undef fuel acf hbytes (by decide) _).bind fun x y hxy => ?_
    obtain ⟨hret, hlen, hrx⟩ := hxy
    have hmerge : acfMerge acf x = acfMerge acf y := by
      unfold acfMerge
      rw [hlen, hrx]
    rw [hmerge]
    by_cases hneg : x.ret < 0
    · rw [if_pos hneg, if_pos (hret.neg_iff.mp hneg), hret.eq_of_neg hneg]
      exact .pure rfl
    · rw [if_neg hneg, if_neg (mt hret.neg_iff.mpr hneg)]
      refine .bind_eq hcol.attempt_eq fun o => ?_
      cases o with
      | error => exact .pure rfl
      | ok => exact .pure rfl

theorem ac (acf : Mem UInt8) {acfLen rxLen : Nat} (bitOfCol : UInt8) (htx : UInt8.ofNat acfLen ≠ 0)
    (hrx : UInt8.ofNat rxLen ≠ 0) :
    Mimics R (rc632Iso15693TransceiveAc (l.asic undef fuel) acf acfLen rxLen bitOfCol)
      (rc632Iso15693TransceiveAc (t.asic undef fuel) acf acfLen rxLen bitOfCol) Eq := by
  refine (h.transceive undef fuel acf htx hrx _).bind fun x y hxy => ?_
  obtain ⟨hret, hlen, hbytes⟩ := hxy
  have hcode : ∀ code : Int, code < 0 → (x.ret = code ↔ y.ret = code) := fun code hneg => by
    rcases hret with heq | ⟨hx, hy⟩
    · rw [heq]
    · omega
  have hearly : (x.ret = -eTimedOut ∨ x.ret = - eIO) ↔ (y.ret = -eTimedOut ∨ y.ret = - eIO) :=
    or_congr (hcode _ (by decide)) (hcode _ (by decide))
  dsimp only
  rw [hlen, hbytes]
  by_cases hout : x.ret = -eTimedOut ∨ x.ret = - eIO
  · have heq : x.ret = y.ret := by
      rcases hout with heq | heq
      · rw [heq, (hcode _ (by decide)).mp heq]
      · rw [heq, (hcode _ (by decide)).mp heq]
    rw [if_pos hout, if_pos (hearly.mp hout), heq]
    exact .pure rfl
  · rw [if_neg hout, if_neg (mt hearly.mpr hout)]
    refine .bind_eq (h.read (by decide)).attempt_eq fun o => ?_
    cases o with
    | error => exact .pure rfl
    | ok flag =>
      refine .ite (fun _ => .bind_eq (h.read (by decide)).attempt_eq fun o => ?_) fun _ =>
        .ite (fun _ => .pure rfl) fun _ => .pure rfl
      cases o with
      | error => exact .pure rfl
      | ok => exact .pure rfl

end Frames

section Keys

variable (undef : UInt8) (fuel : Nat)

theorem keyCommand {bytes : List UInt8} (hne : bytes ≠ []) (hle : bytes.length ≤ fifoSize)
    (cmd : UInt8) :
    Mimics R (keyCommand (l.mifare undef fuel) bytes cmd) (keyCommand (t.mifare undef fuel) bytes cmd)
      Eq := by
  refine .bind_eq (h.write (by decide) _) fun _ => .bind_check (h.fifoWrite hne hle) fun _ => ?_
  refine .bind_eq (h.write (by decide) _) fun _ => .bind_eq (h.timerSet undef _) fun _ => ?_
  refine .bind_eq (h.waitIdleTimer fuel) fun _ => .bind_eq (h.read (by decide)) fun _ => ?_
  exact .when fun _ => .fail _

theorem setKey (key : Mem UInt8) :
    Mimics R (rc632MifareSetKey (l.mifare undef fuel) key) (rc632MifareSetKey (t.mifare undef fuel) key)
      Eq := by
  have hlen : (rc632MifareTransformKey key).length = 12 := rfl
  have hne : rc632MifareTransformKey key ≠ [] := fun hnil => by
    rw [hnil] at hlen
    cases hlen
  exact h.keyCommand undef fuel hne (hlen.trans_le (by decide)) cmdLoadKey

theorem setKeyEe (addr : Nat) :
    Mimics R (rc632MifareSetKeyEe (l.mifare undef fuel) addr)
      (rc632MifareSetKeyEe (t.mifare undef fuel) addr) Eq :=
  have hle : [UInt8.ofNat addr, UInt8.ofNat (addr >>> 8)].length ≤ fifoSize :=
    (by decide : 2 ≤ fifoSize)
  .ite (fun _ => .fail _) fun _ => h.keyCommand undef fuel (List.cons_ne_nil _ _) hle cmdLoadKeyE2

theorem auth (cmd : UInt8) (serno : UInt32) (block : UInt8) :
    Mimics R (rc632MifareAuth (l.mifare undef fuel) cmd serno block)
      (rc632MifareAuth (t.mifare undef fuel) cmd serno block) Eq := by
  refine .ite (fun _ => .fail _) fun _ => ?_
  refine .bind_check (h.clearBits (by decide) _) fun _ =>
    .bind_check (h.fifoWrite (List.cons_ne_nil _ _) (by decide : 6 ≤ fifoSize)) fun _ => ?_
  refine .bind_eq (h.write (by decide) _) fun _ => .bind_eq (h.timerSet undef _) fun _ => ?_
  refine .bind_eq (h.waitIdleTimer fuel) fun _ => .bind_eq (h.read (by decide)) fun _ => ?_
  refine .bind_eq (.when fun _ => .fail _) fun _ => .bind_check (h.clearBits (by decide) _) fun _ => ?_
  refine .bind_eq (h.timerSet undef _) fun _ => .bind_eq (h.write (by decide) _) fun _ => ?_
  refine .bind_eq (h.waitIdleTimer fuel) fun _ => .bind_eq (h.read (by decide)) fun _ => ?_
  exact .when fun _ => .fail _

end Keys

section Setup

theorem rfPower (on : Bool) : Mimics R (rc632RfPower l.toBus on) (rc632RfPower t.toBus on) Fine :=
  .ite (fun _ => h.setBits (by decide) _) fun _ => h.clearBits (by decide) _

theorem power (on : Bool) : Mimics R (rc632Power l.toBus on) (rc632Power t.toBus on) Fine :=
  .ite (fun _ => h.clearBits (by decide) _) fun _ => h.setBits (by decide) _

theorem init : Mimics R (rc632Init l.toBus) (rc632Init t.toBus) Eq := by
  refine .bind_check (h.power false) fun _ => .bind_check (h.power true) fun _ => ?_
  refine .bind_eq (h.write (by decide) _) fun _ => .bind_eq (h.write (by decide) _) fun _ => ?_
  exact .bind_check (h.rfPower false) fun _ => (h.rfPower true).bind fun _ _ hc => .check (.inr hc)

theorem fini : Mimics R (rc632Fini l.toBus) (rc632Fini t.toBus) Eq :=
  .bind_check (h.rfPower false) fun _ => (h.power false).bind fun _ _ hc => .check (.inr hc)

theorem layer2Init (l2 : Layer2Id) :
    Mimics R (rc632Layer2Init l.toBus l2) (rc632Layer2Init t.toBus l2) Eq := by
  cases l2 with
  | iso14443a => exact (h.regWrite _ (by decide)).bind fun _ _ _ => h.executeScript (by decide)
  | iso14443b =>
    rw [rc632Layer2Init, rc632Layer2Init, rc632Iso14443bInit_eq, rc632Iso14443bInit_eq]
    exact .bind_eq (h.write (by decide) _) fun _ => h.executeScript (by decide)
  | iso15693 => exact .bind_eq (h.write (by decide) _) fun _ => h.executeScript (by decide)
  | icode1 => exact h.executeScript (by decide)
  | none => exact .fail _

theorem setSpeed (rxPast : RxConfig) (txPast : TxConfig) (tx : Bool) (rate : Nat) :
    Mimics R (rc632Iso14443aSetSpeed l.toBus rxPast txPast tx rate)
      (rc632Iso14443aSetSpeed t.toBus rxPast txPast tx rate) Eq := by
  refine .ite (fun _ => .ite (fun _ => .fail _) fun _ => ?_) fun _ => .ite (fun _ => .fail _) fun _ => ?_
  · refine .bind_check (h.setBitMask (by decide) _ _) fun _ => ?_
    refine .bind_check (h.setBitMask (by decide) _ _) fun _ => ?_
    refine .bind_eq (h.write (by decide) _) fun _ => ?_
    exact .when fun _ => h.write (by decide) _
  · exact .bind_check (h.setBitMask (by decide) _ _) fun _ => h.write (by decide) _

theorem rdrSetSpeed (rxPast : RxConfig) (txPast : TxConfig) (tx : Bool) (speed : Nat) :
    Mimics R (rdrRc63214443aSetSpeed l.toBus rxPast txPast tx speed)
      (rdrRc63214443aSetSpeed t.toBus rxPast txPast tx speed) Eq := by
  refine .ite (fun _ => h.setSpeed _ _ _ _) fun _ => .ite (fun _ => h.setSpeed _ _ _ _) fun _ => ?_
  exact .ite (fun _ => h.setSpeed _ _ _ _) fun _ =>
    .ite (fun _ => h.setSpeed _ _ _ _) fun _ => .fail _

theorem setopt (optname : Nat) (optval : Option UInt32) (optlen : Nat) :
    Mimics R (rdrRc632Setopt l.toBus optname optval optlen) (rdrRc632Setopt t.toBus optname optval optlen)
      SameVerdict := by
  cases optval with
  | none => exact .pure (.inl rfl)
  | some val =>
    refine .ite (fun _ => .pure (.inl rfl)) fun _ => .ite (fun _ => ?_) fun _ => .pure (.inl rfl)
    exact .ite (fun _ => (h.rfPower false).post fun _ _ => .inr) fun _ =>
      (h.rfPower true).post fun _ _ => .inr

end Setup

end Carries

structure RdrResult where
  ret : Int
  buf : Mem UInt8
  len : Nat
  bitOfCol : Nat

def RdrResult.Same (r r' : RdrResult) : Prop :=
  SameVerdict r.ret r'.ret ∧ r.buf = r'.buf ∧ r.len = r'.len ∧ r.bitOfCol = r'.bitOfCol

section

variable {σ : Type} (t : Transport σ) (e : Ambient)

def RdrCall.result : RdrCall → Exec σ RdrResult
  | .transceive frametype tx txLen rx rxLen timeout => do
    let r ← rc632Iso14443abTransceive (t.asic e.undef e.fuel) frametype tx txLen rx rxLen timeout
    pure ⟨r.ret, r.rx, r.rxLen, 0⟩
  | .transceiveSf cmd atqa => do
    let r ← rc632Iso14443aTransceiveSf (t.asic e.undef e.fuel) cmd atqa
    pure ⟨r.ret, r.atqa, 0, 0⟩
  | .transceiveAcf acf => do
    let r ← rc632Iso14443aTransceiveAcf (t.asic e.undef e.fuel) acf
    pure ⟨r.ret, r.acf, 0, r.bitOfCol⟩
  | .transceiveAc acf acfLen rxLen bitOfCol => do
    let r ← rc632Iso15693TransceiveAc (t.asic e.undef e.fuel) acf acfLen rxLen bitOfCol
    pure ⟨r.ret, Mem.ofList (fun _ => 0) r.resp, r.rxLen, r.bitOfCol.toNat⟩
  | c => do
    let ret ← c.run t e
    pure ⟨ret, fun _ => 0, 0, 0⟩

def rdrResults : List RdrCall → Exec σ (List RdrResult)
  | [] => pure []
  | c :: calls => do
    let r ← c.result t e
    let rs ← rdrResults calls
    pure (r :: rs)

end

def RdrCall.Transfers : RdrCall → Prop
  | .transceive _ _ txLen _ rxLen _ => UInt8.ofNat txLen ≠ 0 ∧ 0 < rxLen
  | .transceiveAcf acf => acfTxBytesTotal acf ≠ 0
  | .transceiveAc _ acfLen rxLen _ => UInt8.ofNat acfLen ≠ 0 ∧ UInt8.ofNat rxLen ≠ 0
  | _ => True

section

variable {τ σ : Type} {l : Transport τ} {t : Transport σ} {R : τ → σ → Prop} (h : Carries l t R)
  (e : Ambient)

include h

theorem RdrCall.run_carried {c : RdrCall} (hc : c.Transfers) :
    Mimics R (c.run l e) (c.run t e) SameVerdict := by
  cases c with
  | «open» => exact retOf_carried h.init
  | close => exact retOf_carried h.fini
  | setopt optname optval optlen => exact h.setopt optname optval optlen
  | init l2 => exact retOf_carried (h.layer2Init l2)
  | transceive frametype tx txLen rx rxLen timeout =>
    exact .bind_eq (h.ab e.undef e.fuel frametype tx rx timeout hc.1 hc.2) fun _ => .pure (.inl rfl)
  | transceiveSf cmd atqa => exact .bind_eq (h.sf e.undef e.fuel cmd atqa) fun _ => .pure (.inl rfl)
  | transceiveAcf acf => exact .bind_eq (h.acf e.undef e.fuel hc) fun _ => .pure (.inl rfl)
  | setSpeed tx speed => exact retOf_carried (h.rdrSetSpeed e.rxPast e.txPast tx speed)
  | transceiveAc acf acfLen rxLen bitOfCol =>
    exact .bind_eq (h.ac e.undef e.fuel acf bitOfCol hc.1 hc.2) fun _ => .pure (.inl rfl)
  | setkey key => exact retOf_carried (h.setKey e.undef e.fuel key)
  | setkeyEe addr => exact retOf_carried (h.setKeyEe e.undef e.fuel addr)
  | auth cmd serno block => exact retOf_carried (h.auth e.undef e.fuel cmd serno block)

theorem RdrCall.result_carried {c : RdrCall} (hc : c.Transfers) :
    Mimics R (c.result l e) (c.result t e) RdrResult.Same := by
  have hsame : ∀ r : RdrResult, r.Same r := fun _ => ⟨.inl rfl, rfl, rfl, rfl⟩
  have hret : Mimics R (c.run l e >>= fun ret => pure (⟨ret, fun _ => 0, 0, 0⟩ : RdrResult))
      (c.run t e >>= fun ret => pure (⟨ret, fun _ => 0, 0, 0⟩ : RdrResult)) RdrResult.Same :=
    (c.run_carried h e hc).bind fun _ _ hv => .pure ⟨hv, rfl, rfl, rfl⟩
  cases c with
  | transceive frametype tx txLen rx rxLen timeout =>
    exact .bind_eq (h.ab e.undef e.fuel frametype tx rx timeout hc.1 hc.2) fun _ => .pure (hsame _)
  | transceiveSf cmd atqa => exact .bind_eq (h.sf e.undef e.fuel cmd atqa) fun _ => .pure (hsame _)
  | transceiveAcf acf => exact .bind_eq (h.acf e.undef e.fuel hc) fun _ => .pure (hsame _)
  | transceiveAc acf acfLen rxLen bitOfCol =>
    exact .bind_eq (h.ac e.undef e.fuel acf bitOfCol hc.1 hc.2) fun _ => .pure (hsame _)
  | _ => exact hret

theorem rdrResults_carried {calls : List RdrCall} (hcalls : ∀ c ∈ calls, c.Transfers) :
    Mimics R (rdrResults l e calls) (rdrResults t e calls) (List.Forall₂ RdrResult.Same) := by
  induction calls with
  | nil => exact .pure .nil
  | cons c calls ih =>
    rw [List.forall_mem_cons] at hcalls
    exact (c.result_carried h e hcalls.1).bind fun _ _ hr =>
      (ih hcalls.2).bind fun _ _ hrs => .pure (.cons hr hrs)

end

end Librfid.Rc632
