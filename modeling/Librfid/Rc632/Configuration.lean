import Librfid.Lib.Edits
import Librfid.Rc632.Init
import Librfid.Rc632.Rate
import Librfid.Rc632.Received
import Librfid.Rc632.Sites

namespace Librfid.Rc632

open Exec

/-- The functions of a `struct rfid_reader` on this chip; `open` and `close` are what they do to the
chip. -/
inductive RdrCall
  | open
  | close
  | setopt (optname : Nat) (optval : Option UInt32) (optlen : Nat)
  | init (l2 : Layer2Id)
  | transceive (frametype : RfidFrametype) (tx : Mem UInt8) (txLen : Nat) (rx : Mem UInt8)
      (rxLen timeout : Nat)
  | transceiveSf (cmd : UInt8) (atqa : Mem UInt8)
  | transceiveAcf (acf : Mem UInt8)
  | setSpeed (tx : Bool) (speed : Nat)
  | transceiveAc (acf : Mem UInt8) (acfLen rxLen : Nat) (bitOfCol : UInt8)
  | setkey (key : Mem UInt8)
  | setkeyEe (addr : Nat)
  | auth (cmd : UInt8) (serno : UInt32) (block : UInt8)

section

variable {σ : Type} (t : Transport σ) (e : Ambient)

def RdrCall.run : RdrCall → Exec σ Int
  | .open => retOf (rc632Init t.toBus)
  | .close => retOf (rc632Fini t.toBus)
  | .setopt optname optval optlen => rdrRc632Setopt t.toBus optname optval optlen
  | .init l2 => retOf (rc632Layer2Init t.toBus l2)
  | .transceive frametype tx txLen rx rxLen timeout => do
    let r ← rc632Iso14443abTransceive (t.asic e.undef e.fuel) frametype tx txLen rx rxLen timeout
    pure r.ret
  | .transceiveSf cmd atqa => do
    let r ← rc632Iso14443aTransceiveSf (t.asic e.undef e.fuel) cmd atqa
    pure r.ret
  | .transceiveAcf acf => do
    let r ← rc632Iso14443aTransceiveAcf (t.asic e.undef e.fuel) acf
    pure r.ret
  | .setSpeed tx speed => retOf (rdrRc63214443aSetSpeed t.toBus e.rxPast e.txPast tx speed)
  | .transceiveAc acf acfLen rxLen bitOfCol => do
    let r ← rc632Iso15693TransceiveAc (t.asic e.undef e.fuel) acf acfLen rxLen bitOfCol
    pure r.ret
  | .setkey key => retOf (rc632MifareSetKey (t.mifare e.undef e.fuel) key)
  | .setkeyEe addr => retOf (rc632MifareSetKeyEe (t.mifare e.undef e.fuel) addr)
  | .auth cmd serno block => retOf (rc632MifareAuth (t.mifare e.undef e.fuel) cmd serno block)

def runRdrCalls : List RdrCall → Exec σ (List Int)
  | [] => pure []
  | c :: calls => do
    let ret ← c.run t e
    let rets ← runRdrCalls calls
    pure (ret :: rets)

end

def configRegs : List UInt8 :=
  [regBitFraming, regTxControl, regCwConductance, regModConductance, regCoderControl, regModWidth,
    regModWidthSof, regTypeBFraming, regRxControl1, regDecoderControl, regBitPhase, regRxThreshold,
    regBpskDemControl, regRxControl2, regRxWait, regChannelRedundancy, regCrcPresetLsb,
    regCrcPresetMsb]

abbrev RegEdit := Edit UInt8 UInt8

def rfBits : UInt8 := txctrlTx1RfEn ||| txctrlTx2RfEn

def rfPowerEdit (on : Bool) : RegEdit :=
  ⟨regTxControl, fun v => if on then v ||| rfBits else v &&& ~~~rfBits⟩

def clearEdit (reg mask : UInt8) : RegEdit := ⟨reg, fun v => v &&& ~~~mask⟩

def putEdit (reg mask val : UInt8) : RegEdit := ⟨reg, Bits.put mask val⟩

def scriptEdits (script : List (UInt8 × UInt8)) : List RegEdit := script.map fun f => .set f.1 f.2

def layer2Script : Layer2Id → List (UInt8 × UInt8)
  | .iso14443a => iso14443aScript
  | .iso14443b => [
    (regTxControl, txctrlTx1RfEn ||| txctrlTx2RfEn ||| txctrlTx2Inv ||| txctrlModSrcInt),
    (regCwConductance, 0x3f), (regModConductance, 0x04),
    (regCoderControl, cdrctrlTxcdNrz ||| cdrctrlRate14443b), (regModWidth, 0x13),
    (regModWidthSof, 0x3f),
    (regTypeBFraming, tbframingSof11l3h ||| (6 <<< tbframingSpaceShift) ||| tbframingEof11),
    (regRxControl1, rxctrl1Gain35db ||| rxctrl1Iso14443 ||| rxctrl1Subcp8),
    (regDecoderControl, decctrlBpsk ||| decctrlRxfr14443b), (regBitPhase, cm512114443bBitphase),
    (regRxThreshold, cm512114443bThreshold),
    (regBpskDemControl, (0x2 &&& bpskdTaubMask) <<< bpskdTaubShift |||
      (0x3 &&& bpskdTaudMask) <<< bpskdTaudShift ||| bpskdFilterAmpDetect ||| bpskdNoRxEof |||
      bpskdNoRxEgt),
    (regRxControl2, rxctrl2AutoPd ||| rxctrl2DecsrcInt), (regRxWait, 0x03),
    (regChannelRedundancy, crTxCrcEnable ||| crRxCrcEnable ||| crCrc3309), (regCrcPresetLsb, 0xff),
    (regCrcPresetMsb, 0xff)]
  | .iso15693 => iso15693FastScript
  | .icode1 => icode1StdScript
  | .none => []

def speedEdits (rate : Nat) : Bool → List RegEdit
  | false => (rxConfigs[rate]?).elim [] fun cfg =>
    putEdit regRxControl1 rxctrl1SubcpMask cfg.subcPulses ::
      putEdit regDecoderControl decctrlBpsk cfg.rxCoding :: .set regRxThreshold cfg.rxThreshold ::
        if cfg.rxCoding = decctrlBpsk then [.set regBpskDemControl cfg.bpskDemCtrl] else []
  | true => (txConfigs[rate]?).elim [] fun cfg =>
    [putEdit regCoderControl cdrctrlRateMask cfg.rate, .set regModWidth cfg.modWidth]

def speedRate (speed : Nat) : Option Nat :=
  [rfid14443aSpeed106k, rfid14443aSpeed212k, rfid14443aSpeed424k, rfid14443aSpeed848k].findIdx?
    (· = speed)

def RdrCall.edits : RdrCall → List RegEdit
  | .open => [.set regTxControl 0x5b, rfPowerEdit false, rfPowerEdit true]
  | .close => [rfPowerEdit false]
  | .setopt optname optval optlen =>
    optval.elim [] fun val =>
      if 4 ≤ optlen ∧ optname = rfidOptRdrRfKill then [rfPowerEdit (val = 0)] else []
  | .init l2 => scriptEdits (layer2Script l2)
  | .transceive frametype .. =>
    (channelRed frametype).elim [] fun red => [.set regChannelRedundancy red]
  | .transceiveSf .. =>
    [.set regBitFraming 0x07, clearEdit regChannelRedundancy (crRxCrcEnable ||| crTxCrcEnable),
      .set regBitFraming 0x00]
  | .transceiveAcf acf =>
    let txLastBits := acfTxLastBits acf
    let rxAlign := if txLastBits ≠ 0 then txLastBits &&& 0x07 else 0
    [clearEdit regChannelRedundancy (crTxCrcEnable ||| crTxCrcEnable),
      .set regBitFraming (rxAlign <<< 4 ||| txLastBits)]
  | .setSpeed tx speed => (speedRate speed).elim [] fun rate => speedEdits rate tx
  | .transceiveAc .. => []
  | .setkey _ => []
  | .setkeyEe _ => []
  | .auth cmd .. =>
    if cmd = cmdMifareAuth1a ∨ cmd = cmdMifareAuth1b then
      [clearEdit regChannelRedundancy crRxCrcEnable, clearEdit regChannelRedundancy crTxCrcEnable]
    else []

section Errs

variable {σ : Type} (b : Bus σ)

theorem rc632SetBits_errs (reg mask : UInt8) : Errs (rc632SetBits b reg mask) :=
  .bind (.step _) fun _ => .ite (.pure _) (.ite (.pure _) (.step _))

theorem rc632RfPower_errs (on : Bool) : Errs (rc632RfPower b on) :=
  .ite (rc632SetBits_errs b _ _) (rc632ClearBits_errs b _ _)

theorem rc632Power_errs (on : Bool) : Errs (rc632Power b on) :=
  .ite (rc632ClearBits_errs b _ _) (rc632SetBits_errs b _ _)

theorem rc632Init_errs : Errs (rc632Init b) := by
  refine .bind (rc632Power_errs b _) fun _ => .bind (.check _) fun _ => ?_
  refine .bind (rc632Power_errs b _) fun _ => .bind (.check _) fun _ => ?_
  refine .bind (write_errs b _ _) fun _ => .bind (write_errs b _ _) fun _ => ?_
  exact .bind (rc632RfPower_errs b _) fun _ => .bind (.check _) fun _ =>
    .bind (rc632RfPower_errs b _) .check

theorem rc632Fini_errs : Errs (rc632Fini b) :=
  .bind (rc632RfPower_errs b _) fun _ => .bind (.check _) fun _ => .bind (rc632Power_errs b _) .check

theorem rc632ExecuteScript_errs (script : List (UInt8 × UInt8)) :
    Errs (rc632ExecuteScript b script) := by
  induction script with
  | nil => exact .pure ()
  | cons f script ih => exact .bind (write_errs b _ _) fun _ => ih

theorem rc632Iso14443bInit_eq : rc632Iso14443bInit b =
    b.write regControl controlFifoFlush >>= fun _ => rc632ExecuteScript b (layer2Script .iso14443b) := by
  simp only [layer2Script, rc632ExecuteScript, bind_unit]
  rfl

theorem rc632Layer2Init_errs (l2 : Layer2Id) : Errs (rc632Layer2Init b l2) := by
  cases l2 with
  | none => exact .fail (by decide)
  | iso14443a => exact .bind (.step _) fun _ => rc632ExecuteScript_errs b _
  | iso14443b =>
    rw [rc632Layer2Init, rc632Iso14443bInit_eq]
    exact .bind (write_errs b _ _) fun _ => rc632ExecuteScript_errs b _
  | iso15693 => exact .bind (write_errs b _ _) fun _ => rc632ExecuteScript_errs b _
  | icode1 => exact rc632ExecuteScript_errs b _

theorem rc632SetBitMask_errs (reg mask val : UInt8) : Errs (rc632SetBitMask b reg mask val) :=
  .bind (.step _) fun _ => .ite (.pure _) (.ite (.pure _) (.step _))

theorem rc632Iso14443aSetSpeed_errs (rxPast : RxConfig) (txPast : TxConfig) (tx : Bool) (rate : Nat) :
    Errs (rc632Iso14443aSetSpeed b rxPast txPast tx rate) := by
  unfold rc632Iso14443aSetSpeed
  refine .ite (.ite (.fail (by decide)) ?_) (.ite (.fail (by decide)) ?_)
  · refine .bind (rc632SetBitMask_errs b _ _ _) fun _ => .bind (.check _) fun _ => ?_
    refine .bind (rc632SetBitMask_errs b _ _ _) fun _ => .bind (.check _) fun _ => ?_
    exact .bind (write_errs b _ _) fun _ => .when fun _ => write_errs b _ _
  · exact .bind (rc632SetBitMask_errs b _ _ _) fun _ => .bind (.check _) fun _ => write_errs b _ _

theorem rdrSetSpeed_errs (rxPast : RxConfig) (txPast : TxConfig) (tx : Bool) (speed : Nat) :
    Errs (rdrRc63214443aSetSpeed b rxPast txPast tx speed) := by
  have hrate := rc632Iso14443aSetSpeed_errs b rxPast txPast tx
  exact .ite (hrate _) (.ite (hrate _) (.ite (hrate _) (.ite (hrate _) (.fail (by decide)))))

/-- What is left of `rc632_mifare_set_key` and `rc632_mifare_set_key_ee` once the argument is known. -/
def keyCommand (a : MifareAsic σ) (bytes : List UInt8) (cmd : UInt8) : Exec σ Unit := do
  a.write regCommand cmdIdle
  let ret ← a.fifoWrite bytes 0x03
  Exec.check ret
  a.write regCommand cmd
  a.timerSet rc632TmoAuth1
  a.waitIdleTimer
  let reg ← a.read regErrorFlag
  Exec.when (reg &&& errFlagKeyErr ≠ 0) (Exec.fail (-eInval))

theorem keyCommand_errs (t : Transport σ) (undef : UInt8) (fuel : Nat) (bytes : List UInt8)
    (cmd : UInt8) : Errs (keyCommand (t.mifare undef fuel) bytes cmd) := by
  refine .bind (write_errs _ _ _) fun _ => .bind (.step _) fun _ => .bind (.check _) fun _ => ?_
  refine .bind (write_errs _ _ _) fun _ => .bind (rc632TimerSet_errs _ _ _) fun _ => ?_
  refine .bind (rc632WaitIdleTimer_errs _ _) fun _ => .bind (read_errs _ _) fun _ => ?_
  exact .when fun _ => .fail (by decide)

theorem rc632MifareSetKey_errs (t : Transport σ) (undef : UInt8) (fuel : Nat) (key : Mem UInt8) :
    Errs (rc632MifareSetKey (t.mifare undef fuel) key) :=
  keyCommand_errs t undef fuel _ cmdLoadKey

theorem rc632MifareSetKeyEe_errs (t : Transport σ) (undef : UInt8) (fuel addr : Nat) :
    Errs (rc632MifareSetKeyEe (t.mifare undef fuel) addr) :=
  .ite (.fail (by decide)) (keyCommand_errs t undef fuel _ cmdLoadKeyE2)

theorem rc632MifareAuth_errs (t : Transport σ) (undef : UInt8) (fuel : Nat) (cmd : UInt8)
    (serno : UInt32) (block : UInt8) :
    Errs (rc632MifareAuth (t.mifare undef fuel) cmd serno block) := by
  have hwait := rc632WaitIdleTimer_errs t.toBus fuel
  refine .ite (.fail (by decide)) ?_
  refine .bind (rc632ClearBits_errs _ _ _) fun _ => .bind (.check _) fun _ => ?_
  refine .bind (.step _) fun _ => .bind (.check _) fun _ => .bind (write_errs _ _ _) fun _ => ?_
  refine .bind (rc632TimerSet_errs _ _ _) fun _ => .bind hwait fun _ => ?_
  refine .bind (read_errs _ _) fun _ => .bind (.when fun _ => .fail (by decide)) fun _ => ?_
  refine .bind (rc632ClearBits_errs _ _ _) fun _ => .bind (.check _) fun _ => ?_
  refine .bind (rc632TimerSet_errs _ _ _) fun _ => .bind (write_errs _ _ _) fun _ => ?_
  exact .bind hwait fun _ => .bind (read_errs _ _) fun _ => .when fun _ => .fail (by decide)

end Errs

section

variable {σ α : Type} {t : Transport σ} {regs : σ → UInt8 → UInt8}
  (h : ∀ reg ∈ configRegs, Register t reg fun s => regs s reg)

include h

theorem edits_one {e : RegEdit} {ok : α → Prop} {x : Exec σ α}
    (hself : ∀ s, (regs (x s).2 e.key = regs s e.key ∨ regs (x s).2 e.key = e.act (regs s e.key)) ∧
      ∀ a, (x s).1 = .ok a → ok a → regs (x s).2 e.key = e.act (regs s e.key))
    (hothers : ∀ J : σ → Prop, t.toBus.Keeps [e.key] J → Exec.Keeps J x) :
    Edits regs configRegs [e] ok x := by
  intro s
  have hother : ∀ k ∈ configRegs, k ≠ e.key → regs (x s).2 k = regs s k := fun k hk hne =>
    hothers _ ((h k hk).others (regs s k) [e.key] (mt List.mem_singleton.mp hne)).toKeeps s rfl
  have hnone : regs (x s).2 e.key = regs s e.key →
      ∀ k ∈ configRegs, regs (x s).2 k = Edit.applyAll (List.take 0 [e]) (regs s) k := by
    intro hsame k hk
    by_cases hne : k = e.key
    · rw [hne]
      exact hsame
    · exact hother k hk hne
  have hone : regs (x s).2 e.key = e.act (regs s e.key) →
      ∀ k ∈ configRegs, regs (x s).2 k = Edit.applyAll (List.take 1 [e]) (regs s) k := by
    intro hact k hk
    by_cases hne : k = e.key
    · rw [hne]
      exact hact.trans (Edit.apply_self e _).symm
    · exact (hother k hk hne).trans (Edit.apply_of_ne hne _).symm
  by_cases hact : regs (x s).2 e.key = e.act (regs s e.key)
  · exact ⟨1, hone hact, fun _ _ _ => le_rfl⟩
  · exact ⟨0, hnone ((hself s).1.resolve_right hact), fun a ha hok => absurd ((hself s).2 a ha hok) hact⟩

theorem keeps_config {l : List UInt8} (hl : configRegs.all (· ∉ l)) {x : Exec σ α}
    (hx : ∀ J : σ → Prop, t.Keeps l J → Exec.Keeps J x) :
    ∀ k ∈ configRegs, ∀ v, Exec.Keeps (fun s => regs s k = v) x :=
  fun k hk v => hx _ ((h k hk).others v l (of_decide_eq_true (List.all_eq_true.mp hl k hk)))

theorem write_edits {reg : UInt8} (hreg : reg ∈ configRegs) (val : UInt8) :
    Edits regs configRegs [.set reg val] (fun _ => True) (t.toBus.write reg val) := by
  have hwrite : Edits regs configRegs [.set reg val] (0 ≤ ·) (t.toBus.regWrite reg val) := by
    refine edits_one h (fun s => ?_) fun J hJ => hJ.regWrite reg (List.mem_singleton_self _) val
    rcases (h reg hreg).write val s with hw | ⟨hw, hneg⟩
    · exact ⟨.inr hw, fun _ _ _ => hw⟩
    · refine ⟨.inl hw, ?_⟩
      rintro _ ⟨⟩ hnn
      exact absurd hneg (Int.not_lt.mpr hnn)
  exact hwrite.check

theorem write_spares {reg : UInt8} (hreg : reg ∉ configRegs) (val : UInt8) :
    ∀ k ∈ configRegs, ∀ v, Exec.Keeps (fun s => regs s k = v) (t.toBus.write reg val) :=
  fun k hk v => ((h k hk).others v [reg] fun hmem =>
    hreg (List.mem_singleton.mp hmem ▸ hk)).write (List.mem_singleton_self _) val

theorem setBits_edits {reg : UInt8} (hreg : reg ∈ configRegs) (mask : UInt8) :
    Edits regs configRegs [⟨reg, fun v => v ||| mask⟩] (0 ≤ ·) (rc632SetBits t.toBus reg mask) := by
  refine edits_one h (fun s => ?_) fun J hJ => ?_
  · have hread := (h reg hreg).keeps_read reg s
    have hrun : rc632SetBits t.toBus reg mask s =
        (if (t.readReg reg s).1.1 < 0 then (pure (-1) : Exec σ Int)
          else if (t.readReg reg s).1.2 &&& mask = mask then pure 0
          else t.regWrite reg ((t.readReg reg s).1.2 ||| mask)) (t.readReg reg s).2 := rfl
    rw [hrun]
    split_ifs with hneg hset
    · refine ⟨.inl hread, ?_⟩
      rintro _ ⟨⟩ hnn
      exact absurd hnn (by decide)
    · have hval := (h reg hreg).read s (Int.not_lt.mp hneg)
      have hsame : regs s reg = regs s reg ||| mask := Bits.eq_or (hval ▸ hset)
      exact ⟨.inl hread, fun _ _ _ => hread.trans hsame⟩
    · have hval := (h reg hreg).read s (Int.not_lt.mp hneg)
      rw [hval]
      rcases (h reg hreg).write (regs s reg ||| mask) (t.readReg reg s).2 with hw | ⟨hw, hlt⟩
      · exact ⟨.inr hw, fun _ _ _ => hw⟩
      · refine ⟨.inl (hw.trans hread), ?_⟩
        rintro _ ⟨⟩ hnn
        exact absurd hlt (Int.not_lt.mpr hnn)
  · exact .bind (hJ.regRead reg) fun _ => .ite (fun _ => .pure _) fun _ =>
      .ite (fun _ => .pure _) fun _ => hJ.regWrite reg (List.mem_singleton_self _) _

theorem clearBits_edits {reg : UInt8} (hreg : reg ∈ configRegs) (mask : UInt8) :
    Edits regs configRegs [clearEdit reg mask] (0 ≤ ·) (rc632ClearBits t.toBus reg mask) :=
  edits_one h (fun s => (h reg hreg).clearBits mask s) fun _ hJ =>
    rc632ClearBits_keeps hJ (List.mem_singleton_self _) mask

theorem setBitMask_edits {reg : UInt8} (hreg : reg ∈ configRegs) (mask val : UInt8) :
    Edits regs configRegs [putEdit reg mask val] (0 ≤ ·) (rc632SetBitMask t.toBus reg mask val) :=
  edits_one h (fun s => (h reg hreg).setBitMask_put mask val s) fun _ hJ =>
    rc632SetBitMask_keeps hJ (List.mem_singleton_self _) mask val

theorem rfPower_edits (on : Bool) :
    Edits regs configRegs [rfPowerEdit on] (0 ≤ ·) (rc632RfPower t.toBus on) := by
  cases on with
  | false => exact clearBits_edits h (by decide) rfBits
  | true => exact setBits_edits h (by decide) rfBits

theorem power_spares (on : Bool) :
    ∀ k ∈ configRegs, ∀ v, Exec.Keeps (fun s => regs s k = v) (rc632Power t.toBus on) := by
  refine keeps_config h (l := [regControl]) (by decide) fun J hJ => ?_
  cases on with
  | false =>
    exact .bind (hJ.regRead _) fun _ => .ite (fun _ => .pure _) fun _ =>
      .ite (fun _ => .pure _) fun _ => hJ.regWrite regControl (by decide) _
  | true => exact rc632ClearBits_keeps hJ.toKeeps (by decide) _

theorem rc632Init_edits :
    Edits regs configRegs (RdrCall.edits .open) (fun _ => True) (rc632Init t.toBus) := by
  refine .after (power_spares h false) fun ret => .after (fun _ _ _ => .check ret) fun _ => ?_
  refine .after (power_spares h true) fun ret => .after (fun _ _ _ => .check ret) fun _ => ?_
  refine .after (write_spares h (by decide) _) fun _ => ?_
  refine .seq (l := [_]) (write_edits h (by decide) _) fun _ => ?_
  exact .checked (l := [_]) (rfPower_edits h false) (rfPower_edits h true).check

theorem rc632Fini_edits :
    Edits regs configRegs (RdrCall.edits .close) (fun _ => True) (rc632Fini t.toBus) := by
  refine .checked (l := [_]) (r := []) (rfPower_edits h false) ?_
  exact .after (power_spares h false) fun ret => .of_keeps fun _ _ _ => .check ret

theorem executeScript_edits {script : List (UInt8 × UInt8)}
    (hscript : script.all (·.1 ∈ configRegs)) :
    Edits regs configRegs (scriptEdits script) (fun _ => True)
      (rc632ExecuteScript t.toBus script) := by
  induction script with
  | nil => exact .pure ()
  | cons f script ih =>
    rw [List.all_cons, Bool.and_eq_true] at hscript
    exact .seq (l := [_]) (write_edits h (of_decide_eq_true hscript.1) f.2) fun _ => ih hscript.2

theorem layer2Init_edits (l2 : Layer2Id) :
    Edits regs configRegs (RdrCall.edits (.init l2)) (fun _ => True) (rc632Layer2Init t.toBus l2) := by
  have hflush := write_spares h (by decide : regControl ∉ configRegs) controlFifoFlush
  cases l2 with
  | none => exact (Refuses.fail _).edits _
  | iso14443a =>
    refine .after (keeps_config h (l := [regControl]) (by decide) fun J hJ => ?_) fun _ =>
      executeScript_edits h (by decide)
    exact hJ.regWrite regControl (by decide) _
  | iso14443b =>
    rw [rc632Layer2Init, rc632Iso14443bInit_eq]
    exact .after hflush fun _ => executeScript_edits h (by decide)
  | iso15693 => exact .after hflush fun _ => executeScript_edits h (by decide)
  | icode1 => exact executeScript_edits h (by decide)

theorem setSpeed_edits (rxPast : RxConfig) (txPast : TxConfig) (tx : Bool) {rate : Nat}
    (hrate : rate < 4) :
    Edits regs configRegs (speedEdits rate tx) (fun _ => True)
      (rc632Iso14443aSetSpeed t.toBus rxPast txPast tx rate) := by
  cases tx with
  | false =>
    have hlt : rate < rxConfigs.length := hrate
    have hcfg : rxConfigs[rate]? = some (rxConfigs.getD rate rxPast) := by
      rw [List.getD_eq_getElem _ _ hlt]
      exact List.getElem?_eq_getElem hlt
    simp only [rc632Iso14443aSetSpeed, speedEdits, Bool.not_false, if_true,
      if_neg (Nat.not_lt.mpr hlt.le), hcfg, Option.elim_some]
    refine .checked (l := [_]) (setBitMask_edits h (by decide) _ _) ?_
    refine .checked (l := [_]) (setBitMask_edits h (by decide) _ _) ?_
    exact .seq (l := [_]) (write_edits h (by decide) _) fun _ => .when (write_edits h (by decide) _)
  | true =>
    have hlt : rate < txConfigs.length := hrate
    have hcfg : txConfigs[rate]? = some (txConfigs.getD rate txPast) := by
      rw [List.getD_eq_getElem _ _ hlt]
      exact List.getElem?_eq_getElem hlt
    simp only [rc632Iso14443aSetSpeed, speedEdits, Bool.not_true, Bool.false_eq_true, if_false,
      if_neg (Nat.not_lt.mpr hlt.le), hcfg, Option.elim_some]
    exact .checked (l := [_]) (setBitMask_edits h (by decide) _ _) (write_edits h (by decide) _)

theorem rdrSetSpeed_edits (rxPast : RxConfig) (txPast : TxConfig) (tx : Bool) (speed : Nat) :
    Edits regs configRegs (RdrCall.edits (.setSpeed tx speed)) (fun _ => True)
      (rdrRc63214443aSetSpeed t.toBus rxPast txPast tx speed) := by
  unfold rdrRc63214443aSetSpeed
  split_ifs with h0 h1 h2 h3
  · subst h0
    exact setSpeed_edits h rxPast txPast tx (by decide)
  · subst h1
    exact setSpeed_edits h rxPast txPast tx (by decide)
  · subst h2
    exact setSpeed_edits h rxPast txPast tx (by decide)
  · subst h3
    exact setSpeed_edits h rxPast txPast tx (by decide)
  · exact (Refuses.fail _).edits _

theorem transceive_spares (undef : UInt8) (fuel : Nat) (tx : Mem UInt8) (txLen rxLen : UInt8)
    (timer : Nat) :
    ∀ k ∈ configRegs, ∀ v,
      Exec.Keeps (fun s => regs s k = v) ((t.asic undef fuel).transceive tx txLen rxLen timer) :=
  keeps_config h (l := transceiveRegs) (by decide) fun _ hJ =>
    rc632Transceive_keeps hJ undef fuel tx txLen rxLen timer

theorem read_spares (reg : UInt8) :
    ∀ k ∈ configRegs, ∀ v, Exec.Keeps (fun s => regs s k = v) (t.toBus.read reg) :=
  keeps_config h (l := []) (by decide) fun _ hJ => hJ.read reg

theorem abTransceive_edits (undef : UInt8) (fuel : Nat) (frametype : RfidFrametype) (tx : Mem UInt8)
    (txLen : Nat) (rx : Mem UInt8) (rxLen timeout : Nat) :
    Edits regs configRegs (RdrCall.edits (.transceive frametype tx txLen rx rxLen timeout))
      (fun r => 0 ≤ r.ret)
      (rc632Iso14443abTransceive (t.asic undef fuel) frametype tx txLen rx rxLen timeout) := by
  simp only [rc632Iso14443abTransceive, RdrCall.edits]
  cases channelRed frametype with
  | none => exact .pure _
  | some red =>
    refine .attempt_bind (l := [_]) (r := []) (write_edits h (by decide) red) (write_errs _ _ _)
      (fun _ => ?_) fun code hcode => .pure (Int.not_le.mpr hcode)
    exact .after (transceive_spares h undef fuel _ _ _ _) fun _ => .pure _

theorem clearCrypto1_spares :
    ∀ k ∈ configRegs, ∀ v,
      Exec.Keeps (fun s => regs s k = v) (rc632ClearBits t.toBus regControl controlCrypto1On) :=
  keeps_config h (l := [regControl]) (by decide) fun _ hJ =>
    rc632ClearBits_keeps hJ.toKeeps (by decide) _

theorem sf_edits (undef : UInt8) (fuel : Nat) (cmd : UInt8) (atqa : Mem UInt8) :
    Edits regs configRegs (RdrCall.edits (.transceiveSf cmd atqa)) (fun r => 0 ≤ r.ret)
      (rc632Iso14443aTransceiveSf (t.asic undef fuel) cmd atqa) := by
  have hprepare : Edits regs configRegs
      [.set regBitFraming 0x07, clearEdit regChannelRedundancy (crRxCrcEnable ||| crTxCrcEnable)]
      (fun _ => True) (rc632Iso14443aPrepareSf (t.asic undef fuel)) := by
    refine .seq (l := [_]) (write_edits h (by decide) _) fun _ => ?_
    refine .after (clearCrypto1_spares h) fun ret => .after (fun _ _ _ => .check ret) fun _ => ?_
    exact (clearBits_edits h (by decide) _).check
  have hfinish : Edits regs configRegs [.set regBitFraming 0x00] (fun _ => True)
      (rc632Iso14443aFinishSf (t.asic undef fuel)) := by
    refine .seq (l := [_]) (r := []) (write_edits h (by decide) _) fun _ => ?_
    refine .after (read_spares h _) fun flag => .of_keeps fun k hk v => .when fun _ => ?_
    exact .bind (read_spares h _ k hk v) fun _ => .pure _
  simp only [rc632Iso14443aTransceiveSf]
  refine .attempt_bind (l := [_, _]) (r := [_]) hprepare (rc632Iso14443aPrepareSf_errs _)
    (fun _ => ?_) fun code hcode => .pure (Int.not_le.mpr hcode)
  refine .after (transceive_spares h undef fuel _ _ _ _) fun x => ?_
  by_cases hneg : x.ret < 0
  · rw [if_pos hneg]
    refine Refuses.edits ?_ _
    exact .pure (Int.not_le.mpr hneg)
  · rw [if_neg hneg]
    refine .attempt_bind (l := [_]) (r := []) hfinish ?_ (fun _ => ?_) fun code hcode =>
      .pure (Int.not_le.mpr hcode)
    · exact .bind (write_errs _ _ _) fun _ => .bind (read_errs _ _) fun _ =>
        .when fun _ => .bind (read_errs _ _) fun _ => .pure _
    · split_ifs <;> exact .pure _

theorem acf_edits (undef : UInt8) (fuel : Nat) (acf : Mem UInt8) :
    Edits regs configRegs (RdrCall.edits (.transceiveAcf acf)) (fun r => 0 ≤ r.ret)
      (rc632Iso14443aTransceiveAcf (t.asic undef fuel) acf) := by
  have hprepare : Edits regs configRegs (RdrCall.edits (.transceiveAcf acf)) (fun _ => True)
      (rc632Iso14443aPrepareAcf (t.asic undef fuel) acf) := by
    refine .after (clearCrypto1_spares h) fun ret => .after (fun _ _ _ => .check ret) fun _ => ?_
    exact .checked (l := [_]) (clearBits_edits h (by decide) _) (write_edits h (by decide) _)
  unfold rc632Iso14443aTransceiveAcf
  refine .attempt_bind (r := []) hprepare ?_ (fun _ => ?_) fun code hcode =>
    .pure (Int.not_le.mpr hcode)
  · exact .bind (rc632ClearBits_errs _ _ _) fun _ => .bind (.check _) fun _ =>
      .bind (rc632ClearBits_errs _ _ _) fun _ => .bind (.check _) fun _ => write_errs _ _ _
  · refine .after (transceive_spares h undef fuel _ _ _ _) fun x => ?_
    split_ifs
    · exact .pure _
    · refine .after (fun k hk v => ?_) fun o => ?_
      rotate_left
      · cases o <;> exact .pure _
      refine .attempt (.bind (read_spares h _ k hk v) fun _ => ?_)
      exact .ite (fun _ => .bind (read_spares h _ k hk v) fun _ => .pure _) fun _ => .pure _

theorem ac_edits (undef : UInt8) (fuel : Nat) (acf : Mem UInt8) (acfLen rxLen : Nat) (boc : UInt8) :
    Edits regs configRegs [] (fun r => 0 ≤ r.ret)
      (rc632Iso15693TransceiveAc (t.asic undef fuel) acf acfLen rxLen boc) := by
  refine .of_keeps fun k hk v => .bind (transceive_spares h undef fuel _ _ _ _ k hk v) fun x => ?_
  refine .ite (fun _ => .pure _) fun _ => .bind (.attempt (read_spares h _ k hk v)) fun o => ?_
  cases o with
  | error ret => exact .pure _
  | ok flag =>
    refine .ite (fun _ => ?_) fun _ => .ite (fun _ => .pure _) fun _ => .pure _
    refine .bind (.attempt (read_spares h _ k hk v)) fun o => ?_
    cases o <;> exact .pure _

theorem timerSet_spares (undef : UInt8) (timeout : Nat) :
    ∀ k ∈ configRegs, ∀ v,
      Exec.Keeps (fun s => regs s k = v) (rc632TimerSet t.toBus undef timeout) :=
  keeps_config h (l := timerRegs) (by decide) fun _ hJ => rc632TimerSet_keeps hJ.regWrite undef timeout

theorem waitIdle_spares (fuel : Nat) :
    ∀ k ∈ configRegs, ∀ v, Exec.Keeps (fun s => regs s k = v) (rc632WaitIdleTimer t.toBus fuel) :=
  keeps_config h (l := [regInterruptRq, regInterruptEn]) (by decide) fun _ hJ =>
    rc632WaitIdleTimer_keeps hJ.toKeeps fuel

theorem fifoWrite_spares (bytes : List UInt8) (flags : UInt8) :
    ∀ k ∈ configRegs, ∀ v, Exec.Keeps (fun s => regs s k = v) (t.fifoWrite bytes flags) :=
  keeps_config h (l := []) (by decide) fun _ hJ => hJ.fifoWrite bytes flags

theorem keyCommand_edits (undef : UInt8) (fuel : Nat) (bytes : List UInt8) (cmd : UInt8) :
    Edits regs configRegs [] (fun _ => True) (keyCommand (t.mifare undef fuel) bytes cmd) := by
  refine .after (write_spares h (by decide) _) fun _ => .after (fifoWrite_spares h _ _) fun ret => ?_
  refine .after (fun _ _ _ => .check ret) fun _ => .after (write_spares h (by decide) _) fun _ => ?_
  refine .after (timerSet_spares h undef _) fun _ => .after (waitIdle_spares h fuel) fun _ => ?_
  exact .after (read_spares h _) fun _ => .of_keeps fun _ _ _ => .when fun _ => .fail _

theorem auth_edits (undef : UInt8) (fuel : Nat) (cmd : UInt8) (serno : UInt32) (block : UInt8) :
    Edits regs configRegs (RdrCall.edits (.auth cmd serno block)) (fun _ => True)
      (rc632MifareAuth (t.mifare undef fuel) cmd serno block) := by
  unfold rc632MifareAuth
  simp only [RdrCall.edits]
  by_cases hcmd : cmd = cmdMifareAuth1a ∨ cmd = cmdMifareAuth1b
  · rw [if_pos hcmd, if_neg (by rwa [← not_or, not_not])]
    refine .checked (l := [_]) (clearBits_edits h (by decide) _) ?_
    refine .after (fifoWrite_spares h _ _) fun ret => .after (fun _ _ _ => .check ret) fun _ => ?_
    refine .after (write_spares h (by decide) _) fun _ => .after (timerSet_spares h undef _) fun _ => ?_
    refine .after (waitIdle_spares h fuel) fun _ => .after (read_spares h _) fun reg => ?_
    refine .after (fun _ _ _ => .when fun _ => .fail _) fun _ => ?_
    refine .checked (l := [_]) (r := []) (clearBits_edits h (by decide) _) ?_
    refine .after (timerSet_spares h undef _) fun _ => .after (write_spares h (by decide) _) fun _ => ?_
    refine .after (waitIdle_spares h fuel) fun _ => .after (read_spares h _) fun reg => ?_
    exact .of_keeps fun _ _ _ => .when fun _ => .fail _
  · rw [if_neg hcmd, if_pos (by rwa [← not_or])]
    exact (Refuses.fail _).edits _

theorem setopt_edits (optname : Nat) (optval : Option UInt32) (optlen : Nat) :
    Edits regs configRegs (RdrCall.edits (.setopt optname optval optlen)) (0 ≤ ·)
      (rdrRc632Setopt t.toBus optname optval optlen) := by
  cases optval with
  | none => exact .pure _
  | some val =>
    simp only [RdrCall.edits, rdrRc632Setopt, Option.elim_some]
    by_cases hlen : optlen < 4
    · rw [if_pos hlen]
      exact Refuses.edits (.pure (by decide)) _
    · rw [if_neg hlen]
      by_cases hname : optname = rfidOptRdrRfKill
      · rw [if_pos hname, if_pos ⟨Nat.not_lt.mp hlen, hname⟩]
        by_cases hval : val = 0
        · rw [if_neg (not_not.mpr hval), decide_eq_true hval]
          exact rfPower_edits h true
        · rw [if_pos hval, decide_eq_false hval]
          exact rfPower_edits h false
      · rw [if_neg hname]
        exact Refuses.edits (.pure (by decide)) _

omit h in
theorem retOf_edits {l : List RegEdit} {x : Exec σ Unit}
    (hx : Edits regs configRegs l (fun _ => True) x) (he : Errs x) :
    Edits regs configRegs l (0 ≤ ·) (retOf x) := by
  have hret : Edits regs configRegs (l ++ []) (0 ≤ ·) (retOf x) := by
    unfold retOf
    exact hx.attempt_bind he (fun _ => .pure _) fun code hcode => .pure (Int.not_le.mpr hcode)
  rwa [List.append_nil] at hret

theorem RdrCall.run_edits (e : Ambient) (c : RdrCall) :
    Edits regs configRegs c.edits (0 ≤ ·) (c.run t e) := by
  cases c with
  | «open» => exact retOf_edits (rc632Init_edits h) (rc632Init_errs _)
  | close => exact retOf_edits (rc632Fini_edits h) (rc632Fini_errs _)
  | setopt optname optval optlen => exact setopt_edits h optname optval optlen
  | init l2 => exact retOf_edits (layer2Init_edits h l2) (rc632Layer2Init_errs _ l2)
  | transceive frametype tx txLen rx rxLen timeout =>
    exact (abTransceive_edits h e.undef e.fuel frametype tx txLen rx rxLen timeout).map
  | transceiveSf cmd atqa => exact (sf_edits h e.undef e.fuel cmd atqa).map
  | transceiveAcf acf => exact (acf_edits h e.undef e.fuel acf).map
  | setSpeed tx speed =>
    exact retOf_edits (rdrSetSpeed_edits h e.rxPast e.txPast tx speed) (rdrSetSpeed_errs _ _ _ tx speed)
  | transceiveAc acf acfLen rxLen bitOfCol =>
    exact (ac_edits h e.undef e.fuel acf acfLen rxLen bitOfCol).map
  | setkey key =>
    exact retOf_edits (keyCommand_edits h e.undef e.fuel _ cmdLoadKey)
      (rc632MifareSetKey_errs t e.undef e.fuel key)
  | setkeyEe addr =>
    refine retOf_edits ?_ (rc632MifareSetKeyEe_errs t e.undef e.fuel addr)
    unfold rc632MifareSetKeyEe
    split_ifs
    · exact (Refuses.fail _).edits _
    · exact keyCommand_edits h e.undef e.fuel _ cmdLoadKeyE2
  | auth cmd serno block =>
    exact retOf_edits (auth_edits h e.undef e.fuel cmd serno block)
      (rc632MifareAuth_errs t e.undef e.fuel cmd serno block)

end

end Librfid.Rc632
