import Librfid.Rc632.Register
import Librfid.Rc632.Reader

namespace Librfid.Rc632

open Exec

def RxAt (reg : UInt8) (rate : Nat) : Prop :=
  (rxConfigs[rate]?).map RxConfig.subcPulses = some (reg &&& rxctrl1SubcpMask)

def TxAt (reg : UInt8) (rate : Nat) : Prop :=
  (txConfigs[rate]?).map TxConfig.rate = some (reg &&& cdrctrlRateMask)

instance (reg : UInt8) (rate : Nat) : Decidable (RxAt reg rate) :=
  inferInstanceAs (Decidable (_ = _))

instance (reg : UInt8) (rate : Nat) : Decidable (TxAt reg rate) :=
  inferInstanceAs (Decidable (_ = _))

theorem rxAt_of {reg : UInt8} {rate : Nat} (hrate : rate < rxConfigs.length) {past : RxConfig}
    (h : reg &&& rxctrl1SubcpMask = (rxConfigs.getD rate past).subcPulses) : RxAt reg rate := by
  rw [RxAt, h, List.getD_eq_getElem _ _ hrate, List.getElem?_eq_getElem hrate, Option.map_some]

theorem txAt_of {reg : UInt8} {rate : Nat} (hrate : rate < txConfigs.length) {past : TxConfig}
    (h : reg &&& cdrctrlRateMask = (txConfigs.getD rate past).rate) : TxAt reg rate := by
  rw [TxAt, h, List.getD_eq_getElem _ _ hrate, List.getElem?_eq_getElem hrate, Option.map_some]

theorem rxConfigs_masked : ∀ cfg ∈ rxConfigs, cfg.subcPulses &&& rxctrl1SubcpMask = cfg.subcPulses := by
  decide

theorem txConfigs_masked : ∀ cfg ∈ txConfigs, cfg.rate &&& cdrctrlRateMask = cfg.rate := by
  decide

variable {σ : Type} {t : Transport σ} {reg : UInt8} {get : σ → UInt8}

theorem Register.setBitMask_put (h : Register t reg get) (mask val : UInt8) (s : σ) :
    (get (rc632SetBitMask t.toBus reg mask val s).2 = get s ∨
        get (rc632SetBitMask t.toBus reg mask val s).2 = Bits.put mask val (get s)) ∧
      ∀ ret, (rc632SetBitMask t.toBus reg mask val s).1 = .ok ret → 0 ≤ ret →
        get (rc632SetBitMask t.toBus reg mask val s).2 = Bits.put mask val (get s) := by
  have hread := h.keeps_read reg s
  have hrun : rc632SetBitMask t.toBus reg mask val s =
      (if (t.readReg reg s).1.1 < 0 then (pure (t.readReg reg s).1.1 : Exec σ Int)
        else if (t.readReg reg s).1.2 &&& mask = val then pure 0
        else t.regWrite reg (Bits.put mask val (t.readReg reg s).1.2)) (t.readReg reg s).2 := rfl
  rw [hrun]
  split_ifs with hneg hset
  · refine ⟨.inl hread, fun ret hret hnn => ?_⟩
    cases hret
    exact absurd hnn (Int.not_le.mpr hneg)
  · have hcontent := h.read s (Int.not_lt.mp hneg)
    rw [hcontent] at hset
    exact ⟨.inl hread, fun _ _ _ => hread.trans (Bits.put_of_and hset).symm⟩
  · have hcontent := h.read s (Int.not_lt.mp hneg)
    rw [hcontent]
    rcases h.write (Bits.put mask val (get s)) (t.readReg reg s).2 with hw | ⟨hw, hlt⟩
    · exact ⟨.inr hw, fun _ _ _ => hw⟩
    · refine ⟨.inl (hw.trans hread), fun ret hret hnn => ?_⟩
      cases hret
      exact absurd hlt (Int.not_lt.mpr hnn)

theorem Register.setBitMask (h : Register t reg get) {mask val : UInt8} (hval : val &&& mask = val)
    (s : σ) :
    (get (rc632SetBitMask t.toBus reg mask val s).2 = get s ∨
        get (rc632SetBitMask t.toBus reg mask val s).2 &&& mask = val) ∧
      ∀ ret, (rc632SetBitMask t.toBus reg mask val s).1 = .ok ret → 0 ≤ ret →
        get (rc632SetBitMask t.toBus reg mask val s).2 &&& mask = val := by
  have hbits : ∀ {v}, v = Bits.put mask val (get s) → v &&& mask = val := by
    rintro _ rfl
    exact (Bits.put_and mask val _).trans hval
  obtain ⟨hput, hok⟩ := h.setBitMask_put mask val s
  exact ⟨hput.imp_right hbits, fun ret hret hnn => hbits (hok ret hret hnn)⟩

section Speed

variable {I : UInt8 → Prop} (rxPast : RxConfig) (txPast : TxConfig)

theorem rc632SetBitMask_keeps {b : Bus σ} {regs : List UInt8} {J : σ → Prop} (h : b.Keeps regs J)
    (hreg : reg ∈ regs) (mask val : UInt8) : Exec.Keeps J (rc632SetBitMask b reg mask val) :=
  .bind (h.regRead reg) fun _ =>
    .ite (fun _ => .pure _) fun _ => .ite (fun _ => .pure _) fun _ => h.regWrite reg hreg _

theorem setBitMask_bind (h : Register t reg get) {mask val : UInt8} (hval : val &&& mask = val)
    (hI : ∀ v, v &&& mask = val → I v) {rest : Exec σ Unit}
    (hrest : ∀ p : UInt8 → Prop, Exec.Keeps (fun s => p (get s)) rest) :
    Triple (fun s => I (get s))
      (rc632SetBitMask t.toBus reg mask val >>= fun rc => check rc >>= fun _ => rest)
      (Ends (fun s => I (get s)) fun _ s => get s &&& mask = val) := by
  have hset : Triple (fun s => I (get s)) (rc632SetBitMask t.toBus reg mask val)
      (Ends (fun s => I (get s)) fun rc s => 0 ≤ rc → get s &&& mask = val) := by
    intro s hs
    obtain ⟨hsame | hbits, hok⟩ := h.setBitMask hval s
    · exact ⟨(congrArg I hsame).mpr hs, hok⟩
    · exact ⟨hI _ hbits, hok⟩
  exact .ends_bind hset fun rc => .ends_bind (.ends_check fun s hs => hs) fun _ =>
    Keeps.ends_and (hrest fun v => I v ∧ v &&& mask = val)

def rxSpeedRegs : List UInt8 := [regDecoderControl, regRxThreshold, regBpskDemControl]

theorem setSpeedRx_spec (h : Register t regRxControl1 get) {rate : Nat}
    (hrate : rate < rxConfigs.length) (hI : ∀ v, RxAt v rate → I v) :
    Triple (fun s => I (get s)) (rc632Iso14443aSetSpeed t.toBus rxPast txPast false rate)
      (Ends (fun s => I (get s)) fun _ s => RxAt (get s) rate) := by
  have hcfg := List.getD_eq_getElem rxConfigs rxPast hrate
  have hmask := rxConfigs_masked _ (List.getElem_mem hrate)
  rw [← hcfg] at hmask
  have hnot : ¬ rate > rxConfigs.length := Nat.not_lt.mpr (Nat.le_of_lt hrate)
  have hrest : ∀ p : UInt8 → Prop, t.toBus.Keeps rxSpeedRegs fun s => p (get s) := fun p =>
    (h.others_pred p (by decide)).toKeeps
  simp only [rc632Iso14443aSetSpeed, Bool.not_false, if_true, if_neg hnot]
  refine (setBitMask_bind h hmask (fun v hv => hI v (rxAt_of hrate hv)) fun p => ?_).ends_post
    fun _ s _ hv => rxAt_of hrate hv
  refine .bind (rc632SetBitMask_keeps (hrest p) (by decide) _ _) fun _ => .bind (.check _) fun _ => ?_
  exact .bind ((hrest p).write (by decide) _) fun _ => .when fun _ => (hrest p).write (by decide) _

theorem setSpeedTx_spec (h : Register t regCoderControl get) {rate : Nat}
    (hrate : rate < txConfigs.length) (hI : ∀ v, TxAt v rate → I v) :
    Triple (fun s => I (get s)) (rc632Iso14443aSetSpeed t.toBus rxPast txPast true rate)
      (Ends (fun s => I (get s)) fun _ s => TxAt (get s) rate) := by
  have hcfg := List.getD_eq_getElem txConfigs txPast hrate
  have hmask := txConfigs_masked _ (List.getElem_mem hrate)
  rw [← hcfg] at hmask
  have hnot : ¬ rate > txConfigs.length := Nat.not_lt.mpr (Nat.le_of_lt hrate)
  simp only [rc632Iso14443aSetSpeed, Bool.not_true, Bool.false_eq_true, if_false, if_neg hnot]
  refine (setBitMask_bind h hmask (fun v hv => hI v (txAt_of hrate hv)) fun p => ?_).ends_post
    fun _ s _ hv => txAt_of hrate hv
  exact (h.others_pred p (by decide : regCoderControl ∉ [regModWidth])).toKeeps.write (by decide) _

def speedRegs (tx : Bool) : List UInt8 :=
  if tx then [regCoderControl, regModWidth] else regRxControl1 :: rxSpeedRegs

theorem rc632Iso14443aSetSpeed_keeps {b : Bus σ} {J : σ → Prop} {tx : Bool}
    (h : b.Keeps (speedRegs tx) J) (rate : Nat) :
    Exec.Keeps J (rc632Iso14443aSetSpeed b rxPast txPast tx rate) := by
  cases tx with
  | false =>
    simp only [rc632Iso14443aSetSpeed, Bool.not_false, if_true]
    refine .ite (fun _ => .fail _) fun _ => ?_
    refine .bind (rc632SetBitMask_keeps h (by decide) _ _) fun _ => .bind (.check _) fun _ => ?_
    refine .bind (rc632SetBitMask_keeps h (by decide) _ _) fun _ => .bind (.check _) fun _ => ?_
    exact .bind (h.write (by decide) _) fun _ => .when fun _ => h.write (by decide) _
  | true =>
    simp only [rc632Iso14443aSetSpeed, Bool.not_true, Bool.false_eq_true, if_false]
    refine .ite (fun _ => .fail _) fun _ => ?_
    exact .bind (rc632SetBitMask_keeps h (by decide) _ _) fun _ => .bind (.check _) fun _ =>
      h.write (by decide) _

theorem setSpeedTx_keeps (h : Register t regRxControl1 get) (rate : Nat) :
    Exec.Keeps (fun s => I (get s)) (rc632Iso14443aSetSpeed t.toBus rxPast txPast true rate) :=
  rc632Iso14443aSetSpeed_keeps rxPast txPast
    (h.others_pred I (by decide : regRxControl1 ∉ speedRegs true)).toKeeps rate

theorem setSpeedRx_keeps (h : Register t regCoderControl get) (rate : Nat) :
    Exec.Keeps (fun s => I (get s)) (rc632Iso14443aSetSpeed t.toBus rxPast txPast false rate) :=
  rc632Iso14443aSetSpeed_keeps rxPast txPast
    (h.others_pred I (by decide : regCoderControl ∉ speedRegs false)).toKeeps rate

theorem rdrSetSpeed_cases (b : Bus σ) (tx : Bool) (speed : Nat) :
    (∃ rate < 4, (speed = rfid14443aSpeed106k → rate = 0) ∧
        rdrRc63214443aSetSpeed b rxPast txPast tx speed =
          rc632Iso14443aSetSpeed b rxPast txPast tx rate) ∨
      speed ≠ rfid14443aSpeed106k ∧
        rdrRc63214443aSetSpeed b rxPast txPast tx speed = fail (-eInval) := by
  unfold rdrRc63214443aSetSpeed
  split_ifs with h0 h1 h2 h3
  · exact .inl ⟨0, by decide, fun _ => rfl, rfl⟩
  · exact .inl ⟨1, by decide, fun h => absurd h h0, rfl⟩
  · exact .inl ⟨2, by decide, fun h => absurd h h0, rfl⟩
  · exact .inl ⟨3, by decide, fun h => absurd h h0, rfl⟩
  · exact .inr ⟨h0, rfl⟩

end Speed

section Init

theorem executeScript_sets (h : Register t reg get) {val : UInt8} {l l' : List (UInt8 × UInt8)}
    (hl : reg ∉ l.map Prod.fst) (hl' : reg ∉ l'.map Prod.fst) {I : UInt8 → Prop} (hI : I val) :
    Triple (fun s => I (get s)) (rc632ExecuteScript t.toBus (l ++ (reg, val) :: l'))
      (Ends (fun s => I (get s)) fun _ s => get s = val) := by
  have hother : ∀ (p : UInt8 → Prop) (r : UInt8), reg ≠ r → ∀ v,
      Exec.Keeps (fun s => p (get s)) (t.toBus.regWrite r v) := fun p r hr =>
    (h.others_pred p fun hmem => hr (List.mem_singleton.mp hmem)).regWrite r (List.mem_singleton_self r)
  induction l with
  | nil =>
    have hkeeps : Exec.Keeps (fun s => I (get s)) (t.toBus.write reg val) :=
      .bind (fun s hs => (h.write val s).elim (fun hw => (congrArg I hw).mpr hI) fun hw =>
        (congrArg I hw.1).mpr hs) .check
    have hwrite : Triple (fun s => I (get s)) (t.toBus.write reg val)
        (Ends (fun s => I (get s)) fun _ s => get s = val) := fun s hs =>
      ⟨hkeeps s hs, fun _ ho => h.write_ok (Prod.ext ho rfl)⟩
    exact .ends_bind hwrite fun _ => (rc632ExecuteScript_keeps fun f hf =>
      hother (fun v => I v ∧ v = val) f.1 (ne_of_mem_of_not_mem (List.mem_map_of_mem hf) hl').symm).ends_and
  | cons f l ih =>
    rw [List.map_cons, List.mem_cons, not_or] at hl
    exact .ends_bind (write_keeps (hother I f.1 hl.1) f.2).ends fun _ => (ih hl.2).pre fun _ => And.left

theorem rc632Iso14443aInit_sets (h : Register t reg get) (hreg : reg ∉ [regControl]) {val : UInt8}
    {l l' : List (UInt8 × UInt8)} (hscript : iso14443aScript = l ++ (reg, val) :: l')
    (hl : reg ∉ l.map Prod.fst) (hl' : reg ∉ l'.map Prod.fst) {I : UInt8 → Prop} (hI : I val) :
    Triple (fun s => I (get s)) (rc632Iso14443aInit t.toBus)
      (Ends (fun s => I (get s)) fun _ s => get s = val) := by
  have hflush : Exec.Keeps (fun s => I (get s)) (t.toBus.regWrite regControl controlFifoFlush) :=
    (h.others_pred I hreg).regWrite regControl (by decide) _
  refine .ends_bind hflush.ends fun _ => ?_
  rw [hscript]
  exact (executeScript_sets h hl hl' hI).pre fun _ => And.left

theorem rc632Iso14443aInit_rx (h : Register t regRxControl1 get) {I : UInt8 → Prop}
    (hI : ∀ v, RxAt v 0 → I v) :
    Triple (fun s => I (get s)) (rc632Iso14443aInit t.toBus)
      (Ends (fun s => I (get s)) fun _ s => RxAt (get s) 0) := by
  have hval : RxAt (rxctrl1Gain35db ||| rxctrl1Iso14443 ||| rxctrl1Subcp8) 0 := by decide
  have hscript : iso14443aScript = iso14443aScript.take 7 ++
      (regRxControl1, rxctrl1Gain35db ||| rxctrl1Iso14443 ||| rxctrl1Subcp8) ::
        iso14443aScript.drop 8 := rfl
  have hset := rc632Iso14443aInit_sets h (by decide) hscript (by decide) (by decide) (hI _ hval)
  exact hset.ends_post fun _ _ _ hs => hs ▸ hval

theorem rc632Iso14443aInit_tx (h : Register t regCoderControl get) {I : UInt8 → Prop}
    (hI : ∀ v, TxAt v 0 → I v) :
    Triple (fun s => I (get s)) (rc632Iso14443aInit t.toBus)
      (Ends (fun s => I (get s)) fun _ s => TxAt (get s) 0) := by
  have hval : TxAt (cdrctrlTxcd14443a ||| cdrctrlRate106k) 0 := by decide
  have hscript : iso14443aScript = iso14443aScript.take 3 ++
      (regCoderControl, cdrctrlTxcd14443a ||| cdrctrlRate106k) :: iso14443aScript.drop 4 := rfl
  have hset := rc632Iso14443aInit_sets h (by decide) hscript (by decide) (by decide) (hI _ hval)
  exact hset.ends_post fun _ _ _ hs => hs ▸ hval

end Init

end Librfid.Rc632
