import Librfid.Rc632.Rate

namespace Librfid.Rc632

open Exec

structure SpeedCall where
  tx : Bool
  rate : Nat

def SpeedCall.rxConfig (c : SpeedCall) : Option RxConfig := if c.tx then none else rxConfigs[c.rate]?

def SpeedCall.txConfig (c : SpeedCall) : Option TxConfig := if c.tx then txConfigs[c.rate]? else none

def setSpeeds {σ : Type} (b : Bus σ) (rxPast : RxConfig) (txPast : TxConfig) :
    List SpeedCall → Exec σ Unit
  | [] => pure ()
  | c :: calls => do
    rc632Iso14443aSetSpeed b rxPast txPast c.tx c.rate
    setSpeeds b rxPast txPast calls

inductive RateField
  | subcarrier | coding | threshold | bpskDem | rate | modWidth
  deriving DecidableEq

namespace RateField

def reg : RateField → UInt8
  | subcarrier => regRxControl1
  | coding => regDecoderControl
  | threshold => regRxThreshold
  | bpskDem => regBpskDemControl
  | rate => regCoderControl
  | modWidth => regModWidth

def mask : RateField → UInt8
  | subcarrier => rxctrl1SubcpMask
  | coding => decctrlBpsk
  | rate => cdrctrlRateMask
  | _ => 0xff

def value (c : SpeedCall) : RateField → Option UInt8
  | subcarrier => c.rxConfig.map RxConfig.subcPulses
  | coding => c.rxConfig.map RxConfig.rxCoding
  | threshold => c.rxConfig.map RxConfig.rxThreshold
  | bpskDem => (c.rxConfig.filter fun cfg => cfg.rxCoding = decctrlBpsk).map RxConfig.bpskDemCtrl
  | rate => c.txConfig.map TxConfig.rate
  | modWidth => c.txConfig.map TxConfig.modWidth

theorem reg_injective : Function.Injective reg := by
  intro f g h
  revert h
  cases f <;> cases g <;> decide

end RateField

def rateView {σ : Type} (regs : σ → UInt8 → UInt8) (s : σ) : RateField → UInt8 := fun f => regs s f.reg

variable {σ α β : Type} {regs : σ → UInt8 → UInt8}

/-- When the code ends with a value, `g` has been applied to the registers. -/
def Acts (regs : σ → UInt8 → UInt8) (g : (RateField → UInt8) → RateField → UInt8) (x : Exec σ α) : Prop :=
  ∀ s a s', x s = (.ok a, s') → rateView regs s' = g (rateView regs s)

theorem Acts.bind {g g' : (RateField → UInt8) → RateField → UInt8} {x : Exec σ α} {f : α → Exec σ β}
    (hx : Acts regs g x) (hf : ∀ a, Acts regs g' (f a)) : Acts regs (g' ∘ g) (x >>= f) := by
  intro s b s' hrun
  obtain ⟨a, s₁, hfirst, hrun⟩ := of_bind_ok hrun
  rw [hf a s₁ b s' hrun, hx s a s₁ hfirst]
  rfl

theorem Acts.when {g : (RateField → UInt8) → RateField → UInt8} {c : Prop} [Decidable c]
    {x : Exec σ Unit} (hx : Acts regs g x) : Acts regs (if c then g else id) (Exec.when c x) := by
  by_cases hc : c
  · rw [if_pos hc, when_of hc]
    exact hx
  · rw [if_neg hc, when_of_not hc]
    rintro s a s' ⟨⟩
    rfl

def putField (f : RateField) (val : UInt8) (view : RateField → UInt8) : RateField → UInt8 :=
  Function.update view f (Bits.put f.mask val (view f))

def SpeedCall.put (c : SpeedCall) (view : RateField → UInt8) : RateField → UInt8 := fun f =>
  (f.value c).elim (view f) fun val => Bits.put f.mask val (view f)

theorem SpeedCall.put_rx {c : SpeedCall} {cfg : RxConfig} (hrx : c.rxConfig = some cfg)
    (htx : c.txConfig = none) :
    c.put = (((if cfg.rxCoding = decctrlBpsk then putField .bpskDem cfg.bpskDemCtrl else id) ∘
      putField .threshold cfg.rxThreshold) ∘ putField .coding cfg.rxCoding) ∘
        putField .subcarrier cfg.subcPulses := by
  funext view f
  by_cases hbpsk : cfg.rxCoding = decctrlBpsk
  · cases f <;> simp [SpeedCall.put, RateField.value, hrx, htx, hbpsk, putField, Option.filter_some]
  · cases f <;> simp [SpeedCall.put, RateField.value, hrx, htx, hbpsk, putField, Option.filter_some]

theorem SpeedCall.put_tx {c : SpeedCall} {cfg : TxConfig} (hrx : c.rxConfig = none)
    (htx : c.txConfig = some cfg) :
    c.put = putField .modWidth cfg.modWidth ∘ putField .rate cfg.rate := by
  funext view f
  cases f <;> simp [SpeedCall.put, RateField.value, hrx, htx, putField]

section

variable {t : Transport σ} (h : ∀ f : RateField, Register t f.reg fun s => regs s f.reg)

include h

theorem acts_put (f : RateField) (val : UInt8) {x : Exec σ α}
    (hself : ∀ s a s', x s = (.ok a, s') → regs s' f.reg = Bits.put f.mask val (regs s f.reg))
    (hothers : ∀ J : σ → Prop, t.toBus.Keeps [f.reg] J → Exec.Keeps J x) :
    Acts regs (putField f val) x := by
  intro s a s' hrun
  funext g
  by_cases hg : g = f
  · subst hg
    rw [putField, Function.update_self]
    exact hself s a s' hrun
  · rw [putField, Function.update_of_ne hg]
    have hreg : g.reg ∉ [f.reg] := fun hmem =>
      hg (RateField.reg_injective (List.mem_singleton.mp hmem))
    have hkeep := hothers _ ((h g).others (regs s g.reg) _ hreg).toKeeps s rfl
    rw [hrun] at hkeep
    exact hkeep

theorem acts_setBitMask (f : RateField) (val : UInt8) {rest : Exec σ Unit}
    {g : (RateField → UInt8) → RateField → UInt8} (hrest : Acts regs g rest) :
    Acts regs (g ∘ putField f val)
      (rc632SetBitMask t.toBus f.reg f.mask val >>= fun rc => check rc >>= fun _ => rest) := by
  rw [← bind_bind]
  refine .bind (acts_put h f val ?_ ?_) fun _ => hrest
  · intro s u s' hrun
    obtain ⟨rc, s₁, hset, hrun⟩ := of_bind_ok hrun
    obtain ⟨hnn, rfl⟩ := of_check_ok hrun
    have hput := ((h f).setBitMask_put f.mask val s).2 rc (congrArg Prod.fst hset) hnn
    rwa [hset] at hput
  · intro J hJ
    exact .bind (rc632SetBitMask_keeps hJ (List.mem_singleton_self _) _ _) fun _ => .check _

theorem acts_write (f : RateField) (hf : f.mask = 0xff) (val : UInt8) :
    Acts regs (putField f val) (t.toBus.write f.reg val) := by
  apply acts_put h f val
  · intro s u s' hrun
    rw [hf, Bits.put_full]
    exact (h f).write_ok hrun
  · intro J hJ
    exact hJ.write (List.mem_singleton_self _) val

theorem acts_setSpeed (rxPast : RxConfig) (txPast : TxConfig) {c : SpeedCall} (hrate : c.rate < 4) :
    Acts regs c.put (rc632Iso14443aSetSpeed t.toBus rxPast txPast c.tx c.rate) := by
  obtain ⟨tx, rate⟩ := c
  cases tx with
  | false =>
    have hlt : rate < rxConfigs.length := hrate
    have hcfg : (⟨false, rate⟩ : SpeedCall).rxConfig = some (rxConfigs.getD rate rxPast) := by
      rw [List.getD_eq_getElem _ _ hlt]
      exact List.getElem?_eq_getElem hlt
    rw [SpeedCall.put_rx hcfg rfl]
    simp only [rc632Iso14443aSetSpeed, Bool.not_false, if_true, if_neg (Nat.not_lt.mpr hlt.le)]
    refine acts_setBitMask h .subcarrier _ (acts_setBitMask h .coding _ ?_)
    exact .bind (acts_write h .threshold rfl _) fun _ => .when (acts_write h .bpskDem rfl _)
  | true =>
    have hlt : rate < txConfigs.length := hrate
    have hcfg : (⟨true, rate⟩ : SpeedCall).txConfig = some (txConfigs.getD rate txPast) := by
      rw [List.getD_eq_getElem _ _ hlt]
      exact List.getElem?_eq_getElem hlt
    rw [SpeedCall.put_tx rfl hcfg]
    simp only [rc632Iso14443aSetSpeed, Bool.not_true, Bool.false_eq_true, if_false,
      if_neg (Nat.not_lt.mpr hlt.le)]
    exact acts_setBitMask h .rate _ (acts_write h .modWidth rfl _)

theorem acts_setSpeeds (rxPast : RxConfig) (txPast : TxConfig) {calls : List SpeedCall}
    (hrates : ∀ c ∈ calls, c.rate < 4) :
    Acts regs (fun view f => (calls.filterMap fun c => f.value c).getLast?.elim (view f) fun val =>
      Bits.put f.mask val (view f)) (setSpeeds t.toBus rxPast txPast calls) := by
  have hfold : Acts regs (fun view f => (calls.filterMap fun c => f.value c).foldl
      (fun x val => Bits.put f.mask val x) (view f)) (setSpeeds t.toBus rxPast txPast calls) := by
    induction calls with
    | nil =>
      rintro s a s' ⟨⟩
      rfl
    | cons c calls ih =>
      obtain ⟨hrate, hrates⟩ := List.forall_mem_cons.mp hrates
      intro s a s' hrun
      rw [Acts.bind (acts_setSpeed h rxPast txPast hrate) (fun _ => ih hrates) s a s' hrun]
      funext f
      simp only [Function.comp_apply, SpeedCall.put, List.filterMap_cons]
      cases f.value c <;> rfl
  intro s a s' hrun
  rw [hfold s a s' hrun]
  funext f
  exact Bits.foldl_put f.mask _ _

end

theorem setSpeed_refuses {σ : Type} (b : Bus σ) (rxPast : RxConfig) (txPast : TxConfig) (tx : Bool)
    {rate : Nat} (h : 4 < rate) :
    rc632Iso14443aSetSpeed b rxPast txPast tx rate = fail (-eInval) := by
  cases tx with
  | false => exact if_pos h
  | true => exact if_pos h

/-- The rate of each direction is that of its last call, and nothing else has changed; only the BPSK
demodulator is configured by the last call that selects BPSK. -/
theorem setSpeeds_last {t : Transport σ} (h : ∀ f : RateField, Register t f.reg fun s => regs s f.reg)
    (rxPast : RxConfig) (txPast : TxConfig) :
    (∀ (calls : List SpeedCall) (s s' : σ), (∀ c ∈ calls, c.rate < 4) →
      setSpeeds t.toBus rxPast txPast calls s = (.ok (), s') → ∀ f : RateField,
        regs s' f.reg = (calls.filterMap fun c => f.value c).getLast?.elim (regs s f.reg) fun val =>
          Bits.put f.mask val (regs s f.reg)) ∧
      ∀ (tx : Bool) (rate : Nat), 4 < rate →
        rc632Iso14443aSetSpeed t.toBus rxPast txPast tx rate = fail (-eInval) := by
  constructor
  · intro calls s s' hrates hrun f
    exact congrFun (acts_setSpeeds h rxPast txPast hrates s () s' hrun) f
  · intro tx rate hrate
    exact setSpeed_refuses t.toBus rxPast txPast tx hrate

theorem chip_rateField (f : RateField) : Register chip f.reg fun c => c.regs f.reg := by
  apply chip_register
  cases f <;> decide

theorem setSpeeds_last_three :
    ∃ c, setSpeeds chip.toBus ⟨0, 0, 0, 0⟩ ⟨0, 0⟩ [⟨false, 1⟩, ⟨true, 2⟩, ⟨false, 0⟩] (chipAhead []) =
        (.ok (), c) ∧ c.regs regRxThreshold = 0x88 ∧ c.regs regModWidth = 0x03 := by
  obtain ⟨c, hrun⟩ : ∃ c, setSpeeds chip.toBus ⟨0, 0, 0, 0⟩ ⟨0, 0⟩
      [⟨false, 1⟩, ⟨true, 2⟩, ⟨false, 0⟩] (chipAhead []) = (.ok (), c) := ⟨_, Prod.ext (by decide) rfl⟩
  have hlast := (setSpeeds_last chip_rateField _ _).1 _ _ _ (by decide) hrun
  exact ⟨c, hrun, (hlast .threshold).trans (by decide), (hlast .modWidth).trans (by decide)⟩

/-- Back at 106K the BPSK demodulator is still configured as for 212K. -/
theorem setSpeeds_bpsk_stays :
    ∃ c, setSpeeds chip.toBus ⟨0, 0, 0, 0⟩ ⟨0, 0⟩ [⟨false, 1⟩, ⟨false, 0⟩] (chipAhead []) =
        (.ok (), c) ∧
      rxConfigs[0]?.map RxConfig.bpskDemCtrl = some 0x00 ∧ c.regs regBpskDemControl = 0x0c := by
  refine ⟨_, Prod.ext (by decide) rfl, rfl, ?_⟩
  decide

end Librfid.Rc632
