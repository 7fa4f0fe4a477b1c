import Librfid.Layer2.Redundancy
import Librfid.Tcl.Pps

namespace Librfid.Tcl

open Exec Layer2 Rc632

structure Fast where
  rx : Bool
  tx : Bool
  deriving DecidableEq

def slow : Fast := ⟨false, false⟩

/-- 106K counts when setting it succeeds, any other rate when it is asked for. -/
def fastAfter (before : Bool) (speed : Nat) (ok : Bool) : Bool :=
  if speed = rfid14443aSpeed106k then before && !ok else true

theorem of_fastAfter {before ok : Bool} {speed : Nat} (h : fastAfter before speed ok = false) :
    speed = rfid14443aSpeed106k ∧ (before = false ∨ ok = true) := by
  unfold fastAfter at h
  split_ifs at h with hspeed
  cases before <;> cases ok <;> simp_all

def Fast.setSpeed (f : Fast) (tx : Bool) (speed : Nat) (ok : Bool) : Fast :=
  if tx then { f with tx := fastAfter f.tx speed ok } else { f with rx := fastAfter f.rx speed ok }

def succeeded {α : Type} : Outcome α → Bool
  | .ok _ => true
  | _ => false

theorem ok_of_succeeded {α : Type} {o : Outcome α} (h : succeeded o) : ∃ a, o = .ok a := by
  cases o with
  | ok a => exact ⟨a, rfl⟩
  | _ => cases h

def remembering {σ : Type} (r : Reader σ) : Reader (σ × Fast) where
  transceive frametype tx txLen rx rxLen timeout := lift (r.transceive frametype tx txLen rx rxLen timeout)
  init := fun (s, f) =>
    let (o, s) := r.init s
    (o, (s, if succeeded o then slow else f))
  transceiveSf cmd atqa := lift (r.transceiveSf cmd atqa)
  transceiveAcf acf := lift (r.transceiveAcf acf)
  speed := r.speed
  setSpeed tx speed := fun (s, f) =>
    let (o, s) := r.setSpeed tx speed s
    (o, (s, f.setSpeed tx speed (succeeded o)))

/-- What there is besides the reader: the handle of layer 2, if it has been made, and those of
T=CL. -/
structure Session (ρ : Type) where
  layer2 : Bool
  vars : Vars ρ
  tcl : List TclHandle

section

variable {σ ρ : Type}

def onVars {α : Type} (x : Iso14443aM σ ρ α) : Exec (σ × Session ρ) α := fun (s, w) =>
  let (o, (s, vars)) := x (s, w.vars)
  (o, (s, { w with vars := vars }))

def onTcl (i : Nat) (x : TclM σ Int) : Exec (σ × Session ρ) Unit := fun (s, w) =>
  match w.tcl[i]? with
  | none => (.ok (), (s, w))
  | some th =>
    let (o, (s, th)) := x (s, th)
    let o := match o with
      | .hang => .hang
      | _ => .ok ()
    (o, (s, { w with tcl := w.tcl.set i th }))

inductive Call
  | layer2Init
  | layer2Open
  | layer2Close
  | protocolInit
  | protocol (i : Nat) (op : TclOp)

variable (r : Reader σ) (randomBit : ρ → Bool × ρ) (ah : AsicHandle) (past rounds fuel : Nat)

def drawBits : Nat → Iso14443aM σ ρ Unit
  | 0 => pure ()
  | n + 1 => do
    let _ ← drawBit randomBit
    drawBits n

def iso14443aInit : Iso14443aM σ ρ Unit := do
  drawBits randomBit 23
  lift r.init
  setHandle fun _ => initHandle

/-- A call, whatever it returns.  What takes a handle of layer 2 is not called without one. -/
def Call.run : Call → Exec (σ × Session ρ) Unit
  | layer2Init => do
    match ← attempt (onVars (iso14443aInit r randomBit)) with
    | .ok () => modify fun w => { w with layer2 := true }
    | .error _ => pure ()
  | layer2Open => do
    let w ← get
    when w.layer2 do
      let _ ← attempt (onVars (iso14443aAnticol r randomBit rounds))
      pure ()
  | layer2Close => do
    let w ← get
    when w.layer2 do
      let _ ← attempt (onVars (iso14443aHlta r))
      pure ()
  | protocolInit => do
    let w ← get
    when w.layer2 (modify fun w => { w with tcl := w.tcl ++ [tclInit ah] })
  | protocol i op => onTcl i (op.run (iso14443aLayer2 r ah) past fuel)

def runCalls : List Call → Exec (σ × Session ρ) Unit
  | [] => pure ()
  | c :: cs => do
    c.run r randomBit ah past rounds fuel
    runCalls cs

/-- Whenever a handle of layer 2 is opened, no rate but 106K is left over. -/
def RunSlow (r : Reader (σ × Fast)) : List Call → (σ × Fast) × Session ρ → Prop
  | [], _ => True
  | c :: cs, s =>
    (c = .layer2Open → s.2.layer2 → s.1.2 = slow) ∧
      ∀ s', c.run r randomBit ah past rounds fuel s = (.ok (), s') → RunSlow r cs s'

end

section Rates

variable {σ : Type} (t : Transport σ) (rxControl1 coderControl : σ → UInt8) (rxPast : RxConfig)
  (txPast : TxConfig) (undef : UInt8) (fuel speed : Nat)

abbrev RateLog := List (FrameKind × UInt8 × UInt8)

def rateAsic (kind : FrameKind) : Asic (σ × RateLog) :=
  (t.logging fun s => (kind, rxControl1 s, coderControl s)).asic undef fuel

def rateReader : Reader (σ × RateLog) :=
  reader rxPast txPast (rateAsic t rxControl1 coderControl undef fuel) speed

def AtBase (b : FrameKind × UInt8 × UInt8) : Prop := b.1 = .sf → RxAt b.2.1 0 ∧ TxAt b.2.2 0

structure Rates (f : Fast) (s : σ × RateLog) : Prop where
  rx : f.rx = false → RxAt (rxControl1 s.1) 0
  tx : f.tx = false → TxAt (coderControl s.1) 0
  recorded : ∀ b ∈ s.2, AtBase b

variable {t rxControl1 coderControl undef fuel}

theorem rateAsic_records {regs : List UInt8} (hregs : regCommand ∉ regs) :
    (rateAsic t rxControl1 coderControl undef fuel .regular).toBus.Keeps regs
      fun s => ∀ b ∈ s.2, AtBase b :=
  (logging_log t (fun s => (FrameKind.regular, rxControl1 s, coderControl s)) hregs
    fun log => ∀ b ∈ log, AtBase b).toKeeps

variable (hrx : Register t regRxControl1 rxControl1)
  (hcoder : Register t regCoderControl coderControl)
include hrx hcoder

theorem rateAsic_keeps (kind : FrameKind) {f : Fast} (hkind : kind = .sf → f = slow)
    {regs : List UInt8} (hregs : regRxControl1 ∉ transceiveRegs ++ regs)
    (hregs' : regCoderControl ∉ transceiveRegs ++ regs) :
    (rateAsic t rxControl1 coderControl undef fuel kind).Keeps regs
      (Rates rxControl1 coderControl f) := by
  have hboth := (hrx.others_pred (fun v => f.rx = false → RxAt v 0) hregs).and
    (hcoder.others_pred (fun v => f.tx = false → TxAt v 0) hregs')
  refine ((Rc632.logging_keeps (G := AtBase) hboth fun s hs hk => ?_).asic_of undef fuel).congr fun s =>
    ⟨fun h => ⟨h.1.1, h.1.2, h.2⟩, fun h => ⟨⟨h.rx, h.tx⟩, h.recorded⟩⟩
  rw [hkind hk] at hs
  exact ⟨hs.1 rfl, hs.2 rfl⟩

theorem rateReader_init (f : Fast) :
    Triple (Rates rxControl1 coderControl f)
      (rateReader t rxControl1 coderControl rxPast txPast undef fuel speed).init
      (Ends (Rates rxControl1 coderControl f) fun _ s => Rates rxControl1 coderControl slow s) := by
  let obs : σ → FrameKind × UInt8 × UInt8 := fun s => (.regular, rxControl1 s, coderControl s)
  have hrx' : Register (t.logging obs) regRxControl1 fun s => rxControl1 s.1 := logging_register hrx
  have hcoder' : Register (t.logging obs) regCoderControl fun s => coderControl s.1 :=
    logging_register hcoder
  have hlog : Exec.Keeps (fun s : σ × RateLog => ∀ b ∈ s.2, AtBase b)
      (rateReader t rxControl1 coderControl rxPast txPast undef fuel speed).init := by
    have hacc : (rateAsic t rxControl1 coderControl undef fuel .regular).toBus.Keeps
        (regControl :: iso14443aScript.map Prod.fst) fun s => ∀ b ∈ s.2, AtBase b :=
      rateAsic_records (by decide)
    refine .bind (hacc.regWrite regControl (by decide) _) fun _ => ?_
    exact rc632ExecuteScript_keeps fun g hg val =>
      hacc.regWrite g.1 (List.mem_cons_of_mem _ (List.mem_map_of_mem hg)) val
  intro s hs
  obtain ⟨hrxI, hrxOk⟩ := rc632Iso14443aInit_rx hrx' (I := fun v => f.rx = false → RxAt v 0)
    (fun v hv _ => hv) s hs.rx
  obtain ⟨htxI, htxOk⟩ := rc632Iso14443aInit_tx hcoder' (I := fun v => f.tx = false → TxAt v 0)
    (fun v hv _ => hv) s hs.tx
  have hrec := hlog s hs.recorded
  exact ⟨⟨hrxI, htxI, hrec⟩, fun u hu => ⟨fun _ => hrxOk u hu, fun _ => htxOk u hu, hrec⟩⟩

theorem rateReader_setSpeed (f : Fast) (tx : Bool) (rate : Nat) :
    Triple (Rates rxControl1 coderControl f)
      ((rateReader t rxControl1 coderControl rxPast txPast undef fuel speed).setSpeed tx rate)
      fun o s => Rates rxControl1 coderControl (f.setSpeed tx rate (succeeded o)) s := by
  let obs : σ → FrameKind × UInt8 × UInt8 := fun s => (.regular, rxControl1 s, coderControl s)
  have hrx' : Register (t.logging obs) regRxControl1 fun s => rxControl1 s.1 := logging_register hrx
  have hcoder' : Register (t.logging obs) regCoderControl fun s => coderControl s.1 :=
    logging_register hcoder
  intro s hs
  change Rates rxControl1 coderControl (f.setSpeed tx rate (succeeded (rdrRc63214443aSetSpeed
    (rateAsic t rxControl1 coderControl undef fuel .regular).toBus rxPast txPast tx rate s).1)) _
  change Rates _ _ _ (rdrRc63214443aSetSpeed
    (rateAsic t rxControl1 coderControl undef fuel .regular).toBus rxPast txPast tx rate s).2
  rcases rdrSetSpeed_cases rxPast txPast
      (rateAsic t rxControl1 coderControl undef fuel .regular).toBus tx rate with
    ⟨i, hi, hbase, hrun⟩ | ⟨hne, hrun⟩
  · have hlog : Exec.Keeps (fun s : σ × RateLog => ∀ b ∈ s.2, AtBase b)
        (rc632Iso14443aSetSpeed (rateAsic t rxControl1 coderControl undef fuel .regular).toBus
          rxPast txPast tx i) :=
      rc632Iso14443aSetSpeed_keeps rxPast txPast
        (rateAsic_records (by cases tx <;> decide)) i
    have hrec := hlog s hs.recorded
    cases tx with
    | false =>
      obtain ⟨hsame, hset⟩ := setSpeedRx_spec rxPast txPast hrx' hi
        (I := fun v => rate = rfid14443aSpeed106k → f.rx = false → RxAt v 0)
        (fun v hv hrate _ => hbase hrate ▸ hv) s fun _ => hs.rx
      have hother := setSpeedRx_keeps (I := fun v => f.tx = false → TxAt v 0) rxPast txPast hcoder' i s
        hs.tx
      rw [hrun]
      refine ⟨fun hfast => ?_, hother, hrec⟩
      obtain ⟨hrate, hbefore | hok⟩ := of_fastAfter hfast
      · exact hsame hrate hbefore
      · obtain ⟨u, hu⟩ := ok_of_succeeded hok
        exact hbase hrate ▸ hset u hu
    | true =>
      obtain ⟨hsame, hset⟩ := setSpeedTx_spec rxPast txPast hcoder' hi
        (I := fun v => rate = rfid14443aSpeed106k → f.tx = false → TxAt v 0)
        (fun v hv hrate _ => hbase hrate ▸ hv) s fun _ => hs.tx
      have hother := setSpeedTx_keeps (I := fun v => f.rx = false → RxAt v 0) rxPast txPast hrx' i s
        hs.rx
      rw [hrun]
      refine ⟨hother, fun hfast => ?_, hrec⟩
      obtain ⟨hrate, hbefore | hok⟩ := of_fastAfter hfast
      · exact hsame hrate hbefore
      · obtain ⟨u, hu⟩ := ok_of_succeeded hok
        exact hbase hrate ▸ hset u hu
  · rw [hrun]
    cases tx with
    | false => exact ⟨fun hfast => absurd (of_fastAfter hfast).1 hne, hs.tx, hs.recorded⟩
    | true => exact ⟨hs.rx, fun hfast => absurd (of_fastAfter hfast).1 hne, hs.recorded⟩

theorem rateReader_regular (f : Fast) (frametype : RfidFrametype) (tx : Mem UInt8) (txLen : Nat)
    (rx : Mem UInt8) (rxLen timeout : Nat) :
    Exec.Keeps (Rates rxControl1 coderControl f)
      ((rateReader t rxControl1 coderControl rxPast txPast undef fuel speed).transceive frametype tx
        txLen rx rxLen timeout) :=
  rc632Iso14443abTransceive_keeps
    (rateAsic_keeps hrx hcoder .regular nofun (by decide) (by decide)) _ _ _ _ _ _

theorem rateReader_acf (f : Fast) (acf : Mem UInt8) :
    Exec.Keeps (Rates rxControl1 coderControl f)
      ((rateReader t rxControl1 coderControl rxPast txPast undef fuel speed).transceiveAcf acf) :=
  rc632Iso14443aTransceiveAcf_keeps
    (rateAsic_keeps hrx hcoder (.acf (acf 0)) nofun (by decide) (by decide)) acf
    (rc632Iso14443aPrepareAcf_keeps
      (rateAsic_keeps hrx hcoder (.acf (acf 0)) nofun (by decide) (by decide)) acf)

theorem rateReader_sf (cmd : UInt8) (atqa : Mem UInt8) :
    Exec.Keeps (Rates rxControl1 coderControl slow)
      ((rateReader t rxControl1 coderControl rxPast txPast undef fuel speed).transceiveSf cmd atqa) :=
  rc632Iso14443aTransceiveSf_keeps
    (rateAsic_keeps hrx hcoder .sf (fun _ => rfl) (by decide) (by decide)) cmd atqa

end Rates

section Run

variable {σ ρ : Type} {I : σ → Prop}

theorem keeps_onVars {α : Type} {x : Iso14443aM σ ρ α} (h : Exec.Keeps (fun s => I s.1) x) :
    Exec.Keeps (fun s : σ × Session ρ => I s.1) (onVars x) := fun (s, w) hs => h (s, w.vars) hs

theorem keeps_onTcl {x : TclM σ Int} (h : Exec.Keeps (fun s => I s.1) x) (i : Nat) :
    Exec.Keeps (fun s : σ × Session ρ => I s.1) (onTcl i x) := by
  rintro ⟨s, w⟩ hs
  cases hth : w.tcl[i]? with
  | none =>
    simp only [onTcl, hth]
    exact hs
  | some th =>
    simp only [onTcl, hth]
    exact h (s, th) hs

theorem keeps_drawBits (randomBit : ρ → Bool × ρ) (n : Nat) :
    Exec.Keeps (fun s : σ × Vars ρ => I s.1) (drawBits randomBit n) := by
  induction n with
  | zero => exact .pure _
  | succ n ih => exact .bind (.bind keeps_get fun _ => .bind (.modify _) fun _ => .pure _) fun _ => ih

variable {t : Transport σ} {rxControl1 coderControl : σ → UInt8} (rxPast : RxConfig)
  (txPast : TxConfig) (undef : UInt8) (fuel speed : Nat) (randomBit : ρ → Bool × ρ)
  (ah : AsicHandle) (past rounds : Nat)

def Known (rxControl1 coderControl : σ → UInt8) (s : (σ × RateLog) × Fast) : Prop :=
  Rates rxControl1 coderControl s.2 s.1

variable (hrx : Register t regRxControl1 rxControl1) (hcoder : Register t regCoderControl coderControl)
include hrx hcoder

theorem call_known (c : Call) :
    Triple (fun s : ((σ × RateLog) × Fast) × Session ρ => Known rxControl1 coderControl s.1 ∧
        (c = .layer2Open → s.2.layer2 → s.1.2 = slow))
      (c.run (remembering (rateReader t rxControl1 coderControl rxPast txPast undef fuel speed))
        randomBit ah past rounds fuel)
      fun _ s => Known rxControl1 coderControl s.1 := by
  let r : Reader ((σ × RateLog) × Fast) :=
    remembering (rateReader t rxControl1 coderControl rxPast txPast undef fuel speed)
  have hregular : ∀ frametype tx txLen rx rxLen timeout, Exec.Keeps (Known rxControl1 coderControl)
      (r.transceive frametype tx txLen rx rxLen timeout) := fun _ _ _ _ _ _ (s, f) hs =>
    rateReader_regular rxPast txPast speed hrx hcoder f _ _ _ _ _ _ s hs
  have hspeed : ∀ tx rate, Exec.Keeps (Known rxControl1 coderControl) (r.setSpeed tx rate) :=
    fun tx rate (s, f) hs => rateReader_setSpeed rxPast txPast speed hrx hcoder f tx rate s hs
  -- while nothing is fast, requests may be sent as well
  have hslow : ReaderKeeps r fun s => Known rxControl1 coderControl s ∧ s.2 = slow :=
    { sf := fun cmd atqa (s, f) hs => by
        obtain ⟨hs, rfl⟩ := hs
        exact ⟨rateReader_sf rxPast txPast speed hrx hcoder cmd atqa s hs, rfl⟩
      acf := fun acf (s, f) hs => ⟨rateReader_acf rxPast txPast speed hrx hcoder f acf s hs.1, hs.2⟩
      regular := fun _ _ _ _ _ _ (s, f) hs => ⟨hregular _ _ _ _ _ _ (s, f) hs.1, hs.2⟩ }
  cases c with
  | layer2Init =>
    have hinit : Exec.Keeps (Known rxControl1 coderControl) r.init := by
      rintro ⟨s, f⟩ hs
      obtain ⟨hsame, hset⟩ := rateReader_init rxPast txPast speed hrx hcoder f s hs
      change Rates rxControl1 coderControl (if succeeded ((rateReader t rxControl1 coderControl rxPast
        txPast undef fuel speed).init s).1 then slow else f) _
      split_ifs with hok
      · obtain ⟨u, hu⟩ := ok_of_succeeded hok
        exact hset u hu
      · exact hsame
    have hcall : Exec.Keeps (fun s => Known rxControl1 coderControl s.1) (iso14443aInit r randomBit) :=
      .bind (keeps_drawBits randomBit 23) fun _ => .bind (.lift hinit) fun _ => setHandle_keeps _ _
    refine Triple.pre (.bind (keeps_onVars hcall).attempt (fun o => ?_) (fun _ _ => id) fun _ => id)
      fun _ => And.left
    cases o with
    | ok => exact Exec.Keeps.modify _
    | error ret => exact Exec.Keeps.pure _
  | layer2Open =>
    rintro ⟨s, w⟩ ⟨hs, hopen⟩
    by_cases hw : w.layer2
    · have hcall := keeps_onVars (I := fun s => Known rxControl1 coderControl s ∧ s.2 = slow)
        (iso14443aAnticol_keeps randomBit hslow rounds)
      have hrun : Exec.Keeps _ (when w.layer2 do
          let _ ← attempt (onVars (iso14443aAnticol r randomBit rounds))
          pure ()) := .when fun _ => .bind hcall.attempt fun _ => .pure _
      exact (hrun (s, w) ⟨hs, hopen rfl hw⟩).1
    · change Known rxControl1 coderControl (when w.layer2 _ (s, w)).2.1
      rw [when_of_not hw]
      exact hs
  | layer2Close =>
    have hrounds : RoundsKeep r (Known rxControl1 coderControl) :=
      { acf := fun acf (s, f) hs => rateReader_acf rxPast txPast speed hrx hcoder f acf s hs
        regular := hregular }
    have hrun : Exec.Keeps (fun s => Known rxControl1 coderControl s.1)
        (Call.layer2Close.run r randomBit ah past rounds fuel) :=
      .bind keeps_get fun w => .when fun _ =>
        .bind (keeps_onVars (iso14443aHlta_keeps hrounds)).attempt fun _ => .pure _
    exact hrun.pre fun _ => And.left
  | protocolInit =>
    have hrun : Exec.Keeps (fun s => Known rxControl1 coderControl s.1)
        (Call.protocolInit.run r randomBit ah past rounds fuel) :=
      .bind keeps_get fun w => .when fun _ => .modify _
    exact hrun.pre fun _ => And.left
  | protocol i op =>
    have hop := @TclOp.run_keeps _ (iso14443aLayer2 r ah) (I := Known rxControl1 coderControl)
      (fun call rx n => .bind (hregular _ _ _ _ _ _) fun _ => .pure _) hspeed past fuel op
    exact (keeps_onTcl hop i).pre fun _ => And.left

theorem runCalls_known (cs : List Call) {s : ((σ × RateLog) × Fast) × Session ρ}
    (hs : Known rxControl1 coderControl s.1)
    (hslow : RunSlow randomBit ah past rounds fuel
      (remembering (rateReader t rxControl1 coderControl rxPast txPast undef fuel speed)) cs s) :
    Known rxControl1 coderControl (runCalls
      (remembering (rateReader t rxControl1 coderControl rxPast txPast undef fuel speed)) randomBit ah
      past rounds fuel cs s).2.1 := by
  induction cs generalizing s with
  | nil => exact hs
  | cons c cs ih =>
    have hcall := call_known rxPast txPast undef fuel speed randomBit ah past rounds hrx hcoder c s
      ⟨hs, hslow.1⟩
    rw [runCalls, bind_run]
    rcases hr : c.run (remembering (rateReader t rxControl1 coderControl rxPast txPast undef fuel speed))
        randomBit ah past rounds fuel s with ⟨_ | _ | _, s'⟩ <;> rw [hr] at hcall
    · exact ih hcall (hslow.2 s' hr)
    · exact hcall
    · exact hcall

def noSession (s : σ) (vars : Vars ρ) : ((σ × RateLog) × Fast) × Session ρ :=
  (((s, []), ⟨true, true⟩), ⟨false, vars, []⟩)

/-- In a run that opens layer 2 only when no other rate is left over, requests are sent at 106K. -/
theorem requests_at106k (cs : List Call) (s : σ) (vars : Vars ρ)
    (hslow : RunSlow randomBit ah past rounds fuel
      (remembering (rateReader t rxControl1 coderControl rxPast txPast undef fuel speed)) cs
      (noSession s vars)) :
    ∀ b ∈ (runCalls (remembering (rateReader t rxControl1 coderControl rxPast txPast undef fuel speed))
        randomBit ah past rounds fuel cs (noSession s vars)).2.1.1.2,
      b.1 = .sf → RxAt b.2.1 0 ∧ TxAt b.2.2 0 := by
  have hs : Known rxControl1 coderControl (noSession s vars).1 :=
    Rates.mk (f := ⟨true, true⟩) (s := (s, [])) nofun nofun nofun
  exact (runCalls_known rxPast txPast undef fuel speed randomBit ah past rounds hrx hcoder cs hs
    hslow).recorded

omit hrx hcoder in
theorem RunSlow.cons {r : Reader (σ × Fast)} {c : Call} {cs : List Call} {s : (σ × Fast) × Session ρ}
    (h : c = .layer2Open → s.2.layer2 → s.1.2 = slow)
    (hrest : RunSlow randomBit ah past rounds fuel r cs (c.run r randomBit ah past rounds fuel s).2) :
    RunSlow randomBit ah past rounds fuel r (c :: cs) s :=
  ⟨h, fun s' hs' => by rwa [hs'] at hrest⟩

end Run

def rxControl1Reg (c : Chip) : UInt8 := c.regs regRxControl1

def coderControlReg (c : Chip) : UInt8 := c.regs regCoderControl

def chipReader : Reader ((Chip × RateLog) × Fast) :=
  remembering (rateReader chip rxControl1Reg coderControlReg ⟨0, 0, 0, 0⟩ ⟨0, 0⟩ 0 2 0x0f)

def chipRun (cs : List Call) (answers : List Exch) : ((Chip × RateLog) × Fast) × Session RandCtx :=
  (runCalls chipReader randomBit rc632Open 0 4 2 cs (noSession (chipAhead answers) initVars)).2

def fastCard : List Exch := [idleAtOnce [0x04, 0x00] (by decide),
  idleAtOnce [0x01, 0x02, 0x03, 0x04, 0x04] (by decide), idleAtOnce [0x20] (by decide),
  idleAtOnce [0x03, 0x15, 0x33] (by decide), idleAtOnce [0xd0] (by decide)]

def fastSession : List Call :=
  [.layer2Init, .layer2Open, .protocolInit, .protocol 0 (.connect fun _ => 0)]

theorem requests_at106k_again :
    let log := (chipRun (fastSession ++ [.layer2Init, .layer2Open]) fastCard).1.1.2
    (log.filter fun b => b.1 = .sf).length = 2 ∧
      ∀ b ∈ log, b.1 = .sf → RxAt b.2.1 0 ∧ TxAt b.2.2 0 := by
  refine ⟨by decide +kernel, ?_⟩
  have hslow : RunSlow randomBit rc632Open 0 4 2 chipReader (fastSession ++ [.layer2Init, .layer2Open])
      (noSession (chipAhead fastCard) initVars) := by
    refine .cons _ _ _ _ _ nofun (.cons _ _ _ _ _ (fun _ _ => ?_) (.cons _ _ _ _ _ nofun
      (.cons _ _ _ _ _ nofun (.cons _ _ _ _ _ nofun (.cons _ _ _ _ _ (fun _ _ => ?_) ?_)))))
    · decide +kernel
    · decide +kernel
    · exact True.intro
  have hrx : Register chip regRxControl1 rxControl1Reg := chip_register (by decide)
  have hcoder : Register chip regCoderControl coderControlReg := chip_register (by decide)
  rw [chipReader] at hslow
  rw [chipRun, chipReader]
  exact requests_at106k ⟨0, 0, 0, 0⟩ ⟨0, 0⟩ 0 2 0x0f randomBit rc632Open 0 4 hrx hcoder _
    (chipAhead fastCard) initVars hslow

/-- When both are closed and layer 2 is opened again, the request is sent at 424K. -/
theorem request_at424k :
    ∃ b ∈ (chipRun (fastSession ++ [.protocol 0 (.deselect (fun _ => 0) fun _ => 0), .layer2Close,
        .layer2Open]) (fastCard ++ [idleAtOnce [0xc2] (by decide), unanswered])).1.1.2,
      b.1 = .sf ∧ RxAt b.2.1 2 ∧ TxAt b.2.2 2 ∧ ¬ RxAt b.2.1 0 ∧ ¬ TxAt b.2.2 0 := by
  have hlog : (.sf, 0x33, 0x09) ∈ (chipRun (fastSession ++ [.protocol 0 (.deselect (fun _ => 0)
      fun _ => 0), .layer2Close, .layer2Open])
      (fastCard ++ [idleAtOnce [0xc2] (by decide), unanswered])).1.1.2 := by
    decide +kernel
  exact ⟨_, hlog, rfl, by decide⟩

end Librfid.Tcl
