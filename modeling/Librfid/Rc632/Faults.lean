import Librfid.Rc632.Sites

namespace Librfid.Rc632

open Exec

abbrev SiteLog := List (Site × Int)

section

variable {σ : Type}

def Transport.noting (t : Transport σ) (site : Site) : Transport (σ × SiteLog) where
  writeReg reg val := fun (s, log) =>
    let (ret, s) := t.writeReg reg val s
    (ret, (s, log ++ [(site, ret)]))
  readReg reg := fun (s, log) =>
    let (x, s) := t.readReg reg s
    (x, (s, log ++ [(site, x.1)]))
  writeFifo bytes flags := fun (s, log) =>
    let (ret, s) := t.writeFifo bytes flags s
    (ret, (s, log ++ [(site, ret)]))
  readFifo len := fun (s, log) =>
    let (x, s) := t.readFifo len s
    (x, (s, log ++ [(site, x.1)]))

/-- Something else is left where a read at `site` fails. -/
def leaving (site : Site) (val : UInt8) (bytes : List UInt8) (t : Site → Transport σ) (x : Site) :
    Transport σ :=
  { t x with
    readReg := fun reg s =>
      let (y, s) := (t x).readReg reg s
      (if x = site ∧ y.1 < 0 then (y.1, val) else y, s)
    readFifo := fun len s =>
      let (y, s) := (t x).readFifo len s
      (if x = site ∧ y.1 < 0 then (y.1, bytes) else y, s) }

def noted (t : Transport σ) (c : ChipCall) (e : Ambient) (s : σ) : Outcome Int × (σ × SiteLog) :=
  c.runAt t.noting e (s, [])

structure Reported (t : Transport σ) (c : ChipCall) (e : Ambient) (s : σ) (site : Site) : Prop where
  ret : ∃ ret, (noted t c e s).1 = .ok ret ∧ ret < 0
  left : ∀ val bytes, c.runAt (leaving site val bytes t.noting) e (s, []) = noted t c e s

end

/-- Where the results of writes are dropped, and a read is not checked before its value is used. -/
def helperSites : List Site := [.timerControl, .primaryStatus, .received]

def transceiveSites : List Site := [.commandIdle, .interruptRq] ++ helperSites

def checkedSites : List Site :=
  [.timerClock, .fifoWrite, .command, .fifoLength, .fifoRead, .interruptEn, .errorFlag, .interrupts,
    .idle]

/-- A failure with `code` may go unnoticed. -/
def Swallows (op : Operation) (site : Site) (code : Int) : Prop :=
  match op with
  | .iso14443ab | .iso14443aSf | .iso14443aAcf => site ∈ transceiveSites
  | .iso15693Ac =>
    site ∈ transceiveSites ∨ site = .timerOrs ∨
      site ∈ checkedSites ∧ code ≠ -eTimedOut ∧ code ≠ - eIO
  | .mifareSetKey | .mifareAuth => site ∈ helperSites
  | .iso14443aSetSpeed => False

section Checks

variable {σ α β : Type} {K : Site × Int → Prop} {W : Int → Site × Int → Prop}

def Only (K : Site × Int → Prop) (s : σ × SiteLog) : Prop := ∀ e ∈ s.2, e.2 < 0 → K e

theorem Only.mono {K' : Site × Int → Prop} {s : σ × SiteLog} (h : Only K s) (hK : ∀ e, K e → K' e) :
    Only K' s := fun e he hneg => hK e (h e he hneg)

theorem Only.snoc {s u : σ} {log : SiteLog} {e : Site × Int} (h : Only K (s, log))
    (he : e.2 < 0 → K e) : Only K (u, log ++ [e]) := by
  intro e' he' hneg
  rcases List.mem_append.mp he' with hmem | hmem
  · exact h e' hmem hneg
  · rw [List.mem_singleton.mp hmem] at hneg ⊢
    exact he hneg

def Checks (K : Site × Int → Prop) (W : Int → Site × Int → Prop) (x : Exec (σ × SiteLog) α) : Prop :=
  Triple (Only K) x fun o s => match o with
    | .ok _ => Only K s
    | .fail code => code < 0 ∧ Only (W code) s
    | .hang => Only K s

def Tells (K : Site × Int → Prop) (W : Int → Site × Int → Prop) (ret : α → Int)
    (x : Exec (σ × SiteLog) α) : Prop :=
  Triple (Only K) x fun o s => match o with
    | .ok a => if ret a < 0 then Only (W (ret a)) s else Only K s
    | .fail _ => False
    | .hang => Only K s

/-- What is known of an access that fails: `K` of one that is not checked, `W` of the one with which
the code is left. -/
structure Accounts (K : Site × Int → Prop) (W : Int → Site × Int → Prop) : Prop where
  keep : ∀ code e, K e → W code e
  helper : ∀ site ∈ helperSites, ∀ ret, K (site, ret)
  checked : ∀ site ∈ checkedSites, ∀ ret, W ret (site, ret)
  ors : ∀ code ret, W code (.timerOrs, ret)
  timedOut : ∀ ret, W (-eTimedOut) (.timedOut, ret)

section Rules

variable {x : Exec (σ × SiteLog) α} {f : α → Exec (σ × SiteLog) β} {ret : α → Int} {ret' : β → Int}

theorem Checks.pure (a : α) : Checks K W (pure a : Exec (σ × SiteLog) α) := fun _ => id

theorem Checks.hang : Checks K W (hang : Exec (σ × SiteLog) α) := fun _ => id

theorem Checks.fail (hkeep : ∀ code e, K e → W code e) {code : Int} (h : code < 0) :
    Checks K W (fail code : Exec (σ × SiteLog) α) := fun _ hs => ⟨h, hs.mono (hkeep code)⟩

theorem Checks.bind (hx : Checks K W x) (hf : ∀ a, Checks K W (f a)) : Checks K W (x >>= f) :=
  Triple.bind hx hf (fun _ _ => id) fun _ => id

theorem Checks.ite {c : Prop} [Decidable c] {x y : Exec (σ × SiteLog) α} (hx : Checks K W x)
    (hy : Checks K W y) : Checks K W (if c then x else y) := Triple.ite (fun _ => hx) fun _ => hy

theorem Checks.when {c : Prop} [Decidable c] {x : Exec (σ × SiteLog) Unit} (hx : Checks K W x) :
    Checks K W (when c x) := .ite hx (.pure ())

theorem Tells.pure (hkeep : ∀ code e, K e → W code e) (a : α) :
    Tells K W ret (pure a : Exec (σ × SiteLog) α) := by
  intro s hs
  change if ret a < 0 then _ else _
  split_ifs
  · exact hs.mono (hkeep _)
  · exact hs

theorem Tells.ite {c : Prop} [Decidable c] {x y : Exec (σ × SiteLog) α} (hx : c → Tells K W ret x)
    (hy : ¬ c → Tells K W ret y) : Tells K W ret (if c then x else y) := Triple.ite hx hy

theorem Tells.check_bind {f : α → Unit → Exec (σ × SiteLog) β} (hx : Tells K W ret x)
    (hf : ∀ a, Checks K W (f a ())) : Checks K W (x >>= fun a => Exec.check (ret a) >>= f a) := by
  refine Triple.bind hx (fun a => .check_bind (fun hneg s hs => ?_) fun hnn s hs => ?_)
    (fun _ _ => False.elim) fun _ => id
  · exact ⟨hneg, by simpa only [if_pos hneg] using hs⟩
  · exact hf a s (by simpa only [if_neg (Int.not_lt.mpr hnn)] using hs)

theorem Tells.check {x : Exec (σ × SiteLog) Int} (hx : Tells K W id x) :
    Checks K W (x >>= fun ret => Exec.check ret) := by
  refine Triple.bind hx (fun ret s hs => ?_) (fun _ _ => False.elim) fun _ => id
  by_cases hneg : ret < 0
  · have hlog : Only (W ret) s := by simpa only [id, if_pos hneg] using hs
    rw [check_of_neg hneg]
    exact ⟨hneg, hlog⟩
  · have hlog : Only K s := by simpa only [id, if_neg hneg] using hs
    rw [check_of_nonneg (Int.not_lt.mp hneg)]
    exact hlog

theorem Tells.bind (hx : Tells K W ret x)
    (hneg : ∀ a, ret a < 0 → ∃ b, f a = Pure.pure b ∧ ret' b < 0 ∧ ∀ e, W (ret a) e → W (ret' b) e)
    (hf : ∀ a, ¬ ret a < 0 → Tells K W ret' (f a)) : Tells K W ret' (x >>= f) := by
  refine Triple.bind hx (fun a s hs => ?_) (fun _ _ => False.elim) fun _ => id
  by_cases h : ret a < 0
  · obtain ⟨b, hb, hret, hW⟩ := hneg a h
    simp only [if_pos h] at hs
    rw [hb]
    change if ret' b < 0 then _ else _
    rw [if_pos hret]
    exact hs.mono hW
  · simp only [if_neg h] at hs
    exact hf a h s hs

theorem Checks.attempt_bind {f : Except Int α → Exec (σ × SiteLog) β} (hx : Checks K W x)
    (hneg : ∀ code, code < 0 → ∃ b, f (.error code) = Pure.pure b ∧ ret' b < 0 ∧
      ∀ e, W code e → W (ret' b) e)
    (hf : ∀ a, Tells K W ret' (f (.ok a))) : Tells K W ret' (attempt x >>= f) := by
  intro s hs
  have hend := hx s hs
  rw [bind_run, attempt]
  rcases hr : x s with ⟨a | code | _, s'⟩ <;> rw [hr] at hend
  · exact hf a s' hend
  · obtain ⟨b, hb, hret, hW⟩ := hneg code hend.1
    simp only [hb]
    change if ret' b < 0 then _ else _
    rw [if_pos hret]
    exact hend.2.mono hW
  · exact hend

theorem Checks.retOf {x : Exec (σ × SiteLog) Unit} (hkeep : ∀ code e, K e → W code e)
    (hx : Checks K W x) : Tells K W id (retOf x) :=
  hx.attempt_bind (fun code hneg => ⟨code, rfl, hneg, fun _ => id⟩) fun _ => .pure hkeep 0

section Access

variable {t : Transport σ} {site : Site} {reg val : UInt8}

theorem tells_step (hkeep : ∀ code e, K e → W code e) (hW : ∀ code, W code (site, code))
    {g : σ × SiteLog → α × (σ × SiteLog)} (hg : ∀ s, (g s).2.2 = s.2 ++ [(site, ret (g s).1)]) :
    Tells K W ret (step g) := by
  intro s hs
  have hlog : (step g s).2.2 = s.2 ++ [(site, ret (g s).1)] := hg s
  change if ret (g s).1 < 0 then _ else _
  split_ifs with hneg
  · intro e he
    rw [hlog] at he
    exact (hs.mono (hkeep _)).snoc (u := s.1) (fun _ => hW _) e he
  · intro e he
    rw [hlog] at he
    exact hs.snoc (u := s.1) (fun h => absurd h hneg) e he

theorem checks_step (hK : ∀ code, K (site, code)) (ret : α → Int)
    {g : σ × SiteLog → α × (σ × SiteLog)} (hg : ∀ s, (g s).2.2 = s.2 ++ [(site, ret (g s).1)]) :
    Checks K W (step g) := by
  intro s hs e he
  have hlog : (step g s).2.2 = s.2 ++ [(site, ret (g s).1)] := hg s
  rw [hlog] at he
  exact hs.snoc (u := s.1) (fun _ => hK _) e he

theorem tells_regWrite (hkeep : ∀ code e, K e → W code e) (hW : ∀ code, W code (site, code)) :
    Tells K W id ((t.noting site).regWrite reg val) := tells_step hkeep hW fun _ => rfl

theorem tells_regRead (hkeep : ∀ code e, K e → W code e) (hW : ∀ code, W code (site, code)) :
    Tells K W Prod.fst ((t.noting site).regRead reg) := tells_step hkeep hW fun _ => rfl

theorem tells_fifoWrite (hkeep : ∀ code e, K e → W code e) (hW : ∀ code, W code (site, code))
    (bytes : List UInt8) (flags : UInt8) : Tells K W id ((t.noting site).fifoWrite bytes flags) :=
  tells_step hkeep hW fun _ => rfl

theorem tells_fifoRead (hkeep : ∀ code e, K e → W code e) (hW : ∀ code, W code (site, code))
    (len : UInt8) : Tells K W Prod.fst ((t.noting site).fifoRead len) :=
  tells_step hkeep hW fun _ => rfl

theorem checks_regWrite (hK : ∀ code, K (site, code)) :
    Checks K W ((t.noting site).regWrite reg val) := checks_step hK id fun _ => rfl

theorem checks_regRead (hK : ∀ code, K (site, code)) : Checks K W ((t.noting site).regRead reg) :=
  checks_step hK Prod.fst fun _ => rfl

theorem tells_regRead_dropped (hK : ∀ code, K (site, code)) :
    Tells K W (fun _ => 0) ((t.noting site).regRead reg) := by
  have hstep : Checks K W ((t.noting site).regRead reg) := checks_regRead hK
  exact fun s hs => hstep s hs

theorem checks_write (hkeep : ∀ code e, K e → W code e) (hW : ∀ code, W code (site, code)) :
    Checks K W ((t.noting site).write reg val) := (tells_regWrite hkeep hW).check

theorem checks_read (hkeep : ∀ code e, K e → W code e) (hW : ∀ code, W code (site, code)) :
    Checks K W ((t.noting site).read reg) := (tells_regRead hkeep hW).check_bind fun a => .pure a.2

theorem regWrite_only :
    Triple (Only K) ((t.noting site).regWrite reg val) fun o s => match o with
      | .ok ret => Only (fun e => K e ∨ e = (site, ret)) s
      | _ => False :=
  fun s hs => (hs.mono fun _ => .inl).snoc (u := (t.writeReg reg val s.1).2) fun _ => .inr rfl

end Access

end Rules

theorem lor_neg (a b : Int) : Int.lor a b < 0 ↔ a < 0 ∨ b < 0 := by
  cases a <;> cases b <;> simp [Int.lor, Int.negSucc_lt_zero]
  omega

section Helpers

variable {t : Transport σ}

theorem timerOrs_checks (h : Accounts K W) (bits reg val reg' val' : UInt8) :
    Checks K W (do
      let ret ← rc632ClearIrqs (t.noting .timerOrs).toBus bits
      let ret' ← (t.noting .timerOrs).regWrite reg val
      let ret'' ← (t.noting .timerOrs).regWrite reg' val'
      Exec.check (Int.lor (Int.lor ret ret') ret'')) := by
  refine Triple.bind regWrite_only (fun ret => ?_) (fun _ _ => False.elim) fun _ => False.elim
  refine Triple.bind regWrite_only (fun ret' => ?_) (fun _ _ => False.elim) fun _ => False.elim
  refine Triple.bind regWrite_only (fun ret'' => ?_) (fun _ _ => False.elim) fun _ => False.elim
  intro s hs
  by_cases hneg : Int.lor (Int.lor ret ret') ret'' < 0
  · rw [check_of_neg hneg]
    refine ⟨hneg, hs.mono ?_⟩
    rintro e (((he | rfl) | rfl) | rfl)
    · exact h.keep _ e he
    · exact h.ors _ _
    · exact h.ors _ _
    · exact h.ors _ _
  · rw [check_of_nonneg (Int.not_lt.mp hneg)]
    rw [lor_neg, lor_neg, not_or, not_or] at hneg
    intro e he hfailed
    rcases hs e he hfailed with ((hK | rfl) | rfl) | rfl
    · exact hK
    · exact absurd hfailed hneg.1.1
    · exact absurd hfailed hneg.1.2
    · exact absurd hfailed hneg.2

theorem timerSetAt_checks (h : Accounts K W) (undef : UInt8) (timeout : Nat) :
    Checks K W (rc632TimerSetAt t.noting undef timeout) := by
  have hclock := h.checked .timerClock (by decide)
  have hcontrol := h.helper .timerControl (by decide)
  exact .bind (checks_write h.keep hclock) fun _ => .bind (checks_regWrite hcontrol) fun _ =>
    timerOrs_checks h _ _ _ _ _

theorem waitIdlePollAt_checks (h : Accounts K W) : Checks K W (rc632WaitIdlePollAt t.noting) := by
  have hread : ∀ site ∈ checkedSites, ∀ reg, Checks K W ((t.noting site).read reg) :=
    fun site hsite reg => checks_read h.keep (h.checked site hsite)
  have htimedOut : Checks K W (do
      let _ ← rc632ClearIrqs (t.noting .timedOut).toBus irqTimer
      Exec.fail (-eTimedOut) : Exec (σ × SiteLog) Unit) := by
    refine Triple.bind regWrite_only (fun ret s hs => ⟨by decide, hs.mono ?_⟩)
      (fun _ _ => False.elim) fun _ => False.elim
    rintro e (he | rfl)
    · exact h.keep _ e he
    · exact h.timedOut ret
  refine .bind (checks_regRead (h.helper .primaryStatus (by decide))) fun x => ?_
  refine .bind (.when (.bind (hread .errorFlag (by decide) _) fun _ =>
    .when (.fail h.keep (by decide)))) fun _ => ?_
  refine .bind (.when (.bind (hread .interrupts (by decide) _) fun _ => .when htimedOut)) fun _ => ?_
  refine .bind (hread .idle (by decide) _) fun _ => .ite ?_ (.pure none)
  exact .bind (checks_regWrite (h.helper .received (by decide))) fun _ => .pure _

theorem waitIdleTimerAt_checks (h : Accounts K W) (fuel : Nat) :
    Checks K W (rc632WaitIdleTimerAt t.noting fuel) := by
  have hloop : Checks K W (rc632WaitIdleLoopAt t.noting fuel) := by
    induction fuel with
    | zero => exact .hang
    | succ fuel ih =>
      refine .bind (waitIdlePollAt_checks h) fun r => ?_
      cases r with
      | none => exact ih
      | some _ => exact .pure ()
  have hEn := h.checked .interruptEn (by decide)
  exact .bind (checks_read h.keep hEn) fun _ => .bind (checks_write h.keep hEn) fun _ => hloop

theorem transmitLoopAt_checks (h : Accounts K W) (tx : Mem UInt8) (txLen : UInt8) (fuel : Nat)
    (off cur : Int) : Checks K W (rc632TransmitLoopAt t.noting tx txLen fuel off cur) := by
  have hwrite := h.checked .command (by decide)
  have hread := h.checked .fifoLength (by decide)
  induction fuel generalizing off cur with
  | zero => exact .hang
  | succ fuel ih =>
    refine (tells_fifoWrite h.keep (h.checked .fifoWrite (by decide)) _ _).check_bind fun _ => ?_
    refine .bind (.when (checks_write h.keep hwrite)) fun _ => .ite ?_ (.pure ())
    exact .bind (checks_read h.keep hread) fun _ => .ite (.pure ()) (ih _ _)

theorem exchangeAt_checks (h : Accounts K W)
    (hK : ∀ site ∈ Site.debug :: transceiveSites, ∀ ret, K (site, ret))
    (undef : UInt8) (fuel : Nat) (tx : Mem UInt8) (txLen : UInt8) (timer : Nat) :
    Checks K W (rc632ExchangeAt t.noting undef fuel tx txLen timer) := by
  refine .bind (checks_regWrite (hK .commandIdle (by decide))) fun _ => ?_
  refine .bind (checks_regWrite (hK .interruptRq (by decide))) fun _ => ?_
  refine .bind (checks_regRead (hK .debug (by decide))) fun _ => ?_
  refine .bind (checks_regRead (hK .debug (by decide))) fun _ => ?_
  refine .bind (timerSetAt_checks h _ _) fun _ => .bind (transmitLoopAt_checks h _ _ _ _ _) fun _ => ?_
  exact .bind (waitIdleTimerAt_checks h _) fun _ =>
    checks_read h.keep (h.checked .fifoLength (by decide))

theorem transceiveAt_tells (h : Accounts K W)
    (hK : ∀ site ∈ Site.debug :: transceiveSites, ∀ ret, K (site, ret))
    (undef : UInt8) (fuel : Nat) (tx : Mem UInt8) (txLen rxLen : UInt8) (timer : Nat) :
    Tells K W Xfer.ret (rc632TransceiveAt t.noting undef fuel tx txLen rxLen timer) := by
  have hdebug : ∀ reg, Tells K W (fun _ => 0) ((t.noting .debug).regRead reg) :=
    fun _ => tells_regRead_dropped (hK .debug (by decide))
  have hzero : ∀ {p : Prop}, (0 : Int) < 0 → p := fun h => absurd h (Int.lt_irrefl 0)
  refine (exchangeAt_checks h hK undef fuel tx txLen timer).attempt_bind
    (fun code hneg => ⟨_, rfl, hneg, fun _ => id⟩) fun rxAvail => .ite (fun _ => ?_) fun _ => ?_
  · refine (hdebug _).bind (fun _ => hzero) fun _ _ => (hdebug _).bind (fun _ => hzero) fun _ _ => ?_
    exact (hdebug _).bind (fun _ => hzero) fun _ _ => .pure h.keep _
  · have hread := h.checked .fifoRead (by decide)
    exact (tells_fifoRead h.keep hread _).bind
      (fun _ hneg => ⟨_, rfl, hneg, fun _ => id⟩) fun _ _ => .pure h.keep _

end Helpers

def Known (op : Operation) (e : Site × Int) : Prop := e.1 = .debug ∨ Swallows op e.1 e.2

def Anything (_ : Int) (_ : Site × Int) : Prop := True

section Operations

variable {t : Transport σ} {op : Operation}

theorem keep_anything (code : Int) (e : Site × Int) (_ : K e) : Anything code e := trivial

theorem accounts_known (h : ∀ site ∈ helperSites, ∀ code, Swallows op site code) :
    Accounts (Known op) Anything where
  keep := keep_anything
  helper site hsite ret := .inr (h site hsite ret)
  checked _ _ _ := trivial
  ors _ _ := trivial
  timedOut _ := trivial

theorem ownWrite_checks (reg val : UInt8) : Checks K Anything ((t.noting .own).write reg val) :=
  checks_write keep_anything fun _ => trivial

theorem ownRead_checks (reg : UInt8) : Checks K Anything ((t.noting .own).read reg) :=
  checks_read keep_anything fun _ => trivial

theorem clearBits_tells (reg val : UInt8) :
    Tells K Anything id (rc632ClearBits (t.noting .own).toBus reg val) := by
  refine (tells_regRead keep_anything fun _ => trivial).bind
    (fun _ hneg => ⟨-1, if_pos hneg, by decide, fun _ _ => trivial⟩)
    fun ⟨ret, tmp⟩ hnn => ?_
  refine .ite (fun hneg => absurd hneg hnn) fun _ => .ite (fun _ => .pure keep_anything 0) fun _ => ?_
  exact tells_regWrite keep_anything fun _ => trivial

theorem setBitMask_tells (reg mask val : UInt8) :
    Tells K Anything id (rc632SetBitMask (t.noting .own).toBus reg mask val) := by
  refine (tells_regRead keep_anything fun _ => trivial).bind
    (fun x hneg => ⟨x.1, if_pos hneg, hneg, fun _ => id⟩) fun ⟨ret, tmp⟩ hnn => ?_
  refine .ite (fun hneg => absurd hneg hnn) fun _ => .ite (fun _ => .pure keep_anything 0) fun _ => ?_
  exact tells_regWrite keep_anything fun _ => trivial

variable (op) in
theorem transceiveAt_known (h : ∀ site ∈ transceiveSites, ∀ code, Swallows op site code)
    (undef : UInt8) (fuel : Nat) (tx : Mem UInt8) (txLen rxLen : UInt8) (timer : Nat) :
    Tells (Known op) Anything Xfer.ret
      (rc632TransceiveAt t.noting undef fuel tx txLen rxLen timer) := by
  have hhelper : ∀ site ∈ helperSites, ∀ code, Swallows op site code :=
    fun site hsite => h site (List.mem_append_right _ hsite)
  refine transceiveAt_tells (accounts_known hhelper) (fun site hsite code => ?_) _ _ _ _ _ _
  rcases List.mem_cons.mp hsite with rfl | hsite
  · exact .inl rfl
  · exact .inr (h site hsite code)

theorem ab_tells (undef : UInt8) (fuel : Nat) (frametype : RfidFrametype) (tx : Mem UInt8) (txLen : Nat)
    (rx : Mem UInt8) (rxLen timeout : Nat) :
    Tells (Known .iso14443ab) Anything AbResult.ret
      (rc632Iso14443abTransceive (asicAt t.noting undef fuel) frametype tx txLen rx rxLen timeout) := by
  unfold rc632Iso14443abTransceive
  cases channelRed frametype with
  | none => exact .pure keep_anything _
  | some red =>
    refine (ownWrite_checks _ _).attempt_bind (fun _ hneg => ⟨_, rfl, hneg, fun _ => id⟩) fun _ => ?_
    refine (transceiveAt_known .iso14443ab (fun _ h _ => h) undef fuel _ _ _ _).bind (fun x hneg => ?_) fun x _ =>
      .pure keep_anything _
    exact ⟨_, rfl, by rwa [if_pos hneg], fun _ _ => trivial⟩

theorem sf_tells (undef : UInt8) (fuel : Nat) (cmd : UInt8) (atqa : Mem UInt8) :
    Tells (Known .iso14443aSf) Anything SfResult.ret
      (rc632Iso14443aTransceiveSf (asicAt t.noting undef fuel) cmd atqa) := by
  have hprepare : Checks (Known .iso14443aSf) Anything
      (rc632Iso14443aPrepareSf (asicAt t.noting undef fuel)) :=
    .bind (ownWrite_checks _ _) fun _ => (clearBits_tells _ _).check_bind fun _ =>
      (clearBits_tells _ _).check
  have hfinish : Checks (Known .iso14443aSf) Anything
      (rc632Iso14443aFinishSf (asicAt t.noting undef fuel)) :=
    .bind (ownWrite_checks _ _) fun _ => .bind (ownRead_checks _) fun _ =>
      .when (.bind (ownRead_checks _) fun _ => .pure ())
  refine hprepare.attempt_bind (fun _ hneg => ⟨_, rfl, hneg, fun _ => id⟩) fun _ => ?_
  refine (transceiveAt_known .iso14443aSf (fun _ h _ => h) undef fuel _ _ _ _).bind
    (fun x hneg => ⟨_, if_pos hneg, hneg, fun _ => id⟩) fun x hnn => ?_
  refine .ite (fun hneg => absurd hneg hnn) fun _ => ?_
  exact hfinish.attempt_bind (fun _ hneg => ⟨_, rfl, hneg, fun _ => id⟩) fun _ =>
    .ite (fun _ => .pure keep_anything _) fun _ => .pure keep_anything _

theorem acf_tells (undef : UInt8) (fuel : Nat) (acf : Mem UInt8) :
    Tells (Known .iso14443aAcf) Anything AcfResult.ret
      (rc632Iso14443aTransceiveAcf (asicAt t.noting undef fuel) acf) := by
  have hprepare : Checks (Known .iso14443aAcf) Anything
      (rc632Iso14443aPrepareAcf (asicAt t.noting undef fuel) acf) :=
    (clearBits_tells _ _).check_bind fun _ => (clearBits_tells _ _).check_bind fun _ =>
      ownWrite_checks _ _
  have hboc : Checks (Known .iso14443aAcf) Anything
      (rc632Iso14443aBitOfCol (asicAt t.noting undef fuel)) :=
    .bind (ownRead_checks _) fun _ => .ite (.bind (ownRead_checks _) fun _ => .pure _) (.pure _)
  refine hprepare.attempt_bind (fun _ hneg => ⟨_, rfl, hneg, fun _ => id⟩) fun _ => ?_
  refine (transceiveAt_known .iso14443aAcf (fun _ h _ => h) undef fuel _ _ _ _).bind
    (fun x hneg => ⟨_, if_pos hneg, hneg, fun _ => id⟩) fun x hnn => ?_
  refine .ite (fun hneg => absurd hneg hnn) fun _ => ?_
  exact hboc.attempt_bind (fun _ hneg => ⟨_, rfl, hneg, fun _ => id⟩) fun _ => .pure keep_anything _

theorem setKey_checks (undef : UInt8) (fuel : Nat) (key : Mem UInt8) :
    Checks (Known .mifareSetKey) Anything (rc632MifareSetKey (mifareAt t.noting undef fuel) key) := by
  have h : Accounts (Known .mifareSetKey) Anything := accounts_known fun _ h _ => h
  refine .bind (ownWrite_checks _ _) fun _ => ?_
  refine (tells_fifoWrite keep_anything (fun _ => trivial) _ _).check_bind fun _ => ?_
  refine .bind (ownWrite_checks _ _) fun _ => .bind (timerSetAt_checks h _ _) fun _ => ?_
  refine .bind (waitIdleTimerAt_checks h _) fun _ => .bind (ownRead_checks _) fun _ => ?_
  exact .when (.fail keep_anything (by decide))

theorem auth_checks (undef : UInt8) (fuel : Nat) (cmd : UInt8) (serno : UInt32) (block : UInt8) :
    Checks (Known .mifareAuth) Anything
      (rc632MifareAuth (mifareAt t.noting undef fuel) cmd serno block) := by
  have h : Accounts (Known .mifareAuth) Anything := accounts_known fun _ h _ => h
  refine .ite (.fail keep_anything (by decide)) ?_
  refine (clearBits_tells _ _).check_bind fun _ => ?_
  refine (tells_fifoWrite keep_anything (fun _ => trivial) _ _).check_bind fun _ => ?_
  refine .bind (ownWrite_checks _ _) fun _ => .bind (timerSetAt_checks h _ _) fun _ => ?_
  refine .bind (waitIdleTimerAt_checks h _) fun _ => .bind (ownRead_checks _) fun _ => ?_
  refine .bind (.when (.fail keep_anything (by decide))) fun _ => ?_
  refine (clearBits_tells _ _).check_bind fun _ => .bind (timerSetAt_checks h _ _) fun _ => ?_
  refine .bind (ownWrite_checks _ _) fun _ => .bind (waitIdleTimerAt_checks h _) fun _ => ?_
  exact .bind (ownRead_checks _) fun _ => .when (.fail keep_anything (by decide))

theorem setSpeed_checks (undef : UInt8) (fuel : Nat) (rxPast : RxConfig) (txPast : TxConfig) (tx : Bool)
    (rate : Nat) :
    Checks (Known .iso14443aSetSpeed) Anything
      (rc632Iso14443aSetSpeed (asicAt t.noting undef fuel).toBus rxPast txPast tx rate) := by
  have hfail : Checks (Known .iso14443aSetSpeed) Anything (fail (-eInval) : Exec (σ × SiteLog) Unit) :=
    .fail keep_anything (by decide)
  refine .ite (.ite hfail ?_) (.ite hfail ?_)
  · refine (setBitMask_tells _ _ _).check_bind fun _ => (setBitMask_tells _ _ _).check_bind fun _ => ?_
    exact .bind (ownWrite_checks _ _) fun _ => .when (ownWrite_checks _ _)
  · exact (setBitMask_tells _ _ _).check_bind fun _ => ownWrite_checks _ _

def Blame (code : Int) (e : Site × Int) : Prop :=
  Known .iso15693Ac e ∨ e.1 = .timedOut ∧ code = -eTimedOut ∨ e.1 ∈ checkedSites ∧ e.2 = code

theorem accounts_blame : Accounts (Known .iso15693Ac) Blame where
  keep _ _ := .inl
  helper _ hsite _ := .inr (.inl (List.mem_append_right _ hsite))
  checked _ hsite _ := .inr (.inr ⟨hsite, rfl⟩)
  ors _ _ := .inl (.inr (.inr (.inl rfl)))
  timedOut _ := .inr (.inl ⟨rfl, rfl⟩)

theorem known_of_blame {code : Int} (hcode : ¬ (code = -eTimedOut ∨ code = - eIO)) (e : Site × Int)
    (h : Blame code e) : Known .iso15693Ac e := by
  rcases h with h | ⟨-, h⟩ | ⟨hsite, rfl⟩
  · exact h
  · exact absurd (.inl h) hcode
  · exact .inr (.inr (.inr ⟨hsite, not_or.mp hcode⟩))

theorem ac_tells (undef : UInt8) (fuel : Nat) (acf : Mem UInt8) (acfLen rxLen : Nat)
    (bitOfCol : UInt8) :
    Tells (Known .iso15693Ac) Anything AcResult.ret
      (rc632Iso15693TransceiveAc (asicAt t.noting undef fuel) acf acfLen rxLen bitOfCol) := by
  have hK : ∀ site ∈ Site.debug :: transceiveSites, ∀ code, Known .iso15693Ac (site, code) := by
    intro site hsite code
    rcases List.mem_cons.mp hsite with rfl | hsite
    · exact .inl rfl
    · exact .inr (.inl hsite)
  have hread : ∀ reg, Checks (Known .iso15693Ac) Anything
      ((asicAt t.noting undef fuel).toBus.read reg) := ownRead_checks
  unfold rc632Iso15693TransceiveAc
  refine Triple.bind (transceiveAt_tells accounts_blame hK undef fuel _ _ _ _) (fun x => ?_)
    (fun _ _ => False.elim) fun _ => id
  dsimp only
  by_cases hcode : x.ret = -eTimedOut ∨ x.ret = - eIO
  · have hneg : x.ret < 0 := by
      rcases hcode with h | h <;> rw [h] <;> decide
    rw [if_pos hcode]
    intro s _
    change if x.ret < 0 then _ else _
    rw [if_pos hneg]
    exact fun _ _ _ => trivial
  rw [if_neg hcode]
  -- any other code is as good as none
  refine Triple.pre (P := Only (Known .iso15693Ac)) ?_ fun s hs => ?_
  · refine (hread _).attempt_bind (fun _ hneg => ⟨_, rfl, hneg, fun _ => id⟩) fun errorFlag => ?_
    refine .ite (fun _ => ?_) fun _ => .ite (fun _ => .pure keep_anything _) fun _ =>
      .pure keep_anything _
    exact (hread _).attempt_bind (fun _ hneg => ⟨_, rfl, hneg, fun _ => id⟩) fun _ =>
      .pure keep_anything _
  · split_ifs at hs
    · exact hs.mono (known_of_blame hcode)
    · exact hs

theorem run_tells (c : ChipCall) (e : Ambient) :
    Tells (Known c.operation) Anything id (c.runAt t.noting e) := by
  have hneg : ∀ ret : Int, ret < 0 → ∃ b, (pure ret : Exec (σ × SiteLog) Int) = pure b ∧ id b < 0 ∧
      ∀ e, Anything ret e → Anything (id b) e := fun ret h => ⟨ret, rfl, h, fun _ => id⟩
  cases c with
  | ab frametype tx txLen rx rxLen timeout =>
    exact (ab_tells _ _ _ _ _ _ _ _).bind (fun x => hneg x.ret) fun _ _ => .pure keep_anything _
  | sf cmd atqa =>
    exact (sf_tells _ _ _ _).bind (fun x => hneg x.ret) fun _ _ => .pure keep_anything _
  | acf cmd => exact (acf_tells _ _ _).bind (fun x => hneg x.ret) fun _ _ => .pure keep_anything _
  | ac cmd acfLen rxLen bitOfCol =>
    exact (ac_tells _ _ _ _ _ _).bind (fun x => hneg x.ret) fun _ _ => .pure keep_anything _
  | setKey key => exact (setKey_checks _ _ _).retOf keep_anything
  | auth cmd serno block => exact (auth_checks _ _ _ _ _).retOf keep_anything
  | setSpeed tx rate => exact (setSpeed_checks _ _ _ _ _ _).retOf keep_anything

theorem negative_of_failed {c : ChipCall} {e : Ambient} {s : σ} {site : Site} {code : Int}
    (hfailed : (site, code) ∈ (noted t c e s).2.2) (hneg : code < 0) (hdebug : site ≠ .debug)
    (hswallows : ¬ Swallows c.operation site code) : ∃ ret, (noted t c e s).1 = .ok ret ∧ ret < 0 := by
  have htells := run_tells c e (t := t) (s, []) fun _ he => absurd he List.not_mem_nil
  have hunknown : ¬ Only (Known c.operation) (noted t c e s).2 := fun honly =>
    (honly _ hfailed hneg).elim hdebug hswallows
  unfold noted at hunknown ⊢
  cases ho : (c.runAt t.noting e (s, [])).1 with
  | ok ret =>
    simp only [ho, id] at htells
    by_cases hret : ret < 0
    · exact ⟨ret, rfl, hret⟩
    · rw [if_neg hret] at htells
      exact absurd htells hunknown
  | fail code =>
    simp only [ho] at htells
  | hang =>
    simp only [ho] at htells
    exact absurd htells hunknown

end Operations

end Checks

end Librfid.Rc632
