import Librfid.Rc632.Rate
import Librfid.Tcl.FrameSize

namespace Librfid.Tcl

open Exec Layer2 Rc632

def iso14443aLayer2 {σ : Type} (r : Reader σ) (ah : AsicHandle) : TclLayer2 σ where
  id := .iso14443a
  transceive call rx rxLen := do
    let x ← r.transceive call.frametype (Mem.ofList (fun _ => 0) call.tx) call.tx.length rx rxLen
      call.timeout
    pure ⟨x.ret, x.rxLen, x.rx⟩
  setSpeed := r.setSpeed
  iso14443b _ := blankHandleB
  speed := r.speed
  ah := ah

def DrAnnounced (ta : UInt8) (di : Nat) : Prop := di ≠ 0 ∧ Bits.bit ta (di - 1)

def DsAnnounced (ta : UInt8) (di : Nat) : Prop := di ≠ 0 ∧ Bits.bit ta (di + 3)

instance (ta : UInt8) (di : Nat) : Decidable (DrAnnounced ta di) := inferInstanceAs (Decidable (_ ∧ _))

instance (ta : UInt8) (di : Nat) : Decidable (DsAnnounced ta di) := inferInstanceAs (Decidable (_ ∧ _))

def Supported (speed di : Nat) : Prop := speed.testBit di

instance (speed di : Nat) : Decidable (Supported speed di) := inferInstanceAs (Decidable (_ = _))

def dri (pps1 : UInt8) : Nat := (pps1 &&& 0x03).toNat

def dsi (pps1 : UInt8) : Nat := (pps1 >>> 2 &&& 0x03).toNat

/-- What a PPS request and the reader's two registers have to be like. -/
structure PpsAgrees (ta : UInt8) (speed : Nat) (pps1 rxControl1 coderControl : UInt8) : Prop where
  dr : dri pps1 = 0 ∨ DrAnnounced ta (dri pps1) ∧ Supported speed (dri pps1)
  ds : dsi pps1 = 0 ∨ DsAnnounced ta (dsi pps1) ∧ Supported speed (dsi pps1)
  same : Bits.bit ta 7 → dri pps1 = dsi pps1
  txRate : TxAt coderControl (dri pps1)
  rxRate : RxAt rxControl1 (dsi pps1)

/-- The highest rate the card announces for DR and the reader can do, if any, is announced for DS. -/
def HighestCommon (ta : UInt8) (speed : Nat) : Prop :=
  ∀ di ≤ 3, DrAnnounced ta di → Supported speed di →
    (∀ di' ≤ 3, di < di' → ¬ (DrAnnounced ta di' ∧ Supported speed di')) → DsAnnounced ta di

section Divisor

theorem natAnd_two_pow_ne_zero (speed di : Nat) : speed &&& 2 ^ di ≠ 0 ↔ Supported speed di := by
  rw [Supported, Nat.and_two_pow]
  cases speed.testBit di <;> simp

def Offered (ta : UInt8) (speed di : Nat) : Prop := DrAnnounced ta di ∧ Supported speed di

instance (ta : UInt8) (speed di : Nat) : Decidable (Offered ta speed di) :=
  inferInstanceAs (Decidable (_ ∧ _))

theorem offered_iff (ta : UInt8) (speed : Nat) {i : Nat} (hi : i < 3) :
    ppsDr ta &&& UInt8.ofNat (2 ^ i) ≠ 0 ∧ speed &&& 2 ^ (i + 1) ≠ 0 ↔ Offered ta speed (i + 1) := by
  have hmask : Bits.bit 0x07 i := by
    match i, hi with
    | 0, _ => decide
    | 1, _ => decide
    | 2, _ => decide
  rw [natAnd_two_pow_ne_zero, Bits.and_two_pow_ne_zero _ (by omega), ppsDr, Bits.bit_and, hmask,
    Bool.and_true, Offered, DrAnnounced, Nat.add_sub_cancel]
  simp

theorem dToDi_eq (ta : UInt8) (speed : Nat) :
    dToDi speed (ppsDr ta) = if Offered ta speed 3 then 3 else if Offered ta speed 2 then 2
      else if Offered ta speed 1 then 1 else 0 := by
  simp only [← offered_iff ta speed (show 2 < 3 by decide),
    ← offered_iff ta speed (show 1 < 3 by decide), ← offered_iff ta speed (show 0 < 3 by decide)]
  rfl

theorem dToDi_highest (ta : UInt8) (speed : Nat) :
    (dToDi speed (ppsDr ta) = 0 ∧ ∀ di ≤ 3, ¬ Offered ta speed di) ∨
      (dToDi speed (ppsDr ta)).toNat ≤ 3 ∧ Offered ta speed (dToDi speed (ppsDr ta)).toNat ∧
        ∀ di ≤ 3, (dToDi speed (ppsDr ta)).toNat < di → ¬ Offered ta speed di := by
  have h0 : ¬ Offered ta speed 0 := fun h => h.1.1 rfl
  rw [dToDi_eq]
  split_ifs with h3 h2 h1
  · exact .inr ⟨by decide, h3, fun di hle hlt => absurd hlt (Nat.not_lt.mpr hle)⟩
  · refine .inr ⟨by decide, h2, fun di hle hlt => ?_⟩
    have : di = 3 := Nat.le_antisymm hle hlt
    exact this ▸ h3
  · refine .inr ⟨by decide, h1, fun di hle hlt => ?_⟩
    have : di = 2 ∨ di = 3 := by
      change 1 < di at hlt
      omega
    rcases this with rfl | rfl
    · exact h2
    · exact h3
  · refine .inl ⟨rfl, fun di hle => ?_⟩
    have : di = 0 ∨ di = 1 ∨ di = 2 ∨ di = 3 := by omega
    rcases this with rfl | rfl | rfl | rfl
    · exact h0
    · exact h1
    · exact h2
    · exact h3

theorem dToDi_le (ta : UInt8) (speed : Nat) : (dToDi speed (ppsDr ta)).toNat ≤ 3 := by
  rcases dToDi_highest ta speed with h | h
  · rw [h.1]
    decide
  · exact h.1

theorem di_cases {di : UInt8} (h : di.toNat ≤ 3) : di = 0 ∨ di = 1 ∨ di = 2 ∨ di = 3 := by
  simp only [← UInt8.toNat_inj]
  change di.toNat = 0 ∨ di.toNat = 1 ∨ di.toNat = 2 ∨ di.toNat = 3
  omega

def ppsByte (di : UInt8) : UInt8 := di ||| di <<< 2

theorem ppsByte_fields {di : UInt8} (h : di.toNat ≤ 3) :
    dri (ppsByte di) = di.toNat ∧ dsi (ppsByte di) = di.toNat := by
  rcases di_cases h with rfl | rfl | rfl | rfl <;> decide

theorem ppsCall_tx (speed : Nat) (th : TclHandle) :
    (ppsCall speed th).tx = [ppss th, 0x11, ppsByte (dToDi speed (ppsDr th.ta))] := by
  rw [ppsCall, ppsDs_eq_ppsDr, ppsByte]

/-- What is proposed always agrees with DR, the same-D bit and the registers. -/
theorem ppsAgrees_iff {ta : UInt8} {speed : Nat} {rxControl1 coderControl : UInt8}
    (hrx : RxAt rxControl1 (dToDi speed (ppsDr ta)).toNat)
    (htx : TxAt coderControl (dToDi speed (ppsDr ta)).toNat) :
    PpsAgrees ta speed (ppsByte (dToDi speed (ppsDr ta))) rxControl1 coderControl ↔
      HighestCommon ta speed := by
  obtain ⟨hdri, hdsi⟩ := ppsByte_fields (dToDi_le ta speed)
  have hrest : (dToDi speed (ppsDr ta)).toNat = 0 ∨
        Offered ta speed (dToDi speed (ppsDr ta)).toNat :=
    (dToDi_highest ta speed).imp (fun h => by rw [h.1]; rfl) fun h => h.2.1
  constructor
  · intro h di hle hdr hsup hmax
    rcases dToDi_highest ta speed with ⟨-, hnone⟩ | ⟨hdi, hoff, hhigh⟩
    · exact absurd ⟨hdr, hsup⟩ (hnone di hle)
    · have hsame : (dToDi speed (ppsDr ta)).toNat = di := by
        refine Nat.le_antisymm (Nat.not_lt.mp fun hlt => hmax _ hdi hlt hoff) ?_
        exact Nat.not_lt.mp fun hlt => hhigh di hle hlt ⟨hdr, hsup⟩
      have hds := h.ds
      rw [hdsi, hsame] at hds
      exact (hds.resolve_left hdr.1).1
  · intro h
    refine ⟨hdri.symm ▸ hrest, ?_, fun _ => hdri.trans hdsi.symm, hdri.symm ▸ htx, hdsi.symm ▸ hrx⟩
    rw [hdsi]
    rcases dToDi_highest ta speed with ⟨h0, -⟩ | ⟨hdi, hoff, hhigh⟩
    · exact .inl (by rw [h0]; rfl)
    · exact .inr ⟨h _ hdi hoff.1 hoff.2 hhigh, hoff.2⟩

end Divisor

section Ats

theorem setFsc_ta (ah : AsicHandle) (past : Nat) (fsdi : UInt8) (th : TclHandle) :
    (setFsc ah past fsdi th).ats = th.ats ∧ (setFsc ah past fsdi th).ta = th.ta := by
  unfold setFsc
  cases iso14443FsdiToFsd past fsdi.toNat <;> dsimp only <;> split_ifs <;> exact ⟨rfl, rfl⟩

theorem atsBytes_ta (ah : AsicHandle) (t0 : UInt8) (ats : Mem UInt8) (th : TclHandle) :
    let p := atsTb ah t0 ats (atsTa t0 ats th 2).1 (atsTa t0 ats th 2).2
    (atsTc t0 ats p.1 p.2).1.ats = th.ats ∧
      ((atsTc t0 ats p.1 p.2).1.ta = ats 2 ∨ (atsTc t0 ats p.1 p.2).1.ta = th.ta) := by
  unfold atsTc atsTb atsTa
  dsimp only
  split_ifs <;> first | exact ⟨rfl, .inl rfl⟩ | exact ⟨rfl, .inr rfl⟩

theorem tclParseAts_ta (id : Layer2Id) (ah : AsicHandle) (past : Nat) (th : TclHandle)
    (ats : Mem UInt8) (size : Nat) (h0 : ¬ ((ats 0).toNat = 0 ∨ size = 0)) :
    (tclParseAts id ah past th ats size).2.ats = th.ats ∧
      ((tclParseAts id ah past th ats size).2.ta &&& 0x77 ≠ 0 →
        (tclParseAts id ah past th ats size).2.ta = ats 2) := by
  have hbytes : ∀ th' : TclHandle, th'.ats = th.ats → th'.ta = 0 →
      let q := setFsc ah past (ats 1 &&& 0x0f) th'
      let p := atsTb ah (ats 1) ats (atsTa (ats 1) ats q 2).1 (atsTa (ats 1) ats q 2).2
      (atsTc (ats 1) ats p.1 p.2).1.ats = th.ats ∧ ((atsTc (ats 1) ats p.1 p.2).1.ta &&& 0x77 ≠ 0 →
        (atsTc (ats 1) ats p.1 p.2).1.ta = ats 2) := by
    intro th' hats hta q p
    obtain ⟨hqats, hqta⟩ := setFsc_ta ah past (ats 1 &&& 0x0f) th'
    obtain ⟨hpats, hpta⟩ := atsBytes_ta ah (ats 1) ats q
    refine ⟨hpats.trans (hqats.trans hats), fun hne => hpta.resolve_right fun h => hne ?_⟩
    rw [h, hqta, hta, UInt8.zero_and]
  have h80 : ¬ (0x80 : UInt8) &&& 0x77 ≠ 0 := by decide
  unfold tclParseAts
  dsimp only
  rw [if_neg h0]
  generalize (if size < (ats 0).toNat then size else (ats 0).toNat) = len
  by_cases h1 : len = 1
  · rw [if_pos h1, atsDefaults]
    dsimp only
    split_ifs <;> exact ⟨rfl, fun h => absurd h h80⟩
  · rw [if_neg h1]
    exact hbytes _ rfl rfl

variable {σ : Type} {l2 : TclLayer2 σ} {past : Nat}

theorem tclRequestAts_ok {th th' : TclHandle} {s s' : σ}
    (h : tclRequestAts l2 past (s, th) = (.ok (), (s', th'))) :
    ∃ fsdi r, l2.transceive (ratsCall l2.ah th fsdi) th.ats th.atsLen s = (.ok r, s') ∧
      ¬ ((r.data 0).toNat = 0 ∨ r.frameLen = 0) ∧
      th' = (tclParseAts l2.id l2.ah past
        { th with ats := r.data, atsLen := r.frameLen, state := .atsRcvd } r.data r.frameLen).2 := by
  rw [tclRequestAts, bind_ok (show Exec.get (s, th) = (.ok th, (s, th)) from rfl)] at h
  obtain ⟨-, h⟩ := of_guard_ok h fun _ _ _ hs => by cases hs
  cases hfsdi : iso14443FsdToFsdi th.fsd with
  | none => rw [hfsdi] at h; cases h
  | some fsdi =>
    rw [hfsdi] at h
    obtain ⟨r, _, hlift, h⟩ := of_bind_ok h
    obtain ⟨s₁, hr, rfl⟩ := of_lift_ok hlift
    change (when (r.ret < 0) (setTcl (fun th => { th with state := .ratsSent }) >>= fun _ =>
      fail r.ret) >>= _) (s₁, { th with ats := r.data, atsLen := r.frameLen }) = _ at h
    obtain ⟨hneg, h⟩ := of_guard_ok h fun s u s' hs => by cases hs
    obtain ⟨hret, hs⟩ := of_check_ok h
    rw [tclParseAts_ret] at hret
    cases hs
    refine ⟨fsdi, r, hr, fun h0 => absurd hret ?_, rfl⟩
    rw [if_pos h0]
    decide

theorem tclDoPps_ok {stack : Mem UInt8} {th th' : TclHandle} {s s' : σ}
    (h : tclDoPps l2 stack (s, th) = (.ok (), (s', th'))) :
    th' = th ∧ ∃ r s₁ s₂, l2.transceive (ppsCall l2.speed th) stack 1 s = (.ok r, s₁) ∧
      l2.setSpeed false (diToSpeed (dToDi l2.speed (ppsDr th.ta))) s₁ = (.ok (), s₂) ∧
      l2.setSpeed true (diToSpeed (dToDi l2.speed (ppsDr th.ta))) s₂ = (.ok (), s') := by
  rw [tclDoPps, bind_ok (show Exec.get (s, th) = (.ok th, (s, th)) from rfl)] at h
  obtain ⟨-, h⟩ := of_guard_ok h fun _ _ _ hs => by cases hs
  obtain ⟨-, h⟩ := of_guard_ok h fun _ _ _ hs => by cases hs
  obtain ⟨r, _, hlift, h⟩ := of_bind_ok h
  obtain ⟨s₁, hr, rfl⟩ := of_lift_ok hlift
  obtain ⟨_, _, hcheck, h⟩ := of_bind_ok h
  obtain ⟨-, rfl⟩ := of_check_ok hcheck
  obtain ⟨-, h⟩ := of_guard_ok h fun _ _ _ hs => by cases hs
  obtain ⟨_, _, hlift', h⟩ := of_bind_ok h
  obtain ⟨s₂, hrx, rfl⟩ := of_lift_ok hlift'
  obtain ⟨s₃, htx, hs⟩ := of_lift_ok h
  cases hs
  exact ⟨rfl, r, s₁, s₂, hr, hrx, htx⟩

theorem tclConnect_typeA_ok {stack : Mem UInt8} {th th' : TclHandle} {s s' : σ}
    (hid : l2.id = .iso14443a) (h : tclConnect l2 past stack (s, th) = (.ok (), (s', th'))) :
    ∃ s₁ th₁, tclRequestAts l2 past (s, th) = (.ok (), (s₁, th₁)) ∧
      when (th₁.ta &&& 0x77 ≠ 0) (tclDoPps l2 stack) (s₁, th₁) = (.ok (), (s', th₁)) ∧
      th' = { th₁ with state := .established } := by
  rw [tclConnect, bind_ok (show Exec.get (s, th) = (.ok th, (s, th)) from rfl)] at h
  obtain ⟨-, h⟩ := of_guard_ok h fun _ _ _ hs => by cases hs
  obtain ⟨_, ⟨s₂, th₂⟩, hact, h⟩ := of_bind_ok h
  rw [tclActivate, hid] at hact
  obtain ⟨_, ⟨s₁, th₁⟩, hrats, hact⟩ := of_bind_ok hact
  cases h
  refine ⟨s₁, th₁, hrats, ?_⟩
  change when (th₁.ta &&& 0x77 ≠ 0) (tclDoPps l2 stack) (s₁, th₁) = _ at hact
  by_cases hta : th₁.ta &&& 0x77 ≠ 0
  · rw [when_of hta] at hact ⊢
    obtain ⟨rfl, -⟩ := tclDoPps_ok hact
    exact ⟨hact, rfl⟩
  · rw [when_of_not hta] at hact ⊢
    cases hact
    exact ⟨rfl, rfl⟩

theorem logging_transceive {call : L2Call} {rx : Mem UInt8} {n : Nat} {s : σ} {log : List L2Call}
    {r : L2Reply} {s' : σ × List L2Call}
    (h : l2.logging.transceive call rx n (s, log) = (.ok r, s')) : s'.2 = log ++ [call] :=
  (congrArg (fun p => p.2.2) h).symm

end Ats

section Connect

variable {σ : Type} {r : Reader σ} {t : Transport σ} {rxControl1 coderControl : σ → UInt8}
  {rxPast : RxConfig} {txPast : TxConfig}

theorem setSpeed_both (hrx : Register t regRxControl1 rxControl1)
    (hcoder : Register t regCoderControl coderControl) {di : UInt8} (hdi : di.toNat ≤ 3)
    {s s₁ s' : σ}
    (hok : rdrRc63214443aSetSpeed t.toBus rxPast txPast false (diToSpeed di) s = (.ok (), s₁))
    (hok' : rdrRc63214443aSetSpeed t.toBus rxPast txPast true (diToSpeed di) s₁ = (.ok (), s')) :
    RxAt (rxControl1 s') di.toNat ∧ TxAt (coderControl s') di.toNat := by
  have hdriver : ∀ tx, rdrRc63214443aSetSpeed t.toBus rxPast txPast tx (diToSpeed di) =
      rc632Iso14443aSetSpeed t.toBus rxPast txPast tx di.toNat := by
    intro tx
    rcases di_cases hdi with rfl | rfl | rfl | rfl <;> rfl
  rw [hdriver] at hok hok'
  have hlt : di.toNat < 4 := Nat.lt_succ_of_le hdi
  constructor
  · have hset := setSpeedRx_spec (I := fun _ => True) rxPast txPast hrx hlt (fun _ _ => trivial) s
      trivial
    rw [hok] at hset
    have hkeep := setSpeedTx_keeps (I := fun v => RxAt v di.toNat) rxPast txPast hrx di.toNat s₁
      (hset.2 () rfl)
    rwa [hok'] at hkeep
  · have hset := setSpeedTx_spec (I := fun _ => True) rxPast txPast hcoder hlt (fun _ _ => trivial)
      s₁ trivial
    rw [hok'] at hset
    exact hset.2 () rfl

/-- A connection of Type A that was made with a PPS, whatever the ATS and the rates of the reader. -/
theorem pps_agrees_iff (hrx : Register t regRxControl1 rxControl1)
    (hcoder : Register t regCoderControl coderControl)
    (hset : r.setSpeed = rdrRc63214443aSetSpeed t.toBus rxPast txPast)
    {ah : AsicHandle} {past : Nat} {stack : Mem UInt8} {s s' : σ} {th th' : TclHandle}
    {log : List L2Call} {pps0 pps1 : UInt8}
    (hrun : tclConnect (iso14443aLayer2 r ah).logging past stack ((s, []), th) =
      (.ok (), ((s', log), th')))
    (hsent : [pps0, 0x11, pps1] ∈ log.map L2Call.tx) :
    PpsAgrees (th'.ats 2) r.speed pps1 (rxControl1 s') (coderControl s') ↔
      HighestCommon (th'.ats 2) r.speed := by
  obtain ⟨⟨s₁, log₁⟩, th₁, hrats, hpps, rfl⟩ := tclConnect_typeA_ok rfl hrun
  obtain ⟨fsdi, reply, hreply, h0, hth₁⟩ := tclRequestAts_ok hrats
  obtain rfl : log₁ = _ := logging_transceive hreply
  obtain ⟨hats, hta⟩ := tclParseAts_ta .iso14443a ah past
    { th with ats := reply.data, atsLen := reply.frameLen, state := .atsRcvd } reply.data
    reply.frameLen h0
  change th₁ = (tclParseAts .iso14443a ah past _ _ _).2 at hth₁
  rw [← hth₁] at hats hta
  by_cases hneed : th₁.ta &&& 0x77 ≠ 0
  · rw [when_of hneed] at hpps
    obtain ⟨-, reply', ⟨s₂, log₂⟩, ⟨s₃, log₃⟩, hpps, hspeed, hspeed'⟩ := tclDoPps_ok hpps
    obtain rfl : log₂ = _ := logging_transceive hpps
    obtain ⟨s₃', hrx', heq⟩ := of_lift_ok hspeed
    obtain ⟨s₄', htx', heq'⟩ := of_lift_ok hspeed'
    cases heq
    cases heq'
    have hdi : th₁.ta = th₁.ats 2 := (hta hneed).trans (congrFun hats 2).symm
    have htx : [pps0, 0x11, pps1] =
        (ppsCall (iso14443aLayer2 r ah).logging.speed th₁).tx := by simpa [ratsCall] using hsent
    rw [ppsCall_tx, hdi] at htx
    simp only [List.cons.injEq] at htx
    obtain ⟨-, -, rfl, -⟩ := htx
    change r.setSpeed false (diToSpeed (dToDi r.speed (ppsDr th₁.ta))) s₂ = (.ok (), s₃) at hrx'
    change r.setSpeed true (diToSpeed (dToDi r.speed (ppsDr th₁.ta))) s₃ = (.ok (), s') at htx'
    rw [hset, hdi] at hrx' htx'
    obtain ⟨hrxAt, htxAt⟩ := setSpeed_both hrx hcoder (dToDi_le (th₁.ats 2) r.speed) hrx' htx'
    exact ppsAgrees_iff hrxAt htxAt
  · rw [when_of_not hneed] at hpps
    cases hpps
    simp [ratsCall] at hsent

end Connect

def ppsReader (ats : Mem UInt8) (size : Nat) : Reader Chip where
  transceive _ tx txLen _ _ _ :=
    pure (if txLen = 2 then ⟨0, size, ats⟩ else ⟨0, 1, Mem.ofList (fun _ => 0) [tx 0]⟩)
  init := pure ()
  transceiveSf _ atqa := pure ⟨0, atqa⟩
  transceiveAcf acf := pure ⟨0, acf, 0⟩
  speed := 0x0f
  setSpeed := rdrRc63214443aSetSpeed chip.toBus ⟨0, 0, 0, 0⟩ ⟨0, 0⟩

def ppsConnect (ta : UInt8) : Outcome Unit × ((Chip × List L2Call) × TclHandle) :=
  tclConnect (iso14443aLayer2 (ppsReader (Mem.ofList (fun _ => 0) [0x03, 0x15, ta]) 3)
    rc632Open).logging 0 (fun _ => 0) ((chipAhead [], []), tclInit rc632Open)

theorem pps_agrees_iff_symmetric :
    PpsAgrees ((ppsConnect 0x33).2.2.ats 2) 0x0f 0x0a ((ppsConnect 0x33).2.1.1.regs regRxControl1)
        ((ppsConnect 0x33).2.1.1.regs regCoderControl) ↔
      HighestCommon ((ppsConnect 0x33).2.2.ats 2) 0x0f := by
  have hsent : [0xd0, 0x11, 0x0a] ∈ (ppsConnect 0x33).2.1.2.map L2Call.tx := by decide
  have hrun : ppsConnect 0x33 =
      (.ok (), (((ppsConnect 0x33).2.1.1, (ppsConnect 0x33).2.1.2), (ppsConnect 0x33).2.2)) :=
    Prod.ext rfl rfl
  exact pps_agrees_iff (chip_register (by decide)) (chip_register (by decide))
    (r := ppsReader (Mem.ofList (fun _ => 0) [0x03, 0x15, 0x33]) 3) rfl hrun hsent

/-- Three divisors are announced for DR and one for DS: the highest is proposed for both. -/
theorem pps_disagrees :
    ∃ s th log, ppsConnect 0x17 = (.ok (), ((s, log), th)) ∧ [0xd0, 0x11, 0x0f] ∈ log.map L2Call.tx ∧
      th.ats 2 = 0x17 ∧
      ¬ PpsAgrees (th.ats 2) 0x0f 0x0f (s.regs regRxControl1) (s.regs regCoderControl) := by
  refine ⟨_, _, _, rfl, by decide, rfl, fun h => ?_⟩
  have hds := h.ds
  revert hds
  decide

end Librfid.Tcl
