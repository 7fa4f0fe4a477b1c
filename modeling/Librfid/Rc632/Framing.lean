import Librfid.Rc632.Register

namespace Librfid.Rc632

open Exec

inductive Frame
  | sf (cmd : UInt8) (atqa : Mem UInt8)
  | acf (acf : Mem UInt8)
  | regular (frametype : RfidFrametype) (tx : Mem UInt8) (txLen : Nat) (rx : Mem UInt8)
    (rxLen timeout : Nat)

section

variable {σ : Type}

namespace Frame

def isRegular : Frame → Bool
  | regular .. => true
  | _ => false

def run (a : Asic σ) : Frame → Exec σ Unit
  | sf cmd atqa => do
    let _ ← rc632Iso14443aTransceiveSf a cmd atqa
    pure ()
  | acf cmd => do
    let _ ← rc632Iso14443aTransceiveAcf a cmd
    pure ()
  | regular frametype tx txLen rx rxLen timeout => do
    let _ ← rc632Iso14443abTransceive a frametype tx txLen rx rxLen timeout
    pure ()

def exchangeSf (a : Asic σ) (cmd : UInt8) : Exec σ Unit := do
  rc632Iso14443aConfigSf a
  let x ← a.transceive (Mem.ofList (fun _ => 0) [cmd]) 1 2 iso14443aFdtAnticolLast1
  Exec.check x.ret

/-- The frame leaves whole bytes behind.  A short frame does if its first write fails without
effect, or if it gets as far as the write that restores the framing; a bit frame does if it
sends whole bytes, or does not get as far as the write. -/
def Restores (a : Asic σ) (framing : σ → UInt8) (s : σ) : Frame → Prop
  | sf cmd _ =>
    let first := a.write regBitFraming 0x07 s
    (first.1 ≠ .ok () ∧ framing first.2 = framing s) ∨
      ∃ s', first.1 = .ok () ∧ exchangeSf a cmd first.2 = (.ok (), s') ∧
        framing (a.write regBitFraming 0x00 s').2 = 0
  | acf cmd =>
    acfTxLastBits cmd = 0 ∨ framing (rc632Iso14443aPrepareAcf a cmd s).2 = framing s
  | regular .. => True

end Frame

variable (t : Transport σ) (framing : σ → UInt8) (undef : UInt8) (fuel : Nat)

def framedAsic (f : Frame) : Asic (σ × List (Bool × UInt8)) :=
  (t.logging fun s => (f.isRegular, framing s)).asic undef fuel

def runFrames : List Frame → Exec (σ × List (Bool × UInt8)) Unit
  | [] => pure ()
  | f :: fs => do
    f.run (framedAsic t framing undef fuel f)
    runFrames fs

def RunRestores : List Frame → σ × List (Bool × UInt8) → Prop
  | [], _ => True
  | f :: fs, s =>
    let a := framedAsic t framing undef fuel f
    f.Restores a (fun s => framing s.1) s ∧
      ∀ s', f.run a s = (.ok (), s') → RunRestores fs s'

section

variable {t framing undef fuel}

/-- The recorded regular frames are byte frames. -/
def WholeBytes (s : σ × List (Bool × UInt8)) : Prop := ∀ b ∈ s.2, b.1 = true → b.2 = 0

theorem framedAsic_keeps (law : Register t regBitFraming framing) (f : Frame) {v : UInt8}
    {regs : List UInt8} (hregs : regBitFraming ∉ regs) :
    (framedAsic t framing undef fuel f).Keeps regs fun s => framing s.1 = v :=
  ((logging_register law).others v _ (by simp [transceiveRegs, timerRegs, hregs]; decide)).asic_of
    undef fuel

theorem run_wholeBytes {f : Frame} (hf : f.isRegular = false) :
    Keeps WholeBytes (f.run (framedAsic t framing undef fuel f)) := by
  have hrec : ∀ s : σ, True → f.isRegular = true → framing s = 0 := fun _ _ h =>
    absurd (hf.symm.trans h) (by decide)
  have hlog : (framedAsic t framing undef fuel f).Keeps (transceiveRegs ++ anticolRegs)
      fun s => True ∧ WholeBytes s :=
    (logging_keeps (keeps_true t _) hrec).asic (fun _ h => List.mem_append_left _ h) undef fuel
  have ha : (framedAsic t framing undef fuel f).Keeps anticolRegs WholeBytes := by
    simpa only [true_and] using hlog.mono fun _ h => List.mem_append_right _ h
  cases f with
  | sf cmd atqa => exact .bind (rc632Iso14443aTransceiveSf_keeps ha cmd atqa) fun _ => .pure _
  | acf cmd =>
    have hprepare := rc632Iso14443aPrepareAcf_keeps ha cmd
    exact .bind (rc632Iso14443aTransceiveAcf_keeps (ha.mono nofun) cmd hprepare) fun _ => .pure _
  | regular => nomatch hf

theorem run_regular {f : Frame} (law : Register t regBitFraming framing) (hf : f.isRegular = true) :
    Keeps (fun s => framing s.1 = 0 ∧ WholeBytes s) (f.run (framedAsic t framing undef fuel f)) := by
  have hlog : (framedAsic t framing undef fuel f).Keeps (transceiveRegs ++ [regChannelRedundancy])
      fun s => framing s.1 = 0 ∧ WholeBytes s :=
    (logging_keeps (law.others 0 _ (by decide)) fun _ h0 _ => h0).asic
      (fun _ h => List.mem_append_left _ h) undef fuel
  cases f with
  | regular =>
    exact .bind (rc632Iso14443abTransceive_keeps
      (hlog.mono fun _ h => List.mem_append_right _ h) _ _ _ _ _ _) fun _ => .pure _
  | _ => nomatch hf

theorem transceiveSf_early {a : Asic σ} {s s₁ : σ} {o : Outcome Unit}
    (hfirst : a.write regBitFraming 0x07 s = (o, s₁)) (ho : o ≠ .ok ()) (cmd : UInt8)
    (atqa : Mem UInt8) : (rc632Iso14443aTransceiveSf a cmd atqa s).2 = s₁ := by
  cases o with
  | ok => exact absurd rfl ho
  | fail code =>
    have hprepare : rc632Iso14443aPrepareSf a s = (.fail code, s₁) := bind_fail hfirst
    rw [rc632Iso14443aTransceiveSf, bind_ok (attempt_fail hprepare)]
    rfl
  | hang =>
    have hprepare : rc632Iso14443aPrepareSf a s = (.hang, s₁) := bind_hang hfirst
    rw [rc632Iso14443aTransceiveSf, bind_hang (attempt_hang hprepare)]

theorem transceiveSf_answered {a : Asic σ} {s s₁ s₂ : σ} {cmd : UInt8} {I : σ → Prop}
    (hfirst : a.write regBitFraming 0x07 s = (.ok (), s₁))
    (hexch : Frame.exchangeSf a cmd s₁ = (.ok (), s₂)) (hlast : I (a.write regBitFraming 0x00 s₂).2)
    (hread : ∀ reg, Keeps I (a.read reg)) (atqa : Mem UInt8) :
    I (rc632Iso14443aTransceiveSf a cmd atqa s).2 := by
  obtain ⟨_, s₃, hconfig, hexch⟩ := of_bind_ok hexch
  obtain ⟨x, s₄, hx, hcheck⟩ := of_bind_ok hexch
  obtain ⟨hret, rfl⟩ := of_check_ok hcheck
  have hprepare : rc632Iso14443aPrepareSf a s = (.ok (), s₃) := (bind_ok hfirst).trans hconfig
  have hfinish : Triple (· = s₄) (rc632Iso14443aFinishSf a) fun _ => I := by
    refine .bind (Q := fun _ => I) ?_ (fun _ => ?_) (fun _ _ => id) fun _ => id
    · rintro _ rfl
      exact hlast
    · exact Keeps.bind (hread _) fun _ => .when fun _ => .bind (hread _) fun _ => .pure _
  unfold rc632Iso14443aTransceiveSf
  rw [bind_ok (attempt_ok hprepare)]
  dsimp only
  rw [bind_ok hx, if_neg (Int.not_lt.mpr hret)]
  refine Triple.bind (R := fun _ => I) (.attempt_const hfinish) (fun o => ?_) (fun _ _ => id)
    (fun _ => id) s₄ rfl
  cases o with
  | error ret => exact Keeps.pure _
  | ok => exact Keeps.ite (fun _ => .pure _) fun _ => .pure _

theorem run_restores {f : Frame} (law : Register t regBitFraming framing)
    {s : σ × List (Bool × UInt8)} (h0 : framing s.1 = 0)
    (h : f.Restores (framedAsic t framing undef fuel f) (fun s => framing s.1) s) :
    framing (f.run (framedAsic t framing undef fuel f) s).2.1 = 0 := by
  let I : σ × List (Bool × UInt8) → Prop := fun s => framing s.1 = 0
  have hkeep : ∀ regs, regBitFraming ∉ regs → (framedAsic t framing undef fuel f).Keeps regs I :=
    fun _ => framedAsic_keeps law f
  have hlaw : Register (t.logging fun s => (f.isRegular, framing s)) regBitFraming
      fun s => framing s.1 := logging_register law
  have hzero : Keeps I ((framedAsic t framing undef fuel f).write regBitFraming 0) :=
    hlaw.keeps_write 0
  generalize framedAsic t framing undef fuel f = a at h hkeep hzero ⊢
  cases f with
  | sf cmd atqa =>
    obtain ⟨o, s₁, hfirst⟩ : ∃ o s₁, a.write regBitFraming 0x07 s = (o, s₁) := ⟨_, _, rfl⟩
    simp only [Frame.Restores, hfirst] at h
    have hsf : I (rc632Iso14443aTransceiveSf a cmd atqa s).2 := by
      rcases h with ⟨ho, hsame⟩ | ⟨s₂, rfl, hexch, hlast⟩
      · rw [transceiveSf_early hfirst ho]
        exact hsame.trans h0
      · exact transceiveSf_answered hfirst hexch hlast (hkeep [] nofun).read atqa
    exact Triple.bind (P := (· = s)) (Q := fun _ => I) (fun _ hs => hs ▸ hsf)
      (fun _ => Keeps.pure _) (fun _ _ => id) (fun _ => id) s rfl
  | acf cmd =>
    have hprepare : Triple (· = s) (rc632Iso14443aPrepareAcf a cmd) fun _ => I := by
      rintro s rfl
      rcases h with hbits | hsame
      · have hval : (if acfTxLastBits cmd ≠ 0 then acfTxLastBits cmd &&& 0x07 else 0) <<< 4 |||
            acfTxLastBits cmd = 0 := by
          rw [hbits]
          decide
        have hclear : ∀ reg ∈ [regControl, regChannelRedundancy], ∀ val,
            Keeps I (rc632ClearBits a.toBus reg val) := fun reg hreg =>
          rc632ClearBits_keeps (hkeep [regControl, regChannelRedundancy] (by decide)).toKeeps hreg
        refine Keeps.bind (hclear regControl (by decide) _) (fun _ => .bind (.check _) fun _ =>
          .bind (hclear regChannelRedundancy (by decide) _) fun _ => .bind (.check _) fun _ => ?_) s h0
        dsimp only
        rw [hval]
        exact hzero
      · exact hsame.trans h0
    exact Triple.bind (rc632Iso14443aTransceiveAcf_keeps (hkeep [] nofun) cmd hprepare)
      (fun _ => Exec.Keeps.pure _) (fun _ _ => id) (fun _ => id) s rfl
  | regular =>
    exact Exec.Keeps.bind (rc632Iso14443abTransceive_keeps (hkeep _ (by decide)) _ _ _ _ _ _)
      (fun _ => .pure _) s h0

theorem runFrames_from (law : Register t regBitFraming framing) {fs : List Frame}
    {s : σ × List (Bool × UInt8)} (h0 : framing s.1 = 0) (hs : WholeBytes s)
    (hrun : RunRestores t framing undef fuel fs s) :
    WholeBytes (runFrames t framing undef fuel fs s).2 := by
  induction fs generalizing s with
  | nil => exact hs
  | cons f fs ih =>
    have hwhole : WholeBytes (f.run (framedAsic t framing undef fuel f) s).2 := by
      cases hf : f.isRegular with
      | false => exact run_wholeBytes hf s hs
      | true => exact (run_regular law hf s ⟨h0, hs⟩).2
    have hframing := run_restores law h0 hrun.1
    rw [runFrames, bind_run]
    rcases hr : f.run (framedAsic t framing undef fuel f) s with ⟨_ | _ | _, s'⟩ <;>
      rw [hr] at hwhole hframing
    · exact ih hframing hwhole (hrun.2 s' hr)
    · exact hwhole
    · exact hwhole

end

/-- Every regular frame is started with whole bytes, if the frames of the run leave whole
bytes behind. -/
theorem runFrames_wholeBytes (law : Register t regBitFraming framing) (fs : List Frame) (s : σ)
    (h0 : framing s = 0) (hrun : RunRestores t framing undef fuel fs (s, [])) :
    WholeBytes (runFrames t framing undef fuel fs (s, [])).2 :=
  runFrames_from law h0 nofun hrun

end

def requestFrame (cmd : UInt8) : Frame := .sf cmd fun _ => 0

def anticolFrame (nvb : UInt8) : Frame := .acf (Mem.ofList (fun _ => 0) [0x93, nvb])

def selectFrame : Frame :=
  .regular .iso14443aFrameRegular (Mem.ofList (fun _ => 0) [0x93, 0x70]) 7 (fun _ => 0) 1 1000

def framingReg (c : Chip) : UInt8 := c.regs regBitFraming

theorem runFrames_wholeBytes_level1 :
    WholeBytes (runFrames chip framingReg 0 2 [requestFrame 0x26, anticolFrame 0x20, selectFrame]
      (chipAhead [idleAtOnce [0x04, 0x00] (by decide), idleAtOnce [0x08] (by decide),
        idleAtOnce [0x18] (by decide)], [])).2 := by
  have hexch : (Frame.exchangeSf (framedAsic chip framingReg 0 2 (requestFrame 0x26)) 0x26
      ((framedAsic chip framingReg 0 2 (requestFrame 0x26)).write regBitFraming 0x07
        (chipAhead [idleAtOnce [0x04, 0x00] (by decide), idleAtOnce [0x08] (by decide),
          idleAtOnce [0x18] (by decide)], [])).2).1 = .ok () := by
    decide +kernel
  have hlast : ∀ s, framingReg ((framedAsic chip framingReg 0 2 (requestFrame 0x26)).write
      regBitFraming 0x00 s).2.1 = 0 := fun _ => rfl
  exact runFrames_wholeBytes chip framingReg 0 2 (chip_register (by decide)) _ _ rfl
    ⟨.inr ⟨_, rfl, Prod.ext hexch rfl, hlast _⟩, fun _ _ =>
      ⟨.inl (by decide), fun _ _ => ⟨trivial, fun _ _ => trivial⟩⟩⟩

/-- After a bit frame with a partial byte, and after a request that nobody answers, a regular
frame is started with a partial byte. -/
theorem runFrames_partialByte :
    (runFrames chip framingReg 0 2 [anticolFrame 0x23, selectFrame]
      (chipAhead [idleAtOnce [0x08] (by decide), idleAtOnce [0x18] (by decide)], [])).2.2 =
        [(false, 0x33), (true, 0x33)] ∧
      (runFrames chip framingReg 0 2 [requestFrame 0x26, selectFrame]
        (chipAhead [unanswered, idleAtOnce [0x18] (by decide)], [])).2.2 =
          [(false, 0x07), (true, 0x07)] := by
  decide +kernel

end Librfid.Rc632
