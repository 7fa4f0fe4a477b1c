import Librfid.Layer2.Acf
import Librfid.Rc632.Register

namespace Librfid.Layer2

open Rc632 Exec

section

variable {σ ρ : Type} (t : Transport σ) (redundancy : σ → UInt8) (rxPast : RxConfig)
  (txPast : TxConfig) (undef : UInt8) (fuel speed : Nat) (randomBit : ρ → Bool × ρ)

def redundancyAsic (kind : FrameKind) : Asic (σ × List (FrameKind × UInt8)) :=
  (t.logging fun s => (kind, redundancy s)).asic undef fuel

def redundancyReader : Reader (σ × List (FrameKind × UInt8)) :=
  reader rxPast txPast (redundancyAsic t redundancy undef fuel) speed

def crcEnable : UInt8 := crTxCrcEnable ||| crRxCrcEnable

/-- A recorded frame has no CRC, except a bit frame of a level that follows a SELECT. -/
def NoCrc : FrameKind × UInt8 → Prop
  | (.sf, v) => v &&& crcEnable = 0
  | (.acf sel, v) => v &&& crcEnable = 0 ↔ sel = acSelCodeCl1
  | (.regular, _) => True

def Entered (sel v : UInt8) : Prop :=
  if sel = acSelCodeCl1 then v &&& crcEnable = 0 else v &&& crRxCrcEnable ≠ 0

section

variable {t redundancy rxPast txPast undef fuel speed randomBit}

def Recorded (s : σ × List (FrameKind × UInt8)) : Prop := ∀ b ∈ s.2, NoCrc b

theorem Entered.noCrc {sel v : UInt8} (h : Entered sel v) : NoCrc (.acf sel, v) := by
  unfold Entered at h
  split_ifs at h with hsel
  · exact iff_of_true h hsel
  · refine iff_of_false (fun hv => h ?_) hsel
    calc v &&& crRxCrcEnable = v &&& crcEnable &&& crRxCrcEnable := by rw [UInt8.and_assoc]; rfl
      _ = 0 := by rw [hv, UInt8.zero_and]

/-- A bit frame clears one of the two bits only. -/
theorem Entered.clearTx {sel v : UInt8} (h : Entered sel v) :
    Entered sel (v &&& ~~~(crTxCrcEnable ||| crTxCrcEnable)) := by
  have hand : ∀ m, v &&& ~~~(crTxCrcEnable ||| crTxCrcEnable) &&& m =
      v &&& m &&& ~~~(crTxCrcEnable ||| crTxCrcEnable) := fun m => by
    rw [UInt8.and_assoc, UInt8.and_assoc, UInt8.and_comm m]
  unfold Entered at h ⊢
  split_ifs at h ⊢ with hsel
  · rw [hand, h, UInt8.zero_and]
  · rw [hand, UInt8.and_assoc]
    exact h

theorem redundancyAsic_recorded {kind : FrameKind} {regs : List UInt8}
    (hstart : ∀ v, NoCrc (kind, v)) :
    (redundancyAsic t redundancy undef fuel kind).Keeps regs Recorded :=
  ((logging_keeps (keeps_true t _) fun _ _ => hstart _).asic_of undef fuel).congr fun _ => iff_of_eq (true_and _)

theorem redundancyAsic_accesses {kind : FrameKind} {regs : List UInt8} (hregs : regCommand ∉ regs) :
    (redundancyAsic t redundancy undef fuel kind).toBus.Keeps regs Recorded :=
  (logging_log t (fun s => (kind, redundancy s)) hregs fun log => ∀ b ∈ log, NoCrc b).toKeeps

section

variable (law : Register t regChannelRedundancy redundancy)
include law

theorem redundancyAsic_others {kind : FrameKind} (p : UInt8 → Prop) {regs : List UInt8}
    (hregs : regChannelRedundancy ∉ transceiveRegs ++ regs)
    (hstart : ∀ v, p v → NoCrc (kind, v)) :
    (redundancyAsic t redundancy undef fuel kind).Keeps regs
      fun s => Recorded s ∧ p (redundancy s.1) :=
  ((logging_keeps (law.others_pred p hregs) fun _ h => hstart _ h).asic_of undef fuel).congr
    fun _ => and_comm

theorem clearCrc_recorded {kind : FrameKind} (mask : UInt8) :
    Triple Recorded (rc632ClearBits (redundancyAsic t redundancy undef fuel kind).toBus
        regChannelRedundancy mask)
      (Ends Recorded fun ret s => 0 ≤ ret → redundancy s.1 &&& mask = 0) := by
  have hacc : (redundancyAsic t redundancy undef fuel kind).toBus.Keeps [regChannelRedundancy]
      Recorded := redundancyAsic_accesses (by decide)
  have hlaw : Register (t.logging fun s => (kind, redundancy s)) regChannelRedundancy
      fun s => redundancy s.1 := logging_register law
  intro s hs
  refine ⟨rc632ClearBits_keeps hacc (by decide) mask s hs, fun ret ho hret => ?_⟩
  have hval : redundancy (rc632ClearBits (redundancyAsic t redundancy undef fuel kind).toBus
      regChannelRedundancy mask s).2.1 = redundancy s.1 &&& ~~~mask :=
    (hlaw.clearBits mask s).2 ret ho hret
  rw [hval, UInt8.and_assoc]
  simp

theorem requestFrame_recorded (cmd : UInt8) (atqa : Mem UInt8) :
    Triple Recorded (rc632Iso14443aTransceiveSf (redundancyAsic t redundancy undef fuel .sf) cmd atqa)
      (Ends Recorded fun x s => 0 ≤ x.ret → redundancy s.1 &&& crcEnable = 0) := by
  have hacc : (redundancyAsic t redundancy undef fuel .sf).toBus.Keeps [regBitFraming, regControl]
      Recorded := redundancyAsic_accesses (by decide)
  have hprepare : Triple Recorded
      (rc632Iso14443aPrepareSf (redundancyAsic t redundancy undef fuel .sf))
      (Ends Recorded fun _ s => redundancy s.1 &&& crcEnable = 0) := by
    refine .ends_bind (hacc.write (by decide) _).ends fun _ => ?_
    refine .ends_bind ((rc632ClearBits_keeps hacc (by decide) _).ends.pre fun _ => And.left)
      fun _ => ?_
    refine .ends_bind ((Keeps.check _).ends.pre fun _ => And.left) fun _ => ?_
    refine .ends_bind ((clearCrc_recorded law _).pre fun _ => And.left) fun ret => ?_
    exact .ends_check fun s hs => ⟨hs.1, hs.2⟩
  have hrest : (redundancyAsic t redundancy undef fuel .sf).Keeps [regBitFraming]
      fun s => Recorded s ∧ redundancy s.1 &&& crcEnable = 0 :=
    redundancyAsic_others law (fun v => v &&& crcEnable = 0) (by decide) fun _ => id
  unfold rc632Iso14443aTransceiveSf
  refine .ends_bind (hprepare.ends_attempt (rc632Iso14443aPrepareSf_errs _)) fun o => ?_
  cases o with
  | error ret => exact .ends_pure fun s hs => ⟨hs.1, fun h => absurd hs.2 (Int.not_lt.mpr h)⟩
  | ok =>
    refine .ends_bind (hrest.transceive _ _ _ _).ends_and fun x => .ite (fun hx => ?_) fun _ => ?_
    · exact .ends_pure fun s hs => ⟨hs.1, fun _ => hs.2⟩
    · refine .ends_bind (rc632Iso14443aFinishSf_keeps hrest).attempt.ends_and fun o => ?_
      cases o with
      | error ret => exact .ends_pure fun s hs => ⟨hs.1, fun _ => hs.2⟩
      | ok =>
        exact .ite (fun _ => .ends_pure fun s hs => ⟨hs.1, fun _ => hs.2⟩)
          fun _ => .ends_pure fun s hs => ⟨hs.1, fun _ => hs.2⟩

theorem bitFrame_recorded {sel : UInt8} (acf : Mem UInt8) :
    Keeps (fun s => Recorded s ∧ Entered sel (redundancy s.1))
      (rc632Iso14443aTransceiveAcf (redundancyAsic t redundancy undef fuel (.acf sel)) acf) := by
  have hothers : ∀ regs, regChannelRedundancy ∉ transceiveRegs ++ regs →
      (redundancyAsic t redundancy undef fuel (.acf sel)).Keeps regs
        fun s => Recorded s ∧ Entered sel (redundancy s.1) :=
    fun _ hregs => redundancyAsic_others law (Entered sel) hregs fun _ => Entered.noCrc
  have hlaw : Register (t.logging fun s => (FrameKind.acf sel, redundancy s)) regChannelRedundancy
      fun s => redundancy s.1 := logging_register law
  have hacc : (redundancyAsic t redundancy undef fuel (.acf sel)).toBus.Keeps [regChannelRedundancy]
      Recorded := redundancyAsic_accesses (by decide)
  have hclear : Keeps (fun s => Recorded s ∧ Entered sel (redundancy s.1))
      (rc632ClearBits (redundancyAsic t redundancy undef fuel (.acf sel)).toBus regChannelRedundancy
        (crTxCrcEnable ||| crTxCrcEnable)) := by
    intro s hs
    refine ⟨rc632ClearBits_keeps hacc (by decide) _ s hs.1, ?_⟩
    rcases (hlaw.clearBits (crTxCrcEnable ||| crTxCrcEnable) s).1 with h | h
    · exact h.symm ▸ hs.2
    · exact h.symm ▸ hs.2.clearTx
  have hregs := hothers [regControl, regBitFraming] (by decide)
  refine rc632Iso14443aTransceiveAcf_keeps (hothers [] (by decide)) acf ?_
  exact Keeps.bind (rc632ClearBits_keeps hregs.toKeeps (by decide) _) fun _ => .bind (.check _)
    fun _ => .bind hclear fun _ => .bind (.check _) fun _ => hregs.write (by decide) _

theorem regularFrame_recorded (tx : Mem UInt8) (txLen : Nat) (rx : Mem UInt8) (rxLen timeout : Nat) :
    Triple Recorded (rc632Iso14443abTransceive (redundancyAsic t redundancy undef fuel .regular)
        .iso14443aFrameRegular tx txLen rx rxLen timeout)
      (Ends Recorded fun x s => 0 ≤ x.ret → redundancy s.1 = 0x0f) := by
  have hwrite : Triple Recorded ((redundancyAsic t redundancy undef fuel .regular).toBus.write
      regChannelRedundancy 0x0f) (Ends Recorded fun _ s => redundancy s.1 = 0x0f) := by
    have hrec : (redundancyAsic t redundancy undef fuel .regular).Keeps [regChannelRedundancy]
        Recorded := redundancyAsic_recorded fun _ => trivial
    have hlaw : Register (t.logging fun s => (FrameKind.regular, redundancy s)) regChannelRedundancy
        fun s => redundancy s.1 := logging_register law
    exact fun s hs => ⟨hrec.write (by decide) _ s hs, fun _ ho => hlaw.write_ok (Prod.ext ho rfl)⟩
  have hrest : (redundancyAsic t redundancy undef fuel .regular).Keeps []
      fun s => Recorded s ∧ redundancy s.1 = 0x0f :=
    redundancyAsic_others law (· = 0x0f) (by decide) fun _ _ => trivial
  refine .ends_bind (hwrite.ends_attempt (write_errs _ _ _)) fun o => ?_
  cases o with
  | error ret => exact .ends_pure fun s hs => ⟨hs.1, fun h => absurd hs.2 (Int.not_lt.mpr h)⟩
  | ok =>
    refine .ends_bind (hrest.transceive _ _ _ _).ends_and fun x => ?_
    exact .ends_pure fun s hs => ⟨hs.1, fun _ => hs.2⟩

section Levels

variable {sel : UInt8}

abbrev LevelState (redundancy : σ → UInt8) (sel : UInt8)
    (s : (σ × List (FrameKind × UInt8)) × Vars ρ) : Prop :=
  Recorded s.1 ∧ Entered sel (redundancy s.1.1)

theorem bitFrame_level {acf : Mem UInt8} (h : AtLevel sel acf) :
    Triple (LevelState redundancy sel) (Exec.lift ((redundancyReader t redundancy rxPast txPast undef
        fuel speed).transceiveAcf acf) : Iso14443aM _ ρ _)
      (Ends (LevelState redundancy sel) fun x _ => AtLevel sel x.acf) := by
  have hkeep : Keeps (fun s => Recorded s ∧ Entered sel (redundancy s.1))
      ((redundancyReader t redundancy rxPast txPast undef fuel speed).transceiveAcf acf) := by
    rw [← h.selCode]
    exact bitFrame_recorded law acf
  have hframe : Triple (fun s => Recorded s ∧ Entered sel (redundancy s.1))
      ((redundancyReader t redundancy rxPast txPast undef fuel speed).transceiveAcf acf)
      (Ends (fun s => Recorded s ∧ Entered sel (redundancy s.1)) fun x _ => AtLevel sel x.acf) := by
    refine fun s hs => ⟨hkeep s hs, fun x hx => ?_⟩
    rcases (rc632Iso14443aTransceiveAcf_acf _ acf s trivial).2 x hx with hacf | ⟨y, hacf⟩
    · exact hacf ▸ h
    · exact hacf ▸ h.merge y
  exact hframe.ends_lift

theorem iso14443aCollisions_level {rounds : Nat} {acf : Mem UInt8} (h : AtLevel sel acf)
    (bitOfCol : Nat) :
    Triple (LevelState redundancy sel)
      (iso14443aCollisions (redundancyReader t redundancy rxPast txPast undef fuel speed) randomBit
        rounds acf bitOfCol)
      (Ends (LevelState redundancy sel) fun acf _ => AtLevel sel acf) := by
  induction rounds generalizing acf bitOfCol with
  | zero => exact .ends_hang fun _ => id
  | succ rounds ih =>
    refine .ite (fun _ => .ends_pure fun _ hs => ⟨hs, h⟩) fun _ => ?_
    have htoggle : Triple (LevelState redundancy sel) (rndToggleBitInField randomBit
        (codeNvb acf bitOfCol) acfUidBits 5 bitOfCol)
        (Ends (LevelState redundancy sel) fun acf _ => AtLevel sel acf) := by
      rintro ⟨s, v⟩ hs
      obtain ⟨b, v', hrun, -⟩ := rndToggleBitInField_run randomBit (codeNvb acf bitOfCol) acfUidBits 5
        bitOfCol s v
      rw [hrun]
      refine ⟨hs, ?_⟩
      rintro _ ⟨⟩
      split_ifs
      · exact (h.codeNvb bitOfCol).set (by rw [acfUidBits]; omega) _
      · exact h.codeNvb bitOfCol
    refine .ends_bind htoggle fun acf => .assume fun hacf => ?_
    refine .ends_bind (bitFrame_level law hacf) fun x => .assume fun hx => ?_
    exact .ends_bind ((Keeps.check _).ends) fun _ => (ih hx _).pre fun _ => And.left

end Levels

theorem iso14443aCascade_recorded {rounds : Nat} (acf sak : Mem UInt8) :
    Triple (LevelState redundancy (acf 0))
      (iso14443aCascade (redundancyReader t redundancy rxPast txPast undef fuel speed) randomBit
        rounds acf sak)
      fun _ s => Recorded s.1 := by
  induction rounds generalizing acf sak with
  | zero => exact fun _ hs => hs.1
  | succ rounds ih =>
    have hfirst : AtLevel (acf 0) (codeNvb acf 16) := .first rfl
    have hweak : ∀ s : (σ × List (FrameKind × UInt8)) × Vars ρ,
        LevelState redundancy (acf 0) s → Recorded s.1 := fun _ h => h.1
    refine .ends_bind_const (bitFrame_level law hfirst) hweak fun x => .assume fun hx => ?_
    refine .ends_bind_const (Keeps.check _).ends hweak fun _ => ?_
    refine .ends_bind_const ((iso14443aCollisions_level law hx _).pre fun _ => And.left) hweak
      fun acf' => .assume fun hacf' => ?_
    have hselect : Triple (fun s : (σ × List (FrameKind × UInt8)) × Vars ρ => Recorded s.1)
        (Exec.lift ((redundancyReader t redundancy rxPast txPast undef fuel speed).transceive
          .iso14443aFrameRegular (codeNvb acf' (7 * 8)) 7 sak 3 1236))
        (Ends (fun s => Recorded s.1) fun y s => 0 ≤ y.ret → redundancy s.1.1 = 0x0f) :=
      (regularFrame_recorded law (codeNvb acf' (7 * 8)) 7 sak 3 1236).ends_lift
    refine .ends_bind_const (hselect.pre fun _ h => h.1) (fun _ => id) fun y => ?_
    refine .ends_bind_const (I := fun s => Recorded s.1) (Q := fun _ s => redundancy s.1.1 = 0x0f)
      (.ends_check fun s hs => ⟨hs.1, hs.2⟩) (fun _ => id) fun _ => ?_
    have hset : ∀ f : Handle → Handle, Keeps (fun s : (σ × List (FrameKind × UInt8)) × Vars ρ =>
        Recorded s.1 ∧ redundancy s.1.1 = 0x0f) (setHandle f) :=
      setHandle_keeps fun s => Recorded s ∧ redundancy s.1 = 0x0f
    have hnext : ∀ (acf : Mem UInt8) (sel : UInt8), sel ≠ acSelCodeCl1 →
        Triple (fun s => Recorded s.1 ∧ redundancy s.1.1 = 0x0f)
          (iso14443aCascade (redundancyReader t redundancy rxPast txPast undef fuel speed) randomBit
            rounds (acf.set 0 sel) y.rx) fun _ s => Recorded s.1 := by
      refine fun acf sel hsel => (ih (acf.set 0 sel) y.rx).pre fun s hs => ⟨hs.1, ?_⟩
      rw [Mem.set_self, hs.2, Entered, if_neg hsel]
      decide
    refine .ite (fun _ => ?_) fun _ => ?_
    · refine .ite (fun _ => .ite (fun _ => fun _ => And.left) fun _ => ?_) fun _ =>
        .ite (fun _ => ?_) fun _ => ?_
      · exact .bind (hset _) (fun _ => hnext _ _ (by decide)) (fun _ _ => And.left) fun _ => And.left
      · exact .bind (hset _) (fun _ => hnext _ _ (by decide)) (fun _ _ => And.left) fun _ => And.left
      · exact .bind (hset _) (fun _ _ => And.left) (fun _ _ => And.left) fun _ => And.left
    · exact .bind (hset _) (fun _ _ => And.left) (fun _ _ => And.left) fun _ => And.left

theorem iso14443aAnticol_recorded (rounds : Nat) :
    Triple (fun s => Recorded s.1)
      (iso14443aAnticol (redundancyReader t redundancy rxPast txPast undef fuel speed) randomBit
        rounds)
      fun _ s => Recorded s.1 := by
  have hset : ∀ f : Handle → Handle, Keeps (fun s : (σ × List (FrameKind × UInt8)) × Vars ρ =>
      Recorded s.1) (setHandle f) := setHandle_keeps Recorded
  have hset' : ∀ (p : Prop) (f : Handle → Handle),
      Triple (fun s : (σ × List (FrameKind × UInt8)) × Vars ρ =>
        Recorded s.1 ∧ (p → redundancy s.1.1 &&& crcEnable = 0)) (setHandle f)
      (Ends (fun s => Recorded s.1) fun _ s => p → redundancy s.1.1 &&& crcEnable = 0) :=
    fun p f => (setHandle_keeps (fun s => Recorded s ∧ (p → redundancy s.1 &&& crcEnable = 0))
      f).ends_and
  -- past a test that leaves the function
  have hwhen : ∀ (c : Prop) [Decidable c] (f : Handle → Handle) (ret : Int),
      Triple (fun s : (σ × List (FrameKind × UInt8)) × Vars ρ =>
        Recorded s.1 ∧ (¬ c → redundancy s.1.1 &&& crcEnable = 0))
      (when c do
        setHandle f
        fail ret)
      (Ends (fun s => Recorded s.1) fun _ s => redundancy s.1.1 &&& crcEnable = 0) := by
    refine fun c _ f ret => .ite (fun _ => ?_) fun hc => .ends_pure fun s hs => ⟨hs.1, hs.2 hc⟩
    exact .ends_bind ((hset f).ends.pre fun _ => And.left) fun _ => .ends_fail fun _ => And.left
  refine Keeps.bind (hset _) fun _ => .bind (fun _ => id) fun v => ?_
  have hrequest : Triple (fun s : (σ × List (FrameKind × UInt8)) × Vars ρ => Recorded s.1)
      (Exec.lift ((redundancyReader t redundancy rxPast txPast undef fuel speed).transceiveSf
        (if v.handle.flags &&& optLayer2Wup ≠ 0 then sfCmdWupa else sfCmdReqa) v.handle.atqa))
      (Ends (fun s => Recorded s.1) fun x s => 0 ≤ x.ret → redundancy s.1.1 &&& crcEnable = 0) :=
    (requestFrame_recorded law _ _).ends_lift
  refine Triple.ends_bind_const hrequest (fun _ => id) fun x => ?_
  refine .ends_bind_const (hset' (0 ≤ x.ret) _) (fun _ => id) fun _ => ?_
  refine .ends_bind_const ((hwhen (x.ret < 0) _ _).pre fun s hs =>
    ⟨hs.1, fun h => hs.2 (Int.not_lt.mp h)⟩) (fun _ => id) fun _ => ?_
  refine .ends_bind_const ((hset' True _).pre fun s hs => ⟨hs.1, fun _ => hs.2⟩) (fun _ => id)
    fun _ => ?_
  refine .ends_bind_const ((hwhen (bfAnticol x.atqa = 0) _ _).pre fun s hs =>
    ⟨hs.1, fun _ => hs.2 trivial⟩) (fun _ => id) fun _ => ?_
  refine .ends_bind_const ((hset' True _).pre fun s hs => ⟨hs.1, fun _ => hs.2⟩) (fun _ => id)
    fun _ => ?_
  refine Triple.bind ((iso14443aCascade_recorded law _ _).pre fun s hs => ⟨hs.1, hs.2 trivial⟩)
    (fun _ => hset _) (fun _ _ => id) fun _ => id

end

/-- The requests and the bit frames of an anticollision have no CRC exactly when there is no
bit frame of a level above the first. -/
theorem iso14443aAnticol_noCrc_iff (law : Register t regChannelRedundancy redundancy) (rounds : Nat)
    (s : σ) (v : Vars ρ) :
    let log := (iso14443aAnticol (redundancyReader t redundancy rxPast txPast undef fuel speed)
      randomBit rounds ((s, []), v)).2.1.2
    (∀ b ∈ log, b.1 ≠ .regular → b.2 &&& crcEnable = 0) ↔
      ∀ b ∈ log, ∀ sel, b.1 = .acf sel → sel = acSelCodeCl1 := by
  intro log
  have hlog : ∀ b ∈ log, NoCrc b := iso14443aAnticol_recorded law rounds ((s, []), v) nofun
  constructor
  · rintro h ⟨kind, val⟩ hb sel rfl
    exact (hlog _ hb).mp (h _ hb (by nofun))
  · rintro h ⟨kind, val⟩ hb hkind
    cases kind with
    | sf => exact hlog _ hb
    | acf sel => exact (hlog _ hb).mpr (h _ hb sel rfl)
    | regular => exact absurd rfl hkind

end

end

def redundancyReg (c : Chip) : UInt8 := c.regs regChannelRedundancy

def chipAnticol (answers : List Exch) : List (FrameKind × UInt8) :=
  (iso14443aAnticol (redundancyReader chip redundancyReg ⟨0, 0, 0, 0⟩ ⟨0, 0⟩ 0 2 rfid14443aSpeed106k)
    randomBit 4 ((chipAhead answers, []), initVars)).2.1.2

theorem iso14443aAnticol_noCrc_singleSize :
    let log := chipAnticol [idleAtOnce [0x04, 0x00] (by decide),
      idleAtOnce [0x01, 0x02, 0x03, 0x04, 0x04] (by decide), idleAtOnce [0x08] (by decide)]
    log = [(.sf, 0x00), (.acf acSelCodeCl1, 0x00), (.regular, 0x0f)] ∧
      ∀ b ∈ log, b.1 ≠ .regular → b.2 &&& crcEnable = 0 := by
  have law : Register chip regChannelRedundancy redundancyReg := chip_register (by decide)
  have hlog : chipAnticol [idleAtOnce [0x04, 0x00] (by decide),
        idleAtOnce [0x01, 0x02, 0x03, 0x04, 0x04] (by decide), idleAtOnce [0x08] (by decide)] =
      [(.sf, 0x00), (.acf acSelCodeCl1, 0x00), (.regular, 0x0f)] := by
    decide +kernel
  refine ⟨hlog, (iso14443aAnticol_noCrc_iff law 4 (chipAhead _) initVars).mpr fun b hb sel hsel => ?_⟩
  replace hb : b ∈ chipAnticol _ := hb
  rw [hlog] at hb
  simp only [List.mem_cons, List.not_mem_nil, or_false] at hb
  rcases hb with rfl | rfl | rfl
  · cases hsel
  · exact (FrameKind.acf.inj hsel).symm
  · cases hsel

/-- A card with a UID of seven bytes: the bit frame of the second level expects a CRC. -/
theorem iso14443aAnticol_crc_doubleSize :
    chipAnticol [idleAtOnce [0x44, 0x00] (by decide),
        idleAtOnce [0x88, 0x04, 0x05, 0x06, 0x8f] (by decide), idleAtOnce [0x04] (by decide),
        idleAtOnce [0x07, 0x08, 0x09, 0x0a, 0x0c] (by decide), idleAtOnce [0x20] (by decide)] =
      [(.sf, 0x00), (.acf acSelCodeCl1, 0x00), (.regular, 0x0f), (.acf acSelCodeCl2, 0x0b),
        (.regular, 0x0f)] := by
  decide +kernel

end Librfid.Layer2
