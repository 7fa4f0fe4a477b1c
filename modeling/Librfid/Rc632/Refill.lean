import Librfid.Rc632.Keeps

namespace Librfid.Rc632

open Exec

/-- The FIFO accesses of an exchange; `waiting` is the first access of
`rc632_wait_idle_timer`. -/
inductive FifoEvent
  | wrote (bytes : List UInt8)
  | fill (n : UInt8)
  | waiting
  deriving DecidableEq

namespace FifoEvent

def ofRead (reg val : UInt8) : List FifoEvent :=
  if reg = regFifoLength then [fill val] else if reg = regInterruptEn then [waiting] else []

def sent (log : List FifoEvent) : List UInt8 :=
  log.flatMap fun
    | wrote bytes => bytes
    | _ => []

def fills (log : List FifoEvent) : List Nat :=
  (log.takeWhile (· ≠ waiting)).filterMap fun
    | fill n => some n.toNat
    | _ => none

end FifoEvent

def Transport.recording {σ : Type} (t : Transport σ) : Transport (σ × List FifoEvent) where
  writeReg reg val := fun (s, log) =>
    let (ret, s) := t.writeReg reg val s
    (ret, (s, log))
  readReg reg := fun (s, log) =>
    let (r, s) := t.readReg reg s
    (r, (s, log ++ FifoEvent.ofRead reg r.2))
  writeFifo bytes flags := fun (s, log) =>
    let (ret, s) := t.writeFifo bytes flags s
    (ret, (s, log ++ [.wrote bytes]))
  readFifo len := fun (s, log) =>
    let (r, s) := t.readFifo len s
    (r, (s, log))

/-- The fill levels let the loop send `n` more bytes, and no byte after them. -/
def RefillsExactly : Nat → List Nat → Prop
  | 0, [] => True
  | n + 1, f :: fs => f < 64 ∧ 64 - f ≤ n + 1 ∧ RefillsExactly (n + 1 - (64 - f)) fs
  | _, _ => False

inductive Refilled (tx : Mem UInt8) (txLen : Nat) : Int → Int → List FifoEvent → Prop
  | done {off cur : Int} : txLen ≤ off + cur →
      Refilled tx txLen off cur [.wrote (tx.load off (cur % 256).toNat)]
  | full {off cur : Int} : off + cur < txLen →
      Refilled tx txLen off cur [.wrote (tx.load off (cur % 256).toNat), .fill 64]
  | more {off cur : Int} {f : UInt8} {log : List FifoEvent} : off + cur < txLen → f.toNat ≠ 64 →
      Refilled tx txLen (off + cur) (64 - f.toNat) log →
      Refilled tx txLen off cur (.wrote (tx.load off (cur % 256).toNat) :: .fill f :: log)

namespace FifoEvent

@[simp] theorem sent_wrote (bytes : List UInt8) (log : List FifoEvent) :
    sent (wrote bytes :: log) = bytes ++ sent log := rfl
@[simp] theorem sent_fill (n : UInt8) (log : List FifoEvent) : sent (fill n :: log) = sent log :=
  rfl
@[simp] theorem sent_nil : sent [] = [] := rfl
@[simp] theorem fills_wrote (bytes : List UInt8) (log : List FifoEvent) :
    fills (wrote bytes :: log) = fills log := by simp [fills]
@[simp] theorem fills_fill (n : UInt8) (log : List FifoEvent) :
    fills (fill n :: log) = n.toNat :: fills log := by simp [fills]
@[simp] theorem fills_nil : fills [] = [] := rfl

theorem sent_append (l l' : List FifoEvent) : sent (l ++ l') = sent l ++ sent l' :=
  List.flatMap_append

theorem fills_append_waiting {l : List FifoEvent} (h : waiting ∉ l) (l' : List FifoEvent) :
    fills (l ++ waiting :: l') = fills l := by
  induction l with
  | nil => rfl
  | cons e l ih =>
    have ih := ih fun h' => h (List.mem_cons_of_mem e h')
    cases e with
    | wrote bytes => simpa using ih
    | fill n => simpa using ih
    | waiting => exact absurd (List.mem_cons_self) h

end FifoEvent

open FifoEvent

/-- What a transmit loop sends is one stretch of the buffer; it ends where the frame does
exactly when the fill levels add up, and never 64 bytes or more behind it. -/
theorem Refilled.sent_eq {tx : Mem UInt8} {txLen : Nat} {off cur : Int} {log : List FifoEvent}
    (h : Refilled tx txLen off cur log) (h0 : 0 ≤ cur) (h64 : cur ≤ 64)
    (hfills : ∀ n ∈ fills log, n ≤ 64) :
    ∃ n : Nat, sent log = tx.load off n ∧ (n : Int) ≤ max cur (txLen - off + 63) ∧
      (off + n = txLen ↔
        off + cur ≤ txLen ∧ RefillsExactly (txLen - (off + cur)).toNat (fills log)) := by
  induction h with
  | @done off cur hdone =>
    have hcur : cur % 256 = cur := Int.emod_eq_of_lt h0 (by omega)
    refine ⟨cur.toNat, by simp [hcur], by omega, ?_⟩
    constructor
    · intro h
      rw [show (txLen - (off + cur) : Int).toNat = 0 by omega]
      exact ⟨by omega, trivial⟩
    · omega
  | @full off cur hmore =>
    have hcur : cur % 256 = cur := Int.emod_eq_of_lt h0 (by omega)
    refine ⟨cur.toNat, by simp [hcur], by omega, ?_⟩
    obtain ⟨n, hn⟩ : ∃ n, (txLen - (off + cur) : Int).toNat = n + 1 :=
      ⟨(txLen - (off + cur) : Int).toNat - 1, by omega⟩
    rw [hn]
    simp [RefillsExactly]
    omega
  | @more off cur f log hmore hf _ ih =>
    rw [fills_wrote, fills_fill, List.forall_mem_cons] at hfills
    obtain ⟨n, hsent, hle, hiff⟩ := ih (by omega) (by omega) hfills.2
    refine ⟨cur.toNat + n, ?_, by omega, ?_⟩
    · rw [sent_wrote, sent_fill, hsent, Int.emod_eq_of_lt h0 (by omega), Mem.load_add,
        Int.toNat_of_nonneg h0]
    · obtain ⟨k, hk⟩ : ∃ k, (txLen - (off + cur) : Int).toNat = k + 1 :=
        ⟨(txLen - (off + cur) : Int).toNat - 1, by omega⟩
      have hrest : (txLen - (off + cur + (64 - f.toNat)) : Int).toNat = k + 1 - (64 - f.toNat) := by
        omega
      rw [fills_wrote, fills_fill, hk, RefillsExactly, ← hrest]
      have hoff : off + ((cur.toNat + n : Nat) : Int) = off + cur + n := by omega
      rw [hoff, hiff]
      constructor
      · rintro ⟨hle', hrefills⟩
        exact ⟨by omega, by omega, by omega, hrefills⟩
      · rintro ⟨-, -, hle', hrefills⟩
        exact ⟨by omega, hrefills⟩

section Recording

variable {σ : Type} (t : Transport σ) (log : List FifoEvent)

theorem recording_regWrite (reg val : UInt8) :
    Exec.Keeps (fun s => s.2 = log) (t.recording.regWrite reg val) := fun _ h => h

theorem recording_fifoWrite (bytes : List UInt8) (flags : UInt8) :
    Triple (fun s => s.2 = log) (t.recording.fifoWrite bytes flags)
      fun _ s => s.2 = log ++ [wrote bytes] := fun _ h => congrArg (· ++ [wrote bytes]) h

@[simp] theorem recording_regRead_run (reg : UInt8) (s : σ) :
    t.recording.regRead reg (s, log) =
      (.ok (t.readReg reg s).1, ((t.readReg reg s).2, log ++ ofRead reg (t.readReg reg s).1.2)) :=
  rfl

theorem recording_regRead (reg : UInt8) :
    Triple (fun s => s.2 = log) (t.recording.regRead reg) fun o s =>
      match o with
      | .ok (_, val) => s.2 = log ++ ofRead reg val
      | _ => s.2 = log := by
  rintro ⟨s, _⟩ rfl
  rw [recording_regRead_run]

theorem recording_read (reg : UInt8) :
    Triple (fun s => s.2 = log) (t.recording.toBus.read reg) fun o s =>
      match o with
      | .ok val => s.2 = log ++ ofRead reg val
      | _ => s.2 = log ∨ ∃ val, s.2 = log ++ ofRead reg val := by
  refine .bind (recording_regRead t log reg) (fun ⟨ret, val⟩ => ?_) (fun _ _ => .inl) fun _ => .inl
  exact .bind (Exec.Keeps.check ret) (fun _ _ h => h) (fun _ _ h => .inr ⟨val, h⟩)
    fun _ h => .inr ⟨val, h⟩

theorem transmitLoop_refilled (tx : Mem UInt8) (txLen : UInt8) (fuel : Nat) (off cur : Int) :
    Triple (fun s => s.2 = log) (rc632TransmitLoop t.recording tx txLen fuel off cur) fun o s =>
      ∃ ev, s.2 = log ++ ev ∧ waiting ∉ ev ∧
        (o = .ok () → Refilled tx txLen.toNat off cur ev) := by
  induction fuel generalizing off cur log with
  | zero => exact fun s h => ⟨[], h.trans (List.append_nil log).symm, by simp, nofun⟩
  | succ fuel ih =>
    let w := wrote (tx.load off (cur % 256).toNat)
    have hstop : ∀ (o : Outcome Unit) (s : σ × List FifoEvent), o ≠ .ok () → s.2 = log ++ [w] →
        ∃ ev, s.2 = log ++ ev ∧ waiting ∉ ev ∧
          (o = .ok () → Refilled tx txLen.toNat off cur ev) := fun o s ho h =>
      ⟨[w], h, by simp [w], fun h => absurd h ho⟩
    refine .bind (recording_fifoWrite t log _ _) (fun ret => ?_) (fun _ s => hstop _ s nofun)
      fun s => hstop _ s nofun
    refine .bind (Exec.Keeps.check ret) (fun _ => ?_) (fun _ s => hstop _ s nofun)
      fun s => hstop _ s nofun
    refine .bind (Exec.Keeps.when fun _ => write_keeps (recording_regWrite t _ _) _) (fun _ => ?_)
      (fun _ s => hstop _ s nofun) fun s => hstop _ s nofun
    refine .ite (fun hmore => ?_) fun hdone s h =>
      ⟨[w], h, by simp [w], fun _ => .done (Int.not_lt.mp hdone)⟩
    have hread : ∀ s : σ × List FifoEvent,
        (s.2 = log ++ [w] ∨ ∃ val, s.2 = log ++ [w] ++ ofRead regFifoLength val) →
        ∃ ev, s.2 = log ++ ev ∧ waiting ∉ ev := by
      rintro s (h | ⟨val, h⟩)
      · exact ⟨[w], h, by simp [w]⟩
      · exact ⟨[w, fill val], by simpa [ofRead] using h, by simp [w]⟩
    refine .bind (recording_read t _ _) (fun f => .ite (fun hfull s h => ?_) fun hroom => ?_)
      (fun _ s h => ?_) fun s h => ?_
    · refine ⟨[w, fill f], by simpa [ofRead] using h, by simp [w], fun _ => ?_⟩
      obtain rfl : f = 64 := UInt8.toNat_inj.mp (by
        change f.toNat = 64
        omega)
      exact .full hmore
    · refine (ih _ _ _).conseq (fun _ h => h) fun o s h => ?_
      obtain ⟨ev, hlog, hev, hok⟩ := h
      refine ⟨w :: fill f :: ev, by simpa [ofRead] using hlog, by simp [w, hev], fun ho => ?_⟩
      exact .more hmore (by omega) (hok ho)
    · obtain ⟨ev, hlog, hev⟩ := hread s h
      exact ⟨ev, hlog, hev, nofun⟩
    · obtain ⟨ev, hlog, hev⟩ := hread s h
      exact ⟨ev, hlog, hev, nofun⟩

def Recorded (tx : Mem UInt8) (txLen : UInt8) (log : List FifoEvent) : Prop :=
  waiting ∉ log ∨ ∃ ev rest, log = ev ++ waiting :: rest ∧ waiting ∉ ev ∧ sent rest = [] ∧
    Refilled tx txLen.toNat 0 (min 64 txLen.toNat : Nat) ev

theorem recording_keeps_waiting (ev : List FifoEvent) (regs : List UInt8) :
    t.recording.toBus.Keeps regs fun s => ∃ rest, s.2 = ev ++ waiting :: rest ∧ sent rest = [] where
  regWrite reg _ val s h := h
  regRead reg := by
    rintro ⟨s, _⟩ ⟨rest, rfl, hrest⟩
    rw [recording_regRead_run]
    refine ⟨rest ++ ofRead reg (t.readReg reg s).1.2, by simp, ?_⟩
    have : sent (ofRead reg (t.readReg reg s).1.2) = [] := by
      unfold ofRead
      split_ifs <;> rfl
    rw [sent, List.flatMap_append, ← sent, ← sent, hrest, this, List.append_nil]

theorem recording_regRead_silent (P : List FifoEvent → Prop) (reg : UInt8)
    (hf : reg ≠ regFifoLength) (hi : reg ≠ regInterruptEn) :
    Exec.Keeps (fun s => P s.2) (t.recording.regRead reg) := by
  rintro ⟨s, log⟩ h
  rw [recording_regRead_run, ofRead, if_neg hf, if_neg hi, List.append_nil]
  exact h

def Waited (ev log : List FifoEvent) : Prop := ∃ rest, log = ev ++ waiting :: rest ∧ sent rest = []

theorem wait_recorded (fuel : Nat) (ev : List FifoEvent) :
    Triple (fun s => s.2 = ev) (rc632WaitIdleTimer t.recording.toBus fuel) fun o s =>
      Waited ev s.2 ∨ o ≠ .ok () ∧ s.2 = ev := by
  have hkeep : t.recording.toBus.Keeps [regInterruptRq, regInterruptEn] fun s => Waited ev s.2 :=
    recording_keeps_waiting t ev _
  refine .bind (recording_read t ev regInterruptEn) (fun irq => ?_) ?_ ?_
  · refine .bind ((hkeep.write (by decide) _).pre fun s h => ⟨[], h, rfl⟩) (fun _ => ?_)
      (fun _ _ => .inl) fun _ => .inl
    exact (rc632WaitIdleLoop_keeps
      ⟨fun reg h => hkeep.regWrite reg (by simp_all), hkeep.regRead⟩ fuel).post fun _ _ => .inl
  · rintro _ s (h | ⟨val, h⟩)
    · exact .inr ⟨nofun, h⟩
    · exact .inl ⟨[], h, rfl⟩
  · rintro s (h | ⟨val, h⟩)
    · exact .inr ⟨nofun, h⟩
    · exact .inl ⟨[], h, rfl⟩

theorem waitRead_recorded (fuel : Nat) {tx : Mem UInt8} {txLen : UInt8} {ev : List FifoEvent}
    (hev : waiting ∉ ev) (h : Refilled tx txLen.toNat 0 (min 64 txLen.toNat : Nat) ev) :
    Triple (fun s => s.2 = ev)
      (rc632WaitIdleTimer t.recording.toBus fuel >>= fun _ => t.recording.read regFifoLength)
      fun _ s => Recorded tx txLen s.2 := by
  have hend : ∀ s : σ × List FifoEvent, Waited ev s.2 → Recorded tx txLen s.2 :=
    fun s ⟨rest, hlog, hrest⟩ => .inr ⟨ev, rest, hlog, hev, hrest, h⟩
  have hread : Exec.Keeps (fun s : σ × List FifoEvent => Waited ev s.2)
      (t.recording.read regFifoLength) := (recording_keeps_waiting t ev []).read _
  refine .bind (wait_recorded t fuel ev) (fun _ => ?_) ?_ ?_
  · exact hread.conseq (fun s h => h.resolve_right fun h => h.1 rfl) fun _ => hend
  · exact fun _ s h => h.elim (hend s) fun h => .inl (h.2 ▸ hev)
  · exact fun s h => h.elim (hend s) fun h => .inl (h.2 ▸ hev)

theorem exchange_recorded (undef : UInt8) (fuel : Nat) (tx : Mem UInt8) (txLen : UInt8)
    (timer : Nat) :
    Triple (fun s => s.2 = []) (rc632Exchange t.recording undef fuel tx txLen timer) fun _ s =>
      Recorded tx txLen s.2 := by
  have hnil : ∀ s : σ × List FifoEvent, s.2 = [] → Recorded tx txLen s.2 := fun s h =>
    .inl (by simp [h])
  have hcur : (if txLen > 64 then 64 else txLen.toNat) = min 64 txLen.toNat := by
    have : txLen > 64 ↔ 64 < txLen.toNat := UInt8.lt_iff_toNat_lt
    split_ifs with h <;> rw [this] at h <;> omega
  refine .bind (recording_regWrite t [] _ _) (fun _ => ?_) (fun _ => hnil) hnil
  refine .bind (recording_regWrite t [] _ _) (fun _ => ?_) (fun _ => hnil) hnil
  refine .bind (recording_regRead_silent t (· = []) _ (by decide) (by decide)) (fun _ => ?_)
    (fun _ => hnil) hnil
  refine .bind (recording_regRead_silent t (· = []) _ (by decide) (by decide)) (fun _ => ?_)
    (fun _ => hnil) hnil
  refine .bind (rc632TimerSet_keeps (fun _ _ _ => recording_regWrite t [] _ _) _ _) (fun _ => ?_)
    (fun _ => hnil) hnil
  refine .bind (transmitLoop_refilled t [] tx txLen fuel _ _) (fun _ => ?_) ?_ ?_
  · rintro s ⟨ev, h, hev, hok⟩
    rw [hcur] at hok
    exact waitRead_recorded t fuel hev (hok rfl) s h
  · rintro _ s ⟨ev, h, hev, -⟩
    exact .inl (by simpa [h] using hev)
  · rintro s ⟨ev, h, hev, -⟩
    exact .inl (by simpa [h] using hev)

theorem transceive_recorded (undef : UInt8) (fuel : Nat) (tx : Mem UInt8) (txLen rxLen : UInt8)
    (timer : Nat) :
    Triple (fun s => s.2 = []) (rc632Transceive t.recording undef fuel tx txLen rxLen timer)
      fun _ s => Recorded tx txLen s.2 := by
  have hread := recording_regRead_silent t (Recorded tx txLen)
  refine .bind (.attempt_const (exchange_recorded t undef fuel tx txLen timer)) (fun o => ?_)
    (fun _ _ h => h) fun _ h => h
  cases o with
  | error ret => exact Exec.Keeps.pure _
  | ok rxAvail =>
    refine Exec.Keeps.ite (fun _ => ?_) fun _ => Exec.Keeps.bind (fun _ h => h) fun _ => .pure _
    exact .bind (hread _ (by decide) (by decide)) fun _ =>
      .bind (hread _ (by decide) (by decide)) fun _ =>
      .bind (hread _ (by decide) (by decide)) fun _ => .pure _

theorem abTransceive_recorded (undef : UInt8) (fuel : Nat) (frametype : RfidFrametype)
    (tx : Mem UInt8) (txLen : Nat) (rx : Mem UInt8) (rxLen timeout : Nat) :
    Triple (fun s => s.2 = [])
      (rc632Iso14443abTransceive (t.recording.asic undef fuel) frametype tx txLen rx rxLen timeout)
      fun _ s => Recorded tx (UInt8.ofNat txLen) s.2 := by
  have hnil : ∀ s : σ × List FifoEvent, s.2 = [] → Recorded tx (UInt8.ofNat txLen) s.2 :=
    fun s h => .inl (by simp [h])
  unfold rc632Iso14443abTransceive
  cases channelRed frametype with
  | none => exact fun s => hnil s
  | some red =>
    refine .bind (.attempt_const (write_keeps (recording_regWrite t [] _) red)) (fun o => ?_)
      (fun _ => hnil) hnil
    cases o with
    | error ret => exact fun s => hnil s
    | ok _ =>
      exact .bind (transceive_recorded t undef fuel tx (UInt8.ofNat txLen) _ timeout)
        (fun _ _ h => h) (fun _ _ h => h) fun _ h => h

/-- When the transmit loop is left without an error, the chunks are the frame exactly when
the length survives its narrowing to a byte and the fill levels add up. -/
theorem abTransceive_sent_iff (undef : UInt8) (fuel : Nat) (frametype : RfidFrametype)
    (tx : Mem UInt8) (txLen : Nat) (rx : Mem UInt8) (rxLen timeout : Nat) (s : σ) :
    let log := (rc632Iso14443abTransceive (t.recording.asic undef fuel) frametype tx txLen rx rxLen
      timeout (s, [])).2.2
    waiting ∈ log → (∀ n ∈ fills log, n ≤ 64) →
      (sent log = tx.load 0 txLen ↔ txLen < 256 ∧ RefillsExactly (txLen - 64) (fills log)) := by
  intro log hleft hfills
  obtain ⟨ev, rest, hlog, hev, hrest, href⟩ :=
    (abTransceive_recorded t undef fuel frametype tx txLen rx rxLen timeout (s, []) rfl).resolve_left
      (not_not_intro hleft)
  replace hlog : log = ev ++ waiting :: rest := hlog
  have hsent : sent log = sent ev := by
    rw [hlog, sent_append]
    exact (congrArg (sent ev ++ ·) hrest).trans (List.append_nil _)
  have hfills' : fills log = fills ev := by rw [hlog, fills_append_waiting hev]
  rw [hfills'] at hfills ⊢
  obtain ⟨n, hn, hle, hiff⟩ := href.sent_eq (by omega) (by omega) hfills
  have hload : tx.load 0 n = tx.load 0 txLen ↔ n = txLen :=
    ⟨fun h => by simpa using congrArg List.length h, fun h => by rw [h]⟩
  have hnarrow : (UInt8.ofNat txLen).toNat = txLen % 256 := UInt8.toNat_ofNat'
  rw [hsent, hn, hload]
  rw [hnarrow] at hle hiff
  by_cases hlt : txLen < 256
  · rw [Nat.mod_eq_of_lt hlt] at hiff
    have hrem : (txLen - (0 + (min 64 txLen : Nat)) : Int).toNat = txLen - 64 := by omega
    rw [hrem] at hiff
    constructor
    · intro h
      exact ⟨hlt, (hiff.mp (by omega)).2⟩
    · rintro ⟨-, h⟩
      have := hiff.mpr ⟨by omega, h⟩
      omega
  · have : txLen % 256 + 256 ≤ txLen := by omega
    constructor <;> omega

end Recording

def scriptedFifo : Transport (List UInt8) where
  writeReg _ _ := fun fills => (0, fills)
  readReg reg := fun fills =>
    if reg = regFifoLength then ((0, fills.headD 0), fills.tail) else ((0, 0), fills)
  writeFifo _ _ := fun fills => (0, fills)
  readFifo len := fun fills => ((0, List.replicate len.toNat 0), fills)

def countingFrame : Mem UInt8 := fun p => UInt8.ofNat p.toNat

theorem abTransceive_sent_iff_frame70 :
    let log := (rc632Iso14443abTransceive (scriptedFifo.recording.asic 0 3)
      .iso14443aFrameRegular countingFrame 70 (fun _ => 0) 8 1000 ([58, 2], [])).2.2
    sent log = countingFrame.load 0 70 ↔ 70 < 256 ∧ RefillsExactly (70 - 64) (fills log) :=
  abTransceive_sent_iff scriptedFifo 0 3 .iso14443aFrameRegular countingFrame 70 (fun _ => 0) 8 1000
    [58, 2] (by decide) (by decide)

/-- Of a frame of 256 bytes nothing is sent, and success is reported. -/
theorem abTransceive_sends_nothing :
    let out := rc632Iso14443abTransceive (scriptedFifo.recording.asic 0 3)
      .iso14443aFrameRegular countingFrame 256 (fun _ => 0) 8 1000 ([2], [])
    waiting ∈ out.2.2 ∧ sent out.2.2 ≠ countingFrame.load 0 256 ∧
      ∃ res, out.1 = .ok res ∧ res.ret = 0 := by
  refine ⟨by decide, fun h => ?_, _, rfl, rfl⟩
  have := congrArg List.length h
  rw [Mem.length_load] at this
  exact absurd this (by decide)

end Librfid.Rc632
