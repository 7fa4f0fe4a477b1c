import Librfid.Ccid.Late

namespace Librfid.Rc632

open Exec Ccid

/-- Some answers wait until the driver has given up, and arrive before the next message is sent.  `plan`
says which do, from the next message on. -/
structure Slow (φ : Type) where
  firmware : φ
  queue : List (List UInt8)
  held : Option (List UInt8)
  plan : List Bool

namespace Slow

variable {φ : Type}

def late (w : Slow φ) : Bool := w.plan.headD false

def pending (w : Slow φ) : List (List UInt8) := w.queue ++ w.held.toList

end Slow

section

variable {φ : Type} (serve : List UInt8 → φ → List UInt8 × φ)

def slow : UsbDevice (Slow φ) where
  bulkWrite msg w :=
    (msg.length,
      if w.late then ⟨(serve msg w.firmware).2, w.pending, some (serve msg w.firmware).1, w.plan.tail⟩
      else ⟨(serve msg w.firmware).2, w.pending ++ [(serve msg w.firmware).1], none, w.plan.tail⟩)
  bulkRead w :=
    match w.queue with
    | [] => (gaveUp, w)
    | msg :: queue => (.received msg, ⟨w.firmware, queue, w.held, w.plan⟩)

def served : List (List UInt8) → φ → List (List UInt8)
  | [], _ => []
  | msg :: msgs, fw => (serve msg fw).1 :: served msgs (serve msg fw).2

/-- With an answer still under way, a message is followed by that one. -/
theorem slow_behind {w : Slow φ} {reply : List UInt8} (h : w.pending = [reply]) (msg : List UInt8) :
    ∃ w', (slow serve).bulkRead ((slow serve).bulkWrite msg w).2 = (.received reply, w') ∧
      w'.firmware = (serve msg w.firmware).2 ∧ w'.pending = [(serve msg w.firmware).1] ∧
      w'.plan = w.plan.tail := by
  by_cases hlate : w.late
  · exact ⟨⟨(serve msg w.firmware).2, [], some (serve msg w.firmware).1, w.plan.tail⟩,
      by simp only [slow, if_pos hlate, h], rfl, rfl, rfl⟩
  · exact ⟨⟨(serve msg w.firmware).2, [(serve msg w.firmware).1], none, w.plan.tail⟩,
      by simp only [slow, if_neg hlate, h]; rfl, rfl, rfl, rfl⟩

theorem slow_on_time {w : Slow φ} (h : w.pending = []) (hlate : ¬ w.late) (msg : List UInt8) :
    ∃ w', (slow serve).bulkRead ((slow serve).bulkWrite msg w).2 =
        (.received (serve msg w.firmware).1, w') ∧
      w'.firmware = (serve msg w.firmware).2 ∧ w'.pending = [] ∧ w'.plan = w.plan.tail :=
  ⟨⟨(serve msg w.firmware).2, [], none, w.plan.tail⟩,
    by simp only [slow, if_neg hlate, h]; rfl, rfl, rfl, rfl⟩

theorem slow_late {w : Slow φ} (h : w.pending = []) (hlate : w.late) (msg : List UInt8) :
    ∃ w', (slow serve).bulkRead ((slow serve).bulkWrite msg w).2 = (gaveUp, w') ∧
      w'.firmware = (serve msg w.firmware).2 ∧ w'.pending = [(serve msg w.firmware).1] ∧
      w'.plan = w.plan.tail :=
  ⟨⟨(serve msg w.firmware).2, [], some (serve msg w.firmware).1, w.plan.tail⟩,
    by simp only [slow, if_pos hlate, h], rfl, rfl, rfl⟩

end

section Openpcd

structure OpenpcdCmd where
  cmd : UInt8
  reg : UInt8
  val : UInt8
  data : List UInt8

def OpenpcdCmd.frame (c : OpenpcdCmd) : List UInt8 := [c.cmd, openpcdFlagRespond, c.reg, c.val] ++ c.data

def openpcdXcvs {υ : Type} (d : UsbDevice υ) : List OpenpcdCmd → Exec υ (List Reply)
  | [] => pure []
  | c :: cmds => do
    let x ← openpcdXcv d c.cmd c.reg c.val c.data
    let xs ← openpcdXcvs d cmds
    pure (x :: xs)

variable {φ : Type} (serve : List UInt8 → φ → List UInt8 × φ)

def shiftedReplies : List (List UInt8) → List Bool → φ → List Reply
  | [], _, _ => []
  | msg :: msgs, plan, fw =>
    if plan.headD false then
      gaveUp :: (served serve (msg :: msgs) fw).dropLast.map .received
    else .received (serve msg fw).1 :: shiftedReplies msgs plan.tail (serve msg fw).2

variable {serve}

theorem openpcdXcv_slow {w w' : Slow φ} {x : Reply} (c : OpenpcdCmd)
    (h : (slow serve).bulkRead ((slow serve).bulkWrite c.frame w).2 = (x, w')) :
    openpcdXcv (slow serve) c.cmd c.reg c.val c.data w = (.ok x, w') := by
  have hsend : openpcdSendCommand (slow serve) c.cmd c.reg c.val c.data w =
      (.ok ((c.frame.length : Nat) : Int), ((slow serve).bulkWrite c.frame w).2) := rfl
  have hlong : ¬ ((c.frame.length : Nat) : Int).toNat < openpcdHdr := by
    rw [Int.toNat_natCast, OpenpcdCmd.frame, List.length_append]
    exact Nat.not_lt.mpr (Nat.le_add_right 4 _)
  rw [openpcdXcv, bind_ok hsend, dif_neg (Int.not_lt.mpr (Int.natCast_nonneg _)), if_neg hlong, step, h]

theorem openpcdXcvs_behind {cmds : List OpenpcdCmd} {w : Slow φ} {reply : List UInt8}
    (h : w.pending = [reply]) :
    ∃ w', openpcdXcvs (slow serve) cmds w = (.ok ((reply :: served serve (cmds.map OpenpcdCmd.frame)
      w.firmware).dropLast.map .received), w') := by
  induction cmds generalizing w reply with
  | nil => exact ⟨w, rfl⟩
  | cons c cmds ih =>
    obtain ⟨w₁, hread, hfw, hpending, -⟩ := slow_behind serve h c.frame
    obtain ⟨w', hrun⟩ := ih hpending
    rw [hfw] at hrun
    exact ⟨w', by rw [openpcdXcvs, bind_ok (openpcdXcv_slow c hread), bind_ok hrun]; rfl⟩

theorem openpcdXcvs_slow {cmds : List OpenpcdCmd} {w : Slow φ} (h : w.pending = []) :
    ∃ w', openpcdXcvs (slow serve) cmds w =
      (.ok (shiftedReplies serve (cmds.map OpenpcdCmd.frame) w.plan w.firmware), w') := by
  induction cmds generalizing w with
  | nil => exact ⟨w, rfl⟩
  | cons c cmds ih =>
    by_cases hlate : w.late
    · obtain ⟨w₁, hread, hfw, hpending, -⟩ := slow_late serve h hlate c.frame
      obtain ⟨w', hrun⟩ := openpcdXcvs_behind hpending
      rw [hfw] at hrun
      refine ⟨w', ?_⟩
      rw [openpcdXcvs, bind_ok (openpcdXcv_slow c hread), bind_ok hrun, List.map_cons, shiftedReplies,
        if_pos (show w.plan.headD false = true from hlate)]
      rfl
    · obtain ⟨w₁, hread, hfw, hpending, hplan⟩ := slow_on_time serve h hlate c.frame
      obtain ⟨w', hrun⟩ := ih hpending
      rw [hfw, hplan] at hrun
      refine ⟨w', ?_⟩
      rw [openpcdXcvs, bind_ok (openpcdXcv_slow c hread), bind_ok hrun, List.map_cons, shiftedReplies,
        if_neg (show ¬ w.plan.headD false = true from hlate)]
      rfl

end Openpcd

section Cm5121

variable {φ : Type} (f : List UInt8 → φ → List UInt8 × φ)

def escapeServe (msg : List UInt8) (fw : φ) : List UInt8 × φ :=
  ([msgRdrToPcEscape, 0, 0, 0, 0, 0, msg.getD 6 0, 0, 0, 0] ++ (f (msg.drop 10) fw).1,
    (f (msg.drop 10) fw).2)

def refusedResults : List (List UInt8 × Nat) → List Bool → φ → List (Int × List UInt8)
  | [], _, _ => []
  | c :: cmds, plan, fw =>
    if plan.headD false then
      (ccidDriverErrCardIoError, []) :: cmds.map fun _ => (ccidDriverErrInvValue, [])
    else (0, (f c.1 fw).1) :: refusedResults cmds plan.tail (f c.1 fw).2

def executed (cmds : List (List UInt8 × Nat)) (fw : φ) : φ :=
  cmds.foldl (fun fw c => (f c.1 fw).2) fw

variable {f}

theorem escapeServe_response (n : Nat) (data : List UInt8) (fw : φ) :
    Response (UInt8.ofNat n) 0 (f data fw).1 (escapeServe f (escapeMsg (UInt8.ofNat n) data) fw).1 :=
  .mk 0 0 0 0 0 0

theorem sendEscapeCmd_behind {w : Slow φ} {reply data : List UInt8} {n : Nat} (fuel resultmax : Nat)
    (h : w.pending = [reply]) (hnumber : reply.getD 6 0 = UInt8.ofNat n)
    (hdata : data.length ≤ escapeMax) :
    ∃ w', sendEscapeCmd (slow (escapeServe f)) (fuel + 1) data resultmax (w, n + 1) =
        (.ok (ccidDriverErrInvValue, []), (w', n + 2)) ∧ w'.firmware = (f data w.firmware).2 ∧
      ∃ reply', w'.pending = [reply'] ∧ reply'.getD 6 0 = UInt8.ofNat (n + 1) := by
  obtain ⟨w', hread, hfw, hpending, -⟩ := slow_behind (escapeServe f) h
    (escapeMsg (UInt8.ofNat (n + 1)) data)
  have hother : ¬ Accepted msgRdrToPcEscape (UInt8.ofNat (n + 1)) reply := fun hacc => by
    have hmod : n % 2 ^ 8 = (n + 1) % 2 ^ 8 :=
      congrArg UInt8.toNat (hnumber.symm.trans hacc.number)
    omega
  exact ⟨w', sendEscapeCmd_failed resultmax hdata rfl
    (bulkIn_rejected fuel hread (Int.natCast_nonneg _) hother) (by decide), hfw, _, hpending, rfl⟩

theorem escapes_behind {cmds : List (List UInt8 × Nat)} {w : Slow φ} {reply : List UInt8} {n : Nat}
    (fuel : Nat) (h : w.pending = [reply]) (hnumber : reply.getD 6 0 = UInt8.ofNat n)
    (hcmds : ∀ c ∈ cmds, c.1.length ≤ escapeMax) :
    ∃ rs w' n', escapes (slow (escapeServe f)) (fuel + 1) cmds (w, n + 1) = (.ok rs, (w', n')) ∧
      rs.map (fun r => (r.rc, r.result)) = cmds.map (fun _ => (ccidDriverErrInvValue, [])) ∧
      w'.firmware = executed f cmds w.firmware := by
  induction cmds generalizing w reply n with
  | nil => exact ⟨[], w, n + 1, rfl, rfl, rfl⟩
  | cons c cmds ih =>
    rw [List.forall_mem_cons] at hcmds
    obtain ⟨w₁, hcmd, hfw, reply', hpending, hnumber'⟩ :=
      sendEscapeCmd_behind fuel c.2 h hnumber hcmds.1
    obtain ⟨rs, w', n', hrun, hrs, hfw'⟩ := ih hpending hnumber' hcmds.2
    refine ⟨_, w', n', escapes_cons hcmd hrun, ?_, ?_⟩
    · rw [List.map_cons, hrs, List.map_cons]
    · rw [hfw', hfw]
      rfl

theorem escapes_slow {cmds : List (List UInt8 × Nat)} {w : Slow φ} (fuel n : Nat) (h : w.pending = [])
    (hcmds : ∀ c ∈ cmds, c.1.length ≤ escapeMax ∧ ∀ fw, (f c.1 fw).1.length ≤ c.2) :
    ∃ rs w' n', escapes (slow (escapeServe f)) (fuel + 1) cmds (w, n) = (.ok rs, (w', n')) ∧
      rs.map (fun r => (r.rc, r.result)) = refusedResults f cmds w.plan w.firmware ∧
      w'.firmware = executed f cmds w.firmware := by
  induction cmds generalizing w n with
  | nil => exact ⟨[], w, n, rfl, rfl, rfl⟩
  | cons c cmds ih =>
    rw [List.forall_mem_cons] at hcmds
    by_cases hlate : w.late
    · obtain ⟨w₁, hread, hfw, hpending, -⟩ :=
        slow_late (escapeServe f) h hlate (escapeMsg (UInt8.ofNat n) c.1)
      have hcmd := sendEscapeCmd_failed c.2 hcmds.1.1 rfl
        (bulkIn_error fuel hread eTimedOut_neg) (by decide)
      obtain ⟨rs, w', n', hrun, hrs, hfw'⟩ := escapes_behind fuel hpending
        (escapeServe_response n c.1 w.firmware).accepted.1.number fun c hc => (hcmds.2 c hc).1
      refine ⟨_, w', n', escapes_cons hcmd hrun, ?_, ?_⟩
      · rw [List.map_cons, hrs, refusedResults, if_pos (show w.plan.headD false = true from hlate)]
      · rw [hfw', hfw]
        rfl
    · obtain ⟨w₁, hread, hfw, hpending, hplan⟩ :=
        slow_on_time (escapeServe f) h hlate (escapeMsg (UInt8.ofNat n) c.1)
      obtain ⟨_, hcmd, rfl⟩ := sendEscapeCmd_answered hcmds.1.1 (hcmds.1.2 w.firmware) (Nat.succ_pos fuel)
        rfl (.answer (P := fun w => w = w₁) hread (escapeServe_response n c.1 w.firmware) (by decide) rfl)
      obtain ⟨rs, w', n', hrun, hrs, hfw'⟩ := ih (n + 1) hpending hcmds.2
      refine ⟨_, w', n', escapes_cons hcmd hrun, ?_, ?_⟩
      · rw [List.map_cons, hrs, refusedResults, hfw, hplan,
          if_neg (show ¬ w.plan.headD false = true from hlate)]
        rfl
      · rw [hfw', hfw]
        rfl

end Cm5121

/-- An answer that comes late is not forgotten by either driver.  The OpenPCD's takes it for that of the
next command, and so on for ever.  The one for CCID sees that the number is wrong, and refuses it and all
that follow.  The reader executes what it is sent in both cases. -/
theorem late_answers {φ : Type} (serve f : List UInt8 → φ → List UInt8 × φ) {w : Slow φ}
    (h : w.pending = []) :
    (∀ cmds, ∃ w', openpcdXcvs (slow serve) cmds w =
      (.ok (shiftedReplies serve (cmds.map OpenpcdCmd.frame) w.plan w.firmware), w')) ∧
    ∀ (cmds : List (List UInt8 × Nat)) (fuel n : Nat),
      (∀ c ∈ cmds, c.1.length ≤ Ccid.escapeMax ∧ ∀ fw, (f c.1 fw).1.length ≤ c.2) →
      ∃ rs w' n', Ccid.escapes (slow (escapeServe f)) (fuel + 1) cmds (w, n) = (.ok rs, (w', n')) ∧
        rs.map (fun r => (r.rc, r.result)) = refusedResults f cmds w.plan w.firmware ∧
        w'.firmware = executed f cmds w.firmware :=
  ⟨fun _ => openpcdXcvs_slow h, fun _ fuel n hcmds => escapes_slow fuel n h hcmds⟩

theorem late_answers_second :
    (∃ w', openpcdXcvs (slow fun _ k => ([0, 0, 0, UInt8.ofNat k], k + 1))
        [⟨0x16, 0x01, 0, []⟩, ⟨0x16, 0x01, 0, []⟩, ⟨0x16, 0x01, 0, []⟩, ⟨0x16, 0x01, 0, []⟩]
        (⟨0, [], none, [false, true]⟩ : Slow Nat) =
      (.ok [.received [0, 0, 0, 0], gaveUp, .received [0, 0, 0, 1], .received [0, 0, 0, 2]], w')) ∧
    ∃ rs w' n', Ccid.escapes (slow (escapeServe fun _ k => ([0, UInt8.ofNat k], k + 1))) 1
        [([0x20], 8), ([0x20], 8), ([0x20], 8)] ((⟨0, [], none, [false, true]⟩ : Slow Nat), 0) =
        (.ok rs, (w', n')) ∧
      rs.map (fun r => (r.rc, r.result)) = [(0, [0, 0]), (Ccid.ccidDriverErrCardIoError, []),
        (Ccid.ccidDriverErrInvValue, [])] ∧ w'.firmware = 3 := by
  have h := @late_answers Nat (fun _ k => ([0, 0, 0, UInt8.ofNat k], k + 1))
    (fun _ k => ([0, UInt8.ofNat k], k + 1)) ⟨0, [], none, [false, true]⟩ rfl
  refine ⟨h.1 _, h.2 _ 0 0 fun c hc => ?_⟩
  simp only [List.mem_cons, List.not_mem_nil, or_false, or_self] at hc
  rw [hc]
  exact ⟨(by decide : 1 ≤ 90), fun _ => (by decide : 2 ≤ 8)⟩

end Librfid.Rc632
