import Librfid.Ccid.Escape

namespace Librfid.Ccid

open Exec Rc632

structure Escaped where
  seqno : Nat
  rc : Int
  result : List UInt8

def escapes {κ : Type} (d : UsbDevice κ) (fuel : Nat) :
    List (List UInt8 × Nat) → Exec (κ × Nat) (List Escaped)
  | [] => pure []
  | (data, resultmax) :: cmds => do
    let seqno ← get
    let (rc, result) ← sendEscapeCmd d fuel data resultmax
    let rs ← escapes d fuel cmds
    pure (⟨seqno, rc, result⟩ :: rs)

theorem escapes_cons {κ : Type} {d : UsbDevice κ} {fuel n : Nat} {c : List UInt8 × Nat}
    {cmds : List (List UInt8 × Nat)} {w : κ} {s s' : κ × Nat} {rc : Int} {result : List UInt8}
    {rs : List Escaped} (hcmd : sendEscapeCmd d fuel c.1 c.2 (w, n) = (.ok (rc, result), s))
    (hrun : escapes d fuel cmds s = (.ok rs, s')) :
    escapes d fuel (c :: cmds) (w, n) = (.ok (⟨n, rc, result⟩ :: rs), s') := by
  have hget : (get : Exec (κ × Nat) Nat) (w, n) = (.ok n, (w, n)) := rfl
  rw [escapes, bind_ok hget, bind_ok hcmd]
  dsimp only
  rw [bind_ok hrun]
  rfl

/-- A reader whose messages may be lost, doubled, swapped and late: all that is known of one is that it
answers one of the last 256 messages and has its number.  `log` has the messages sent so far. -/
structure Pipe {κ : Type} (d : UsbDevice κ) (log : κ → List (List UInt8))
    (Answers : Nat → List UInt8 → Prop) : Prop where
  sent : ∀ msg w, log (d.bulkWrite msg w).2 = log w ++ [msg]
  quiet : ∀ w, log (d.bulkRead w).2 = log w
  recent : ∀ w, 0 ≤ (d.bulkRead w).1.ret → 10 ≤ (d.bulkRead w).1.bytes.length → ∃ k msg,
    (log w)[k]? = some msg ∧ (log w).length ≤ k + 256 ∧
      (d.bulkRead w).1.bytes.getD 6 0 = msg.getD 6 0 ∧ Answers k (d.bulkRead w).1.bytes

structure Numbered (log : List (List UInt8)) (n : Nat) : Prop where
  length : log.length = n
  number : ∀ k msg, log[k]? = some msg → msg.getD 6 0 = UInt8.ofNat k

theorem Numbered.snoc {log : List (List UInt8)} {n : Nat} (h : Numbered log n) (data : List UInt8) :
    Numbered (log ++ [escapeMsg (UInt8.ofNat n) data]) (n + 1) where
  length := by rw [List.length_append, h.length, List.length_singleton]
  number k msg hk := by
    rcases Nat.lt_or_ge k log.length with hlt | hge
    · rw [List.getElem?_append_left hlt] at hk
      exact h.number k msg hk
    · rw [List.getElem?_append_right hge, List.getElem?_singleton] at hk
      split_ifs at hk with hzero
      cases hk
      rw [← h.length, Nat.le_antisymm hge (Nat.le_of_sub_eq_zero hzero)]
      rfl

theorem ofNat_inj_of_lt {k n : Nat} (hk : k ≤ n) (hn : n < k + 256) (h : UInt8.ofNat k = UInt8.ofNat n) :
    k = n := by
  have hmod : k % 2 ^ 8 = n % 2 ^ 8 := congrArg UInt8.toNat h
  omega

section

variable {κ : Type} {d : UsbDevice κ} {log : κ → List (List UInt8)} {Answers : Nat → List UInt8 → Prop}
  (h : Pipe d log Answers)

include h

/-- Only the answer to the last message is accepted. -/
theorem bulkIn_own {fuel n : Nat} {w w' : κ} {rc : Int} {msg : List UInt8}
    (hlog : Numbered (log w) (n + 1))
    (hrun : bulkIn d msgRdrToPcEscape (UInt8.ofNat n) fuel w = (.ok (rc, msg), w')) :
    log w' = log w ∧ (Ignored rc → Answers n msg) := by
  induction fuel generalizing w with
  | zero => cases hrun
  | succ fuel ih =>
    rcases hread : d.bulkRead w with ⟨x, w₁⟩
    have hquiet := h.quiet w
    rw [hread] at hquiet
    by_cases hret : x.ret < 0
    · rw [bulkIn_error fuel hread hret] at hrun
      cases hrun
      exact ⟨hquiet, fun hrc => absurd hrc (by decide)⟩
    · by_cases hacc : Accepted msgRdrToPcEscape (UInt8.ofNat n) x.bytes
      · rw [bulkIn_accepted fuel hread (Int.not_lt.mp hret) hacc] at hrun
        split_ifs at hrun
        · obtain ⟨hlog', hans⟩ := ih (hquiet.symm ▸ hlog) hrun
          exact ⟨hlog'.trans hquiet, hans⟩
        · cases hrun
          refine ⟨hquiet, fun _ => ?_⟩
          have hrecent := h.recent w
          rw [hread] at hrecent
          obtain ⟨k, msg, hk, hage, hnumber, hans⟩ := hrecent (Int.not_lt.mp hret) hacc.length
          have hlt : k < (log w).length := (List.getElem?_eq_some_iff.mp hk).1
          rw [hlog.length] at hlt hage
          have heq : k = n := ofNat_inj_of_lt (Nat.le_of_lt_succ hlt) (by omega)
            ((hlog.number k msg hk).symm.trans (hnumber.symm.trans hacc.number))
          exact heq ▸ hans
      · rw [bulkIn_rejected fuel hread (Int.not_lt.mp hret) hacc] at hrun
        cases hrun
        exact ⟨hquiet, fun hrc => absurd hrc (by decide)⟩

theorem sendEscapeCmd_own {fuel resultmax n n' : Nat} {data result : List UInt8} {w w' : κ} {rc : Int}
    (hlog : Numbered (log w) n)
    (hrun : sendEscapeCmd d fuel data resultmax (w, n) = (.ok (rc, result), (w', n'))) :
    Numbered (log w') n' ∧ log w <+: log w' ∧
      (rc = 0 → result ≠ [] → (log w')[n]? = some (escapeMsg (UInt8.ofNat n) data) ∧
        ∃ msg, Answers n msg ∧ result = msg.drop 10) := by
  have hinval : ccidDriverErrInvValue ≠ 0 := by decide
  unfold sendEscapeCmd at hrun
  split_ifs at hrun with hlong
  · cases hrun
    exact ⟨hlog, List.prefix_rfl, fun hrc => absurd hrc hinval⟩
  · obtain ⟨seqno, s₁, hget, hrun⟩ := of_bind_ok hrun
    cases hget
    obtain ⟨_, s₁, hnext, hrun⟩ := of_bind_ok hrun
    cases hnext
    obtain ⟨rc₁, s₁, hout, hrun⟩ := of_bind_ok hrun
    obtain ⟨w₁, hwrite, rfl⟩ := of_lift_ok hout
    have hsent : log w₁ = log w ++ [escapeMsg (UInt8.ofNat n) data] := by
      have hw : w₁ = (d.bulkWrite (escapeMsg (UInt8.ofNat n) data) w).2 := by
        cases hwrite
        rfl
      rw [hw, h.sent]
    have hlog₁ := hsent ▸ hlog.snoc data
    have hown : (log w₁)[n]? = some (escapeMsg (UInt8.ofNat n) data) := by
      rw [hsent, ← hlog.length, List.getElem?_concat_length]
    have hgrown : log w <+: log w₁ := hsent ▸ List.prefix_append _ _
    split_ifs at hrun with hrc₁
    · cases hrun
      exact ⟨hlog₁, hgrown, fun hrc => absurd hrc hrc₁⟩
    · obtain ⟨⟨rc₂, msg⟩, s₂, hin, hrun⟩ := of_bind_ok hrun
      obtain ⟨w₂, hread, rfl⟩ := of_lift_ok hin
      obtain ⟨hquiet, hans⟩ := bulkIn_own h hlog₁ hread
      rw [← hquiet] at hlog₁ hgrown hown
      dsimp only at hrun
      split_ifs at hrun with hrc₂ hfits
      · cases hrun
        exact ⟨hlog₁, hgrown, fun _ hne => absurd rfl hne⟩
      · cases hrun
        exact ⟨hlog₁, hgrown, fun _ _ => ⟨hown, msg, hans hrc₂, rfl⟩⟩
      · cases hrun
        exact ⟨hlog₁, hgrown, fun _ hne => absurd rfl hne⟩

theorem escapes_own_from {fuel n n' : Nat} {cmds : List (List UInt8 × Nat)} {w w' : κ}
    {rs : List Escaped} (hlog : Numbered (log w) n)
    (hrun : escapes d fuel cmds (w, n) = (.ok rs, (w', n'))) :
    log w <+: log w' ∧ List.Forall₂ (fun c r => r.rc = 0 → r.result ≠ [] →
      (log w')[r.seqno]? = some (escapeMsg (UInt8.ofNat r.seqno) c.1) ∧
        ∃ msg, Answers r.seqno msg ∧ r.result = msg.drop 10) cmds rs := by
  induction cmds generalizing w n rs with
  | nil =>
    cases hrun
    exact ⟨List.prefix_rfl, .nil⟩
  | cons c cmds ih =>
    obtain ⟨seqno, s₁, hget, hrun⟩ := of_bind_ok hrun
    cases hget
    obtain ⟨⟨rc, result⟩, ⟨w₁, n₁⟩, hcmd, hrun⟩ := of_bind_ok hrun
    obtain ⟨rs', s₂, hcmds, hrun⟩ := of_bind_ok hrun
    cases hrun
    obtain ⟨hlog₁, hgrown, hown⟩ := sendEscapeCmd_own h hlog hcmd
    obtain ⟨hgrown', hrest⟩ := ih hlog₁ hcmds
    refine ⟨hgrown.trans hgrown', .cons (fun hrc hne => ?_) hrest⟩
    obtain ⟨hlogged, hmsg⟩ := hown hrc hne
    have hlt := (List.getElem?_eq_some_iff.mp hlogged).1
    rw [List.getElem?_eq_getElem hlt] at hlogged
    exact ⟨(List.prefix_iff_getElem?.mp hgrown' _ hlt).trans hlogged, hmsg⟩

/-- From the moment the reader was opened: what a command gives was sent in answer to it, and not to an
earlier one. -/
theorem escapes_own {fuel n : Nat} {cmds : List (List UInt8 × Nat)} {w w' : κ} {rs : List Escaped}
    (hlog : log w = []) (hrun : escapes d fuel cmds (w, 0) = (.ok rs, (w', n))) :
    List.Forall₂ (fun c r => r.rc = 0 → r.result ≠ [] →
      (log w')[r.seqno]? = some (escapeMsg (UInt8.ofNat r.seqno) c.1) ∧
        ∃ msg, Answers r.seqno msg ∧ r.result = msg.drop 10) cmds rs := by
  refine (escapes_own_from h ⟨by rw [hlog]; rfl, fun k msg hk => ?_⟩ hrun).2
  rw [hlog] at hk
  cases hk

end

theorem eTimedOut_neg : -eTimedOut < 0 := by decide

def gaveUp : Reply := .error (-eTimedOut) eTimedOut_neg

def answerTo (log : List (List UInt8)) (k : Nat) : List UInt8 :=
  [msgRdrToPcEscape, 2, 0, 0, 0, 0, (log.getD k []).getD 6 0, 0, 0, 0] ++ [0x00, UInt8.ofNat k]

def oneBehind : UsbDevice (List (List UInt8)) where
  bulkWrite msg log := (msg.length, log ++ [msg])
  bulkRead log :=
    if log = [] then (gaveUp, log)
    else (.received (answerTo log (log.length - 2)), log)

theorem oneBehind_bulkRead (log : List (List UInt8)) : oneBehind.bulkRead log =
    if log = [] then (gaveUp, log)
    else (.received (answerTo log (log.length - 2)), log) := rfl

theorem oneBehind_pipe : Pipe oneBehind id fun k msg => msg.drop 10 = [0x00, UInt8.ofNat k] where
  sent _ _ := rfl
  quiet log := by
    rw [oneBehind_bulkRead]
    split_ifs <;> rfl
  recent log hret _ := by
    by_cases hnil : log = []
    · rw [oneBehind_bulkRead, if_pos hnil] at hret
      exact absurd hret (Int.not_le.mpr eTimedOut_neg)
    · have hpos : 0 < log.length := List.length_pos_iff.mpr hnil
      have hlt : log.length - 2 < log.length := by omega
      have hage : log.length ≤ log.length - 2 + 256 := by omega
      rw [oneBehind_bulkRead, if_neg hnil]
      refine ⟨log.length - 2, log[log.length - 2], List.getElem?_eq_getElem hlt, hage, ?_, rfl⟩
      rw [← List.getD_eq_getElem _ [] hlt]
      rfl

theorem escapes_own_oneBehind :
    List.Forall₂ (fun (c : List UInt8 × Nat) (r : Escaped) => r.rc = 0 → r.result ≠ [] →
        ([escapeMsg 0 [0x01], escapeMsg 1 [0x01]] : List (List UInt8))[r.seqno]? =
            some (escapeMsg (UInt8.ofNat r.seqno) c.1) ∧
          ∃ msg : List UInt8, msg.drop 10 = [0x00, UInt8.ofNat r.seqno] ∧ r.result = msg.drop 10)
      [([0x01], 8), ([0x01], 8)] [⟨0, 0, [0x00, 0x00]⟩, ⟨1, ccidDriverErrInvValue, []⟩] :=
  have hrun : escapes oneBehind 1 [([0x01], 8), ([0x01], 8)] ([], 0) =
      (.ok [⟨0, 0, [0x00, 0x00]⟩, ⟨1, ccidDriverErrInvValue, []⟩],
        ([escapeMsg 0 [0x01], escapeMsg 1 [0x01]], 2)) := rfl
  escapes_own oneBehind_pipe rfl hrun

end Librfid.Ccid
