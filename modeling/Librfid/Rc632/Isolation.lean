import Librfid.Rc632.Exchange
import Librfid.Rc632.Refill
import Librfid.Rc632.Config

namespace Librfid.Rc632

open Exec

structure Call where
  tx : Mem UInt8
  txLen : UInt8
  rxLen : UInt8
  timer : Nat
  exch : Exch

namespace Call

def frame (call : Call) : List UInt8 := call.tx.load 0 call.txLen.toNat

/-- The fill levels let the loop send the whole frame. -/
def Refills (call : Call) : Prop :=
  ∃ fs rest, call.exch.left = fs ++ rest ∧ RefillsExactly (call.txLen.toNat - 64) fs

def Ends (call : Call) (o : Except Int Unit) : Prop := ∃ n, call.exch.EndsAt n o

/-- The chip is found idle without an error, and there is room for the answer, or there is
none. -/
def Drains (call : Call) : Prop :=
  call.exch.answer = [] ∨ call.Ends (.ok ()) ∧ call.exch.answer.length ≤ call.rxLen.toNat

end Call

def runCalls (undef : UInt8) (fuel : Nat) : List Call → Exec Chip (List Xfer)
  | [] => pure []
  | call :: calls => do
    let x ← rc632Transceive chip undef fuel call.tx call.txLen call.rxLen call.timer
    let xs ← runCalls undef fuel calls
    pure (x :: xs)

theorem Exch.result_rx_prefix (e : Exch) (rxLen : UInt8) (o : Except Int Unit) :
    (e.result rxLen o).rx <+: e.answer := by
  cases o with
  | error => exact List.nil_prefix
  | ok =>
    by_cases h : e.answer = []
    · rw [Exch.result, if_pos h]
      exact List.nil_prefix
    · rw [Exch.result, if_neg h]
      exact List.take_prefix _ _

structure Filling (tx : Mem UInt8) (txLen : Nat) (e : Exch) (next : List Exch)
    (air : List (List UInt8)) (j : Nat) (k : Link) : Prop where
  phase : k.phase = .sending
  exch : k.exch = e
  next : k.next = next
  handed : ∃ s, k.air = air ++ [s] ∧ s ++ k.fifo = tx.load 0 j
  le : j ≤ txLen
  fits : k.fifo.length ≤ 64
  full : j < txLen → k.fifo.length = 64
  refills : ∃ fs rest, k.left = fs ++ rest ∧ RefillsExactly (txLen - j) fs

namespace Filling

variable {tx : Mem UInt8} {txLen : Nat} {e : Exch} {next : List Exch} {air : List (List UInt8)}

theorem start {k : Link} (hfifo : k.fifo = []) (hair : k.air = air) (hnext : k.next = e :: next)
    (hrefills : ∃ fs rest, e.left = fs ++ rest ∧ RefillsExactly (txLen - 64) fs) :
    Filling tx txLen e next air (min 64 txLen)
      ((k.writeCommand cmdIdle).sent tx 0 (min 64 txLen)) := by
  have hload : (tx.load 0 (min 64 txLen)).take fifoSize = tx.load 0 (min 64 txLen) :=
    List.take_of_length_le (by rw [Mem.length_load]; exact Nat.min_le_left _ _)
  have hcmd : ¬ cmdIdle = cmdTransceive := by decide
  have hk : (k.writeCommand cmdIdle).sent tx 0 (min 64 txLen) =
      { k with
        fifo := tx.load 0 (min 64 txLen), left := e.left, phase := .sending, air := air ++ [[]]
        exch := e, next := next } := by
    simp [Link.sent, Link.writeCommand, hcmd, hnext, Link.push, hfifo, hair, hload]
  rw [hk]
  have hrem : txLen - min 64 txLen = txLen - 64 := by omega
  exact {
    phase := rfl
    exch := rfl
    next := rfl
    handed := ⟨[], rfl, rfl⟩
    le := Nat.min_le_right _ _
    fits := (Mem.length_load tx 0 (min 64 txLen)).trans_le (Nat.min_le_left 64 txLen)
    full := fun h => by simp; omega
    refills := by rwa [hrem] }

theorem refill {j : Nat} {k : Link} (h : Filling tx txLen e next air j k) (hj : j < txLen) :
    ∃ f : Nat, f < 64 ∧ k.readFifoLength.1.toNat = f ∧
      Filling tx txLen e next air (j + (64 - f)) (k.readFifoLength.2.sent tx j (64 - f)) := by
  obtain ⟨s, hair, hs⟩ := h.handed
  obtain ⟨fs, rest, hleft, hrefills⟩ := h.refills
  have hfull := h.full hj
  have hj64 : j = s.length + 64 := by simpa [hfull] using (congrArg List.length hs).symm
  obtain ⟨r, hr⟩ : ∃ r, txLen - j = r + 1 := ⟨txLen - j - 1, by omega⟩
  rw [hr] at hrefills
  cases fs with
  | nil => exact hrefills.elim
  | cons f fs =>
    obtain ⟨hf, hroom, hrest⟩ := hrefills
    have hlen : (k.fifo.drop (64 - f)).length = f := by rw [List.length_drop, hfull]; omega
    have hread : k.readFifoLength = (UInt8.ofNat f,
        { k with
          fifo := k.fifo.drop (64 - f), left := fs ++ rest
          air := air ++ [s ++ k.fifo.take (64 - f)] }) := by
      simp only [Link.readFifoLength, h.phase, hleft, List.cons_append, Link.transmit, hfull, hair,
        hlen]
      simp
    have hload : (k.fifo.drop (64 - f) ++ tx.load j (64 - f)).take fifoSize =
        k.fifo.drop (64 - f) ++ tx.load j (64 - f) :=
      List.take_of_length_le (by rw [List.length_append, hlen, Mem.length_load, fifoSize]; omega)
    have hbytes : s ++ k.fifo.take (64 - f) ++ (k.fifo.drop (64 - f) ++ tx.load j (64 - f)) =
        tx.load 0 (j + (64 - f)) := by
      rw [Mem.load_add, ← hs, List.append_assoc, ← List.append_assoc (k.fifo.take _),
        List.take_append_drop, List.append_assoc, Int.zero_add]
    refine ⟨f, hf, by rw [hread]; exact UInt8.toNat_ofNat_of_lt' (Nat.lt_trans hf (by decide)), ?_⟩
    rw [hread, Link.sent, if_neg (by omega), Link.push]
    have hrem : txLen - (j + (64 - f)) = r + 1 - (64 - f) := by omega
    exact {
      phase := h.phase
      exch := h.exch
      next := h.next
      handed := ⟨_, rfl, by rw [hload, hbytes]⟩
      le := by omega
      fits := by rw [hload, List.length_append, hlen, Mem.length_load]; omega
      full := fun _ => by rw [hload, List.length_append, hlen, Mem.length_load]; omega
      refills := ⟨fs, rest, rfl, by rwa [hrem]⟩ }

end Filling

theorem rc632TransmitLoop_whole (fuel : Nat) {call : Call} {k : Link} {next : List Exch}
    {air : List (List UInt8)} (hrefills : call.Refills) (hfuel : 256 ≤ fuel)
    (hfifo : k.fifo = []) (hair : k.air = air) (hnext : k.next = call.exch :: next) :
    Total (fun c => c.link = k.writeCommand cmdIdle)
      (rc632TransmitLoop chip call.tx call.txLen fuel 0 (min 64 call.txLen.toNat : Nat))
      fun _ c => c.link.phase = .sending ∧ c.link.exch = call.exch ∧ c.link.next = next ∧
        ∃ s, c.link.air = air ++ [s] ∧ s ++ c.link.fifo = call.frame := by
  let I := Filling call.tx call.txLen.toNat call.exch next air
  let Q : Link → Prop := fun k => k.phase = .sending ∧ k.exch = call.exch ∧ k.next = next ∧
    ∃ s, k.air = air ++ [s] ∧ s ++ k.fifo = call.frame
  refine (rc632TransmitLoop_start (I := I) (Q := Q) ?_ ?_ ?_ hfuel).pre fun c hc => ?_
  · intro j k h hj
    obtain rfl : j = call.txLen.toNat := Nat.le_antisymm h.le hj
    exact ⟨h.phase, h.exch, h.next, h.handed⟩
  · intro j k h hj hfull
    obtain ⟨f, hf, hread, -⟩ := h.refill hj
    omega
  · intro j k h hj _
    obtain ⟨f, hf, hread, hfilling⟩ := h.refill hj
    rw [hread]
    exact ⟨hf, hfilling⟩
  · rw [hc]
    exact .start hfifo hair hnext hrefills

theorem rc632Transceive_isolated {call : Call} {fuel n : Nat} {o : Except Int Unit}
    {next : List Exch} {air : List (List UInt8)} (undef : UInt8) (hrefills : call.Refills)
    (hend : call.exch.EndsAt n o) (hfuel : n + 256 ≤ fuel) :
    Total
      (fun c => c.link.fifo = [] ∧ c.link.air = air ∧ c.link.next = call.exch :: next)
      (rc632Transceive chip undef fuel call.tx call.txLen call.rxLen call.timer)
      fun x c => x = call.exch.result call.rxLen o ∧
        c.link.fifo = call.exch.leftover call.rxLen o ∧ c.link.air = air ++ [call.frame] ∧
        c.link.next = next := by
  rintro c ⟨hfifo, hair, hnext⟩
  have hloop := rc632TransmitLoop_whole fuel hrefills (by omega) hfifo hair hnext
  let K : Link → Prop := fun k =>
    k.next = next ∧ ∃ s, k.air = air ++ [s] ∧ s ++ k.fifo = call.frame
  refine (rc632Transceive_chip (K := K) hloop hend (by omega) call.rxLen call.timer).post ?_ c rfl
  rintro x c' ⟨hx, k', m, ⟨hnext', s, hair', hs⟩, hlink, -⟩
  refine ⟨hx, by rw [hlink], ?_, by rw [hlink]; exact hnext'⟩
  simp [hlink, Link.turnAround, Link.transmit, hair', hs]

theorem Call.leftover_nil {call : Call} (h : call.Drains) {o : Except Int Unit}
    (ho : call.Ends o) : call.exch.leftover call.rxLen o = [] := by
  rcases h with hnil | ⟨hok, hroom⟩
  · cases o <;> simp [Exch.leftover, hnil]
  · obtain ⟨n, hn⟩ := hok
    obtain ⟨m, hm⟩ := ho
    obtain ⟨-, rfl⟩ := hn.unique hm
    exact List.drop_eq_nil_of_le hroom

theorem runCalls_isolated (undef : UInt8) {calls : List Call}
    (hrefills : ∀ call ∈ calls, call.Refills) (hends : ∀ call ∈ calls, ∃ o, call.Ends o)
    (hdrains : ∀ call ∈ calls.dropLast, call.Drains) (air : List (List UInt8)) :
    Returns
      (fun c => (calls ≠ [] → c.link.fifo = []) ∧ c.link.air = air ∧
        c.link.next = calls.map Call.exch)
      (fun fuel => runCalls undef fuel calls) fun xs c =>
      c.link.air = air ++ calls.map Call.frame ∧
        List.Forall₂ (fun call x => x.rx <+: call.exch.answer) calls xs := by
  induction calls generalizing air with
  | nil => exact .of_total (.pure fun c h => ⟨by simpa using h.2.1, .nil⟩)
  | cons call calls ih =>
    obtain ⟨o, n, hend⟩ := hends call List.mem_cons_self
    have hdrain : calls ≠ [] → call.exch.leftover call.rxLen o = [] := fun hne =>
      Call.leftover_nil (hdrains call (by cases calls <;> simp_all)) ⟨n, hend⟩
    obtain ⟨m, hrest⟩ := ih (fun y hy => hrefills y (List.mem_cons_of_mem _ hy))
      (fun y hy => hends y (List.mem_cons_of_mem _ hy))
      (fun y hy => hdrains y (by cases calls <;> simp_all)) (air ++ [call.frame])
    refine ⟨n + 256 + m, fun fuel hfuel => ?_⟩
    have hfirst := @rc632Transceive_isolated call fuel n o (calls.map Call.exch) air undef
      (hrefills call List.mem_cons_self) hend (by omega)
    refine (hfirst.pre fun c h => ⟨h.1 (List.cons_ne_nil _ _), h.2⟩).bind fun x c h => ?_
    obtain ⟨hx, hfifo, hair, hnext⟩ := h
    obtain ⟨xs, c', hrun, hair', hall⟩ := hrest fuel (by omega) c
      ⟨fun hne => hfifo.trans (hdrain hne), hair, hnext⟩
    refine ⟨x :: xs, c', bind_ok hrun, by simp [hair'], .cons ?_ hall⟩
    rw [hx]
    exact call.exch.result_rx_prefix call.rxLen o

theorem rc632ExecuteScript_chip (P : Link → Prop) {script : List (UInt8 × UInt8)}
    (hcmd : regCommand ∉ script.map Prod.fst) (hctl : regControl ∉ script.map Prod.fst) :
    Total (fun c => P c.link) (rc632ExecuteScript chip.toBus script) fun _ c => P c.link := by
  induction script with
  | nil => exact .pure fun _ => id
  | cons f script ih =>
    rw [List.map_cons, List.mem_cons, not_or] at hcmd hctl
    exact (chip_write (chip_regWrite_of_ne f.2 (Ne.symm hcmd.1) (Ne.symm hctl.1))).bind fun _ =>
      ih hcmd.2 hctl.2

theorem rc632Iso14443aInit_chip (air : List (List UInt8)) (next : List Exch) :
    Total (fun c => c.link.air = air ∧ c.link.next = next) (rc632Iso14443aInit chip.toBus)
      fun _ c => c.link.fifo = [] ∧ c.link.air = air ∧ c.link.next = next := by
  let P : Link → Prop := fun k => k.fifo = [] ∧ k.air = air ∧ k.next = next
  have hcmd : regCommand ∉ iso14443aScript.map Prod.fst := by decide
  have hctl : regControl ∉ iso14443aScript.map Prod.fst := by decide
  intro c ⟨hair, hnext⟩
  exact rc632ExecuteScript_chip P hcmd hctl (c.write regControl controlFifoFlush) ⟨rfl, hair, hnext⟩

/-- From the init on, every frame goes out as it was given and every answer is that of its
own exchange, if the refills add up and no call but the last leaves bytes in the FIFO. -/
theorem exchanges_isolated (undef : UInt8) {calls : List Call}
    (hrefills : ∀ call ∈ calls, call.Refills) (hends : ∀ call ∈ calls, ∃ o, call.Ends o)
    (hdrains : ∀ call ∈ calls.dropLast, call.Drains) (air : List (List UInt8)) :
    Returns (fun c => c.link.air = air ∧ c.link.next = calls.map Call.exch)
      (fun fuel => do
        rc632Iso14443aInit chip.toBus
        runCalls undef fuel calls)
      fun xs c => c.link.air = air ++ calls.map Call.frame ∧
        List.Forall₂ (fun call x => x.rx <+: call.exch.answer) calls xs := by
  obtain ⟨n, hrun⟩ := runCalls_isolated undef hrefills hends hdrains air
  refine ⟨n, fun fuel hfuel => ?_⟩
  exact (rc632Iso14443aInit_chip air (calls.map Call.exch)).bind fun _ =>
    (hrun fuel hfuel).pre fun c h => ⟨fun _ => h.1, h.2⟩

theorem idleAtOnce_endsAt (answer : List UInt8) (fits : answer.length ≤ fifoSize) :
    (idleAtOnce answer fits).EndsAt 0 (.ok ()) :=
  ⟨(by decide : Poll.verdict ⟨0, 0, 0, 0⟩ = .ok (some ())), nofun⟩

def requestTwo (cmd : UInt8) (answer : List UInt8) (fits : answer.length ≤ fifoSize) : Call where
  tx := Mem.ofList (fun _ => 0) [cmd]
  txLen := 1
  rxLen := 2
  timer := 92
  exch := idleAtOnce answer fits

theorem exchanges_isolated_twoRequests :
    let calls := [requestTwo 0x26 [0x04, 0x00] (by decide),
      requestTwo 0x52 [0x44, 0x00, 0x20] (by decide)]
    Returns (fun c => c.link.air = [] ∧ c.link.next = calls.map Call.exch)
      (fun fuel => do
        rc632Iso14443aInit chip.toBus
        runCalls 0 fuel calls)
      fun xs c => c.link.air = [] ++ calls.map Call.frame ∧
        List.Forall₂ (fun call x => x.rx <+: call.exch.answer) calls xs := by
  have hrefills : ∀ cmd answer fits, (requestTwo cmd answer fits).Refills :=
    fun _ _ _ => ⟨[], [], rfl, trivial⟩
  have hends : ∀ cmd answer fits, (requestTwo cmd answer fits).Ends (.ok ()) :=
    fun _ answer fits => ⟨0, idleAtOnce_endsAt answer fits⟩
  refine exchanges_isolated 0 ?_ ?_ ?_ []
  · simp [hrefills]
  · simpa using ⟨⟨_, hends _ _ _⟩, ⟨_, hends _ _ _⟩⟩
  · simpa using .inr ⟨hends _ _ _, by decide⟩

/-- A third byte that was not asked for is sent before the next request. -/
theorem exchanges_contaminated :
    let calls := [requestTwo 0x26 [0x04, 0x00, 0x88] (by decide),
      requestTwo 0x52 [0x04, 0x00] (by decide)]
    let out := (do
      rc632Iso14443aInit chip.toBus
      runCalls 0 3 calls) (chipAhead (calls.map Call.exch))
    out.1 = .ok [⟨0, 2, [0x04, 0x00]⟩, ⟨0, 2, [0x04, 0x00]⟩] ∧
      out.2.link.air = [[0x26], [0x88, 0x52]] ∧ calls.map Call.frame = [[0x26], [0x52]] := by
  decide +kernel

end Librfid.Rc632
