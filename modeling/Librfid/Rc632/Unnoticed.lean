import Librfid.Rc632.Swallowed

namespace Librfid.Rc632

open Exec

abbrev Script := List (Int × UInt8)

def scripted : Transport Script where
  writeReg _ _ s := ((s.headD (0, 0)).1, s.tail)
  readReg _ s := (s.headD (0, 0), s.tail)
  writeFifo _ _ s := ((s.headD (0, 0)).1, s.tail)
  readFifo len s := (((s.headD (0, 0)).1, List.replicate len.toNat 0), s.tail)

abbrev Trace := List (Site × Int × UInt8)

def Trace.script (l : Trace) : Script := l.map Prod.snd

def Trace.log (l : Trace) : SiteLog := l.map fun e => (e.1, e.2.1)

/-- With the answers of the trace the code makes the accesses of the trace, and ends. -/
def Plays {α : Type} (x : Exec (Script × SiteLog) α) (l : Trace) (o : Outcome α) : Prop :=
  ∀ s log, x (l.script ++ s, log) = (o, (s, log ++ l.log))

section Rules

variable {α β : Type} {x : Exec (Script × SiteLog) α} {f : α → Exec (Script × SiteLog) β}
  {l l' : Trace} {o : Outcome β} {a : α} {code : Int} {site : Site} {reg val v : UInt8}

theorem Plays.pure (a : α) : Plays (pure a) [] (.ok a) := fun s log => by
  rw [pure_run, Trace.log, List.map_nil, List.append_nil]
  rfl

theorem Plays.fail (code : Int) : Plays (fail code : Exec (Script × SiteLog) α) [] (.fail code) :=
  fun s log => by
    rw [fail_run, Trace.log, List.map_nil, List.append_nil]
    rfl

theorem Plays.bind (hx : Plays x l (.ok a)) (hf : Plays (f a) l' o) :
    Plays (x >>= f) (l ++ l') o := by
  intro s log
  have hscript : (l ++ l').script ++ s = l.script ++ (l'.script ++ s) := by
    rw [Trace.script, List.map_append, List.append_assoc]
    rfl
  rw [hscript, bind_ok (hx _ log), hf s, Trace.log, Trace.log, Trace.log, List.map_append,
    List.append_assoc]

theorem Plays.cons {e : Site × Int × UInt8} (hx : Plays x [e] (.ok a)) (hf : Plays (f a) l o) :
    Plays (x >>= f) (e :: l) o := hx.bind hf

theorem Plays.skip (hx : Plays x [] (.ok a)) (hf : Plays (f a) l o) : Plays (x >>= f) l o :=
  hx.bind hf

theorem Plays.last (hx : Plays x l (.ok a)) (hf : Plays (f a) [] o) : Plays (x >>= f) l o := by
  rw [← List.append_nil l]
  exact hx.bind hf

theorem Plays.bind_fail (hx : Plays x l (.fail code)) : Plays (x >>= f) l (.fail code) :=
  fun s log => Exec.bind_fail (hx s log)

theorem Plays.attempt (hx : Plays x l (.ok a)) : Plays (Exec.attempt x) l (.ok (.ok a)) :=
  fun s log => attempt_ok (hx s log)

theorem Plays.attempt_fail (hx : Plays x l (.fail code)) :
    Plays (Exec.attempt x) l (.ok (.error code)) :=
  fun s log => Exec.attempt_fail (hx s log)

theorem Plays.check (h : 0 ≤ code) {f : Unit → Exec (Script × SiteLog) β} (hf : Plays (f ()) l o) :
    Plays (Exec.check code >>= f) l o := by
  rw [check_of_nonneg h]
  exact hf

theorem Plays.check_fail (h : code < 0) : Plays (Exec.check code) [] (.fail code) := by
  rw [check_of_neg h]
  exact .fail code

theorem Plays.step {g : Script × SiteLog → α × (Script × SiteLog)} (a : Int × UInt8 → α)
    (hg : ∀ e s log, g (e :: s, log) = (a e, (s, log ++ [(site, e.1)]))) (e : Int × UInt8) :
    Plays (step g) [(site, e)] (.ok (a e)) := fun s log => by
  change (Outcome.ok (g (e :: s, log)).1, (g (e :: s, log)).2) = _
  rw [hg]
  rfl

theorem Plays.regWrite (e : Int × UInt8) :
    Plays ((scripted.noting site).regWrite reg val) [(site, e)] (.ok e.1) :=
  .step Prod.fst (fun _ _ _ => rfl) e

theorem Plays.regRead (e : Int × UInt8) :
    Plays ((scripted.noting site).regRead reg) [(site, e)] (.ok e) := .step id (fun _ _ _ => rfl) e

theorem Plays.fifoWrite (bytes : List UInt8) (flags : UInt8) (e : Int × UInt8) :
    Plays ((scripted.noting site).fifoWrite bytes flags) [(site, e)] (.ok e.1) :=
  .step Prod.fst (fun _ _ _ => rfl) e

theorem Plays.fifoRead (len : UInt8) (e : Int × UInt8) :
    Plays ((scripted.noting site).fifoRead len) [(site, e)] (.ok (e.1, List.replicate len.toNat 0)) :=
  .step (fun e => (e.1, List.replicate len.toNat 0)) (fun _ _ _ => rfl) e

theorem Plays.write (e : UInt8) :
    Plays ((scripted.noting site).write reg val) [(site, 0, e)] (.ok ()) :=
  .bind (.regWrite (0, e)) (.pure ())

theorem Plays.write_fail (h : code < 0) (e : UInt8) :
    Plays ((scripted.noting site).write reg val) [(site, code, e)] (.fail code) :=
  .bind (.regWrite (code, e)) (.check_fail h)

theorem Plays.read (v : UInt8) : Plays ((scripted.noting site).read reg) [(site, 0, v)] (.ok v) :=
  .bind (.regRead (0, v)) (.pure v)

theorem Plays.read_fail (h : code < 0) (v : UInt8) :
    Plays ((scripted.noting site).read reg) [(site, code, v)] (.fail code) := by
  refine .last (.regRead (code, v)) ?_
  dsimp only
  rw [check_of_neg h]
  exact .fail code

theorem Plays.when_zero {bits : UInt8} {y : Exec (Script × SiteLog) Unit} :
    Plays (when (0 &&& bits ≠ 0) y) [] (.ok ()) := by
  rw [when_of_not (by simp)]
  exact .pure ()

theorem Plays.clearBits_zero :
    Plays (rc632ClearBits (scripted.noting site).toBus reg val) [(site, 0, 0)] (.ok 0) := by
  refine .last (.regRead (0, 0)) ?_
  dsimp only
  rw [if_neg (by decide), if_pos (by simp)]
  exact .pure 0

end Rules

def timerTrace (r : Site → Int) : Trace :=
  [(.timerClock, 0, 0), (.timerControl, r .timerControl, 0), (.timerOrs, 0, 0), (.timerOrs, 0, 0),
    (.timerOrs, 0, 0)]

def waitTrace (r : Site → Int) : Trace :=
  [(.interruptEn, 0, 0), (.interruptEn, 0, 0), (.primaryStatus, r .primaryStatus, 0), (.idle, 0, 0),
    (.received, r .received, 0)]

def startTrace (r : Site → Int) : Trace :=
  [(.commandIdle, r .commandIdle, 0), (.interruptRq, r .interruptRq, 0), (.debug, 0, 0),
    (.debug, 0, 0)]

def exchangeTrace (r : Site → Int) : Trace :=
  startTrace r ++ (timerTrace r ++ ([(.fifoWrite, 0, 0), (.command, 0, 0)] ++ waitTrace r))

def transceiveTrace (r : Site → Int) (ret : Int) : Trace :=
  exchangeTrace r ++ [(.fifoLength, 0, 2), (.fifoRead, ret, 0)]

def ownEntry : Site × Int × UInt8 := (.own, 0, 0)

variable (r : Site → Int)

theorem timerSet_plays (undef : UInt8) (timeout : Nat) :
    Plays (rc632TimerSetAt scripted.noting undef timeout) (timerTrace r) (.ok ()) :=
  .cons (.write 0) <| .cons (.regWrite _) <| .cons (.regWrite (0, 0)) <| .cons (.regWrite (0, 0)) <|
    .cons (.regWrite (0, 0)) <| .pure ()

theorem waitIdle_of_poll {l : Trace} {o : Outcome Unit}
    (h : Plays (rc632WaitIdleLoopAt scripted.noting 1) l o) :
    Plays (rc632WaitIdleTimerAt scripted.noting 1)
      ((.interruptEn, 0, 0) :: (.interruptEn, 0, 0) :: l) o :=
  .cons (.read 0) (.cons (.write 0) h)

theorem waitIdle_plays : Plays (rc632WaitIdleTimerAt scripted.noting 1) (waitTrace r) (.ok ()) := by
  refine waitIdle_of_poll (.last (a := some ()) ?_ (.pure ()))
  refine .cons (.regRead (_, 0)) <| .skip .when_zero <| .skip .when_zero <| .cons (.read 0) ?_
  exact .last (.regWrite (_, 0)) (.pure _)

theorem transmitLoop_plays (tx : Mem UInt8) (txLen : UInt8) :
    Plays (rc632TransmitLoopAt scripted.noting tx txLen 1 0 txLen.toNat)
      [(.fifoWrite, 0, 0), (.command, 0, 0)] (.ok ()) := by
  have hdone : ¬ (0 + (txLen.toNat : Int) < txLen.toNat) := by omega
  refine .cons (.fifoWrite _ _ (0, 0)) <| .check (Int.le_refl 0) <| ?_
  refine .last (.write 0) ?_
  dsimp only
  rw [if_neg hdone]
  exact .pure ()

section Exchange

variable (undef : UInt8) (tx : Mem UInt8) (txLen : UInt8) (hlen : ¬ txLen > 64) (timer : Nat)
include hlen

/-- The first four results do not matter. -/
theorem exchange_start {l : Trace} {o : Outcome UInt8}
    (h : Plays (do
      rc632TimerSetAt scripted.noting undef timer
      rc632TransmitLoopAt scripted.noting tx txLen 1 0 txLen.toNat
      rc632WaitIdleTimerAt scripted.noting 1
      (scripted.noting .fifoLength).read regFifoLength) l o) :
    Plays (rc632ExchangeAt scripted.noting undef 1 tx txLen timer) (startTrace r ++ l) o := by
  unfold rc632ExchangeAt
  rw [if_neg hlen]
  change Plays _ (_ :: _ :: _ :: _ :: l) o
  exact .cons (.regWrite _) <| .cons (.regWrite _) <| .cons (.regRead (0, 0)) <|
    .cons (.regRead (0, 0)) h

theorem exchange_plays (v : UInt8) :
    Plays (rc632ExchangeAt scripted.noting undef 1 tx txLen timer)
      (exchangeTrace r ++ [(.fifoLength, 0, v)]) (.ok v) := by
  simp only [exchangeTrace, List.append_assoc]
  exact exchange_start r undef tx txLen hlen timer <| .bind (timerSet_plays r _ _) <|
    .bind (transmitLoop_plays _ _) <| .bind (waitIdle_plays r) (.read v)

theorem transceive_plays (rxLen : UInt8) (ret : Int) :
    Plays (rc632TransceiveAt scripted.noting undef 1 tx txLen rxLen timer)
      (transceiveTrace r ret)
      (.ok ⟨ret, if rxLen > 2 then 2 else rxLen,
        List.replicate (if rxLen > 2 then 2 else rxLen).toNat 0⟩) := by
  have hsplit : transceiveTrace r ret =
      exchangeTrace r ++ [(.fifoLength, 0, 2)] ++ [(.fifoRead, ret, 0)] := by
    rw [transceiveTrace, List.append_assoc]
    rfl
  rw [hsplit]
  refine .bind (exchange_plays r undef tx txLen hlen timer 2).attempt ?_
  exact .last (.fifoRead _ (ret, 0)) (.pure _)

end Exchange

section Operations

def sampleAmbient : Ambient := ⟨0, 1, ⟨0, 0, 0, 0⟩, ⟨0, 0⟩⟩

/-- A run of the operation that returns 0, with the accesses that are in the trace. -/
def Unreported (op : Operation) (l : Trace) : Prop :=
  ∃ c : ChipCall, c.operation = op ∧ Plays (c.runAt scripted.noting sampleAmbient) l (.ok 0)

theorem Plays.ret {α : Type} {x : Exec (Script × SiteLog) α} {l : Trace} {y : α} {ret : α → Int}
    (hx : Plays x l (.ok y)) (hret : ret y = 0) :
    Plays (x >>= fun y => Pure.pure (ret y)) l (.ok 0) := by
  refine hx.last ?_
  rw [hret]
  exact .pure 0

theorem ab_unreported : Unreported .iso14443ab
    (ownEntry :: (transceiveTrace r 0)) := by
  have hsent := transceive_plays r 0 (fun _ => 0) 1 (by decide) 1000 2 0
  refine ⟨.ab .iso14443aFrameRegular (fun _ => 0) 1 (fun _ => 0) 2 1000, rfl, ?_⟩
  exact .ret (.cons (Plays.write 0).attempt (hsent.last (.pure _))) rfl

theorem sf_unreported : Unreported .iso14443aSf
    ([ownEntry, ownEntry, ownEntry] ++ (transceiveTrace r 0 ++ [ownEntry, ownEntry])) := by
  have hprepare : Plays (rc632Iso14443aPrepareSf (asicAt scripted.noting 0 1))
      [ownEntry, ownEntry, ownEntry] (.ok ()) :=
    .cons (.write 0) (.cons .clearBits_zero (.check (Int.le_refl 0) (.cons .clearBits_zero (.pure ()))))
  have hfinish : Plays (rc632Iso14443aFinishSf (asicAt scripted.noting 0 1))
      [ownEntry, ownEntry] (.ok ()) := .cons (.write 0) (.last (.read 0) .when_zero)
  have hsent := transceive_plays r 0 (Mem.ofList (fun _ => 0) [0x26]) 1 (by decide)
    iso14443aFdtAnticolLast1 2 0
  refine ⟨.sf 0x26 fun _ => 0, rfl, ?_⟩
  exact .ret (hprepare.attempt.bind (hsent.bind (hfinish.attempt.last (.pure _)))) rfl

def sampleAcf : Mem UInt8 := Mem.ofList (fun _ => 0) [0x93, 0x20]

theorem acf_unreported : Unreported .iso14443aAcf
    ([ownEntry, ownEntry, ownEntry] ++ (transceiveTrace r 0 ++ [ownEntry])) := by
  have hprepare : Plays (rc632Iso14443aPrepareAcf (asicAt scripted.noting 0 1) sampleAcf)
      [ownEntry, ownEntry, ownEntry] (.ok ()) :=
    .cons .clearBits_zero <| .check (Int.le_refl 0) <| .cons .clearBits_zero <|
      .check (Int.le_refl 0) (.write 0)
  have hboc : Plays (rc632Iso14443aBitOfCol (asicAt scripted.noting 0 1)) [ownEntry]
      (.ok iso14443aBitOfColNone) := .last (.read 0) (.pure _)
  have hsent := transceive_plays r 0 sampleAcf 2 (by decide) 0x32 64 0
  refine ⟨.acf sampleAcf, rfl, ?_⟩
  exact .ret (hprepare.attempt.bind (hsent.bind (hboc.attempt.last (.pure _)))) rfl

theorem ac_unreported {l : Trace} {ret : Int} {rxLen : UInt8} {rx : List UInt8}
    (h : Plays (rc632TransceiveAt scripted.noting 0 1 (fun _ => 0) 3 10 1216) l
      (.ok ⟨ret, rxLen, rx⟩))
    (hret : ¬ (ret = -eTimedOut ∨ ret = - eIO)) : Unreported .iso15693Ac (l ++ [ownEntry]) := by
  refine ⟨.ac (fun _ => 0) 3 10 0, rfl, ?_⟩
  refine .ret (y := ⟨0, 10 - 10 % 256 + rxLen.toNat, rx, 0⟩) (.bind h ?_) rfl
  dsimp only
  rw [if_neg hret]
  exact .last (.attempt (.read 0)) (.pure _)

theorem setKey_unreported : Unreported .mifareSetKey
    (ownEntry :: ownEntry :: ownEntry :: (timerTrace r ++ (waitTrace r ++ [ownEntry]))) := by
  refine ⟨.setKey fun _ => 0xff, rfl, .last (.attempt (a := ()) ?_) (.pure 0)⟩
  refine .cons (.write 0) <| .cons (.fifoWrite _ _ (0, 0)) <| .check (Int.le_refl 0) <|
    .cons (.write 0) ?_
  exact .bind (timerSet_plays r _ _) <| .bind (waitIdle_plays r) <| .last (.read 0) .when_zero

theorem auth_unreported : Unreported .mifareAuth
    (ownEntry :: ownEntry :: ownEntry :: (timerTrace r ++ (waitTrace r ++ (ownEntry :: ownEntry ::
      (timerTrace r ++ (ownEntry :: (waitTrace r ++ [(.own, 0, controlCrypto1On)]))))))) := by
  refine ⟨.auth cmdMifareAuth1a 0 0, rfl, .last (.attempt (a := ()) ?_) (.pure 0)⟩
  refine .cons .clearBits_zero <| .check (Int.le_refl 0) <| .cons (.fifoWrite _ _ (0, 0)) <|
    .check (Int.le_refl 0) <| .cons (.write 0) ?_
  refine .bind (timerSet_plays r _ _) <| .bind (waitIdle_plays r) <| .cons (.read 0) <|
    .skip .when_zero ?_
  refine .cons .clearBits_zero <| .check (Int.le_refl 0) <| .bind (timerSet_plays r _ _) <|
    .cons (.write 0) ?_
  exact .bind (waitIdle_plays r) <| .last (.read _) (.pure ())

section Checked

variable {code : Int} {l : Trace}

/-- The code of the first of the three writes is lost in that of the second. -/
theorem lor_neg_one (code : Int) : Int.lor (Int.lor code (-1)) 0 = -1 := by
  have hzero : ∀ n, Nat.ldiff 0 n = 0 := fun n =>
    Nat.eq_of_testBit_eq fun i => by simp [Nat.testBit_ldiff]
  have hlor : Int.lor code (-1) = -1 := by
    cases code with
    | ofNat n => exact congrArg Int.negSucc (hzero n)
    | negSucc n => exact congrArg Int.negSucc (Nat.and_zero n)
  rw [hlor]
  exact congrArg Int.negSucc (hzero 0)

theorem exchange_of_timer (h : Plays (rc632TimerSetAt scripted.noting 0 1216) l (.fail code)) :
    Plays (rc632ExchangeAt scripted.noting 0 1 (fun _ => 0) 3 1216) (startTrace r ++ l) (.fail code) :=
  exchange_start r 0 _ 3 (by decide) _ h.bind_fail

theorem exchange_of_transmit
    (h : Plays (rc632TransmitLoopAt scripted.noting (fun _ => 0) 3 1 0 3) l (.fail code)) :
    Plays (rc632ExchangeAt scripted.noting 0 1 (fun _ => 0) 3 1216)
      (startTrace r ++ (timerTrace r ++ l)) (.fail code) :=
  exchange_start r 0 _ 3 (by decide) _ <| .bind (timerSet_plays r _ _) h.bind_fail

theorem exchange_of_wait (h : Plays (rc632WaitIdleTimerAt scripted.noting 1) l (.fail code)) :
    Plays (rc632ExchangeAt scripted.noting 0 1 (fun _ => 0) 3 1216)
      (startTrace r ++ (timerTrace r ++ ([(.fifoWrite, 0, 0), (.command, 0, 0)] ++ l))) (.fail code) :=
  exchange_start r 0 _ 3 (by decide) _ <| .bind (timerSet_plays r _ _) <|
    .bind (transmitLoop_plays _ _) h.bind_fail

theorem exchange_of_poll (h : Plays (rc632WaitIdlePollAt scripted.noting) l (.fail code)) :
    Plays (rc632ExchangeAt scripted.noting 0 1 (fun _ => 0) 3 1216)
      (startTrace r ++ (timerTrace r ++ ([(.fifoWrite, 0, 0), (.command, 0, 0)] ++
        ((.interruptEn, 0, 0) :: (.interruptEn, 0, 0) :: l)))) (.fail code) :=
  exchange_of_wait r (waitIdle_of_poll h.bind_fail)

theorem exchange_fails (h : code < 0) {site : Site} (hsite : site ∈ checkedSites)
    (hread : site ≠ .fifoRead) :
    ∃ l, Plays (rc632ExchangeAt scripted.noting 0 1 (fun _ => 0) 3 1216) l (.fail code) ∧
      (site, code, 0) ∈ l := by
  let r : Site → Int := fun _ => 0
  simp only [checkedSites, List.mem_cons, List.not_mem_nil, or_false] at hsite
  rcases hsite with rfl | rfl | rfl | rfl | rfl | rfl | rfl | rfl | rfl
  · have ht : Plays (rc632TimerSetAt scripted.noting 0 1216) [(.timerClock, code, 0)] (.fail code) :=
      .bind_fail (.write_fail h 0)
    exact ⟨_, exchange_of_timer r ht, by simp⟩
  · have ht : Plays (rc632TransmitLoopAt scripted.noting (fun _ => 0) 3 1 0 3)
        [(.fifoWrite, code, 0)] (.fail code) :=
      .cons (.fifoWrite _ _ (code, 0)) (.bind_fail (.check_fail h))
    exact ⟨_, exchange_of_transmit r ht, by simp⟩
  · have ht : Plays (rc632TransmitLoopAt scripted.noting (fun _ => 0) 3 1 0 3)
        [(.fifoWrite, 0, 0), (.command, code, 0)] (.fail code) :=
      .cons (.fifoWrite _ _ (0, 0)) (.check (Int.le_refl 0) (.bind_fail (.write_fail h 0)))
    exact ⟨_, exchange_of_transmit r ht, by simp⟩
  · have hx := exchange_start r 0 (fun _ => 0) 3 (by decide) 1216 <| .bind (timerSet_plays r _ _) <|
      .bind (transmitLoop_plays _ _) <| .bind (waitIdle_plays r) <| .read_fail h 0
    exact ⟨_, hx, by simp⟩
  · exact absurd rfl hread
  · exact ⟨_, exchange_of_wait r (.bind_fail (.read_fail h 0)), by simp⟩
  · have hp : Plays (rc632WaitIdlePollAt scripted.noting)
        [(.primaryStatus, 0, statErr), (.errorFlag, code, 0)] (.fail code) := by
      refine .cons (.regRead (0, statErr)) (.bind_fail ?_)
      rw [when_of (by decide)]
      exact .bind_fail (.read_fail h 0)
    exact ⟨_, exchange_of_poll r hp, by simp⟩
  · have hp : Plays (rc632WaitIdlePollAt scripted.noting)
        [(.primaryStatus, 0, statIrq), (.interrupts, code, 0)] (.fail code) := by
      refine .cons (.regRead (0, statIrq)) (.skip (a := ()) ?_ (.bind_fail ?_))
      · exact .pure ()
      · rw [when_of (by decide)]
        exact .bind_fail (.read_fail h 0)
    exact ⟨_, exchange_of_poll r hp, by simp⟩
  · have hp : Plays (rc632WaitIdlePollAt scripted.noting)
        [(.primaryStatus, 0, 0), (.idle, code, 0)] (.fail code) :=
      .cons (.regRead (0, 0)) <| .skip .when_zero <| .skip .when_zero <| .bind_fail (.read_fail h 0)
    exact ⟨_, exchange_of_poll r hp, by simp⟩

theorem transceive_of_exchange
    (h : Plays (rc632ExchangeAt scripted.noting 0 1 (fun _ => 0) 3 1216) l (.fail code)) :
    Plays (rc632TransceiveAt scripted.noting 0 1 (fun _ => 0) 3 10 1216) l (.ok ⟨code, 10, []⟩) :=
  h.attempt_fail.last (.pure _)

theorem timerOrs_fails (code : Int) :
    Plays (rc632ExchangeAt scripted.noting 0 1 (fun _ => 0) 3 1216)
      (startTrace r ++ [(.timerClock, 0, 0), (.timerControl, 0, 0), (.timerOrs, code, 0),
        (.timerOrs, -1, 0), (.timerOrs, 0, 0)]) (.fail (-1)) := by
  refine exchange_of_timer r ?_
  refine .cons (.write 0) <| .cons (.regWrite (0, 0)) <| .cons (.regWrite (code, 0)) <|
    .cons (.regWrite (-1, 0)) <| .last (.regWrite (0, 0)) ?_
  dsimp only
  rw [lor_neg_one]
  exact .check_fail (by decide)

end Checked

theorem unreported_of_swallows {op : Operation} {site : Site} {code : Int} (hcode : code < 0)
    (h : Swallows op site code) : ∃ l, Unreported op l ∧ (site, code, 0) ∈ l := by
  let r : Site → Int := fun x => if x = site then code else 0
  have hr : r site = code := if_pos rfl
  have htransceive : site ∈ transceiveSites → (site, code, 0) ∈ transceiveTrace r 0 := by
    intro hsite
    simp only [transceiveSites, helperSites, List.cons_append, List.nil_append, List.mem_cons,
      List.not_mem_nil, or_false] at hsite
    rcases hsite with rfl | rfl | rfl | rfl | rfl <;>
      simp [transceiveTrace, exchangeTrace, startTrace, timerTrace, waitTrace, hr]
  have hhelper : site ∈ helperSites → (site, code, 0) ∈ timerTrace r ++ waitTrace r := by
    intro hsite
    simp only [helperSites, List.mem_cons, List.not_mem_nil, or_false] at hsite
    rcases hsite with rfl | rfl | rfl <;> simp [timerTrace, waitTrace, hr]
  cases op with
  | iso14443ab => exact ⟨_, ab_unreported r, by simp [htransceive h]⟩
  | iso14443aSf => exact ⟨_, sf_unreported r, by simp [htransceive h]⟩
  | iso14443aAcf => exact ⟨_, acf_unreported r, by simp [htransceive h]⟩
  | iso15693Ac =>
    rcases h with hsite | rfl | ⟨hsite, hne⟩
    · have hsent := transceive_plays r 0 (fun _ => 0) 3 (by decide) 1216 10 0
      exact ⟨_, ac_unreported hsent (by decide), by simp [htransceive hsite]⟩
    · have hsent := transceive_of_exchange (timerOrs_fails r code)
      exact ⟨_, ac_unreported hsent (by decide), by simp⟩
    · by_cases hread : site = .fifoRead
      · obtain rfl := hread
        have hsent := transceive_plays r 0 (fun _ => 0) 3 (by decide) 1216 10 code
        exact ⟨_, ac_unreported hsent (not_or.mpr hne), by simp [transceiveTrace]⟩
      · obtain ⟨l, hl, hmem⟩ := exchange_fails hcode hsite hread
        exact ⟨_, ac_unreported (transceive_of_exchange hl) (not_or.mpr hne), by simp [hmem]⟩
  | mifareSetKey =>
    refine ⟨_, setKey_unreported r, ?_⟩
    rcases List.mem_append.mp (hhelper h) with hmem | hmem <;> simp [hmem]
  | mifareAuth =>
    refine ⟨_, auth_unreported r, ?_⟩
    rcases List.mem_append.mp (hhelper h) with hmem | hmem <;> simp [hmem]
  | iso14443aSetSpeed => exact h.elim

/-- Where a failure of an access is not swallowed it is reported, whatever the chip does. -/
theorem faults_reported_iff (op : Operation) (site : Site) (code : Int) (hsite : site ≠ .debug)
    (hcode : code < 0) :
    (∀ (σ : Type) (t : Transport σ) (c : ChipCall) (e : Ambient) (s : σ), c.operation = op →
      (site, code) ∈ (noted t c e s).2.2 → Reported t c e s site) ↔ ¬ Swallows op site code := by
  constructor
  · intro h hswallows
    obtain ⟨l, ⟨c, hc, hplays⟩, hmem⟩ := unreported_of_swallows hcode hswallows
    have hrun : noted scripted c sampleAmbient l.script = (.ok 0, ([], l.log)) := by
      have := hplays [] []
      rwa [List.append_nil, List.nil_append] at this
    have hfailed : (site, code) ∈ (noted scripted c sampleAmbient l.script).2.2 := by
      rw [hrun]
      exact List.mem_map.mpr ⟨_, hmem, rfl⟩
    obtain ⟨ret, hret, hneg⟩ := (h _ scripted c sampleAmbient _ hc hfailed).ret
    rw [hrun] at hret
    cases hret
    exact absurd hneg (Int.lt_irrefl 0)
  · rintro hswallows σ t c e s rfl hfailed
    refine ⟨negative_of_failed hfailed hcode hsite hswallows, fun val bytes => ?_⟩
    have hstatus : site ≠ .primaryStatus ∨ c.operation = .iso14443aSetSpeed := by
      by_contra hcon
      obtain ⟨hprim, hop⟩ := not_or.mp hcon
      obtain rfl := not_not.mp hprim
      have hhelper : Site.primaryStatus ∈ helperSites := by simp [helperSites]
      have hframe : Site.primaryStatus ∈ transceiveSites := List.mem_append_right _ hhelper
      cases hc : c.operation <;> rw [hc] at hswallows hop
      · exact hswallows hframe
      · exact hswallows hframe
      · exact hswallows hframe
      · exact hswallows (.inl hframe)
      · exact hswallows hhelper
      · exact hswallows hhelper
      · exact hop rfl
    exact congrFun (leaving_run site val bytes t.noting c e hstatus) _

theorem fifoWrite_reported : (Site.fifoWrite, (-1 : Int)) ∈
      (noted scripted (.sf 0x26 fun _ => 0) sampleAmbient (List.replicate 12 (0, 0) ++ [(-1, 0)])).2.2 ∧
    Reported scripted (.sf 0x26 fun _ => 0) sampleAmbient (List.replicate 12 (0, 0) ++ [(-1, 0)])
      .fifoWrite :=
  have hfailed : (Site.fifoWrite, (-1 : Int)) ∈
      (noted scripted (.sf 0x26 fun _ => 0) sampleAmbient
        (List.replicate 12 (0, 0) ++ [(-1, 0)])).2.2 := by
    decide +kernel
  ⟨hfailed, (faults_reported_iff .iso14443aSf .fifoWrite (-1) (by decide) (by decide)).mpr
    (by simp [Swallows, transceiveSites, helperSites]) _ _ _ _ _ rfl hfailed⟩

/-- A short frame of which the last write of the wait fails. -/
theorem received_swallowed :
    (Site.received, (-5 : Int)) ∈ (noted scripted (.sf 0x26 fun _ => 0) sampleAmbient
      (List.replicate 18 (0, 0) ++ [(-5, 0), (0, 2)])).2.2 ∧
    (noted scripted (.sf 0x26 fun _ => 0) sampleAmbient
      (List.replicate 18 (0, 0) ++ [(-5, 0), (0, 2)])).1 = .ok 0 ∧
    ¬ Reported scripted (.sf 0x26 fun _ => 0) sampleAmbient
      (List.replicate 18 (0, 0) ++ [(-5, 0), (0, 2)]) .received := by
  have hrun : (noted scripted (.sf 0x26 fun _ => 0) sampleAmbient
      (List.replicate 18 (0, 0) ++ [(-5, 0), (0, 2)])).1 = .ok 0 := by decide +kernel
  refine ⟨by decide +kernel, hrun, fun h => ?_⟩
  obtain ⟨ret, hret, hneg⟩ := h.ret
  rw [hrun] at hret
  cases hret
  exact absurd hneg (Int.lt_irrefl 0)

end Operations

end Librfid.Rc632
