import Librfid.Rc632.Chip

namespace Librfid.Rc632

open Exec

namespace Poll

abbrev Failing (p : Poll) : Prop :=
  p.stat &&& statErr ≠ 0 ∧
    p.err &&& (errFlagColErr ||| errFlagParityErr ||| errFlagFramingErr) ≠ 0

abbrev Expired (p : Poll) : Prop :=
  p.stat &&& statIrq ≠ 0 ∧ p.irq &&& irqTimer ≠ 0 ∧ p.irq &&& irqRx = 0

def verdict (p : Poll) : Outcome (Option Unit) :=
  if p.Failing then .fail (- eIO)
  else if p.Expired then .fail (-eTimedOut)
  else if p.cmd = 0 then .ok (some ())
  else .ok none

end Poll

namespace Exch

def EndsAt (e : Exch) (n : Nat) (o : Except Int Unit) : Prop :=
  (e.polls n).verdict =
      (match o with
        | .ok () => .ok (some ())
        | .error code => .fail code) ∧
    ∀ m < n, (e.polls m).verdict = .ok none

def result (e : Exch) (rxLen : UInt8) : Except Int Unit → Xfer
  | .ok () =>
    if e.answer = [] then ⟨- eIO, 0, []⟩
    else
      let len := if rxLen > UInt8.ofNat e.answer.length then UInt8.ofNat e.answer.length else rxLen
      ⟨0, len, e.answer.take len.toNat⟩
  | .error code => ⟨code, rxLen, []⟩

def leftover (e : Exch) (rxLen : UInt8) : Except Int Unit → List UInt8
  | .ok () => e.answer.drop rxLen.toNat
  | .error _ => e.answer

theorem EndsAt.unique {e : Exch} {n m : Nat} {o o' : Except Int Unit} (h : e.EndsAt n o)
    (h' : e.EndsAt m o') : n = m ∧ o = o' := by
  have hne : ∀ {k : Nat} {o : Except Int Unit}, e.EndsAt k o → (e.polls k).verdict ≠ .ok none := by
    intro k o h hnone
    have := hnone.symm.trans h.1
    cases o <;> exact absurd this nofun
  obtain rfl : n = m := by
    rcases Nat.lt_trichotomy n m with hlt | rfl | hlt
    · exact absurd (h'.2 n hlt) (hne h)
    · rfl
    · exact absurd (h.2 m hlt) (hne h')
  have := h.1.symm.trans h'.1
  cases o <;> cases o' <;> simp_all

end Exch

variable {fuel : Nat} {c : Chip}

theorem rc632TimerSet_chip (undef : UInt8) (timeout : Nat) (c : Chip) :
    ∃ c', rc632TimerSet chip.toBus undef timeout c = (.ok (), c') ∧ c'.link = c.link := by
  simp only [rc632TimerSet, rc632ClearIrqs, bind_run, chip_regWrite_run, chip_write_run]
  exact ⟨_, rfl, rfl⟩

theorem rc632Exchange_chip (undef : UInt8) (fuel : Nat) (tx : Mem UInt8) (txLen : UInt8)
    (timer : Nat) (c : Chip) :
    ∃ c', c'.link = c.link.writeCommand cmdIdle ∧
      rc632Exchange chip undef fuel tx txLen timer c =
        (do
          rc632TransmitLoop chip tx txLen fuel 0 (min 64 txLen.toNat : Nat)
          rc632WaitIdleTimer chip.toBus fuel
          chip.read regFifoLength) c' := by
  have hcur : (if txLen > 64 then 64 else txLen.toNat) = min 64 txLen.toNat := by
    have : txLen > 64 ↔ 64 < txLen.toNat := UInt8.lt_iff_toNat_lt
    split_ifs with h <;> rw [this] at h <;> omega
  have hidle : (c.link.writeCommand cmdIdle).phase = .idle := by
    unfold Link.writeCommand
    rw [if_neg (by decide)]
    split <;> rfl
  unfold rc632Exchange
  rw [hcur, bind_ok (chip_regWrite_run _ _ _), bind_ok (chip_regWrite_run _ _ _),
    bind_ok (chip_regRead_run _ _), bind_ok (chip_regRead_run _ _)]
  obtain ⟨c', htimer, hlink⟩ := rc632TimerSet_chip undef timer _
  rw [bind_ok htimer]
  refine ⟨c', hlink.trans ?_, rfl⟩
  have hirq : ∀ k : Link, k.write regInterruptRq 0x7f = k := fun k =>
    k.write_of_ne regInterruptRq _ (by decide) (by decide)
  simp [hirq, Link.readStatus, hidle]

theorem rc632WaitIdlePoll_sending (h : c.link.phase = .sending) :
    rc632WaitIdlePoll chip.toBus c =
      rc632WaitIdlePoll chip.toBus { c with link := c.link.turnAround } := by
  have hread : chip.regRead regPrimaryStatus c =
      chip.regRead regPrimaryStatus { c with link := c.link.turnAround } := by
    simp [Link.readStatus, h, Link.turnAround, Link.transmit]
  unfold rc632WaitIdlePoll
  rw [bind_run, hread, ← bind_run]

theorem rc632WaitIdlePoll_chip {n : Nat} (h : c.link.phase = .receiving n) :
    ∃ c' m, rc632WaitIdlePoll chip.toBus c = ((c.link.exch.polls n).verdict, c') ∧
      c'.link = { c.link with phase := .receiving m } ∧
      ∀ o, (c.link.exch.polls n).verdict = .ok o → m = n + 1 := by
  obtain ⟨p, hp⟩ : ∃ p, p = c.link.exch.polls n := ⟨_, rfl⟩
  have hstat : chip.regRead regPrimaryStatus c = (.ok (0, p.stat), c) := by
    simp [Link.readStatus, h, hp]
  have herr : chip.read regErrorFlag c = (.ok p.err, c) := by simp [Link.poll, h, hp]
  have hirq : chip.read regInterruptRq c = (.ok p.irq, c) := by simp [Link.poll, h, hp]
  have hcmd : chip.read regCommand c =
      (.ok p.cmd, { c with link := { c.link with phase := .receiving (n + 1) } }) := by
    simp [Link.readCommand, h, hp]
  have hsame : c.link = { c.link with phase := .receiving n } := by rw [← h]
  have hclear : ∀ (bits : UInt8) (c : Chip), (c.write regInterruptRq bits).link = c.link :=
    fun bits c => c.link.write_of_ne regInterruptRq bits (by decide) (by decide)
  rw [← hp]
  have hA : (when (p.stat &&& statErr ≠ 0) do
        let err ← chip.read regErrorFlag
        when (err &&& (errFlagColErr ||| errFlagParityErr ||| errFlagFramingErr) ≠ 0)
          (fail (- eIO))) c = (if p.Failing then .fail (- eIO) else .ok (), c) := by
    by_cases hs : p.stat &&& statErr ≠ 0
    · rw [when_of hs, bind_ok herr]
      by_cases he : p.err &&& (errFlagColErr ||| errFlagParityErr ||| errFlagFramingErr) ≠ 0
      · rw [when_of he, if_pos ⟨hs, he⟩, fail_run]
      · rw [when_of_not he, if_neg fun h => he h.2, pure_run]
    · rw [when_of_not hs, if_neg fun h => hs h.1, pure_run]
  have hB : ∃ c', (when (p.stat &&& statIrq ≠ 0) do
        let irq ← chip.read regInterruptRq
        when (irq &&& irqTimer ≠ 0 ∧ irq &&& irqRx = 0) do
          let _ ← rc632ClearIrqs chip.toBus irqTimer
          fail (-eTimedOut)) c = (if p.Expired then .fail (-eTimedOut) else .ok (), c') ∧
      c'.link = c.link ∧ (¬ p.Expired → c' = c) := by
    by_cases hs : p.stat &&& statIrq ≠ 0
    · rw [when_of hs, bind_ok hirq]
      by_cases he : p.irq &&& irqTimer ≠ 0 ∧ p.irq &&& irqRx = 0
      · rw [when_of he, if_pos ⟨hs, he⟩]
        exact ⟨_, rfl, hclear _ _, fun h => absurd ⟨hs, he⟩ h⟩
      · rw [when_of_not he, if_neg fun h => he h.2]
        exact ⟨c, rfl, rfl, fun _ => rfl⟩
    · rw [when_of_not hs, if_neg fun h => hs h.1]
      exact ⟨c, rfl, rfl, fun _ => rfl⟩
  unfold rc632WaitIdlePoll Poll.verdict
  rw [bind_ok hstat]
  dsimp only
  by_cases hfail : p.Failing
  · rw [if_pos hfail] at hA ⊢
    exact ⟨c, n, bind_fail hA, hsame, nofun⟩
  rw [if_neg hfail] at hA ⊢
  rw [bind_ok hA]
  obtain ⟨c', hB, hlink, hc'⟩ := hB
  by_cases hexp : p.Expired
  · rw [if_pos hexp] at hB ⊢
    exact ⟨c', n, bind_fail hB, hlink.trans hsame, nofun⟩
  rw [if_neg hexp] at hB ⊢
  rw [hc' hexp] at hB
  rw [bind_ok hB, bind_ok hcmd]
  by_cases h0 : p.cmd = 0
  · rw [if_pos h0, if_pos h0]
    exact ⟨_, n + 1, rfl, hclear _ _, fun _ _ => rfl⟩
  · rw [if_neg h0, if_neg h0]
    exact ⟨_, n + 1, rfl, rfl, fun _ _ => rfl⟩

theorem rc632WaitIdleLoop_chip {n m : Nat} {o : Except Int Unit} (hend : c.link.exch.EndsAt n o)
    (hm : m ≤ n) (h : c.link.phase = .receiving m) (hfuel : n - m < fuel) :
    ∃ c' m', attempt (rc632WaitIdleLoop chip.toBus fuel) c = (.ok o, c') ∧
      c'.link = { c.link with phase := .receiving m' } ∧ (o = .ok () → m' = n + 1) := by
  induction fuel generalizing m c with
  | zero => omega
  | succ fuel ih =>
    obtain ⟨c', m', hpoll, hlink, hm'⟩ := rc632WaitIdlePoll_chip h
    rcases Nat.lt_or_eq_of_le hm with hlt | rfl
    · rw [hend.2 m hlt] at hpoll hm'
      obtain rfl := hm' none rfl
      have hloop : rc632WaitIdleLoop chip.toBus (fuel + 1) c = rc632WaitIdleLoop chip.toBus fuel c' :=
        bind_ok hpoll
      obtain ⟨c'', m'', hrun, hlink', hm''⟩ := ih (c := c') (m := m + 1) (by rwa [hlink]) hlt
        (by rw [hlink]) (by omega)
      refine ⟨c'', m'', ?_, by rw [hlink', hlink], hm''⟩
      rw [attempt, hloop, ← attempt, hrun]
    · rw [hend.1] at hpoll hm'
      cases o with
      | ok =>
        exact ⟨c', m', attempt_ok (bind_ok hpoll), hlink, fun _ => hm' _ rfl⟩
      | error code => exact ⟨c', m', attempt_fail (bind_fail hpoll), hlink,
          fun hok => by cases hok⟩

theorem rc632WaitIdleTimer_chip {n : Nat} {o : Except Int Unit} (hend : c.link.exch.EndsAt n o)
    (h : c.link.phase = .sending) (hfuel : n < fuel) :
    ∃ c' m, attempt (rc632WaitIdleTimer chip.toBus fuel) c = (.ok o, c') ∧
      c'.link = { c.link.turnAround with phase := .receiving m } ∧ (o = .ok () → m = n + 1) := by
  obtain ⟨fuel, rfl⟩ : ∃ k, fuel = k + 1 := ⟨fuel - 1, by omega⟩
  obtain ⟨c₁, hc₁, hstart⟩ : ∃ c₁ : Chip, c₁.link = c.link ∧
      rc632WaitIdleTimer chip.toBus (fuel + 1) c = rc632WaitIdleLoop chip.toBus (fuel + 1) c₁ := by
    let bits := irqSet ||| irqTimer ||| irqIdle ||| irqRx
    refine ⟨c.write regInterruptEn bits,
      c.link.write_of_ne regInterruptEn bits (by decide) (by decide), ?_⟩
    rw [rc632WaitIdleTimer, bind_ok (chip_read_run _ _), bind_ok (chip_write_run _ _ _)]
    rfl
  have hloop : rc632WaitIdleLoop chip.toBus (fuel + 1) c₁ =
      rc632WaitIdleLoop chip.toBus (fuel + 1) { c₁ with link := c₁.link.turnAround } := by
    rw [rc632WaitIdleLoop, bind_run, rc632WaitIdlePoll_sending (hc₁ ▸ h), ← bind_run]
  have hend' : c₁.link.turnAround.exch.EndsAt n o := by rwa [hc₁]
  obtain ⟨c', m, hrun, hlink, hm⟩ := rc632WaitIdleLoop_chip
    (c := { c₁ with link := c₁.link.turnAround }) hend' (Nat.zero_le n) rfl hfuel
  refine ⟨c', m, ?_, by rw [hlink, hc₁], hm⟩
  rw [attempt, hstart, hloop, ← attempt, hrun]

def Link.sent (k : Link) (tx : Mem UInt8) (n cur : Nat) : Link :=
  if n = 0 then (k.push (tx.load n cur)).writeCommand cmdTransceive else k.push (tx.load n cur)

theorem rc632TransmitLoop_round {tx : Mem UInt8} {txLen : UInt8} {n cur : Nat} (hcur : cur ≤ 64)
    {I Q : Link → Prop} (hdone : ∀ k, I k → txLen.toNat ≤ n + cur → Q k)
    (hmore : n + cur < txLen.toNat → Total (fun c => I c.link) (do
        let fifoFill ← chip.read regFifoLength
        let cur' : Int := 64 - fifoFill.toNat
        if cur' = 0 then pure () else rc632TransmitLoop chip tx txLen fuel (n + cur : Int) cur')
      fun _ c => Q c.link) :
    Total (fun c => I (c.link.sent tx n cur)) (rc632TransmitLoop chip tx txLen (fuel + 1) n cur)
      fun _ c => Q c.link := by
  have hmod : ((cur : Int) % 256).toNat = cur := by omega
  have hwrite : Total (fun c => I (c.link.sent tx n cur))
      (chip.fifoWrite (tx.load n ((cur : Int) % 256).toNat) 0x03) fun ret c => 0 ≤ ret ∧
        I (if n = 0 then c.link.writeCommand cmdTransceive else c.link) := by
    rw [hmod]
    exact fun c hc => ⟨0, _, rfl, Int.le_refl 0, hc⟩
  refine hwrite.bind fun ret => .bind (Q := fun _ c =>
    I (if n = 0 then c.link.writeCommand cmdTransceive else c.link)) (fun c hc => ?_) fun _ =>
    .bind (Q := fun _ c => I c.link) ?_ fun _ => .ite (fun hlt => ?_) fun hge => ?_
  · rw [check_of_nonneg hc.1]
    exact ⟨(), c, rfl, hc.2⟩
  · refine .when (fun h0 c hc => ?_) fun h0 c hc => ?_
    · rw [if_pos (by omega)] at hc
      exact ⟨(), _, rfl, hc⟩
    · rwa [if_neg (by omega)] at hc
  · exact hmore (by omega)
  · exact .pure fun c hc => hdone _ hc (by omega)

section TransmitLoop

-- `I n` holds of the chip while it sends and has been given `n` bytes
variable {tx : Mem UInt8} {txLen : UInt8} {I : Nat → Link → Prop} {Q : Link → Prop}
  (hdone : ∀ n k, I n k → txLen.toNat ≤ n → Q k)
  (hfull : ∀ n k, I n k → n < txLen.toNat → k.readFifoLength.1.toNat = 64 → Q k.readFifoLength.2)
  (hmore : ∀ n k, I n k → n < txLen.toNat → k.readFifoLength.1.toNat ≠ 64 →
    k.readFifoLength.1.toNat < 64 ∧
      I (n + (64 - k.readFifoLength.1.toNat))
        (k.readFifoLength.2.sent tx n (64 - k.readFifoLength.1.toNat)))

include hdone hfull hmore

theorem rc632TransmitLoop_chip (n cur : Nat) (hcur : cur ≤ 64)
    (hpos : 0 < cur ∨ txLen.toNat ≤ n + cur) (hfuel : txLen.toNat ≤ n + cur + fuel) :
    Total (fun c => I (n + cur) (c.link.sent tx n cur))
      (rc632TransmitLoop chip tx txLen (fuel + 1) n cur) fun _ c => Q c.link := by
  induction fuel generalizing n cur with
  | zero => exact rc632TransmitLoop_round hcur (hdone _) fun h => absurd h (by omega)
  | succ fuel ih =>
    refine rc632TransmitLoop_round hcur (hdone _) fun hlt c hc => ?_
    rw [bind_ok (chip_read_run _ _), Link.read_fifoLength]
    by_cases hfill : c.link.readFifoLength.1.toNat = 64
    · rw [if_pos (by omega)]
      exact ⟨(), _, rfl, hfull _ _ hc hlt hfill⟩
    · obtain ⟨hlt', hI⟩ := hmore _ _ hc hlt hfill
      rw [if_neg (by omega)]
      have hrest := ih (n + cur) (64 - c.link.readFifoLength.1.toNat) (by omega)
        (.inl (by omega)) (by omega) { c with link := c.link.readFifoLength.2 } hI
      rwa [Int.natCast_sub (by omega)] at hrest

theorem rc632TransmitLoop_start (hfuel : 256 ≤ fuel) :
    Total (fun c => I (min 64 txLen.toNat) (c.link.sent tx 0 (min 64 txLen.toNat)))
      (rc632TransmitLoop chip tx txLen fuel 0 (min 64 txLen.toNat : Nat)) fun _ c => Q c.link := by
  obtain ⟨fuel, rfl⟩ : ∃ n, fuel = n + 1 := ⟨fuel - 1, by omega⟩
  have hlen := txLen.toNat_lt
  have hrun := rc632TransmitLoop_chip hdone hfull hmore 0 (min 64 txLen.toNat) (by omega) (by omega)
    (by omega : txLen.toNat ≤ 0 + min 64 txLen.toNat + fuel)
  rwa [Nat.zero_add] at hrun

end TransmitLoop

theorem rc632Transceive_answered {e : Exch} {undef : UInt8} {tx : Mem UInt8} {txLen : UInt8}
    {timer m : Nat} {c₁ : Chip} (rxLen : UInt8) (hfifo : c₁.link.fifo = e.answer)
    (hphase : c₁.link.phase = .receiving m)
    (h : rc632Exchange chip undef fuel tx txLen timer c = (.ok (UInt8.ofNat e.answer.length), c₁)) :
    ∃ c', rc632Transceive chip undef fuel tx txLen rxLen timer c =
        (.ok (e.result rxLen (.ok ())), c') ∧
      c'.link = { c₁.link with fifo := e.leftover rxLen (.ok ()) } := by
  have htoNat : (UInt8.ofNat e.answer.length).toNat = e.answer.length :=
    UInt8.toNat_ofNat_of_lt' (Nat.lt_of_le_of_lt e.fits (by decide))
  unfold rc632Transceive
  rw [bind_ok (attempt_ok h)]
  dsimp only
  by_cases hnil : e.answer = []
  · have h0 : UInt8.ofNat e.answer.length = 0 := by rw [hnil]; rfl
    have hstat : c₁.link.readStatus.2 = c₁.link := by rw [Link.readStatus, hphase]
    have hrx : (if rxLen > 0 then 0 else rxLen) = 0 := by
      split_ifs with h
      · rfl
      · exact UInt8.toNat_inj.mp (by simpa [UInt8.lt_iff_toNat_lt] using h)
    rw [if_pos h0, h0, hrx, bind_ok (chip_regRead_run _ _), bind_ok (chip_regRead_run _ _),
      bind_ok (chip_regRead_run _ _), Exch.result, if_pos hnil]
    refine ⟨c₁, ?_, by rw [Exch.leftover, hnil, List.drop_nil, ← hnil, ← hfifo]⟩
    simp only [Link.read_primaryStatus, hstat, Link.read_errorFlag]
    rfl
  · have h0 : ¬ UInt8.ofNat e.answer.length = 0 := fun h => hnil (by
      have := congrArg UInt8.toNat h
      rw [htoNat] at this
      exact List.length_eq_zero_iff.mp this)
    have hdrop : e.answer.drop (if rxLen > UInt8.ofNat e.answer.length then
        UInt8.ofNat e.answer.length else rxLen).toNat = e.answer.drop rxLen.toNat := by
      split_ifs with h
      · have hle := UInt8.lt_iff_toNat_lt.mp h
        rw [htoNat] at hle ⊢
        rw [List.drop_length, List.drop_eq_nil_of_le (Nat.le_of_lt hle)]
      · rfl
    rw [if_neg h0, bind_ok (chip_fifoRead_run _ _), hfifo, hdrop, Exch.result, if_neg hnil]
    exact ⟨_, rfl, rfl⟩

theorem rc632Transceive_chip {e : Exch} {k : Link} {K : Link → Prop} {n : Nat}
    {o : Except Int Unit} {undef : UInt8} {tx : Mem UInt8} {txLen : UInt8}
    (hloop : Total (fun c => c.link = k.writeCommand cmdIdle)
      (rc632TransmitLoop chip tx txLen fuel 0 (min 64 txLen.toNat : Nat))
      fun _ c => c.link.phase = .sending ∧ c.link.exch = e ∧ K c.link)
    (hend : e.EndsAt n o) (hfuel : n < fuel) (rxLen : UInt8) (timer : Nat) :
    Total (fun c => c.link = k) (rc632Transceive chip undef fuel tx txLen rxLen timer) fun x c =>
      x = e.result rxLen o ∧ ∃ k' m, K k' ∧
        c.link = { k'.turnAround with phase := .receiving m, fifo := e.leftover rxLen o } ∧
        (o = .ok () → m = n + 1) := by
  intro c hc
  obtain ⟨c₁, hc₁, hexch⟩ := rc632Exchange_chip undef fuel tx txLen timer c
  obtain ⟨⟨⟩, c₂, hsent, hphase, rfl, hK⟩ := hloop c₁ (hc ▸ hc₁)
  obtain ⟨c₃, m, hwait, hlink, hm⟩ := rc632WaitIdleTimer_chip hend hphase hfuel
  rw [bind_ok hsent] at hexch
  cases o with
  | error code =>
    refine ⟨_, c₃, ?_, rfl, c₂.link, m, hK, hlink, nofun⟩
    rw [rc632Transceive,
      bind_ok (attempt_fail (hexch.trans (bind_fail (of_attempt_error hwait))))]
    rfl
  | ok =>
    have hlen : c₃.link.readFifoLength = (UInt8.ofNat c₂.link.exch.answer.length, c₃.link) := by
      rw [hlink]
      rfl
    rw [bind_ok (of_attempt_ok hwait), chip_read_run, Link.read_fifoLength, hlen] at hexch
    obtain ⟨c', hrun, hlink'⟩ := rc632Transceive_answered (m := m) rxLen (by rw [hlink]; rfl)
      (by rw [hlink]) hexch
    exact ⟨_, c', hrun, rfl, c₂.link, m, hK, by rw [hlink', hlink], hm⟩

end Librfid.Rc632
