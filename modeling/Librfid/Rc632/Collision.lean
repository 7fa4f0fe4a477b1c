import Librfid.Rc632.Exchange
import Mathlib.Data.Nat.Find

namespace Librfid.Rc632

open Exec

/-- The answer is received with `COL_ERR` set.  Flags persist, and `PRIMARY_STATUS.ERR`
follows them. -/
structure Exch.Collided (e : Exch) : Prop where
  answered : e.answer ≠ []
  settles : ∃ n, (e.polls n).cmd = 0
  inTime : ∀ n, ¬ (e.polls n).Expired
  latched : ∀ n m, (e.polls n).cmd = 0 → n < m → (e.polls m).err &&& errFlagColErr ≠ 0
  sticky : ∀ n m, n ≤ m → (e.polls n).err &&& (e.polls m).err = (e.polls n).err
  shown : ∀ n m, n < m → (e.polls n).err ≠ 0 → (e.polls m).stat &&& statErr ≠ 0

def Exch.IdleUnseen (e : Exch) : Prop := ∃ n, (e.polls n).cmd = 0 ∧ ¬ (e.polls n).Failing

section

variable {e : Exch} {n : Nat}

theorem Exch.Collided.failing_mono (h : e.Collided) {m : Nat} (hnm : n ≤ m)
    (hn : (e.polls n).Failing) : (e.polls m).Failing := by
  rcases Nat.lt_or_eq_of_le hnm with hlt | rfl
  · refine ⟨h.shown n m hlt fun h0 => hn.2 (by rw [h0, UInt8.zero_and]), fun hm => hn.2 ?_⟩
    rw [← h.sticky n m hnm, UInt8.and_assoc, hm, UInt8.and_zero]
  · exact hn

theorem Exch.Collided.endsAt (h : e.Collided) :
    ∃ n o, e.EndsAt n o ∧
      (o = .ok () ∧ e.IdleUnseen ∧ (e.polls (n + 1)).err &&& errFlagColErr ≠ 0 ∨
        o = .error (- eIO) ∧ ¬ e.IdleUnseen) := by
  have hidle : ∀ n, (e.polls n).cmd = 0 → (e.polls n).verdict ≠ .ok none := by
    intro n hn
    rw [Poll.verdict, if_neg (h.inTime n), if_pos hn]
    split_ifs <;> nofun
  have hleft : ∃ n, (e.polls n).verdict ≠ .ok none :=
    let ⟨n, hn⟩ := h.settles
    ⟨n, hidle n hn⟩
  let n := Nat.find hleft
  have hbefore : ∀ m < n, (e.polls m).verdict = .ok none := fun m hm =>
    not_not.mp (Nat.find_min hleft hm)
  by_cases hfail : (e.polls n).Failing
  · refine ⟨n, .error (- eIO), ⟨by rw [Poll.verdict, if_pos hfail], hbefore⟩, .inr ⟨rfl, ?_⟩⟩
    rintro ⟨m, hm, hunseen⟩
    exact hunseen (h.failing_mono (Nat.find_min' hleft (hidle m hm)) hfail)
  · have hcmd : (e.polls n).cmd = 0 := by
      by_contra hcmd
      refine Nat.find_spec hleft ?_
      change (e.polls n).verdict = .ok none
      rw [Poll.verdict, if_neg hfail, if_neg (h.inTime n), if_neg hcmd]
    refine ⟨n, .ok (), ⟨?_, hbefore⟩, .inl ⟨rfl, ⟨n, hcmd, hfail⟩, ?_⟩⟩
    · rw [Poll.verdict, if_neg hfail, if_neg (h.inTime n), if_pos hcmd]
    · exact h.latched n (n + 1) hcmd (Nat.lt_succ_self n)

theorem Link.readFifoLength_of_fits {k : Link} (h : k.fifo.length ≤ 64) :
    k.readFifoLength.1.toNat ≤ 64 ∧ k.readFifoLength.2.phase = k.phase ∧
      k.readFifoLength.2.exch = k.exch := by
  have hofNat : ∀ m ≤ 64, (UInt8.ofNat m).toNat ≤ 64 := fun m hm => by
    rw [UInt8.toNat_ofNat_of_lt' (Nat.lt_of_le_of_lt hm (by decide))]
    exact hm
  unfold Link.readFifoLength
  split
  · next hphase _ =>
    refine ⟨hofNat _ ?_, rfl, rfl⟩
    simp only [Link.transmit, List.length_drop]
    omega
  · exact ⟨hofNat _ h, rfl, rfl⟩

theorem rc632TransmitLoop_sends (fuel : Nat) (tx : Mem UInt8) (txLen : UInt8) {k : Link}
    {rest : List Exch} (hnext : k.next = e :: rest) (hfuel : 256 ≤ fuel) :
    Total (fun c => c.link = k.writeCommand cmdIdle)
      (rc632TransmitLoop chip tx txLen fuel 0 (min 64 txLen.toNat : Nat))
      fun _ c => c.link.phase = .sending ∧ c.link.exch = e ∧ c.link.exch = e := by
  let I : Nat → Link → Prop := fun n k =>
    k.phase = .sending ∧ k.exch = e ∧ k.fifo.length ≤ 64 ∧ (n = 0 → txLen.toNat = 0)
  let Q : Link → Prop := fun k => k.phase = .sending ∧ k.exch = e ∧ k.exch = e
  refine (rc632TransmitLoop_start (I := I) (Q := Q) ?_ ?_ ?_ hfuel).pre fun c hc => ?_
  · exact fun n k h _ => ⟨h.1, h.2.1, h.2.1⟩
  · intro n k ⟨hphase, hexch, hfits, _⟩ _ _
    obtain ⟨_, hp, he⟩ := k.readFifoLength_of_fits hfits
    exact ⟨hp.trans hphase, he.trans hexch, he.trans hexch⟩
  · intro n k ⟨hphase, hexch, hfits, h0⟩ hn hroom
    obtain ⟨hle, hp, he⟩ := k.readFifoLength_of_fits hfits
    refine ⟨by omega, ?_⟩
    rw [Link.sent, if_neg (by omega)]
    refine ⟨hp.trans hphase, he.trans hexch, ?_, by omega⟩
    exact List.length_take_le _ _
  · have hcmd : ¬ cmdIdle = cmdTransceive := by decide
    rw [hc]
    refine ⟨by simp [Link.sent, Link.writeCommand], ?_, ?_, by omega⟩
    · simp [Link.sent, Link.writeCommand, Link.push, hcmd, hnext]
    · simp only [Link.sent, Link.writeCommand, Link.push, if_true, List.length_take]
      exact Nat.min_le_left _ _

theorem rc632Transceive_receives {o : Except Int Unit} {fuel : Nat} (undef : UInt8)
    (tx : Mem UInt8) (txLen rxLen : UInt8) (timer : Nat) (rest : List Exch) (hend : e.EndsAt n o)
    (hfuel : n + 256 ≤ fuel) :
    Total (fun c => c.link.next = e :: rest)
      (rc632Transceive chip undef fuel tx txLen rxLen timer) fun x c =>
      x = e.result rxLen o ∧ c.link.exch = e ∧ (o = .ok () → c.link.phase = .receiving (n + 1)) := by
  intro c hnext
  have hloop := rc632TransmitLoop_sends fuel tx txLen hnext (by omega)
  let K : Link → Prop := fun k => k.exch = e
  refine (rc632Transceive_chip (K := K) hloop hend (by omega) rxLen timer).post ?_ c rfl
  rintro x c' ⟨hx, k', m, hexch, hlink, hm⟩
  refine ⟨hx, by rw [hlink]; exact hexch, fun ho => ?_⟩
  rw [hlink, ← hm ho]

theorem chip_errorFlag {c : Chip} (hexch : c.link.exch = e) (hphase : c.link.phase = .receiving n) :
    chip.read regErrorFlag c = (.ok (e.polls n).err, c) := by
  simp [Link.poll, hphase, hexch]

theorem chip_collPos {c : Chip} (hexch : c.link.exch = e) :
    chip.read regCollPos c = (.ok e.collPos, c) := by
  simp [hexch]

theorem rc632Iso14443aPrepareAcf_chip (acf : Mem UInt8) (undef : UInt8) (fuel : Nat)
    (next : List Exch) :
    Total (fun c => c.link.next = next) (rc632Iso14443aPrepareAcf (chip.asic undef fuel) acf)
      fun _ c => c.link.next = next := by
  let P : Link → Prop := fun k => k.next = next
  have hkeep : ∀ reg ≠ regCommand, ∀ (val : UInt8) (k : Link), P k → P (k.write reg val) := by
    intro reg hreg val k hk
    rw [Link.write, if_neg hreg]
    split_ifs <;> exact hk
  have hclear : ∀ reg ≠ regFifoLength, reg ≠ regPrimaryStatus → reg ≠ regCommand → ∀ val,
      Total (fun c => P c.link) (rc632ClearBits chip.toBus reg val) fun ret c =>
        0 ≤ ret ∧ P c.link :=
    fun reg hf hs hc val => chip_clearBits val hf hs hc (hkeep reg hc)
  exact (hclear regControl (by decide) (by decide) (by decide) _).bind_check <|
    (hclear regChannelRedundancy (by decide) (by decide) (by decide) _).bind_check <|
    chip_write (chip_regWrite _ (hkeep regBitFraming (by decide) _))

theorem rc632Iso14443aTransceiveAcf_collided (h : e.Collided) (undef : UInt8) (acf : Mem UInt8)
    (rest : List Exch) :
    Returns (fun c => c.link.next = e :: rest)
      (fun fuel => rc632Iso14443aTransceiveAcf (chip.asic undef fuel) acf) fun r _ =>
      e.IdleUnseen ∧ r.ret = 0 ∧ r.bitOfCol = 16 + e.collPos.toNat ∨
        ¬ e.IdleUnseen ∧ r.ret = - eIO := by
  obtain ⟨n, o, hend, ho⟩ := h.endsAt
  refine ⟨n + 256, fun fuel hfuel => ?_⟩
  refine (rc632Iso14443aPrepareAcf_chip acf undef fuel (e :: rest)).attempt.bind ?_
  rintro _ c ⟨⟨⟩, rfl, hnext⟩
  obtain ⟨_, c', hrun, rfl, hexch, hphase⟩ := rc632Transceive_receives undef acf
    (acfTxBytesTotal acf) 64 0x32 rest hend hfuel c hnext
  replace hrun : (chip.asic undef fuel).transceive acf (acfTxBytesTotal acf) 64 0x32 c = _ := hrun
  dsimp only
  rw [bind_ok hrun]
  rcases ho with ⟨rfl, hseen, hcol⟩ | ⟨rfl, hunseen⟩
  · have hret : (e.result 64 (.ok ())).ret = 0 := by rw [Exch.result, if_neg h.answered]
    have hflag : (chip.asic undef fuel).read regErrorFlag c' = _ := chip_errorFlag hexch (hphase rfl)
    have hpos : (chip.asic undef fuel).read regCollPos c' = _ := chip_collPos hexch
    have hboc : rc632Iso14443aBitOfCol (chip.asic undef fuel) c' =
        (.ok (2 * 8 + e.collPos.toNat), c') := by
      rw [rc632Iso14443aBitOfCol, bind_ok hflag, if_pos hcol, bind_ok hpos]
      rfl
    rw [if_neg (by rw [hret]; decide), bind_ok (attempt_ok hboc)]
    exact ⟨_, c', rfl, .inl ⟨hseen, rfl, rfl⟩⟩
  · exact ⟨_, c', rfl, .inr ⟨hunseen, rfl⟩⟩

theorem rc632Iso15693TransceiveAc_collided (h : e.Collided) (undef : UInt8) (acf : Mem UInt8)
    (acfLen rxLen : Nat) (bitOfCol : UInt8) (rest : List Exch) :
    Returns (fun c => c.link.next = e :: rest)
      (fun fuel => rc632Iso15693TransceiveAc (chip.asic undef fuel) acf acfLen rxLen bitOfCol)
      fun r _ => e.IdleUnseen ∧ r.ret = 0 ∧ r.bitOfCol = e.collPos ∨
        ¬ e.IdleUnseen ∧ r.ret = - eIO := by
  obtain ⟨n, o, hend, ho⟩ := h.endsAt
  refine ⟨n + 256, fun fuel hfuel c hnext => ?_⟩
  obtain ⟨_, c', hrun, rfl, hexch, hphase⟩ := rc632Transceive_receives undef acf
    (UInt8.ofNat acfLen) (UInt8.ofNat rxLen)
    (iso15693TimingT1 (acf 0 &&& rfid15693FRateHigh ≠ 0)) rest hend hfuel c hnext
  replace hrun : (chip.asic undef fuel).transceive acf (UInt8.ofNat acfLen) (UInt8.ofNat rxLen)
    (iso15693TimingT1 (acf 0 &&& rfid15693FRateHigh ≠ 0)) c = _ := hrun
  unfold rc632Iso15693TransceiveAc
  dsimp only
  rw [bind_ok hrun]
  rcases ho with ⟨rfl, hseen, hcol⟩ | ⟨rfl, hunseen⟩
  · have hret : (e.result (UInt8.ofNat rxLen) (.ok ())).ret = 0 := by
      rw [Exch.result, if_neg h.answered]
    have hflag : (chip.asic undef fuel).read regErrorFlag c' = _ := chip_errorFlag hexch (hphase rfl)
    have hpos : (chip.asic undef fuel).read regCollPos c' = _ := chip_collPos hexch
    rw [hret, if_neg (by decide), bind_ok (attempt_ok hflag)]
    dsimp only
    rw [if_pos hcol, bind_ok (attempt_ok hpos)]
    exact ⟨_, c', rfl, .inl ⟨hseen, rfl, rfl⟩⟩
  · rw [if_pos (.inr rfl)]
    exact ⟨_, c', rfl, .inr ⟨hunseen, rfl⟩⟩

/-- A collision reaches the caller exactly when the chip was found idle before its error was
seen. -/
theorem collision_reported_iff (h : e.Collided) (undef : UInt8) (acf : Mem UInt8)
    (acfLen rxLen : Nat) (bitOfCol : UInt8) (rest : List Exch) :
    (Returns (fun c => c.link.next = e :: rest)
        (fun fuel => rc632Iso14443aTransceiveAcf (chip.asic undef fuel) acf)
        (fun r _ => r.ret = 0 ∧ r.bitOfCol = 16 + e.collPos.toNat) ↔ e.IdleUnseen) ∧
      (Returns (fun c => c.link.next = e :: rest)
        (fun fuel => rc632Iso15693TransceiveAc (chip.asic undef fuel) acf acfLen rxLen bitOfCol)
        (fun r _ => r.ret = 0 ∧ r.bitOfCol = e.collPos) ↔ e.IdleUnseen) := by
  have hne : ∀ ret : Int, ret = 0 → ret ≠ - eIO := by
    rintro ret rfl
    decide
  have hahead : (chipAhead (e :: rest)).link.next = e :: rest := rfl
  constructor
  · exact (rc632Iso14443aTransceiveAcf_collided h undef acf rest).post_iff
      (fun r hr => hne r.ret hr.1) hahead
  · exact (rc632Iso15693TransceiveAc_collided h undef acf acfLen rxLen bitOfCol rest).post_iff
      (fun r hr => hne r.ret hr.1) hahead

end

def colliding (seen : Bool) (idle : Nat) : Exch where
  left := []
  answer := [0x10]
  polls n :=
    let shows : Bool := seen ∨ idle < n
    ⟨if shows then statErr else 0, if shows then errFlagColErr else 0, 0,
      if idle ≤ n then 0 else cmdTransceive⟩
  collPos := 5
  fits := by decide

theorem colliding_polls (seen : Bool) (idle n : Nat) :
    (colliding seen idle).polls n =
      if seen = true ∨ idle < n then ⟨statErr, errFlagColErr, 0, if idle ≤ n then 0 else cmdTransceive⟩
      else ⟨0, 0, 0, if idle ≤ n then 0 else cmdTransceive⟩ := by
  by_cases h : seen = true ∨ idle < n <;> simp [colliding, h]

theorem colliding_collided (seen : Bool) (idle : Nat) : (colliding seen idle).Collided where
  answered := nofun
  settles := ⟨idle, by simp [colliding]⟩
  inTime n := by
    rw [colliding_polls]
    split_ifs <;> exact fun h => h.1 (by decide)
  latched n m hn hnm := by
    have hidle : idle ≤ n := by
      by_contra hlt
      simp [colliding, if_neg hlt, cmdTransceive] at hn
    rw [colliding_polls, if_pos (.inr (Nat.lt_of_le_of_lt hidle hnm))]
    exact (by decide : errFlagColErr &&& errFlagColErr ≠ 0)
  sticky n m hnm := by
    rw [colliding_polls, colliding_polls]
    by_cases hn : seen = true ∨ idle < n
    · rw [if_pos hn, if_pos (hn.imp_right fun h => Nat.lt_of_lt_of_le h hnm)]
      exact (by decide : errFlagColErr &&& errFlagColErr = errFlagColErr)
    · rw [if_neg hn]
      exact UInt8.zero_and
  shown n m hnm hn := by
    rw [colliding_polls] at hn ⊢
    by_cases hseen : seen = true ∨ idle < n
    · rw [if_pos (hseen.imp_right fun h => Nat.lt_trans h hnm)]
      exact (by decide : statErr &&& statErr ≠ 0)
    · rw [if_neg hseen] at hn
      exact absurd rfl hn

theorem collision_reported_iff_bit5 :
    (Returns (fun c => c.link.next = [colliding false 2])
        (fun fuel => rc632Iso14443aTransceiveAcf (chip.asic 0 fuel) fun _ => 0x20)
        (fun r _ => r.ret = 0 ∧ r.bitOfCol = 16 + (5 : UInt8).toNat) ↔
          (colliding false 2).IdleUnseen) ∧
      (Returns (fun c => c.link.next = [colliding false 2])
        (fun fuel => rc632Iso15693TransceiveAc (chip.asic 0 fuel) (fun _ => 0x20) 5 12 0)
        (fun r _ => r.ret = 0 ∧ r.bitOfCol = 5) ↔ (colliding false 2).IdleUnseen) :=
  collision_reported_iff (colliding_collided false 2) 0 (fun _ => 0x20) 5 12 0 []

/-- The error shows while the chip is still receiving: both functions fail. -/
theorem collision_swallowed :
    (colliding true 2).Collided ∧
      Returns (fun c => c.link.next = [colliding true 2])
        (fun fuel => rc632Iso14443aTransceiveAcf (chip.asic 0 fuel) fun _ => 0x20)
        (fun r _ => r.ret = - eIO) ∧
      Returns (fun c => c.link.next = [colliding true 2])
        (fun fuel => rc632Iso15693TransceiveAc (chip.asic 0 fuel) (fun _ => 0x20) 5 12 0)
        (fun r _ => r.ret = - eIO) := by
  have hcol := colliding_collided true 2
  have hseen : ¬ (colliding true 2).IdleUnseen := by
    rintro ⟨n, -, hn⟩
    rw [colliding_polls, if_pos (.inl rfl)] at hn
    exact hn ⟨(by decide : statErr &&& statErr ≠ 0),
      (by decide : errFlagColErr &&& (errFlagColErr ||| errFlagParityErr ||| errFlagFramingErr) ≠ 0)⟩
  refine ⟨hcol, ?_, ?_⟩
  · exact (rc632Iso14443aTransceiveAcf_collided hcol 0 (fun _ => 0x20) []).conseq (fun _ => id)
      fun r _ h => h.elim (fun h => absurd h.1 hseen) And.right
  · exact (rc632Iso15693TransceiveAc_collided hcol 0 (fun _ => 0x20) 5 12 0 []).conseq
      (fun _ => id) fun r _ h => h.elim (fun h => absurd h.1 hseen) And.right

end Librfid.Rc632
