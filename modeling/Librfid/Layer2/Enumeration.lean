import Librfid.Layer2.Api
import Librfid.Layer2.Crowd
import Librfid.Layer2.Redundancy

namespace Librfid.Layer2

open Rc632 Exec

section Loop

variable {σ ρ : Type} (r : Reader σ) (randomBit : ρ → Bool × ρ)

def uidBufSize : Nat := 16

def shownUid (h : Handle) : List UInt8 :=
  (rfidLayer2Getopt h.uid h.uidLen ⟨-eInval, [], none⟩ optLayer2Uid uidBufSize).optval

/-- The UIDs that are printed, from the first `rfid_layer2_open` on.  `rounds` is for one of
these. -/
def doEnum (rounds : Nat) : Nat → Iso14443aM σ ρ (List (List UInt8))
  | 0 => hang
  | fuel + 1 => do
    match ← attempt (iso14443aAnticol r randomBit rounds) with
    | .error _ => pure []
    | .ok () =>
      let v ← get
      let _ ← iso14443aHlta r
      let uids ← doEnum rounds fuel
      pure (shownUid v.handle :: uids)

end Loop

theorem Card.eq_of_uid {c d : Card} (h : c.uid = d.uid) : c = d := by
  cases c
  cases d
  cases h
  rfl

section Enumerated

variable {σ ρ : Type} {a : Asic σ} {crowd : σ → Crowd} (law : Gathers a crowd)
  (randomBit : ρ → Bool × ρ) (rxPast : RxConfig) (txPast : TxConfig) (speed : Nat)
  {awake cards : List Card} {c : Card}

theorem SingledOut.shownUid {w : σ × Vars ρ} (h : SingledOut crowd awake c w) :
    shownUid w.2.handle = c.uid := by
  have hle : ¬ uidBufSize < c.uid.length := by
    have := c.sized
    unfold uidBufSize
    omega
  have hopt : optLayer2Uid >>> 16 = 0 := by decide
  have hlen : (if c.uid.length < uidBufSize then c.uid.length else uidBufSize) = c.uid.length := by
    split_ifs <;> omega
  rw [Layer2.shownUid, rfidLayer2Getopt, if_pos hopt, if_pos rfl, h.uidLen]
  dsimp only
  rw [hlen, h.uid]

include law

theorem Gathers.hlta_total (hreqa : Handle → Prop) :
    Total (fun w : σ × Vars ρ => (crowd w.1).At awake (.active cards) ∧ hreqa w.2.handle)
      (iso14443aHlta (reader rxPast txPast (fun _ => a) speed)) fun ret w => ret = 0 ∧
        (crowd w.1).At (awake.filter (· ∉ cards)) .idle ∧ hreqa w.2.handle := by
  rintro ⟨s, v⟩ ⟨hat, hv⟩
  obtain ⟨x, s', hx, hret, hat'⟩ := law.halt_total (fun _ => 0) 1000 hat.stage hat.framing s rfl
  have hcall : lift ((reader rxPast txPast (fun _ => a) speed).transceive .iso14443aFrameRegular
      (Mem.ofList (fun _ => 0) [0x50, 0x00]) 2 (fun _ => 0) 10 1000) (s, v) = (.ok x, (s', v)) :=
    lift_run hx
  refine ⟨0, (s', v), ?_, rfl, hat.awake ▸ hat', hv⟩
  rw [iso14443aHlta, bind_ok hcall, if_pos hret]
  rfl

/-- Every card in the field is listed, and none twice. -/
theorem doEnum_lists (rounds fuel : Nat) (hrounds : 46 ≤ rounds) (hfuel : awake.length < fuel)
    (w : σ × Vars ρ) (hw : Waits crowd awake w) :
    ∃ uids w', doEnum (reader rxPast txPast (fun _ => a) speed) randomBit rounds fuel w =
        (.ok uids, w') ∧ uids.Nodup ∧ ∀ uid, uid ∈ uids ↔ ∃ c ∈ awake, c.uid = uid := by
  induction fuel generalizing awake w with
  | zero => exact absurd hfuel (Nat.not_lt_zero _)
  | succ fuel ih =>
    by_cases hne : awake = []
    · subst hne
      obtain ⟨code, w', hrun⟩ :=
        law.anticol_silent randomBit rxPast txPast speed rounds w hw
      refine ⟨[], w', ?_, List.nodup_nil, by simp⟩
      rw [doEnum, bind_ok (attempt_fail hrun)]
      rfl
    · obtain ⟨_, w₁, hrun, hreqa, c, hc⟩ :=
        law.anticol_takes randomBit rxPast txPast speed rounds hrounds hne w hw
      obtain ⟨cards, hat, honly⟩ := hc.taken.active
      obtain ⟨_, w₂, hhalt, rfl, hat₂, hreqa₂⟩ :=
        law.hlta_total rxPast txPast speed (fun h => h.flags &&& optLayer2Wup = 0) w₁
          ⟨hat, hreqa⟩
      have hmem : ∀ d, d ∈ awake.filter (· ∉ cards) ↔ d ∈ awake ∧ d ≠ c := fun d => by
        rw [List.mem_filter, decide_eq_true_iff, honly]
      have hless : (awake.filter (· ∉ cards)).length < awake.length := by
        refine List.length_filter_lt_length_iff_exists.mpr ⟨c, hc.taken.mem, ?_⟩
        simp [honly]
      obtain ⟨uids, w', hrest, hnodup, hall⟩ := ih (by omega) w₂ ⟨⟨hat₂.awake, hat₂.stage⟩, hreqa₂⟩
      refine ⟨c.uid :: uids, w', ?_, List.nodup_cons.mpr ⟨fun h => ?_, hnodup⟩, fun uid => ?_⟩
      · rw [doEnum, bind_ok (attempt_ok hrun)]
        dsimp only
        rw [bind_ok (show Exec.get w₁ = (.ok w₁.2, w₁) from rfl), bind_ok hhalt, bind_ok hrest,
          hc.shownUid]
        rfl
      · obtain ⟨d, hd, huid⟩ := (hall c.uid).mp h
        exact ((hmem d).mp hd).2 (Card.eq_of_uid huid)
      · rw [List.mem_cons, hall]
        constructor
        · rintro (rfl | ⟨d, hd, huid⟩)
          · exact ⟨c, hc.taken.mem, rfl⟩
          · exact ⟨d, ((hmem d).mp hd).1, huid⟩
        · rintro ⟨d, hd, huid⟩
          by_cases hdc : d = c
          · exact .inl (hdc ▸ huid.symm)
          · exact .inr ⟨d, (hmem d).mpr ⟨hd, hdc⟩, huid⟩

end Enumerated

section Simulation

def crowdAnswer (v : Crowd) (tx : Mem UInt8) (len cap : UInt8) : Xfer × Crowd :=
  match v.stage with
  | .idle =>
    if tx 0 = sfCmdReqa ∧ v.awake ≠ [] then
      (⟨0, 2, [0x04, 0x00]⟩, ⟨0, none, v.awake, .ready 0 v.awake⟩)
    else (⟨-eTimedOut, cap, []⟩, v)
  | .ready level ready =>
    let (x, w) := fieldAnswer v.awake ⟨v.framing, v.collision, .ready level ready⟩ tx len cap
    let stage :=
      if tx 1 = 0x70 ∧ named ready level tx ≠ [] then afterNamed level (named ready level tx)
      else v.stage
    (x, ⟨w.framing, w.collision, v.awake, stage⟩)
  | .active cards =>
    if tx.load 0 2 = [0x50, 0x00] then
      (⟨-eTimedOut, cap, []⟩, ⟨0, none, v.awake.filter (· ∉ cards), .idle⟩)
    else (⟨-eTimedOut, cap, []⟩, v)

def crowdAsic : Asic Crowd where
  writeReg reg val v := (0, v.write reg val)
  readReg reg v :=
    if reg = regErrorFlag then ((0, if v.collision = none then 0 else errFlagColErr), v)
    else if reg = regCollPos then ((0, UInt8.ofNat (v.collision.getD 0 + 1)), v)
    else ((0, 0), v)
  transceive tx len cap _ v := (.ok (crowdAnswer v tx len cap).1, (crowdAnswer v tx len cap).2)

section

variable {v : Crowd} {tx : Mem UInt8} (len cap : UInt8)

theorem crowdAnswer_request (hidle : v.stage = .idle) (hcmd : tx 0 = sfCmdReqa) (hne : v.awake ≠ []) :
    crowdAnswer v tx len cap = (⟨0, 2, [0x04, 0x00]⟩, ⟨0, none, v.awake, .ready 0 v.awake⟩) := by
  rw [crowdAnswer, hidle]
  exact if_pos ⟨hcmd, hne⟩

theorem crowdAnswer_silence (hidle : v.stage = .idle) (hnone : v.awake = []) :
    crowdAnswer v tx len cap = (⟨-eTimedOut, cap, []⟩, v) := by
  rw [crowdAnswer, hidle]
  exact if_neg fun h => h.2 hnone

theorem crowdAnswer_halt {cards : List Card} (hstage : v.stage = .active cards)
    (hbegin : tx.load 0 2 = [0x50, 0x00]) :
    crowdAnswer v tx len cap =
      (⟨-eTimedOut, cap, []⟩, ⟨0, none, v.awake.filter (· ∉ cards), .idle⟩) := by
  rw [crowdAnswer, hstage]
  exact if_pos hbegin

theorem crowdAnswer_bitFrame {level n : Nat} {ready : List Card} (hstage : v.stage = .ready level ready)
    (hn : n < 40) (hframe : BitFrame level n v.framing tx len)
    (hne : answering ready level n tx ≠ []) :
    Received (answering ready level n tx) level n (framingRxAlign v.framing)
        (crowdAnswer v tx len cap).1 ∧
      (crowdAnswer v tx len cap).2 =
        ⟨0, levelCollision (answering ready level n tx) level, v.awake, v.stage⟩ := by
  have hnvb : ¬ (tx 1 = 0x70 ∧ named ready level tx ≠ []) := fun h =>
    nvb_ne_select hn (hframe.nvb ▸ h.1)
  obtain ⟨hrcvd, hair⟩ := @fieldAnswer_bitFrame v.awake ⟨v.framing, v.collision, .ready level ready⟩
    level n ready tx len cap rfl hn hframe hne
  simp only [crowdAnswer, hstage, if_neg hnvb, hair]
  exact ⟨hrcvd, trivial⟩

theorem crowdAnswer_select {level : Nat} {ready S : List Card} {c : Card}
    (hstage : v.stage = .ready level ready) (hbegin : tx.load 0 2 = [acSelCode level, 0x70])
    (hS : named ready level tx = c :: S) : crowdAnswer v tx len cap =
      (⟨0, 1, [if c.Complete level then 0x20 else 0x04]⟩,
        ⟨0, none, v.awake, afterNamed level (c :: S)⟩) := by
  have hnvb : tx 1 = 0x70 := (List.cons.inj (List.cons.inj hbegin).2).1
  have hne : named ready level tx ≠ [] := by
    rw [hS]
    exact List.cons_ne_nil _ _
  simp only [crowdAnswer, hstage, if_pos (And.intro hnvb hne)]
  rw [fieldAnswer_select v.awake len cap rfl hbegin hS, hS]

end

theorem crowdAsic_gathers : Gathers crowdAsic id where
  write reg _ val v := ⟨Int.le_refl 0, rfl⟩
  read reg v := by
    simp only [crowdAsic]
    split_ifs <;> exact ⟨Int.le_refl 0, rfl⟩
  errorFlag v := collisionFlag_iff v.collision
  collPos v k hk hlt := by
    have hcol : v.collision = some k := hk
    simp only [crowdAsic, hcol]
    exact collisionPos_toNat hlt
  request v tx cap timer hcmd _ hidle hne _ := by
    intro w hw
    obtain rfl : v = w := hw.symm
    refine ⟨(crowdAnswer v tx 1 cap).1, (crowdAnswer v tx 1 cap).2, rfl, ?_⟩
    rw [crowdAnswer_request 1 cap hidle hcmd hne]
    exact ⟨Int.le_refl 0, rfl, ⟨_, _, rfl, by decide⟩, rfl, rfl, rfl⟩
  silence v tx cap timer hidle hnone := by
    intro w hw
    obtain rfl : v = w := hw.symm
    refine ⟨(crowdAnswer v tx 1 cap).1, (crowdAnswer v tx 1 cap).2, rfl, ?_⟩
    rw [crowdAnswer_silence 1 cap hidle hnone]
    exact (by decide : -eTimedOut < 0)
  bitFrame v level n ready tx len cap timer hstage hn hframe hne _ := by
    rintro _ rfl
    exact ⟨_, _, rfl, crowdAnswer_bitFrame len cap hstage hn hframe hne⟩
  select v level ready tx cap timer hstage hreaches _ hbegin hne _ := by
    intro w hw
    obtain rfl : v = w := hw.symm
    obtain ⟨c, S, hS⟩ := List.exists_cons_of_ne_nil hne
    have hcmem : c ∈ named ready level tx := hS ▸ List.mem_cons_self
    refine ⟨(crowdAnswer v tx 7 cap).1, (crowdAnswer v tx 7 cap).2, rfl, ?_⟩
    rw [crowdAnswer_select 7 cap hstage hbegin hS]
    exact ⟨Int.le_refl 0, ⟨_, _, rfl, fun d hd => sak_iff hreaches hcmem hd⟩, rfl, rfl, by rw [hS]; rfl⟩
  halt v cards tx cap timer hstage _ hbegin := by
    intro w hw
    obtain rfl : v = w := hw.symm
    refine ⟨(crowdAnswer v tx 2 cap).1, (crowdAnswer v tx 2 cap).2, rfl, ?_⟩
    rw [crowdAnswer_halt 2 cap hstage hbegin]
    exact ⟨(by decide : -eTimedOut < 0), rfl, rfl, rfl⟩

def threeCards : List Card :=
  ⟨[0x12, 0x34, 0x56, 0x79], by decide, by decide⟩ :: twoCards

theorem doEnum_lists_three :
    ∃ uids w', doEnum (reader ⟨0, 0, 0, 0⟩ ⟨0, 0⟩ (fun _ => crowdAsic) rfid14443aSpeed106k)
        Layer2.randomBit 46 4 (⟨0, none, threeCards, .idle⟩, initVars) =
        (.ok uids, w') ∧ uids.Nodup ∧ ∀ uid, uid ∈ uids ↔ ∃ c ∈ threeCards, c.uid = uid :=
  doEnum_lists crowdAsic_gathers Layer2.randomBit _ _ _ 46 4 (Nat.le_refl 46) (by decide) _
    ⟨⟨rfl, rfl⟩, rfl⟩

end Simulation

end Librfid.Layer2
