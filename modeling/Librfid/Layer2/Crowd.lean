import Librfid.Layer2.Anticollision

namespace Librfid.Layer2

open Rc632 Exec

/-- What the cards that are awake wait for; those that have been selected wait alone. -/
inductive Stage
  | idle
  | ready (level : Nat) (cards : List Card)
  | active (cards : List Card)

structure Crowd where
  framing : UInt8
  collision : Option Nat
  awake : List Card
  stage : Stage

namespace Crowd

def write (v : Crowd) (reg val : UInt8) : Crowd :=
  if reg = regBitFraming then { v with framing := val } else v

structure At (awake : List Card) (stage : Stage) (v : Crowd) : Prop where
  framing : v.framing = 0
  awake : v.awake = awake
  stage : v.stage = stage

/-- The cards of a bit frame, as long as `awake` are the ones that are awake. -/
def air (awake : List Card) (v : Crowd) : Air where
  framing := v.framing
  collision := v.collision
  field := match v.stage with
    | .idle => .ready 0 []
    | .ready level cards => if v.awake = awake then .ready level cards else .ready 0 []
    | .active _ => .active

theorem air_write (awake : List Card) (v : Crowd) (reg val : UInt8) :
    (v.write reg val).air awake = (v.air awake).write reg val := by
  unfold write Air.write
  split_ifs <;> rfl

theorem of_air_field {awake ready : List Card} {level : Nat} {v : Crowd} (hne : ready ≠ [])
    (h : (v.air awake).field = .ready level ready) : v.awake = awake ∧ v.stage = .ready level ready := by
  unfold air at h
  cases hstage : v.stage with
  | ready level' cards =>
    simp only [hstage] at h
    split_ifs at h with hawake
    · cases h
      exact ⟨hawake, rfl⟩
    · cases h
      exact absurd rfl hne
  | idle =>
    simp only [hstage] at h
    cases h
    exact absurd rfl hne
  | active cards =>
    simp only [hstage] at h
    cases h

theorem air_field {awake ready : List Card} {level : Nat} {v : Crowd} (hawake : v.awake = awake)
    (hstage : v.stage = .ready level ready) : (v.air awake).field = .ready level ready := by
  simp only [air, hstage, if_pos hawake]

end Crowd

def afterNamed (level : Nat) (S : List Card) : Stage :=
  if ∃ c ∈ S, ¬ c.Complete level then .ready (level + 1) S else .active S

structure Gathers {σ : Type} (a : Asic σ) (crowd : σ → Crowd) : Prop where
  write : ∀ reg ∈ [regControl, regChannelRedundancy, regBitFraming], ∀ val s,
    0 ≤ (a.writeReg reg val s).1 ∧ crowd (a.writeReg reg val s).2 = (crowd s).write reg val
  read : ∀ reg s, 0 ≤ (a.readReg reg s).1.1 ∧ crowd (a.readReg reg s).2 = crowd s
  errorFlag : ∀ s, (a.readReg regErrorFlag s).1.2 &&& errFlagColErr ≠ 0 ↔ (crowd s).collision ≠ none
  collPos : ∀ s k, (crowd s).collision = some k → k < 40 →
    (a.readReg regCollPos s).1.2.toNat = k + 1
  request : ∀ (v : Crowd) (tx : Mem UInt8) (cap : UInt8) (timer : Nat), tx 0 = sfCmdReqa →
    v.framing = 0x07 → v.stage = .idle → v.awake ≠ [] → 2 ≤ cap.toNat →
    Total (fun s => crowd s = v) (a.transceive tx 1 cap timer) fun x s =>
      0 ≤ x.ret ∧ x.rxLen = 2 ∧ (∃ b b', x.rx = [b, b'] ∧ b &&& 0x1f ≠ 0) ∧
        (crowd s).At v.awake (.ready 0 v.awake)
  silence : ∀ (v : Crowd) (tx : Mem UInt8) (cap : UInt8) (timer : Nat), v.stage = .idle →
    v.awake = [] → Total (fun s => crowd s = v) (a.transceive tx 1 cap timer) fun x _ => x.ret < 0
  bitFrame : ∀ (v : Crowd) (level n : Nat) (ready : List Card) (tx : Mem UInt8) (len cap : UInt8)
    (timer : Nat), v.stage = .ready level ready → n < 40 → BitFrame level n v.framing tx len →
    answering ready level n tx ≠ [] → 5 ≤ cap.toNat →
    Total (fun s => crowd s = v) (a.transceive tx len cap timer) fun x s =>
      Received (answering ready level n tx) level n (framingRxAlign v.framing) x ∧
        crowd s = ⟨0, levelCollision (answering ready level n tx) level, v.awake, v.stage⟩
  select : ∀ (v : Crowd) (level : Nat) (ready : List Card) (tx : Mem UInt8) (cap : UInt8)
    (timer : Nat), v.stage = .ready level ready → (∀ c ∈ ready, c.Reaches level) → v.framing = 0 →
    tx.load 0 2 = [acSelCode level, 0x70] → named ready level tx ≠ [] → 1 ≤ cap.toNat →
    Total (fun s => crowd s = v) (a.transceive tx 7 cap timer) fun x s =>
      0 ≤ x.ret ∧ (∃ sak l, x.rx = sak :: l ∧
        ∀ c ∈ named ready level tx, sak &&& 0x04 ≠ 0 ↔ ¬ c.Complete level) ∧
        (crowd s).At v.awake (afterNamed level (named ready level tx))
  /-- A card that is halted does not say so. -/
  halt : ∀ (v : Crowd) (cards : List Card) (tx : Mem UInt8) (cap : UInt8) (timer : Nat),
    v.stage = .active cards → v.framing = 0 → tx.load 0 2 = [0x50, 0x00] →
    Total (fun s => crowd s = v) (a.transceive tx 2 cap timer) fun x s =>
      x.ret < 0 ∧ (crowd s).At (v.awake.filter (· ∉ cards)) .idle

section Law

variable {σ : Type} {a : Asic σ} {crowd : σ → Crowd} (law : Gathers a crowd)
include law

theorem Gathers.inField (awake : List Card) : InField [] a fun s => (crowd s).air awake where
  write reg hreg val s := by
    obtain ⟨hret, hw⟩ := law.write reg hreg val s
    exact ⟨hret, by rw [hw, Crowd.air_write]⟩
  read reg s := by
    obtain ⟨hret, hr⟩ := law.read reg s
    exact ⟨hret, by rw [hr]⟩
  errorFlag := law.errorFlag
  collPos := law.collPos
  request v tx cap timer _ _ hidle _ := by
    rintro s rfl
    unfold Crowd.air at hidle
    cases hstage : (crowd s).stage with
    | ready level cards =>
      simp only [hstage] at hidle
      split_ifs at hidle
    | idle | active => simp [hstage] at hidle
  bitFrame v level n ready tx len cap timer hfield hn hframe hne hcap := by
    rintro s rfl
    have hready : ready ≠ [] := by
      rintro rfl
      exact hne rfl
    obtain ⟨hawake, hstage⟩ := Crowd.of_air_field hready hfield
    obtain ⟨x, s', hx, hrcvd, hcrowd⟩ :=
      law.bitFrame (crowd s) level n ready tx len cap timer hstage hn hframe hne hcap s rfl
    refine ⟨x, s', hx, hrcvd, ?_⟩
    rw [hcrowd, hstage]
    simp only [Crowd.air, if_pos hawake]
  select v level ready tx cap timer hfield hreaches hframing hbegin hne hcap := by
    rintro s rfl
    have hready : ready ≠ [] := by
      rintro rfl
      exact hne rfl
    obtain ⟨hawake, hstage⟩ := Crowd.of_air_field hready hfield
    obtain ⟨x, s', hx, hret, hsak, hat⟩ :=
      law.select (crowd s) level ready tx cap timer hstage hreaches hframing hbegin hne hcap s rfl
    refine ⟨x, s', hx, hret, hsak, hat.framing, ?_⟩
    have hnext := hat.stage
    unfold afterNamed at hnext
    unfold afterSelect
    split_ifs at hnext ⊢ with hmore
    · exact Crowd.air_field (hat.awake.trans hawake) hnext
    · simp only [Crowd.air, hnext]

theorem Gathers.regRead_total (reg : UInt8) (v : Crowd) :
    Total (fun s => crowd s = v) (a.regRead reg) fun r s => 0 ≤ r.1 ∧ crowd s = v :=
  regRead_view law.read reg

theorem Gathers.regWrite_total {reg : UInt8}
    (hreg : reg ∈ [regControl, regChannelRedundancy, regBitFraming]) (val : UInt8) (v : Crowd) :
    Total (fun s => crowd s = v) (a.regWrite reg val) fun ret s =>
      0 ≤ ret ∧ crowd s = v.write reg val :=
  regWrite_view (Crowd.write · reg val) (law.write reg hreg val)

theorem Gathers.clearBits_total {reg : UInt8} (hreg : reg ∈ [regControl, regChannelRedundancy])
    (mask : UInt8) (v : Crowd) :
    Total (fun s => crowd s = v) (rc632ClearBits a.toBus reg mask) fun ret s =>
      0 ≤ ret ∧ crowd s = v :=
  clearBits_view law.read (fun val s => by
    obtain ⟨hret, hcrowd⟩ := law.write reg (List.mem_append_left [regBitFraming] hreg) val s
    exact ⟨hret, hcrowd.trans (if_neg (ne_regBitFraming hreg))⟩) mask

theorem Gathers.prepareSf_total (v : Crowd) :
    Total (fun s => crowd s = v) (rc632Iso14443aPrepareSf a) fun _ s =>
      crowd s = { v with framing := 0x07 } := by
  refine .bind (write_total (law.regWrite_total (by decide) 0x07 v)) fun _ => ?_
  refine .bind_check (law.clearBits_total (by decide) _ { v with framing := 0x07 }) ?_
  refine .bind (law.clearBits_total (by decide) _ { v with framing := 0x07 }) fun ret => ?_
  exact .assume fun hret => .check hret

theorem Gathers.finishSf_total {v : Crowd} (hframing : v.framing = 0) :
    Total (fun s => crowd s = v) (rc632Iso14443aFinishSf a) fun _ s => crowd s = v := by
  have hsame : v.write regBitFraming 0x00 = v := by
    change { v with framing := 0 } = v
    rw [← hframing]
  have hread : ∀ reg, Total (fun s => crowd s = v) (a.read reg) fun _ s => crowd s = v :=
    fun reg => read_total (law.regRead_total reg v)
  have hwrite : Total (fun s => crowd s = v) (a.write regBitFraming 0x00) fun _ s => crowd s = v := by
    have hreg : regBitFraming ∈ [regControl, regChannelRedundancy, regBitFraming] := by decide
    have h := write_total (law.regWrite_total hreg 0x00 v)
    rwa [hsame] at h
  exact .bind hwrite fun _ => .bind (hread regErrorFlag) fun _ =>
    .when (fun _ => .bind (hread regCollPos) fun _ => .pure fun _ => id) fun _ _ => id

theorem Gathers.transceiveSf_total (atqa : Mem UInt8) {v : Crowd} (hidle : v.stage = .idle)
    (hne : v.awake ≠ []) :
    Total (fun s => crowd s = v) (rc632Iso14443aTransceiveSf a sfCmdReqa atqa) fun r s =>
      (r.ret = 0 ∧ bfAnticol r.atqa ≠ 0) ∧ (crowd s).At v.awake (.ready 0 v.awake) := by
  refine .bind (law.prepareSf_total v).attempt fun o s hs => ?_
  obtain ⟨_, rfl, hs⟩ := hs
  obtain ⟨x, s₁, hx, hret, hlen, ⟨b, b', hrx, hb⟩, hat⟩ :=
    law.request { v with framing := 0x07 } (Mem.ofList (fun _ => 0) [sfCmdReqa]) 2
      iso14443aFdtAnticolLast1 rfl rfl hidle hne (by decide) s hs
  obtain ⟨_, s₂, hrun, hdone⟩ := law.finishSf_total hat.framing s₁ rfl
  refine ⟨⟨0, (atqa.store 0 [0, 0]).store 0 x.rx⟩, s₂, ?_, ⟨rfl, ?_⟩, hdone ▸ hat⟩
  · dsimp only
    rw [bind_ok hx, if_neg (Int.not_lt.mpr hret), bind_ok (attempt_ok hrun), if_neg (not_not.mpr hlen)]
    rfl
  · rw [bfAnticol, hrx]
    exact hb

theorem Gathers.transceiveSf_silent (atqa : Mem UInt8) {v : Crowd} (hidle : v.stage = .idle)
    (hnone : v.awake = []) :
    Total (fun s => crowd s = v) (rc632Iso14443aTransceiveSf a sfCmdReqa atqa) fun r _ =>
      r.ret < 0 := by
  refine .bind (law.prepareSf_total v).attempt fun o s hs => ?_
  obtain ⟨_, rfl, hs⟩ := hs
  obtain ⟨x, s₁, hx, hret⟩ := law.silence { v with framing := 0x07 }
    (Mem.ofList (fun _ => 0) [sfCmdReqa]) 2 iso14443aFdtAnticolLast1 hidle hnone s hs
  refine ⟨⟨x.ret, (atqa.store 0 [0, 0]).store 0 x.rx⟩, s₁, ?_, hret⟩
  dsimp only
  rw [bind_ok hx, if_pos hret]
  rfl

theorem Gathers.select_total {level : Nat} {ready : List Card} {acf : Mem UInt8} {v : Crowd}
    (rx : Mem UInt8) (timeout : Nat) (hstage : v.stage = .ready level ready)
    (hreaches : ∀ c ∈ ready, c.Reaches level) (hframing : v.framing = 0)
    (hsel : acf.load 0 2 = [acSelCode level, 0x70]) (hne : named ready level acf ≠ []) :
    Total (fun s => crowd s = v)
      (rc632Iso14443abTransceive a .iso14443aFrameRegular acf 7 rx 3 timeout) fun r s =>
      (r.ret = 0 ∧ ∀ c ∈ named ready level acf, r.rx 0 &&& 0x04 ≠ 0 ↔ ¬ c.Complete level) ∧
        (crowd s).At v.awake (afterNamed level (named ready level acf)) := by
  refine .bind (write_total (law.regWrite_total (by decide) _ v)).attempt fun o s hs => ?_
  obtain ⟨_, rfl, hs⟩ := hs
  obtain ⟨x, s₁, hx, hret, ⟨sak, l, hrx, hsak⟩, hat⟩ :=
    law.select v level ready acf 3 timeout hstage hreaches hframing hsel hne (by decide) s hs
  refine ⟨_, s₁, bind_ok hx, ⟨if_neg (Int.not_lt.mpr hret), ?_⟩, hat⟩
  rw [hrx]
  exact hsak

/-- HLTA: the driver takes no answer for success. -/
theorem Gathers.halt_total {cards : List Card} {v : Crowd} (rx : Mem UInt8) (timeout : Nat)
    (hstage : v.stage = .active cards) (hframing : v.framing = 0) :
    Total (fun s => crowd s = v)
      (rc632Iso14443abTransceive a .iso14443aFrameRegular (Mem.ofList (fun _ => 0) [0x50, 0x00]) 2 rx
        10 timeout) fun r s =>
      r.ret < 0 ∧ (crowd s).At (v.awake.filter (· ∉ cards)) .idle := by
  refine .bind (write_total (law.regWrite_total (by decide) _ v)).attempt fun o s hs => ?_
  obtain ⟨_, rfl, hs⟩ := hs
  obtain ⟨x, s₁, hx, hret, hat⟩ := law.halt v cards (Mem.ofList (fun _ => 0) [0x50, 0x00]) 10 timeout
    hstage hframing rfl s hs
  exact ⟨_, s₁, bind_ok hx, lt_of_eq_of_lt (if_pos hret) hret, hat⟩

end Law

section Cascade

variable {σ ρ : Type} {a : Asic σ} {crowd : σ → Crowd} (law : Gathers a crowd)
  (randomBit : ρ → Bool × ρ) (rxPast : RxConfig) (txPast : TxConfig) (speed : Nat)
  {awake ready : List Card} {level : Nat} {h : Handle} {acf : Mem UInt8} {c : Card}

def Halts (crowd : σ → Crowd) (awake : List Card) (stage : Stage) (h : Handle) (s : σ × Vars ρ) :
    Prop := (crowd s.1).At awake stage ∧ s.2.handle = h

theorem halts_of_between {s : σ × Vars ρ} (hne : ready ≠ [])
    (hs : Between (fun s => (crowd s).air awake) (.ready level ready) h s) :
    Halts crowd awake (.ready level ready) h s := by
  obtain ⟨hawake, hstage⟩ := Crowd.of_air_field hne hs.1.2
  exact ⟨⟨hs.1.1, hawake, hstage⟩, hs.2⟩

theorem between_of_halts {s : σ × Vars ρ} (hs : Halts crowd awake (.ready level ready) h s) :
    Between (fun s => (crowd s).air awake) (.ready level ready) h s :=
  ⟨⟨hs.1.framing, Crowd.air_field hs.1.awake hs.1.stage⟩, hs.2⟩

theorem mem_named_iff (hcas : Cascading awake ready level h) (hcr : c ∈ ready)
    (hc : acf.load 2 5 = c.levelBytes level) (hcomplete : c.Complete level) {d : Card} :
    d ∈ named ready level acf ↔ d = c := by
  constructor
  · intro hd
    obtain ⟨hdr, hbytes⟩ := mem_named hc hd
    have hd' : d.Complete level := (complete_named hcas hcr hc hd).mpr hcomplete
    have hrest : d.levelUid level = c.levelUid level := by
      rw [← Card.take_levelBytes (hcas.reaches d hdr), hbytes,
        Card.take_levelBytes (hcas.reaches c hcr)]
    rw [Card.levelUid_of_complete hd', Card.levelUid_of_complete hcomplete] at hrest
    have hbegun := (hcas.begun d hdr).symm.trans (hcas.begun c hcr)
    have huid : d.uid = c.uid := by
      rw [← List.take_append_drop (3 * level) d.uid, hbegun, hrest, List.take_append_drop]
    cases d
    cases c
    cases huid
    rfl
  · rintro rfl
    exact List.mem_filter.mpr ⟨hcr, decide_eq_true hc⟩

structure Taken (crowd : σ → Crowd) (awake : List Card) (c : Card) (s : σ × Vars ρ) : Prop where
  mem : c ∈ awake
  active : ∃ cards, (crowd s.1).At awake (.active cards) ∧ ∀ d, d ∈ cards ↔ d = c

theorem setHandle_halts (f : Handle → Handle) {stage : Stage} :
    Total (Halts crowd awake stage h) (setHandle f : Iso14443aM σ ρ Unit)
      fun _ => Halts crowd awake stage (f h) :=
  fun _ hs => ⟨(), _, rfl, hs.1, congrArg f hs.2⟩

theorem cascading_single (hcas : Cascading awake ready level h) (hcr : c ∈ ready) :
    Cascading [c] [c] level h where
  nonempty := List.cons_ne_nil c []
  mem _ := id
  reaches d hd := by
    rw [List.mem_singleton.mp hd]
    exact hcas.reaches c hcr
  begun d hd := by
    rw [List.mem_singleton.mp hd]
    exact hcas.begun c hcr
  level := hcas.level

include law

theorem Gathers.select_level {acf : Mem UInt8} (sak : Mem UInt8) (hsel : acf 0 = acSelCode level)
    (hcr : c ∈ ready) (hagree : Agrees acf level 40 c) (hcas : Cascading awake ready level h) :
    (codeNvb acf (7 * 8)).load 2 5 = c.levelBytes level ∧
      Total (Halts crowd awake (.ready level ready) h)
        (lift ((reader rxPast txPast (fun _ => a) speed).transceive .iso14443aFrameRegular
          (codeNvb acf (7 * 8)) 7 sak 3 1236) : Iso14443aM σ ρ AbResult)
        fun y s => (y.ret = 0 ∧ (y.rx 0 &&& 0x04 ≠ 0 ↔ ¬ c.Complete level)) ∧
          Halts crowd awake (afterNamed level (named ready level (codeNvb acf (7 * 8)))) h s := by
  obtain ⟨hload, hbegin, hnamed⟩ := hcas.select_frame hsel hcr hagree
  refine ⟨hload, ?_⟩
  rintro ⟨s, v⟩ ⟨hat, hv⟩
  obtain ⟨y, s', hy, ⟨hret, hsak⟩, hat'⟩ := law.select_total sak 1236 hat.stage hcas.reaches
    hat.framing hbegin (List.ne_nil_of_mem hnamed) s rfl
  exact ⟨y, (s', v), lift_run hy, ⟨hret, hsak c hnamed⟩, hat.awake ▸ hat', hv⟩

/-- Level by level the cards get fewer, until the UID of one is known and it waits alone. -/
theorem Gathers.cascade_taken (fuel : Nat) {acf sak : Mem UInt8}
    (hcas : Cascading awake ready level h) (hsel : acf 0 = acSelCode level) (hfuel : 46 ≤ fuel + level) :
    Total (Halts crowd awake (.ready level ready) h)
      (iso14443aCascade (reader rxPast txPast (fun _ => a) speed) randomBit fuel acf sak)
      fun _ s => s.2.handle.flags = h.flags ∧
        ∃ c, Taken crowd awake c s ∧ Found [c] s.2.handle := by
  induction fuel generalizing level ready h acf sak with
  | zero =>
    have := hcas.level_lt
    omega
  | succ fuel ih =>
    obtain ⟨c₀, hc₀⟩ := List.exists_mem_of_ne_nil _ hcas.nonempty
    have hlaw := law.inField awake
    unfold iso14443aCascade
    refine .bind ((hlaw.bitFrame_total rxPast txPast speed hcas.reaches (by decide)
      (coded_codeNvb hsel (by decide : 0 < 48)) ⟨c₀, hc₀, fun _ hi =>
        absurd hi (Nat.not_lt_zero _)⟩).pre fun _ hs => between_of_halts hs) fun r s hs => ?_
    obtain ⟨coll, ⟨hret, hboc, hsel', hbounds, hagrees⟩, hs⟩ := hs
    rw [hret, hboc]
    refine Total.bind (.check (Int.le_refl 0)) (fun _ => ?_) s hs
    clear hs
    have hlevel : level < 3 := hcas.level_lt
    refine .bind ((hlaw.collisions_total randomBit rxPast txPast speed hcas.reaches fuel (by omega) hsel'
      (fun k hk => (hbounds k hk).2) hagrees).post fun _ _ hs =>
        ⟨hs.1, halts_of_between hcas.nonempty hs.2⟩) fun acf' => .assume fun hacf' => ?_
    obtain ⟨hsel'', c, hcr, hagree⟩ := hacf'
    obtain ⟨hload, hselect⟩ := law.select_level rxPast txPast speed sak hsel'' hcr hagree hcas
    refine .bind hselect fun y => .assume fun hy => ?_
    have hcode : codeNvb acf' (7 * 8) 0 = acSelCode level := (codeNvb_zero _ _).trans hsel''
    have hnamed : c ∈ named ready level (codeNvb acf' (7 * 8)) :=
      List.mem_filter.mpr ⟨hcr, decide_eq_true hload⟩
    rw [hy.1]
    refine Total.bind (.check (Int.le_refl 0)) fun _ => .ite (fun hbit => ?_) fun hbit => ?_
    · have hcomplete := hy.2.mp hbit
      have hnext := cascading_succ hcas hcr hload hcomplete
      have hstage : afterNamed level (named ready level (codeNvb acf' (7 * 8))) =
          .ready (level + 1) (named ready level (codeNvb acf' (7 * 8))) :=
        if_pos ⟨c, hnamed, hcomplete⟩
      rw [hstage, hcode]
      -- the handle of the next level, and its command
      have hrec : ∀ (f : Handle → Handle) (sel : UInt8), Cascading awake
            (named ready level (codeNvb acf' (7 * 8))) (level + 1) (f h) → sel = acSelCode (level + 1) →
          (f h).flags = h.flags →
          Total (Halts crowd awake (.ready (level + 1) (named ready level (codeNvb acf' (7 * 8)))) h)
            (setHandle f >>= fun _ =>
              iso14443aCascade (reader rxPast txPast (fun _ => a) speed) randomBit fuel
                ((codeNvb acf' (7 * 8)).set 0 sel) y.rx)
            fun _ s => s.2.handle.flags = h.flags ∧
              ∃ c, Taken crowd awake c s ∧ Found [c] s.2.handle := fun f sel hcas hsel hflags =>
        (setHandle_halts f).bind fun _ =>
          hflags ▸ ih hcas ((Mem.set_self _ _ _).trans hsel) (by omega)
      obtain rfl | rfl | rfl : level = 0 ∨ level = 1 ∨ level = 2 := by omega
      · have htag : codeNvb acf' (7 * 8) 2 = 0x88 :=
          Card.tag_of_load (hcas.reaches c hcr) hcomplete hload
        rw [if_pos (show acSelCode 0 = acSelCodeCl1 from rfl), if_neg (not_not.mpr htag)]
        exact hrec _ _ hnext rfl rfl
      · exact hrec _ _ hnext rfl rfl
      · exact absurd hnext.level_lt (by decide)
    · have hcomplete : c.Complete level := not_not.mp fun h => hbit (hy.2.mpr h)
      have honly : ∀ d, d ∈ named ready level (codeNvb acf' (7 * 8)) ↔ d = c := fun d =>
        mem_named_iff hcas hcr hload hcomplete
      have hstage : afterNamed level (named ready level (codeNvb acf' (7 * 8))) =
          .active (named ready level (codeNvb acf' (7 * 8))) := by
        refine if_neg ?_
        rintro ⟨d, hd, hmore⟩
        rw [(honly d).mp hd] at hmore
        exact hmore hcomplete
      rw [hstage]
      refine .bind (setHandle_halts _) fun _ => .pure fun s hs => ?_
      rw [hs.2, storeUid_eq hlevel hcode]
      exact ⟨rfl, c, ⟨hcas.mem c hcr, _, hs.1, honly⟩, found_of_complete (cascading_single hcas hcr)
        (List.mem_singleton_self c) hload hcomplete rfl rfl⟩

structure SingledOut (crowd : σ → Crowd) (awake : List Card) (c : Card) (s : σ × Vars ρ) : Prop where
  taken : Taken crowd awake c s
  uidLen : s.2.handle.uidLen = c.uid.length
  uid : s.2.handle.uid.load 0 c.uid.length = c.uid

structure Waits (crowd : σ → Crowd) (awake : List Card) (s : σ × Vars ρ) : Prop where
  stage : (crowd s.1).awake = awake ∧ (crowd s.1).stage = .idle
  reqa : s.2.handle.flags &&& optLayer2Wup = 0

theorem Gathers.anticol_takes (fuel : Nat) (hfuel : 46 ≤ fuel) (hne : awake ≠ []) :
    Total (Waits (ρ := ρ) crowd awake)
      (iso14443aAnticol (reader rxPast txPast (fun _ => a) speed) randomBit fuel)
      fun _ w => w.2.handle.flags &&& optLayer2Wup = 0 ∧ ∃ c, SingledOut crowd awake c w := by
  let begun (stage : Stage) : σ × Vars ρ → Prop := fun w =>
    ((crowd w.1).awake = awake ∧ (crowd w.1).stage = stage) ∧ w.2.handle.flags &&& optLayer2Wup = 0
  let first : σ × Vars ρ → Prop := fun w =>
    (crowd w.1).At awake (.ready 0 awake) ∧ w.2.handle.flags &&& optLayer2Wup = 0
  have hskip : ∀ {c : Prop} [Decidable c] {x : Iso14443aM σ ρ Unit}, ¬ c →
      Total first (when c x) fun _ => first := fun hc => .when (fun h => absurd h hc) fun _ _ => id
  refine Total.bind (Q := fun _ => begun .idle) (fun w hw => ⟨(), _, rfl, hw.stage, hw.reqa⟩) fun _ => ?_
  refine .bind (Q := fun v w => begun .idle w ∧ w.2 = v) (fun w hw => ⟨w.2, w, rfl, hw, rfl⟩)
    fun v => ?_
  have hrequest : Total (fun w : σ × Vars ρ => begun .idle w ∧ w.2 = v)
      (lift ((reader rxPast txPast (fun _ => a) speed).transceiveSf
        (if v.handle.flags &&& optLayer2Wup ≠ 0 then sfCmdWupa else sfCmdReqa) v.handle.atqa))
      fun x w => (x.ret = 0 ∧ bfAnticol x.atqa ≠ 0) ∧ first w := by
    rintro ⟨s, v'⟩ ⟨⟨⟨hawake, hidle⟩, hreqa⟩, rfl⟩
    obtain ⟨x, s', hx, hret, hat⟩ := law.transceiveSf_total v'.handle.atqa hidle (hawake ▸ hne) s rfl
    refine ⟨x, (s', v'), ?_, hret, hawake ▸ hat, hreqa⟩
    rw [if_neg (not_not.mpr hreqa)]
    exact lift_run hx
  refine .bind hrequest fun x => .assume fun hx => ?_
  have hstep : ∀ f : Handle → Handle, (∀ h, (f h).flags = h.flags) →
      Total first (setHandle f) fun _ => first := fun f hf w hw =>
    ⟨(), _, rfl, hw.1, (congrArg (· &&& optLayer2Wup) (hf w.2.handle)).trans hw.2⟩
  refine .bind (hstep _ fun _ => rfl) fun _ => ?_
  refine .bind (hskip (by rw [hx.1]; exact Int.lt_irrefl 0)) fun _ => ?_
  refine .bind (hstep _ fun _ => rfl) fun _ => .bind (hskip hx.2) fun _ => ?_
  refine .bind (Q := fun _ w => first w ∧ w.2.handle.level = .cl1) (fun w hw => ⟨(), _, rfl, hw, rfl⟩)
    fun _ => ?_
  have hcascade : Total (fun w : σ × Vars ρ => first w ∧ w.2.handle.level = .cl1)
      (iso14443aCascade (reader rxPast txPast (fun _ => a) speed) randomBit fuel
        (Mem.ofList (fun _ => 0) [acSelCodeCl1, 0, 0, 0, 0, 0, 0]) fun _ => 0)
      fun _ w => w.2.handle.flags &&& optLayer2Wup = 0 ∧
        ∃ c, Taken crowd awake c w ∧ Found [c] w.2.handle := by
    rintro w ⟨⟨hat, hreqa⟩, hlevel⟩
    have hcas : Cascading awake awake 0 w.2.handle := Cascading.start hne hlevel
    have hsel : Mem.ofList (fun _ => 0) [acSelCodeCl1, 0, 0, 0, 0, 0, 0] 0 = acSelCode 0 := rfl
    obtain ⟨sak, w', hrun, hflags, hfound⟩ :=
      law.cascade_taken randomBit rxPast txPast speed fuel hcas hsel hfuel w ⟨hat, rfl⟩
    exact ⟨sak, w', hrun, by rw [hflags]; exact hreqa, hfound⟩
  refine .bind hcascade fun sak => fun w hw => ⟨(), _, rfl, ?_⟩
  obtain ⟨hreqa, c, htaken, hfound⟩ := hw
  obtain ⟨d, hd, hlen, huid⟩ := hfound.selected (sak 0)
  cases List.mem_singleton.mp hd
  refine ⟨?_, c, ⟨htaken.mem, htaken.active⟩, hlen, huid⟩
  refine Eq.trans ?_ hreqa
  change (iso14443aSelected (sak 0) w.2.handle).flags &&& optLayer2Wup = _
  unfold iso14443aSelected
  split_ifs <;> rfl

theorem Gathers.anticol_silent (fuel : Nat) :
    ∀ w, Waits (ρ := ρ) crowd [] w →
      ∃ code w', iso14443aAnticol (reader rxPast txPast (fun _ => a) speed) randomBit fuel w =
        (.fail code, w') := by
  rintro ⟨s, v⟩ ⟨⟨hnone, hidle⟩, hreqa⟩
  let h := { v.handle with
    uid := v.handle.uid.store 0 (List.replicate 10 0), atqa := v.handle.atqa.store 0 [0, 0], sak := 0 }
  obtain ⟨x, s', hx, hret⟩ := law.transceiveSf_silent h.atqa hidle hnone s rfl
  have hclear : setHandle (fun h => { h with
      uid := h.uid.store 0 (List.replicate 10 0), atqa := h.atqa.store 0 [0, 0], sak := 0 }) (s, v) =
      (.ok (), (s, { v with handle := h })) := rfl
  have hget : Exec.get (s, ({ v with handle := h } : Vars ρ)) =
      (.ok { v with handle := h }, (s, { v with handle := h })) := rfl
  have hcall : lift ((reader rxPast txPast (fun _ => a) speed).transceiveSf sfCmdReqa h.atqa)
      (s, ({ v with handle := h } : Vars ρ)) = (.ok x, (s', { v with handle := h })) :=
    lift_run hx
  have hflags : ¬ h.flags &&& optLayer2Wup ≠ 0 := not_not.mpr hreqa
  refine ⟨x.ret, (s', { v with handle := { h with atqa := x.atqa, state := .reqaSent } }), ?_⟩
  rw [iso14443aAnticol, bind_ok hclear, bind_ok hget]
  dsimp only
  rw [if_neg hflags, bind_ok hcall, when_of hret]
  rfl

end Cascade

end Librfid.Layer2
