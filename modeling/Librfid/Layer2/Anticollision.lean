import Librfid.Layer2.BitFrame

namespace Librfid.Layer2

open Rc632 Exec

section Cascade

variable {σ ρ : Type} {cards : List Card} {a : Asic σ} {air : σ → Air} (law : InField cards a air)
  (randomBit : ρ → Bool × ρ) (rxPast : RxConfig) (txPast : TxConfig) (speed : Nat)

def Between (air : σ → Air) (field : Field) (h : Handle) (s : σ × Vars ρ) : Prop :=
  ((air s.1).framing = 0 ∧ (air s.1).field = field) ∧ s.2.handle = h

theorem bitOfCol_eq_none {coll : Option Nat} (h : ∀ k, coll = some k → k < 32) :
    bitOfCol coll = iso14443aBitOfColNone ↔ coll = none := by
  cases coll with
  | none => exact iff_of_true rfl rfl
  | some k =>
    have := h k rfl
    refine iff_of_false (fun hboc => ?_) nofun
    rw [bitOfCol, iso14443aBitOfColNone] at hboc
    omega

theorem rndToggleBitInField_total (m : Mem UInt8) (base : Int) (size bit : Nat) (P : σ → Prop)
    (h : Handle) :
    Total (fun s : σ × Vars ρ => P s.1 ∧ s.2.handle = h)
      (rndToggleBitInField randomBit m base size bit) fun m' s =>
        (∀ q, q < base + ((bit - 1) / 8 : Nat) → m' q = m q) ∧ P s.1 ∧ s.2.handle = h := by
  rintro ⟨s, v⟩ ⟨hs, hv⟩
  obtain ⟨b, v', hrun, hv'⟩ := rndToggleBitInField_run randomBit m base size bit s v
  refine ⟨_, _, hrun, fun q hq => ?_, hs, hv'.trans hv⟩
  split_ifs
  · exact Mem.set_ne _ _ (by omega)
  · rfl

theorem agrees_congr {acf acf' : Mem UInt8} {level n : Nat} {c : Card} (h : Agrees acf level n c)
    (hsame : ∀ q : Nat, 2 ≤ q → q < 2 + (n + 7) / 8 → acf' q = acf q) : Agrees acf' level n c := by
  intro i hi
  rw [← h i hi, bufBit, bufBit, hsame _ (by omega) (by omega)]

def handleLevel : Nat → Iso14443aLevel
  | 0 => .cl1
  | 1 => .cl2
  | _ => .cl3

structure Cascading (cards ready : List Card) (level : Nat) (h : Handle) : Prop where
  nonempty : ready ≠ []
  mem : ∀ c ∈ ready, c ∈ cards
  reaches : ∀ c ∈ ready, c.Reaches level
  begun : ∀ c ∈ ready, h.uid.load 0 (3 * level) = c.uid.take (3 * level)
  level : h.level = handleLevel level

def Found (cards : List Card) (h : Handle) : Prop :=
  ∃ c ∈ cards, ∃ level < 3, c.Complete level ∧ h.level = handleLevel level ∧
    h.uid.load 0 c.uid.length = c.uid

variable {c : Card} {ready : List Card} {level : Nat} {h : Handle} {acf : Mem UInt8}

theorem Card.levelUid_of_load (hc : c.Reaches level) (hacf : acf.load 2 5 = c.levelBytes level) :
    acf.load 2 4 = c.levelUid level := by
  rw [← Mem.take_load acf 2 (by decide : 4 ≤ 5), hacf, Card.take_levelBytes hc]

theorem Card.tag_of_load (hc : c.Reaches level) (hmore : ¬ c.Complete level)
    (hacf : acf.load 2 5 = c.levelBytes level) : acf 2 = cascadeTag := by
  have huid := Card.levelUid_of_load hc hacf
  rw [Card.levelUid_of_not_complete hmore, Mem.load_succ] at huid
  exact (List.cons.inj huid).1

theorem Cascading.level_lt (hcas : Cascading cards ready level h) : level < 3 := by
  obtain ⟨c, hc⟩ := List.exists_mem_of_ne_nil _ hcas.nonempty
  exact (hcas.reaches c hc).lt

theorem Cascading.start (hne : cards ≠ []) (hlevel : h.level = .cl1) : Cascading cards cards 0 h where
  nonempty := hne
  mem := fun _ => id
  reaches := fun c _ => c.reaches_zero
  begun := fun _ _ => rfl
  level := hlevel

/-- The frame that selects `c`, behind an anticollision frame that holds all its bits. -/
theorem Cascading.select_frame (hcas : Cascading cards ready level h) (hsel : acf 0 = acSelCode level)
    (hcr : c ∈ ready) (hagree : Agrees acf level 40 c) :
    (codeNvb acf (7 * 8)).load 2 5 = c.levelBytes level ∧
      (codeNvb acf (7 * 8)).load 0 2 = [acSelCode level, 0x70] ∧
        c ∈ named ready level (codeNvb acf (7 * 8)) := by
  have hcoded : Coded level 40 (codeNvb acf (7 * 8)) := coded_codeNvb hsel (by decide)
  have hload : (codeNvb acf (7 * 8)).load 2 5 = c.levelBytes level :=
    Card.load_of_bits (hcas.reaches c hcr)
      (agrees_congr hagree fun q hq _ => codeNvb_of_ge _ _ (by omega))
  refine ⟨hload, ?_, List.mem_filter.mpr ⟨hcr, decide_eq_true hload⟩⟩
  rw [Mem.load_succ, Mem.load_succ, Mem.load_zero, hcoded.selCode]
  exact congrArg (fun b => [acSelCode level, b]) hcoded.nvb

theorem mem_named {d : Card} (hc : acf.load 2 5 = c.levelBytes level) (hd : d ∈ named ready level acf) :
    d ∈ ready ∧ d.levelBytes level = c.levelBytes level := by
  obtain ⟨hmem, hbytes⟩ := List.mem_filter.mp hd
  exact ⟨hmem, (of_decide_eq_true hbytes).symm.trans hc⟩

theorem complete_named (hcas : Cascading cards ready level h) (hcr : c ∈ ready)
    (hc : acf.load 2 5 = c.levelBytes level) {d : Card} (hd : d ∈ named ready level acf) :
    d.Complete level ↔ c.Complete level := by
  obtain ⟨hdr, hbytes⟩ := mem_named hc hd
  refine Card.complete_iff (hcas.reaches d hdr) (hcas.reaches c hcr) ?_
  rw [← Card.take_levelBytes (hcas.reaches d hdr), hbytes, Card.take_levelBytes (hcas.reaches c hcr)]

theorem found_of_complete (hcas : Cascading cards ready level h) (hcr : c ∈ ready)
    (hc : acf.load 2 5 = c.levelBytes level) (hcomplete : c.Complete level) {h' : Handle}
    (huid : h'.uid = h.uid.store (3 * level : Nat) (acf.load 2 4)) (hlevel : h'.level = h.level) :
    Found cards h' := by
  have hlen : c.uid.length = 3 * level + 4 := by
    have : c.uid.length = 4 + 3 * level := hcomplete
    omega
  have hlt : level < 3 := by
    have := c.sized
    omega
  refine ⟨c, hcas.mem c hcr, level, hlt, hcomplete, hlevel.trans hcas.level, ?_⟩
  have hstore := Mem.load_store_append h.uid 0 (n := 3 * level) (Mem.length_load acf 2 4)
  rw [Int.zero_add] at hstore
  rw [huid, hlen, hstore, hcas.begun c hcr, Card.levelUid_of_load (hcas.reaches c hcr) hc,
    Card.levelUid_of_complete hcomplete, List.take_append_drop]

theorem cascading_succ (hcas : Cascading cards ready level h) (hcr : c ∈ ready)
    (hc : acf.load 2 5 = c.levelBytes level) (hcomplete : ¬ c.Complete level) :
    Cascading cards (named ready level acf) (level + 1)
      { h with uid := h.uid.store (3 * level : Nat) (acf.load 3 3), level := handleLevel (level + 1) } where
  nonempty := List.ne_nil_of_mem (List.mem_filter.mpr ⟨hcr, decide_eq_true hc⟩)
  mem d hd := hcas.mem d (mem_named hc hd).1
  reaches d hd := (hcas.reaches d (mem_named hc hd).1).succ
    fun h => hcomplete ((complete_named hcas hcr hc hd).mp h)
  begun d hd := by
    obtain ⟨hdr, hbytes⟩ := mem_named hc hd
    have hd' : ¬ d.Complete level := fun h => hcomplete ((complete_named hcas hcr hc hd).mp h)
    have huid := Card.levelUid_of_load (hcas.reaches d hdr) (hc.trans hbytes.symm)
    rw [Card.levelUid_of_not_complete hd', Mem.load_succ] at huid
    have hstore := Mem.load_store_append h.uid 0 (n := 3 * level) (Mem.length_load acf 3 3)
    rw [Int.zero_add] at hstore
    rw [show 3 * (level + 1) = 3 * level + 3 from rfl]
    refine hstore.trans ?_
    rw [hcas.begun d hdr, List.take_add]
    congr 1
    exact (List.cons.inj huid).2
  level := rfl

include law

theorem InField.bitFrame_total {level n : Nat} {ready : List Card} {acf : Mem UInt8} {h : Handle}
    (hreaches : ∀ c ∈ ready, c.Reaches level) (hn : n < 40) (hcoded : Coded level n acf)
    (hagrees : ∃ c ∈ ready, Agrees acf level n c) :
    Total (Between air (.ready level ready) h)
      (lift ((reader rxPast txPast (fun _ => a) speed).transceiveAcf acf) : Iso14443aM σ ρ AcfResult)
      fun r s => ∃ coll, (r.ret = 0 ∧ r.bitOfCol = bitOfCol coll ∧ r.acf 0 = acSelCode level ∧
        (∀ k, coll = some k → n ≤ k ∧ k < 32) ∧ ∃ c ∈ ready, Agrees r.acf level (knownBits coll) c) ∧
          Between air (.ready level ready) h s := by
  have hne : answering ready level n acf ≠ [] := by
    obtain ⟨c, hc, hagree⟩ := hagrees
    exact List.ne_nil_of_mem (List.mem_filter.mpr ⟨hc, decide_eq_true hagree⟩)
  rintro ⟨s, v⟩ ⟨⟨_, hfield⟩, hv⟩
  obtain ⟨r, s', hr, ⟨hret, hboc, x, hacf, hx⟩, hair⟩ :=
    law.transceiveAcf_total hfield hn hcoded hne s rfl
  have hsel : r.acf 0 = acSelCode level := by
    rw [hacf, acfMerge_of_lt acf x, hcoded.selCode]
    rw [hcoded.txBytes (by omega)]
    omega
  refine ⟨r, (s', v), ?_, levelCollision (answering ready level n acf) level,
    ⟨hret, hboc, hsel, fun k hk => ⟨le_collision hk, collision_lt hreaches hk⟩, ?_⟩, ⟨?_, ?_⟩, hv⟩
  · exact lift_run hr
  · exact hacf ▸ agrees_merge hcoded hn hne hx
  · rw [hair]
  · rw [hair]

/-- Each round knows more bits of a UID, until it is known. -/
theorem InField.collisions_total {level : Nat} {ready : List Card} {h : Handle}
    (hreaches : ∀ c ∈ ready, c.Reaches level) (fuel : Nat) {acf : Mem UInt8} {coll : Option Nat}
    (hfuel : 42 ≤ fuel + knownBits coll) (hsel : acf 0 = acSelCode level)
    (hcoll : ∀ k, coll = some k → k < 32) (hagrees : ∃ c ∈ ready, Agrees acf level (knownBits coll) c) :
    Total (Between air (.ready level ready) h)
      (iso14443aCollisions (reader rxPast txPast (fun _ => a) speed) randomBit fuel acf (bitOfCol coll))
      fun acf s => (acf 0 = acSelCode level ∧ ∃ c ∈ ready, Agrees acf level 40 c) ∧
        Between (ρ := ρ) air (.ready level ready) h s := by
  induction fuel generalizing acf coll with
  | zero =>
    cases coll with
    | none => exact absurd hfuel (by decide)
    | some k =>
      have hk := hcoll k rfl
      simp only [knownBits] at hfuel
      omega
  | succ fuel ih =>
    unfold iso14443aCollisions
    refine .ite (fun hnone => .pure fun s hs => ⟨⟨hsel, ?_⟩, hs⟩) fun hsome => ?_
    · rw [bitOfCol_eq_none hcoll] at hnone
      rw [hnone] at hagrees
      exact hagrees
    · cases coll with
      | none => exact absurd rfl hsome
      | some k =>
        have hk := hcoll k rfl
        have hboc : bitOfCol (some k) = 16 + (k + 1) := by
          rw [bitOfCol]
          omega
        have htoggle := rndToggleBitInField_total randomBit (codeNvb acf (16 + (k + 1))) acfUidBits 5
          (16 + (k + 1)) (fun s => (air s).framing = 0 ∧ (air s).field = .ready level ready) h
        rw [hboc]
        refine .bind htoggle fun acf' => .assume fun hsame => ?_
        have hcoded : Coded level (k + 1) acf' := by
          have h := coded_codeNvb hsel (show k + 1 < 48 by omega)
          constructor
          · rw [hsame 0 (by rw [acfUidBits]; omega), h.selCode]
          · rw [hsame 1 (by rw [acfUidBits]; omega), h.nvb]
        obtain ⟨c, hc, hagree⟩ := hagrees
        have hagree' : Agrees acf' level (k + 1) c := by
          refine agrees_congr hagree fun q hq hlt => ?_
          rw [hsame q (by rw [acfUidBits]; omega), codeNvb_of_ge _ _ (by omega)]
        refine .bind (law.bitFrame_total rxPast txPast speed hreaches (by omega) hcoded ⟨c, hc, hagree'⟩)
          fun r s hs => ?_
        obtain ⟨coll', ⟨hret, hboc', hsel', hbounds, hagrees'⟩, hs⟩ := hs
        rw [hret, hboc']
        refine Total.bind (.check (Int.le_refl 0)) (fun _ => ih ?_ hsel' (fun k' hk' => (hbounds k' hk').2)
          hagrees') s hs
        cases coll' with
        | none =>
          simp only [knownBits] at hfuel ⊢
          omega
        | some k' =>
          have hk' := (hbounds k' rfl).1
          simp only [knownBits] at hfuel ⊢
          omega

theorem InField.select_level {acf : Mem UInt8} (sak : Mem UInt8) (hsel : acf 0 = acSelCode level)
    (hcr : c ∈ ready) (hagree : Agrees acf level 40 c) (hcas : Cascading cards ready level h) :
    (codeNvb acf (7 * 8)).load 2 5 = c.levelBytes level ∧
      Total (Between air (.ready level ready) h)
        (lift ((reader rxPast txPast (fun _ => a) speed).transceive .iso14443aFrameRegular
          (codeNvb acf (7 * 8)) 7 sak 3 1236) : Iso14443aM σ ρ AbResult)
        fun y s => (y.ret = 0 ∧ (y.rx 0 &&& 0x04 ≠ 0 ↔ ¬ c.Complete level)) ∧
          Between air (afterSelect level (named ready level (codeNvb acf (7 * 8)))) h s := by
  obtain ⟨hload, hbegin, hnamed⟩ := hcas.select_frame hsel hcr hagree
  refine ⟨hload, ?_⟩
  rintro ⟨s, v⟩ ⟨⟨hframing, hfield⟩, hv⟩
  obtain ⟨y, s', hy, ⟨hret, hsak⟩, hair⟩ := law.select_total sak 1236 hfield hcas.reaches
    hframing hbegin (List.ne_nil_of_mem hnamed) s rfl
  exact ⟨y, (s', v), lift_run hy, ⟨hret, hsak c hnamed⟩, hair, hv⟩

omit law in
theorem setHandle_total (f : Handle → Handle) (field : Field) :
    Total (Between (ρ := ρ) air field h) (setHandle f) fun _ => Between air field (f h) :=
  fun _ hs => ⟨(), _, rfl, hs.1, congrArg f hs.2⟩

omit law in
theorem storeUid_eq {acf : Mem UInt8} (hlevel : level < 3) (hsel : acf 0 = acSelCode level) (h : Handle) :
    (if acf 0 = acSelCodeCl1 then { h with uid := h.uid.store 0 (acf.load 2 4) }
      else if acf 0 = acSelCodeCl2 then { h with uid := h.uid.store 3 (acf.load 2 4) }
      else if acf 0 = acSelCodeCl3 then { h with uid := h.uid.store 6 (acf.load 2 4) }
      else h) = { h with uid := h.uid.store (3 * level : Nat) (acf.load 2 4) } := by
  rw [hsel]
  match level, hlevel with
  | 0, _ => rfl
  | 1, _ => rfl
  | 2, _ => rfl

/-- Level by level the cards get fewer, until the UID of one is known. -/
theorem InField.cascade_total (fuel : Nat) {acf sak : Mem UInt8}
    (hcas : Cascading cards ready level h) (hsel : acf 0 = acSelCode level) (hfuel : 46 ≤ fuel + level) :
    Total (Between air (.ready level ready) h)
      (iso14443aCascade (reader rxPast txPast (fun _ => a) speed) randomBit fuel acf sak)
      fun _ s => Found cards s.2.handle := by
  induction fuel generalizing level ready h acf sak with
  | zero =>
    have := hcas.level_lt
    omega
  | succ fuel ih =>
    obtain ⟨c₀, hc₀⟩ := List.exists_mem_of_ne_nil _ hcas.nonempty
    unfold iso14443aCascade
    refine .bind (law.bitFrame_total rxPast txPast speed hcas.reaches (by decide)
      (coded_codeNvb hsel (by decide : 0 < 48)) ⟨c₀, hc₀, nofun⟩) fun r s hs => ?_
    obtain ⟨coll, ⟨hret, hboc, hsel', hbounds, hagrees⟩, hs⟩ := hs
    rw [hret, hboc]
    refine Total.bind (.check (Int.le_refl 0)) (fun _ => ?_) s hs
    clear hs
    have hlevel : level < 3 := hcas.level_lt
    refine .bind (law.collisions_total randomBit rxPast txPast speed hcas.reaches fuel (by omega) hsel'
      (fun k hk => (hbounds k hk).2) hagrees) fun acf' => .assume fun hacf' => ?_
    obtain ⟨hsel'', c, hcr, hagree⟩ := hacf'
    obtain ⟨hload, hselect⟩ := law.select_level rxPast txPast speed sak hsel'' hcr hagree hcas
    refine .bind hselect fun y => .assume fun hy => ?_
    have hcode : codeNvb acf' (7 * 8) 0 = acSelCode level := (codeNvb_zero _ _).trans hsel''
    rw [hy.1]
    refine Total.bind (.check (Int.le_refl 0)) fun _ => .ite (fun hbit => ?_) fun hbit => ?_
    · have hcomplete := hy.2.mp hbit
      have hnext := cascading_succ hcas hcr hload hcomplete
      have hfield : afterSelect level (named ready level (codeNvb acf' (7 * 8))) =
          .ready (level + 1) (named ready level (codeNvb acf' (7 * 8))) :=
        if_pos ⟨c, List.mem_filter.mpr ⟨hcr, decide_eq_true hload⟩, hcomplete⟩
      rw [hfield, hcode]
      -- the handle of the next level, and its command
      have hrec : ∀ (f : Handle → Handle) (sel : UInt8), Cascading cards
            (named ready level (codeNvb acf' (7 * 8))) (level + 1) (f h) → sel = acSelCode (level + 1) →
          Total (Between air (.ready (level + 1) (named ready level (codeNvb acf' (7 * 8)))) h)
            (setHandle f >>= fun _ =>
              iso14443aCascade (reader rxPast txPast (fun _ => a) speed) randomBit fuel
                ((codeNvb acf' (7 * 8)).set 0 sel) y.rx)
            fun _ s => Found cards s.2.handle := fun f sel hcas hsel =>
        (setHandle_total f _).bind fun _ =>
          ih hcas ((Mem.set_self _ _ _).trans hsel) (by omega)
      match level, hlevel with
      | 0, _ =>
        have htag : codeNvb acf' (7 * 8) 2 = 0x88 :=
          Card.tag_of_load (hcas.reaches c hcr) hcomplete hload
        rw [if_pos (show acSelCode 0 = acSelCodeCl1 from rfl), if_neg (not_not.mpr htag)]
        exact hrec _ _ hnext rfl
      | 1, _ => exact hrec _ _ hnext rfl
      | 2, _ => exact absurd hnext.level_lt (by decide)
    · have hcomplete : c.Complete level := not_not.mp fun h => hbit (hy.2.mpr h)
      refine .bind (setHandle_total _ _) fun _ => .pure fun s hs => ?_
      rw [hs.2, storeUid_eq hlevel hcode]
      exact found_of_complete hcas hcr hload hcomplete rfl rfl

omit law in
theorem Found.selected (hfound : Found cards h) (sak : UInt8) : ∃ c ∈ cards,
    (iso14443aSelected sak h).uidLen = c.uid.length ∧
      (iso14443aSelected sak h).uid.load 0 c.uid.length = c.uid := by
  obtain ⟨c, hc, level, hlevel, hcomplete, hlvl, huid⟩ := hfound
  have hlen : c.uid.length = 4 + 3 * level := hcomplete
  refine ⟨c, hc, ?_, ?_⟩
  · obtain rfl | rfl | rfl : level = 0 ∨ level = 1 ∨ level = 2 := by omega
    all_goals
      unfold iso14443aSelected
      rw [hlvl, hlen]
      split_ifs <;> rfl
  · unfold iso14443aSelected
    split_ifs <;> exact huid

/-- Whatever bits are drawn, and whatever is received behind a collision, the handle gets the UID of
a card. -/
theorem iso14443aAnticol_finds (hne : cards ≠ []) :
    Returns (fun w => (air w.1).field = .idle)
      (iso14443aAnticol (reader rxPast txPast (fun _ => a) speed) randomBit)
      fun _ w => ∃ c ∈ cards, w.2.handle.uidLen = c.uid.length ∧
        w.2.handle.uid.load 0 c.uid.length = c.uid := by
  refine ⟨46, fun fuel hfuel => ?_⟩
  let idle : σ × Vars ρ → Prop := fun w => (air w.1).field = .idle
  let first : σ × Vars ρ → Prop := fun w => (air w.1).framing = 0 ∧ (air w.1).field = .ready 0 cards
  have hset : ∀ (P : σ → Prop) (f : Handle → Handle),
      Total (fun w : σ × Vars ρ => P w.1) (setHandle f) fun _ w => P w.1 :=
    fun _ f w hw => ⟨(), _, rfl, hw⟩
  have hskip : ∀ {c : Prop} [Decidable c] {x : Iso14443aM σ ρ Unit}, ¬ c →
      Total first (when c x) fun _ => first := fun hc => .when (fun h => absurd h hc) fun _ _ => id
  refine Total.bind (hset (fun s => (air s).field = .idle) _) fun _ => ?_
  refine .bind (Q := fun _ => idle) (fun w hw => ⟨w.2, w, rfl, hw⟩) fun v => ?_
  have hrequest : Total idle (lift ((reader rxPast txPast (fun _ => a) speed).transceiveSf
      (if v.handle.flags &&& optLayer2Wup ≠ 0 then sfCmdWupa else sfCmdReqa) v.handle.atqa))
      fun x w => (x.ret = 0 ∧ bfAnticol x.atqa ≠ 0) ∧ first w := by
    have hcmd : (if v.handle.flags &&& optLayer2Wup ≠ 0 then sfCmdWupa else sfCmdReqa) = sfCmdReqa ∨
        (if v.handle.flags &&& optLayer2Wup ≠ 0 then sfCmdWupa else sfCmdReqa) = sfCmdWupa := by
      split_ifs
      · exact .inr rfl
      · exact .inl rfl
    rintro ⟨s, v'⟩ hidle
    obtain ⟨x, s', hx, hret, hair⟩ := law.transceiveSf_total hcmd v.handle.atqa hidle s rfl
    exact ⟨x, (s', v'), lift_run hx, hret, hair⟩
  refine .bind hrequest fun x => .assume fun hx => ?_
  have hstep : ∀ f : Handle → Handle, Total first (setHandle f) fun _ => first :=
    hset fun s => (air s).framing = 0 ∧ (air s).field = .ready 0 cards
  refine .bind (hstep _) fun _ => ?_
  refine .bind (hskip (by rw [hx.1]; exact Int.lt_irrefl 0)) fun _ => ?_
  refine .bind (hstep _) fun _ => .bind (hskip hx.2) fun _ => ?_
  refine .bind (Q := fun _ w => first w ∧ w.2.handle.level = .cl1) (fun w hw => ⟨(), _, rfl, hw, rfl⟩)
    fun _ => ?_
  have hcascade : Total (fun w : σ × Vars ρ => first w ∧ w.2.handle.level = .cl1)
      (iso14443aCascade (reader rxPast txPast (fun _ => a) speed) randomBit fuel
        (Mem.ofList (fun _ => 0) [acSelCodeCl1, 0, 0, 0, 0, 0, 0]) fun _ => 0)
      fun _ w => Found cards w.2.handle := by
    rintro w ⟨hw, hlevel⟩
    exact law.cascade_total randomBit rxPast txPast speed fuel (Cascading.start hne hlevel) rfl hfuel w
      ⟨hw, rfl⟩
  refine .bind hcascade fun sak => fun w hw => ⟨(), _, rfl, ?_⟩
  exact hw.selected (sak 0)

end Cascade

section Simulation

def bytesOf (f : Nat → Bool) (n : Nat) : List UInt8 :=
  (List.range n).map fun q => UInt8.ofNat (Nat.ofBits fun b : Fin 8 => f (8 * q + b))

theorem bufBit_bytesOf (f : Nat → Bool) {n i : Nat} (hi : i < 8 * n) :
    bufBit (Mem.ofList (fun _ => 0) (bytesOf f n)) i = f i := by
  have hlen : (bytesOf f n).length = n := by simp [bytesOf]
  have hmod : i % 8 < 8 := Nat.mod_lt _ (by decide)
  have hbit := bufBit_ofList (bytesOf f n) (show i / 8 < (bytesOf f n).length by omega) hmod
  simp only [bytesOf, List.getElem_map, List.getElem_range, Bits.bit_ofBits _ hmod, Nat.div_add_mod]
    at hbit
  exact hbit

def sentBits (framing len : UInt8) : Nat :=
  if framingTxLastBits framing = 0 then 8 * (len.toNat - 2)
  else 8 * (len.toNat - 3) + framingTxLastBits framing

def heard (c : Card) (level n align i : Nat) : Bool :=
  decide (align ≤ i) && c.bit level (n + (i - align))

variable (cards : List Card)

/-- The answer to a frame.  Where bits collide, and behind that, it is the first card's. -/
def fieldAnswer (v : Air) (tx : Mem UInt8) (len cap : UInt8) : Xfer × Air :=
  match v.field with
  | .idle =>
    if tx 0 = sfCmdReqa ∨ tx 0 = sfCmdWupa then (⟨0, 2, [0x04, 0x00]⟩, ⟨0, none, .ready 0 cards⟩)
    else (⟨-eTimedOut, cap, []⟩, v)
  | .ready level ready =>
    if tx 1 = 0x70 then
      match named ready level tx with
      | [] => (⟨-eTimedOut, cap, []⟩, v)
      | c :: S =>
        (⟨0, 1, [if c.Complete level then 0x20 else 0x04]⟩, ⟨0, none, afterSelect level (c :: S)⟩)
    else
      let n := sentBits v.framing len
      let align := framingRxAlign v.framing
      match answering ready level n tx with
      | [] => (⟨-eTimedOut, cap, []⟩, v)
      | c :: S =>
        let size := (align + (40 - n) + 7) / 8
        (⟨0, UInt8.ofNat size, bytesOf (heard c level n align) size⟩,
          ⟨0, levelCollision (c :: S) level, v.field⟩)
  | .active => (⟨-eTimedOut, cap, []⟩, v)

def fieldAsic : Asic Air where
  writeReg reg val v := (0, v.write reg val)
  readReg reg v :=
    if reg = regErrorFlag then ((0, if v.collision = none then 0 else errFlagColErr), v)
    else if reg = regCollPos then ((0, UInt8.ofNat (v.collision.getD 0 + 1)), v)
    else ((0, 0), v)
  transceive tx len cap _ v :=
    (.ok (fieldAnswer cards v tx len cap).1, (fieldAnswer cards v tx len cap).2)

section

variable {v : Air} {tx : Mem UInt8} (len cap : UInt8)

theorem fieldAnswer_request (hidle : v.field = .idle) (hcmd : tx 0 = sfCmdReqa ∨ tx 0 = sfCmdWupa) :
    fieldAnswer cards v tx len cap = (⟨0, 2, [0x04, 0x00]⟩, ⟨0, none, .ready 0 cards⟩) := by
  rw [fieldAnswer, hidle]
  exact if_pos hcmd

theorem fieldAnswer_select {level : Nat} {ready S : List Card} {c : Card}
    (hfield : v.field = .ready level ready) (hbegin : tx.load 0 2 = [acSelCode level, 0x70])
    (hS : named ready level tx = c :: S) : fieldAnswer cards v tx len cap =
      (⟨0, 1, [if c.Complete level then 0x20 else 0x04]⟩, ⟨0, none, afterSelect level (c :: S)⟩) := by
  have hnvb : tx 1 = 0x70 := (List.cons.inj (List.cons.inj hbegin).2).1
  simp only [fieldAnswer, hfield, if_pos hnvb, hS]

end

theorem collisionFlag_iff (coll : Option Nat) :
    (if coll = none then 0 else errFlagColErr) &&& errFlagColErr ≠ 0 ↔ coll ≠ none := by
  split_ifs with h
  · exact iff_of_false (by decide) (not_not.mpr h)
  · exact iff_of_true (by decide) h

theorem collisionPos_toNat {k : Nat} (h : k < 40) : (UInt8.ofNat (k + 1)).toNat = k + 1 :=
  UInt8.toNat_ofNat_of_lt' (show k + 1 < 2 ^ 8 by omega)

theorem sak_iff {level : Nat} {ready : List Card} {tx : Mem UInt8} {c d : Card}
    (hreaches : ∀ c ∈ ready, c.Reaches level) (hc : c ∈ named ready level tx)
    (hd : d ∈ named ready level tx) :
    (if c.Complete level then 0x20 else 0x04 : UInt8) &&& 0x04 ≠ 0 ↔ ¬ d.Complete level := by
  have hbytes : ∀ d ∈ named ready level tx, tx.load 2 5 = d.levelBytes level := fun d hd =>
    of_decide_eq_true (List.mem_filter.mp hd).2
  have hreach : ∀ d ∈ named ready level tx, d.Reaches level := fun d hd =>
    hreaches d (List.mem_filter.mp hd).1
  have huid : d.levelUid level = c.levelUid level := by
    rw [← Card.take_levelBytes (hreach d hd), ← hbytes d hd, hbytes c hc,
      Card.take_levelBytes (hreach c hc)]
  rw [Card.complete_iff (hreach d hd) (hreach c hc) huid]
  split_ifs with hcomplete
  · exact iff_of_false (by decide) (not_not.mpr hcomplete)
  · exact iff_of_true (by decide) hcomplete

theorem sentBits_eq {level n : Nat} {framing len : UInt8} {tx : Mem UInt8}
    (h : BitFrame level n framing tx len) : sentBits framing len = n := by
  have hlen := h.length
  have hbits := h.txLastBits
  unfold sentBits
  split_ifs with hzero <;> omega

theorem nvb_ne_select {n : Nat} (hn : n < 40) : UInt8.ofNat (16 * (2 + n / 8) + n % 8) ≠ 0x70 := by
  revert n
  decide

theorem fieldAnswer_bitFrame {v : Air} {level n : Nat} {ready : List Card} {tx : Mem UInt8}
    {len cap : UInt8} (hfield : v.field = .ready level ready) (hn : n < 40)
    (hframe : BitFrame level n v.framing tx len) (hne : answering ready level n tx ≠ []) :
    Received (answering ready level n tx) level n (framingRxAlign v.framing)
        (fieldAnswer cards v tx len cap).1 ∧
      (fieldAnswer cards v tx len cap).2 =
        ⟨0, levelCollision (answering ready level n tx) level, .ready level ready⟩ := by
  have hnvb : tx 1 ≠ 0x70 := hframe.nvb ▸ nvb_ne_select hn
  have halign : framingRxAlign v.framing < 8 := by
    have hand : (v.framing >>> 4 &&& 0x07).toNat ≤ (0x07 : UInt8).toNat := by
      rw [UInt8.toNat_and]
      exact Nat.and_le_right
    exact Nat.lt_succ_of_le hand
  generalize hsize : (framingRxAlign v.framing + (40 - n) + 7) / 8 = size
  obtain ⟨c, S, hS⟩ := List.exists_cons_of_ne_nil hne
  have hrun : fieldAnswer cards v tx len cap =
      (⟨0, UInt8.ofNat size, bytesOf (heard c level n (framingRxAlign v.framing)) size⟩,
        ⟨0, levelCollision (c :: S) level, v.field⟩) := by
    simp only [fieldAnswer, hfield, if_neg hnvb, sentBits_eq hframe, hS, hsize]
  have hlen : (UInt8.ofNat size).toNat = size := UInt8.toNat_ofNat_of_lt' (show size < 2 ^ 8 by omega)
  have hbit : ∀ i < 8 * size, bufBit (rxBuf (fieldAnswer cards v tx len cap).1) i =
      heard c level n (framingRxAlign v.framing) i := fun i hi => by
    rw [hrun]
    exact bufBit_bytesOf (heard c level n (framingRxAlign v.framing)) hi
  have hcard : ∀ i, n ≤ i → i < 40 →
      bufBit (rxBuf (fieldAnswer cards v tx len cap).1) (framingRxAlign v.framing + (i - n)) =
        c.bit level i := by
    intro i hni hi
    rw [hbit _ (by omega), heard, decide_eq_true (by omega), Bool.true_and]
    congr 1
    omega
  rw [hS]
  refine ⟨⟨?_, ?_, ?_, fun j hj => ?_, fun i hni hi d hd => ?_,
    fun k hk => ⟨c, List.mem_cons_self, ?_⟩⟩, ?_⟩
  · simp only [hrun, Int.le_refl]
  · rw [hrun, hsize]
    exact hlen
  · rw [hrun]
    simp [bytesOf, hlen]
  · rw [hbit j (by omega), heard, decide_eq_false (by omega), Bool.false_and]
  · cases hcol : levelCollision (c :: S) level with
    | none =>
      rw [hcol] at hi
      rw [hcard i hni hi]
      exact levelCollision_eq_none.mp hcol i hi c List.mem_cons_self d hd
    | some k =>
      rw [hcol] at hi
      obtain ⟨-, hk, hbefore⟩ := levelCollision_eq_some.mp hcol
      rw [hcard i hni (Nat.lt_trans hi hk)]
      exact hbefore i hi c List.mem_cons_self d hd
  · exact hcard k (le_collision (hS ▸ hk)) (levelCollision_eq_some.mp hk).2.1
  · rw [hrun, hfield]

theorem fieldAsic_inField : InField cards (fieldAsic cards) id where
  write reg _ val v := ⟨Int.le_refl 0, rfl⟩
  read reg v := by
    simp only [fieldAsic]
    split_ifs <;> exact ⟨Int.le_refl 0, rfl⟩
  errorFlag v := collisionFlag_iff v.collision
  collPos v k hk hlt := by
    have hcol : v.collision = some k := hk
    simp only [fieldAsic, hcol]
    exact collisionPos_toNat hlt
  request v tx cap timer hcmd _ hidle _ := by
    intro w hw
    obtain rfl : v = w := hw.symm
    refine ⟨(fieldAnswer cards v tx 1 cap).1, (fieldAnswer cards v tx 1 cap).2, rfl, ?_⟩
    rw [fieldAnswer_request cards 1 cap hidle hcmd]
    exact ⟨Int.le_refl 0, rfl, ⟨_, _, rfl, by decide⟩, rfl, rfl⟩
  bitFrame v level n ready tx len cap timer hfield hn hframe hne _ := by
    rintro _ rfl
    exact ⟨_, _, rfl, fieldAnswer_bitFrame cards hfield hn hframe hne⟩
  select v level ready tx cap timer hfield hreaches _ hbegin hne _ := by
    intro w hw
    obtain rfl : v = w := hw.symm
    obtain ⟨c, S, hS⟩ := List.exists_cons_of_ne_nil hne
    refine ⟨(fieldAnswer cards v tx 7 cap).1, (fieldAnswer cards v tx 7 cap).2, rfl, ?_⟩
    rw [fieldAnswer_select cards 7 cap hfield hbegin hS, hS]
    have hc : c ∈ named ready level tx := hS ▸ List.mem_cons_self
    exact ⟨Int.le_refl 0, ⟨_, _, rfl, fun d hd => sak_iff hreaches hc (hS ▸ hd)⟩, rfl, rfl⟩

def twoCards : List Card := [⟨[0x12, 0x34, 0x56, 0x78], by decide, by decide⟩,
  ⟨[0x04, 0x34, 0x56, 0x78, 0x9a, 0xbc, 0xde], by decide, by decide⟩]

theorem iso14443aAnticol_finds_two :
    Returns (fun w => w.1.field = .idle)
      (iso14443aAnticol (reader ⟨0, 0, 0, 0⟩ ⟨0, 0⟩ (fun _ => fieldAsic twoCards) rfid14443aSpeed106k)
        randomBit)
      fun _ w => ∃ c ∈ twoCards, w.2.handle.uidLen = c.uid.length ∧
        w.2.handle.uid.load 0 c.uid.length = c.uid :=
  iso14443aAnticol_finds (fieldAsic_inField twoCards) randomBit _ _ _ (List.cons_ne_nil _ _)

end Simulation

end Librfid.Layer2
