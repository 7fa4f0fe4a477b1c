import Librfid.Layer2.Cards
import Librfid.Rc632.Keeps

namespace Librfid.Layer2

open Rc632 Exec

section Merge

variable {acf : Mem UInt8} {x : Xfer} {n : Nat}

theorem acfMerge_first (hbytes : (acfTxBytes acf).toNat = 2 + n / 8)
    (hbits : (acfTxLastBits acf).toNat = n % 8) :
    acfMerge acf x (2 + n / 8 : Nat) =
      acf (2 + n / 8 : Nat) &&& UInt8.ofNat (0xff >>> (8 - n % 8)) ||| rxBuf x 0 := by
  have hp : acfUidBits + ((2 + n / 8 : Nat) - 2 : Int) = (2 + n / 8 : Nat) := by
    rw [acfUidBits]
    omega
  unfold acfMerge
  rw [hbytes, hbits, hp]
  split_ifs
  · rw [Mem.store_of_lt _ _ (by omega), Mem.set_self]
    rfl
  · exact Mem.set_self _ _ _

theorem acfMerge_rest (hbytes : (acfTxBytes acf).toNat = 2 + n / 8) {j : Nat}
    (hj : j + 1 < x.rxLen.toNat) :
    acfMerge acf x (2 + n / 8 + (j + 1) : Nat) = rxBuf x (j + 1 : Nat) := by
  have hne : x.rxLen ≠ 0 := fun h => by
    rw [h] at hj
    exact absurd hj (Nat.not_lt_zero _)
  have hp : acfUidBits + ((2 + n / 8 : Nat) - 2 : Int) + 1 = (2 + n / 8 + 1 : Nat) := by
    rw [acfUidBits]
    omega
  unfold acfMerge
  have hsum : ((2 + n / 8 + (j + 1) : Nat) : Int) = (2 + n / 8 + 1 : Nat) + (j : Nat) := by omega
  rw [hbytes, if_pos hne, hp, hsum,
    Mem.store_add _ _ _ j (by rw [Mem.length_load]; omega), Mem.getElem_load]
  congr 1
  omega

theorem acfMerge_bit (hbytes : (acfTxBytes acf).toNat = 2 + n / 8)
    (hbits : (acfTxLastBits acf).toNat = n % 8) (hlen : x.rxLen.toNat = 5 - n / 8)
    (hlow : ∀ j < n % 8, bufBit (rxBuf x) j = false) {i : Nat} (hi : i < 40) :
    bufBit (acfMerge acf x) (16 + i) =
      if i < n then bufBit acf (16 + i) else bufBit (rxBuf x) (n % 8 + (i - n)) := by
  have hmod : (16 + i) % 8 = i % 8 := by omega
  rcases Nat.lt_trichotomy (i / 8) (n / 8) with hlt | heq | hgt
  · rw [if_pos (by omega), bufBit, acfMerge_of_lt acf x (by omega), bufBit]
  · have hdiv : (16 + i) / 8 = 2 + n / 8 := by omega
    rw [bufBit, hdiv, hmod, acfMerge_first hbytes hbits, Bits.bit_or, Bits.bit_and,
      Bits.bit_low (by omega)]
    split_ifs with hin
    · have hrx := hlow (i % 8) (by omega)
      have hzero : i % 8 / 8 = 0 := by omega
      rw [bufBit, hzero, Nat.mod_mod] at hrx
      rw [bufBit, hdiv, hmod, decide_eq_true (by omega), Bool.and_true]
      exact (congrArg _ hrx).trans (Bool.or_false _)
    · have hpos : n % 8 + (i - n) = i % 8 := by omega
      have hzero : i % 8 / 8 = 0 := by omega
      rw [decide_eq_false (by omega), Bool.and_false, Bool.false_or, hpos, bufBit, hzero, Nat.mod_mod]
      rfl
  · obtain ⟨j, hj⟩ := Nat.exists_eq_add_of_lt hgt
    have hdiv : (16 + i) / 8 = 2 + n / 8 + (j + 1) := by omega
    have hdiv' : (n % 8 + (i - n)) / 8 = j + 1 := by omega
    have hmod' : (n % 8 + (i - n)) % 8 = i % 8 := by omega
    rw [if_neg (by omega), bufBit, hdiv, hmod, acfMerge_rest hbytes (by omega), bufBit, hdiv', hmod']

end Merge

def knownBits : Option Nat → Nat
  | none => 40
  | some k => k + 1

structure Coded (level n : Nat) (acf : Mem UInt8) : Prop where
  selCode : acf 0 = acSelCode level
  nvb : acf 1 = UInt8.ofNat (16 * (2 + n / 8) + n % 8)

namespace Coded

variable {level n : Nat} {acf : Mem UInt8}

theorem txBytes (h : Coded level n acf) (hn : n < 48) : (acfTxBytes acf).toNat = 2 + n / 8 := by
  have hall : ∀ n < 48, (UInt8.ofNat (16 * (2 + n / 8) + n % 8) >>> 4 &&& 0x07).toNat = 2 + n / 8 := by
    decide
  rw [acfTxBytes, h.nvb, hall n hn]

theorem txLastBits (h : Coded level n acf) (hn : n < 48) : (acfTxLastBits acf).toNat = n % 8 := by
  have hall : ∀ n < 48, (UInt8.ofNat (16 * (2 + n / 8) + n % 8) &&& 0x07).toNat = n % 8 := by
    decide
  rw [acfTxLastBits, h.nvb, hall n hn]

theorem txBytesTotal (h : Coded level n acf) (hn : n < 40) :
    (acfTxBytesTotal acf).toNat = 2 + (n + 7) / 8 := by
  have hbytes := h.txBytes (by omega)
  have hbits := h.txLastBits (by omega)
  have hzero : acfTxLastBits acf = 0 ↔ n % 8 = 0 := by
    rw [← UInt8.toNat_inj, hbits]
    rfl
  unfold acfTxBytesTotal
  split_ifs with hlast
  · rw [UInt8.toNat_add, hbytes, show (1 : UInt8).toNat = 1 from rfl]
    rw [Ne, hzero] at hlast
    omega
  · rw [Ne, hzero] at hlast
    omega

end Coded

theorem coded_codeNvb {level n : Nat} {acf : Mem UInt8} (hsel : acf 0 = acSelCode level) (hn : n < 48) :
    Coded level n (codeNvb acf (16 + n)) where
  selCode := (codeNvb_zero acf _).trans hsel
  nvb := by
    have hall : ∀ n < 48, iso14443aCodeNvbBits (16 + n) =
        some (UInt8.ofNat (16 * (2 + n / 8) + n % 8)) := by
      decide
    rw [codeNvb, hall n hn]
    exact Mem.set_self _ _ _

theorem agrees_merge {level n : Nat} {ready : List Card} {acf : Mem UInt8} {x : Xfer}
    (hcoded : Coded level n acf) (hn : n < 40) (hne : answering ready level n acf ≠ [])
    (hx : Received (answering ready level n acf) level n (n % 8) x) :
    ∃ c ∈ ready, Agrees (acfMerge acf x) level
      (knownBits (levelCollision (answering ready level n acf) level)) c := by
  have hlen : x.rxLen.toNat = 5 - n / 8 := by
    have := hx.rxLen
    omega
  have hbit : ∀ i < 40, bufBit (acfMerge acf x) (16 + i) =
      if i < n then bufBit acf (16 + i) else bufBit (rxBuf x) (n % 8 + (i - n)) := fun i hi =>
    acfMerge_bit (hcoded.txBytes (by omega)) (hcoded.txLastBits (by omega)) hlen hx.low hi
  have hmem : ∀ c ∈ answering ready level n acf, c ∈ ready ∧ Agrees acf level n c := fun c hc =>
    ⟨(List.mem_filter.mp hc).1, of_decide_eq_true (List.mem_filter.mp hc).2⟩
  cases hcol : levelCollision (answering ready level n acf) level with
  | none =>
    obtain ⟨c, hc⟩ := List.exists_mem_of_ne_nil _ hne
    refine ⟨c, (hmem c hc).1, fun i hi => ?_⟩
    rw [hbit i hi]
    split_ifs with hin
    · exact (hmem c hc).2 i hin
    · exact hx.same i (by omega) (by rw [hcol]; exact hi) c hc
  | some k =>
    have hk := (levelCollision_eq_some.mp hcol).2.1
    obtain ⟨c, hc, hbitk⟩ := hx.collided k hcol
    refine ⟨c, (hmem c hc).1, fun i hi => ?_⟩
    have hik : i ≤ k := Nat.le_of_lt_succ hi
    rw [hbit i (by omega)]
    split_ifs with hin
    · exact (hmem c hc).2 i hin
    · rcases Nat.lt_or_eq_of_le hik with hlt | rfl
      · exact hx.same i (by omega) (by rw [hcol]; exact hlt) c hc
      · exact hbitk

theorem le_collision {level n k : Nat} {ready : List Card} {acf : Mem UInt8}
    (hcol : levelCollision (answering ready level n acf) level = some k) : n ≤ k := by
  obtain ⟨⟨c, hc, d, hd, hne⟩, -, -⟩ := levelCollision_eq_some.mp hcol
  refine Nat.not_lt.mp fun hlt => hne ?_
  have hc' := of_decide_eq_true (List.mem_filter.mp hc).2
  have hd' := of_decide_eq_true (List.mem_filter.mp hd).2
  exact (hc' k hlt).symm.trans (hd' k hlt)

theorem collision_lt {level n k : Nat} {ready : List Card} {acf : Mem UInt8}
    (hreaches : ∀ c ∈ ready, c.Reaches level)
    (hcol : levelCollision (answering ready level n acf) level = some k) : k < 32 := by
  obtain ⟨⟨c, hc, d, hd, hne⟩, -, hbefore⟩ := levelCollision_eq_some.mp hcol
  refine Nat.not_le.mp fun hle => hne ?_
  exact Card.bit_eq_of_lt (hreaches c (List.mem_filter.mp hc).1) (hreaches d (List.mem_filter.mp hd).1)
    (fun i hi => hbefore i (by omega) c hc d hd) k

def acfFraming (acf : Mem UInt8) : UInt8 :=
  (if acfTxLastBits acf ≠ 0 then acfTxLastBits acf &&& 0x07 else 0) <<< 4 ||| acfTxLastBits acf

theorem acfFraming_bits {acf : Mem UInt8} {m : Nat} (hm : m < 8) (h : (acfTxLastBits acf).toNat = m) :
    framingTxLastBits (acfFraming acf) = m ∧ framingRxAlign (acfFraming acf) = m := by
  have hbits : acfTxLastBits acf = UInt8.ofNat m := by rw [← h, UInt8.ofNat_toNat]
  have hall : ∀ m < 8,
      framingTxLastBits ((if UInt8.ofNat m ≠ 0 then UInt8.ofNat m &&& 0x07 else 0) <<< 4 |||
        UInt8.ofNat m) = m ∧
      framingRxAlign ((if UInt8.ofNat m ≠ 0 then UInt8.ofNat m &&& 0x07 else 0) <<< 4 |||
        UInt8.ofNat m) = m := by
    decide
  rw [acfFraming, hbits]
  exact hall m hm

theorem ne_regBitFraming {reg : UInt8} (hreg : reg ∈ [regControl, regChannelRedundancy]) :
    reg ≠ regBitFraming := by
  rintro rfl
  exact absurd hreg (by decide)

def bitOfCol : Option Nat → Nat
  | none => iso14443aBitOfColNone
  | some k => 17 + k

section Frames

variable {σ : Type} {cards : List Card} {a : Asic σ} {air : σ → Air} (law : InField cards a air)
include law

theorem InField.regRead_total (reg : UInt8) (v : Air) :
    Total (fun s => air s = v) (a.regRead reg) fun r s => 0 ≤ r.1 ∧ air s = v :=
  regRead_view law.read reg

theorem InField.regWrite_total {reg : UInt8}
    (hreg : reg ∈ [regControl, regChannelRedundancy, regBitFraming]) (val : UInt8) (v : Air) :
    Total (fun s => air s = v) (a.regWrite reg val) fun ret s =>
      0 ≤ ret ∧ air s = v.write reg val :=
  regWrite_view (Air.write · reg val) (law.write reg hreg val)

theorem InField.clearBits_total {reg : UInt8} (hreg : reg ∈ [regControl, regChannelRedundancy])
    (mask : UInt8) (v : Air) :
    Total (fun s => air s = v) (rc632ClearBits a.toBus reg mask) fun ret s => 0 ≤ ret ∧ air s = v :=
  clearBits_view law.read (fun val s => by
    obtain ⟨hret, hair⟩ := law.write reg (List.mem_append_left [regBitFraming] hreg) val s
    exact ⟨hret, hair.trans (if_neg (ne_regBitFraming hreg))⟩) mask

theorem InField.prepareAcf_total (acf : Mem UInt8) (v : Air) :
    Total (fun s => air s = v) (rc632Iso14443aPrepareAcf a acf) fun _ s =>
      air s = { v with framing := acfFraming acf } := by
  refine .bind_check (law.clearBits_total (by decide) _ v) ?_
  refine .bind_check (law.clearBits_total (by decide) _ v) ?_
  exact write_total (law.regWrite_total (by decide) _ v)

theorem InField.bitOfCol_total (v : Air) (hbound : ∀ k, v.collision = some k → k < 40) :
    Total (fun s => air s = v) (rc632Iso14443aBitOfCol a) fun boc s =>
      boc = bitOfCol v.collision ∧ air s = v := by
  have herror : Total (fun s => air s = v) (a.read regErrorFlag) fun flags s =>
      (flags &&& errFlagColErr ≠ 0 ↔ v.collision ≠ none) ∧ air s = v := by
    refine read_total fun s hs => ⟨_, _, rfl, (law.read regErrorFlag s).1, ?_, ?_⟩
    · exact hs ▸ law.errorFlag s
    · exact (law.read regErrorFlag s).2.trans hs
  refine .bind herror fun flags => .assume fun hflags => ?_
  cases hcol : v.collision with
  | none =>
    rw [if_neg fun h => hflags.mp h hcol]
    exact .pure fun s hs => ⟨rfl, hs⟩
  | some k =>
    have hpos : Total (fun s => air s = v) (a.read regCollPos) fun boc s =>
        boc.toNat = k + 1 ∧ air s = v :=
      read_total fun s hs => ⟨_, _, rfl, (law.read regCollPos s).1,
        law.collPos s k (hs ▸ hcol) (hbound k hcol), (law.read regCollPos s).2.trans hs⟩
    rw [if_pos (hflags.mpr (by rw [hcol]; nofun))]
    refine .bind hpos fun boc => .pure fun s hs => ⟨?_, hs.2⟩
    rw [hs.1, bitOfCol]
    omega

theorem InField.transceiveAcf_total {level n : Nat} {ready : List Card} {acf : Mem UInt8} {v : Air}
    (hfield : v.field = .ready level ready) (hn : n < 40) (hcoded : Coded level n acf)
    (hne : answering ready level n acf ≠ []) :
    Total (fun s => air s = v) (rc632Iso14443aTransceiveAcf a acf) fun r s =>
      (r.ret = 0 ∧ r.bitOfCol = bitOfCol (levelCollision (answering ready level n acf) level) ∧
        ∃ x, r.acf = acfMerge acf x ∧ Received (answering ready level n acf) level n (n % 8) x) ∧
      air s = ⟨0, levelCollision (answering ready level n acf) level, .ready level ready⟩ := by
  obtain ⟨hlast, halign⟩ := acfFraming_bits (Nat.mod_lt n (by decide)) (hcoded.txLastBits (by omega))
  have hframe : BitFrame level n (acfFraming acf) acf (acfTxBytesTotal acf) :=
    ⟨hcoded.selCode, hcoded.nvb, hlast, hcoded.txBytesTotal hn⟩
  have hexch := law.bitFrame { v with framing := acfFraming acf } level n ready acf (acfTxBytesTotal acf)
    64 0x32 hfield hn hframe hne (by decide)
  unfold rc632Iso14443aTransceiveAcf
  refine .bind (law.prepareAcf_total acf v).attempt fun o s hs => ?_
  obtain ⟨_, rfl, hs⟩ := hs
  rw [show framingRxAlign (acfFraming acf) = n % 8 from halign] at hexch
  revert s
  refine hexch.bind fun x => .assume fun hx => ?_
  rw [if_neg (Int.not_lt.mpr hx.ret)]
  refine .bind (law.bitOfCol_total _ fun k hk => (levelCollision_eq_some.mp hk).2.1).attempt
    fun o s hs => ?_
  obtain ⟨boc, rfl, hboc, hair⟩ := hs
  exact ⟨_, s, rfl, ⟨rfl, hboc, x, rfl, hx⟩, hair⟩

theorem InField.transceiveSf_total {cmd : UInt8} (hcmd : cmd = sfCmdReqa ∨ cmd = sfCmdWupa)
    (atqa : Mem UInt8) {v : Air} (hfield : v.field = .idle) :
    Total (fun s => air s = v) (rc632Iso14443aTransceiveSf a cmd atqa) fun r s =>
      (r.ret = 0 ∧ bfAnticol r.atqa ≠ 0) ∧ (air s).framing = 0 ∧ (air s).field = .ready 0 cards := by
  have hprepare : Total (fun s => air s = v) (rc632Iso14443aPrepareSf a) fun _ s =>
      air s = { v with framing := 0x07 } := by
    refine .bind (write_total (law.regWrite_total (by decide) 0x07 v)) fun _ => ?_
    refine .bind_check (law.clearBits_total (by decide) _ { v with framing := 0x07 }) ?_
    refine .bind (law.clearBits_total (by decide) _ { v with framing := 0x07 }) fun ret => ?_
    exact .assume fun hret => .check hret
  have hfinish : ∀ w : Air, w.framing = 0 → w.field = .ready 0 cards →
      Total (fun s => air s = w) (rc632Iso14443aFinishSf a) fun _ s =>
        (air s).framing = 0 ∧ (air s).field = .ready 0 cards := by
    intro w hframing hready
    have hread : ∀ reg, Total (fun s => air s = { w with framing := 0 }) (a.read reg) fun _ s =>
        air s = { w with framing := 0 } := fun reg => read_total (law.regRead_total reg _)
    refine .bind (write_total (law.regWrite_total (by decide) 0x00 w)) fun _ => ?_
    refine .bind (hread regErrorFlag) fun flags => ?_
    refine .when (fun _ => .bind (hread regCollPos) fun _ => .pure fun s hs => ?_) fun _ s hs => ?_
    · rw [hs]
      exact ⟨rfl, hready⟩
    · rw [hs]
      exact ⟨rfl, hready⟩
  unfold rc632Iso14443aTransceiveSf
  refine .bind hprepare.attempt fun o s hs => ?_
  obtain ⟨_, rfl, hs⟩ := hs
  obtain ⟨x, s₁, hx, hret, hlen, ⟨b, b', hrx, hb⟩, hframing, hready⟩ :=
    law.request { v with framing := 0x07 } (Mem.ofList (fun _ => 0) [cmd]) 2 iso14443aFdtAnticolLast1
      hcmd rfl hfield (by decide) s hs
  obtain ⟨_, s₂, hrun, hdone⟩ := hfinish (air s₁) hframing hready s₁ rfl
  refine ⟨⟨0, (atqa.store 0 [0, 0]).store 0 x.rx⟩, s₂, ?_, ⟨rfl, ?_⟩, hdone⟩
  · dsimp only
    rw [bind_ok hx, if_neg (Int.not_lt.mpr hret), bind_ok (attempt_ok hrun), if_neg (not_not.mpr hlen)]
    rfl
  · rw [bfAnticol, hrx]
    exact hb

theorem InField.select_total {level : Nat} {ready : List Card} {acf : Mem UInt8} {v : Air}
    (rx : Mem UInt8) (timeout : Nat)
    (hfield : v.field = .ready level ready) (hreaches : ∀ c ∈ ready, c.Reaches level)
    (hframing : v.framing = 0) (hsel : acf.load 0 2 = [acSelCode level, 0x70])
    (hne : named ready level acf ≠ []) :
    Total (fun s => air s = v)
      (rc632Iso14443abTransceive a .iso14443aFrameRegular acf 7 rx 3 timeout) fun r s =>
      (r.ret = 0 ∧ ∀ c ∈ named ready level acf, r.rx 0 &&& 0x04 ≠ 0 ↔ ¬ c.Complete level) ∧
        (air s).framing = 0 ∧ (air s).field = afterSelect level (named ready level acf) := by
  refine .bind (write_total (law.regWrite_total (by decide) _ v)).attempt fun o s hs => ?_
  obtain ⟨_, rfl, hs⟩ := hs
  obtain ⟨x, s₁, hx, hret, ⟨sak, l, hrx, hsak⟩, hair⟩ :=
    law.select v level ready acf 3 timeout hfield hreaches hframing hsel hne (by decide) s hs
  refine ⟨_, s₁, bind_ok hx, ⟨if_neg (Int.not_lt.mpr hret), ?_⟩, hair⟩
  rw [hrx]
  exact hsak

end Frames

end Librfid.Layer2
