import Librfid.Layer2.Acf
import Librfid.Rc632.Watching
import Librfid.Rc632.Chip

namespace Librfid.Layer2

open Rc632 Exec

structure Round where
  acf : Mem UInt8
  sent : Nat
  answer : Option Xfer

namespace Round

/-- Offsets into the command that are read: the NVB, what is sent, and the byte that the answer is
merged with. -/
def reads (f : Round) : List Nat :=
  1 :: List.range f.sent ++ match f.answer with
    | some x => if x.ret < 0 then [] else [(acfTxBytes f.acf).toNat]
    | none => []

def writes (f : Round) : List Int :=
  match f.answer with
  | some x =>
    if x.ret < 0 then []
    else ((acfTxBytes f.acf).toNat - 2 : Int) ::
      if x.rxLen ≠ 0 then
        (List.range (x.rxLen.toNat - 1)).map fun i : Nat => ((acfTxBytes f.acf).toNat - 1 + i : Int)
      else []
  | none => []

/-- The command has seven bytes, `uid_bits` five. -/
structure InBounds (f : Round) : Prop where
  reads : ∀ i ∈ f.reads, i < 7
  writes : ∀ i ∈ f.writes, 0 ≤ i ∧ i < 5

structure Fits (f : Round) : Prop where
  sent : (acfTxBytesTotal f.acf).toNat ≤ 7 ∨ f.sent = 0
  received : ∀ x, f.answer = some x → 0 ≤ x.ret → (acfTxBytes f.acf).toNat ≤ 6 ∧
    (x.rxLen.toNat ≤ 1 ∨ (acfTxBytes f.acf).toNat + x.rxLen.toNat ≤ 7)

end Round

def NvbCoded (acf : Mem UInt8) : Prop := ∃ bits, iso14443aCodeNvbBits bits = some (acf 1)

structure Round.Sound (f : Round) : Prop where
  coded : NvbCoded f.acf
  sent : f.sent = 0 ∨ f.sent = (acfTxBytesTotal f.acf).toNat

theorem acfTxBytes_le (acf : Mem UInt8) : (acfTxBytes acf).toNat ≤ 7 := by
  rw [acfTxBytes, UInt8.toNat_and]
  exact Nat.and_le_right

theorem acfTxBytesTotal_le (acf : Mem UInt8) : (acfTxBytesTotal acf).toNat ≤ 8 := by
  have hle := acfTxBytes_le acf
  unfold acfTxBytesTotal
  split_ifs
  · rw [UInt8.toNat_add, Nat.mod_eq_of_lt]
    · exact Nat.succ_le_succ hle
    · exact Nat.lt_of_le_of_lt (Nat.succ_le_succ hle) (by decide)
  · exact Nat.le_succ_of_le hle

namespace NvbCoded

variable {acf : Mem UInt8}

theorem counted (h : NvbCoded acf) : 2 ≤ (acfTxBytes acf).toNat := by
  obtain ⟨bits, hbits⟩ := h
  have hrange : ¬ (bits < 16 ∨ 64 ≤ bits) := fun hout => by
    rw [iso14443aCodeNvbBits_eq_none hout] at hbits
    cases hbits
  obtain ⟨nvb, hnvb, hbytes, -⟩ := iso14443aCodeNvbBits_some (by omega : 16 ≤ bits) (by omega)
  rw [hbits] at hnvb
  rw [acfTxBytes, Option.some.inj hnvb, hbytes]
  omega

theorem first (acf : Mem UInt8) : NvbCoded (Layer2.codeNvb acf 16) :=
  ⟨16, congrArg some (Mem.set_self acf 1 _).symm⟩

theorem codeNvb (h : NvbCoded acf) (bits : Nat) : NvbCoded (Layer2.codeNvb acf bits) := by
  unfold Layer2.codeNvb
  cases hnvb : iso14443aCodeNvbBits bits with
  | none => exact h
  | some nvb => exact ⟨bits, hnvb.trans (congrArg some (Mem.set_self acf 1 nvb).symm)⟩

theorem merge (h : NvbCoded acf) (x : Xfer) : NvbCoded (acfMerge acf x) := by
  have hcounted := h.counted
  obtain ⟨bits, hbits⟩ := h
  exact ⟨bits, by rw [hbits, acfMerge_of_lt acf x (by omega)]⟩

theorem set (h : NvbCoded acf) {i : Int} (hi : 2 ≤ i) (b : UInt8) : NvbCoded (acf.set i b) := by
  obtain ⟨bits, hbits⟩ := h
  exact ⟨bits, by rw [hbits, Mem.set_ne _ _ (by omega)]⟩

end NvbCoded

namespace Round

variable {f : Round}

theorem reads_lt_iff (f : Round) :
    (∀ i ∈ f.reads, i < 7) ↔
      f.sent ≤ 7 ∧ ∀ x, f.answer = some x → 0 ≤ x.ret → (acfTxBytes f.acf).toNat < 7 := by
  rw [reads, List.forall_mem_append, List.forall_mem_cons]
  refine and_congr ?_ ?_
  · refine (and_iff_right (by decide)).trans ⟨fun h => ?_, fun h i hi => ?_⟩
    · by_contra hlong
      exact absurd (h 7 (List.mem_range.mpr (by omega))) (Nat.lt_irrefl 7)
    · have hlt := List.mem_range.mp hi
      omega
  · cases f.answer with
    | none => exact iff_of_true (fun _ hi => by cases hi) fun _ hx => by cases hx
    | some x =>
      refine Iff.trans ?_ ⟨fun h _ hx => Option.some.inj hx ▸ h, fun h => h x rfl⟩
      simp only
      split_ifs with hneg
      · exact iff_of_true (fun _ hi => by cases hi) fun hret => absurd hneg (Int.not_lt.mpr hret)
      · exact ⟨fun h _ => h _ (.head _), fun h i hi => List.mem_singleton.mp hi ▸ h (Int.not_lt.mp hneg)⟩

theorem writes_lt_iff (h : NvbCoded f.acf) :
    (∀ i ∈ f.writes, 0 ≤ i ∧ i < 5) ↔ ∀ x, f.answer = some x → 0 ≤ x.ret →
      (acfTxBytes f.acf).toNat ≤ 6 ∧
        (x.rxLen.toNat ≤ 1 ∨ (acfTxBytes f.acf).toNat + x.rxLen.toNat ≤ 7) := by
  have hcounted := h.counted
  unfold writes
  cases f.answer with
  | none => exact iff_of_true (fun _ hi => by cases hi) fun _ hx => by cases hx
  | some x =>
    refine Iff.trans ?_ ⟨fun h _ hx => Option.some.inj hx ▸ h, fun h => h x rfl⟩
    simp only
    split_ifs with hneg hne
    · exact iff_of_true (fun _ hi => by cases hi) fun hret => absurd hneg (Int.not_lt.mpr hret)
    · rw [List.forall_mem_cons, List.forall_mem_map, imp_iff_right (Int.not_lt.mp hneg)]
      constructor
      · rintro ⟨hfirst, hrest⟩
        refine ⟨by omega, or_iff_not_imp_left.mpr fun hmore => ?_⟩
        have hlast := hrest (x.rxLen.toNat - 2) (List.mem_range.mpr (by omega))
        omega
      · rintro ⟨hfirst, hrest⟩
        refine ⟨by omega, fun j hj => ?_⟩
        have hlt := List.mem_range.mp hj
        omega
    · have hzero : x.rxLen.toNat = 0 := by rw [not_not.mp hne]; rfl
      rw [List.forall_mem_singleton, imp_iff_right (Int.not_lt.mp hneg)]
      omega

theorem Sound.inBounds_iff (h : f.Sound) : f.InBounds ↔ f.Fits := by
  have hsent := h.sent
  constructor
  · rintro ⟨hreads, hwrites⟩
    have hfew := ((reads_lt_iff f).mp hreads).1
    exact ⟨by omega, (writes_lt_iff h.coded).mp hwrites⟩
  · rintro ⟨hfew, hreceived⟩
    refine ⟨(reads_lt_iff f).mpr ⟨by omega, fun x hx hret => ?_⟩, (writes_lt_iff h.coded).mpr hreceived⟩
    exact Nat.lt_succ_of_le (hreceived x hx hret).1

theorem merge_of_not_mem {acf : Mem UInt8} {x : Xfer} (hret : 0 ≤ x.ret) (n : Nat) {i : Int}
    (h : i ∉ Round.writes ⟨acf, n, some x⟩) :
    acfMerge acf x (acfUidBits + i) = acf (acfUidBits + i) := by
  simp only [writes] at h
  rw [if_neg (Int.not_lt.mpr hret), List.mem_cons, not_or] at h
  obtain ⟨hfirst, hrest⟩ := h
  have hp : acfUidBits + i ≠ acfUidBits + ((acfTxBytes acf).toNat - 2 : Int) := by omega
  simp only [acfMerge]
  split_ifs with hne
  · rw [if_pos hne] at hrest
    rcases Int.lt_or_le i ((acfTxBytes acf).toNat - 1) with hlt | hge
    · rw [Mem.store_of_lt _ _ (by omega), Mem.set_ne _ _ hp]
    · rw [Mem.store_of_ge _ _ ?_, Mem.set_ne _ _ hp]
      rw [Mem.length_load]
      by_contra hshort
      obtain ⟨j, hj⟩ : ∃ j : Nat, i = (acfTxBytes acf).toNat - 1 + j :=
        ⟨(i - ((acfTxBytes acf).toNat - 1)).toNat, by omega⟩
      have hmem : j ∈ List.range (x.rxLen.toNat - 1) := List.mem_range.mpr (by omega)
      exact hrest (List.mem_map.mpr ⟨j, hmem, hj.symm⟩)
  · exact Mem.set_ne _ _ hp

end Round

section

variable {σ ρ : Type} (t : Transport σ) (rxPast : RxConfig) (txPast : TxConfig) (undef : UInt8)
  (fuel speed : Nat) (randomBit : ρ → Bool × ρ)

def countSent (bytes : List UInt8) : List Round → List Round
  | f :: log => { f with sent := f.sent + bytes.length } :: log
  | [] => []

def setAnswer (x : Xfer) : List Round → List Round
  | f :: log => { f with answer := some x } :: log
  | [] => []

/-- The driver for one kind of frame; every bit frame is recorded, the last one first. -/
def roundsAsic : FrameKind → Asic (σ × List Round)
  | .acf _ =>
    { toBus := (t.watching countSent).toBus
      transceive := fun tx txLen rxLen timer => do
        modify fun log => ⟨tx, 0, none⟩ :: log
        let x ← rc632Transceive (t.watching countSent) undef fuel tx txLen rxLen timer
        modify (setAnswer x)
        pure x }
  | _ => (t.watching fun _ => id).asic undef fuel

def roundsReader : Reader (σ × List Round) :=
  reader rxPast txPast (roundsAsic t undef fuel) speed

def AllSound (log : List Round) : Prop := ∀ f ∈ log, f.Sound

theorem allSound_nil : AllSound [] := fun _ hf => by cases hf

section

variable {t undef fuel}

theorem roundsAsic_bus (kind : FrameKind) (regs : List UInt8) :
    (roundsAsic t undef fuel kind).toBus.Keeps regs fun s => AllSound s.2 := by
  cases kind with
  | acf _ => exact watching_bus t countSent AllSound regs
  | sf => exact watching_bus t (fun _ => id) AllSound regs
  | regular => exact watching_bus t (fun _ => id) AllSound regs

theorem roundsAsic_sf (regs : List UInt8) :
    (roundsAsic t undef fuel .sf).Keeps regs fun s => AllSound s.2 where
  toKeeps := roundsAsic_bus .sf regs
  transceive := rc632Transceive_keeps (watching_keeps t _ fun _ _ => id) undef fuel

theorem roundsAsic_regular (regs : List UInt8) :
    (roundsAsic t undef fuel .regular).Keeps regs fun s => AllSound s.2 where
  toKeeps := roundsAsic_bus .regular regs
  transceive := rc632Transceive_keeps (watching_keeps t _ fun _ _ => id) undef fuel

theorem roundsAsic_transceive {acf : Mem UInt8} (h : NvbCoded acf) (sel rxLen : UInt8)
    (timer : Nat) :
    Keeps (fun s => AllSound s.2)
      ((roundsAsic t undef fuel (.acf sel)).transceive acf (acfTxBytesTotal acf) rxLen timer) := by
  rintro ⟨s, log⟩ hlog
  have hlen : (acfTxBytesTotal acf).toNat ≤ 64 :=
    Nat.le_trans (acfTxBytesTotal_le acf) (by decide)
  -- the frame while it has no answer
  let Open : σ × List Round → Prop := fun s => ∃ n, (n = 0 ∨ n = (acfTxBytesTotal acf).toNat) ∧
    s.2 = ⟨acf, n, none⟩ :: log
  have hopen : ∀ s, Open s → AllSound s.2 := by
    rintro s ⟨n, hn, hs⟩
    rw [hs]
    exact List.forall_mem_cons.mpr ⟨⟨h, hn⟩, hlog⟩
  have hexchange : Triple (fun s => s.2 = ⟨acf, 0, none⟩ :: log)
      (rc632Transceive (t.watching countSent) undef fuel acf (acfTxBytesTotal acf) rxLen timer)
      fun _ => Open := by
    refine (rc632Transceive_watching t countSent undef fuel acf hlen rxLen timer _).post ?_
    rintro _ s (hs | hs)
    · exact ⟨0, .inl rfl, hs⟩
    · exact ⟨_, .inr rfl, by rw [hs, countSent, Mem.length_load, Nat.zero_add]⟩
  have hanswer : ∀ x, Triple Open (modify (setAnswer x) : Exec (σ × List Round) Unit)
      fun _ s => AllSound s.2 := by
    rintro x s ⟨n, hn, hs⟩
    change AllSound (setAnswer x s.2)
    rw [hs]
    exact List.forall_mem_cons.mpr ⟨⟨h, hn⟩, hlog⟩
  have hrest : Triple (fun s => s.2 = ⟨acf, 0, none⟩ :: log) (do
        let x ← rc632Transceive (t.watching countSent) undef fuel acf (acfTxBytesTotal acf) rxLen timer
        modify (setAnswer x)
        pure x) fun _ s => AllSound s.2 :=
    .bind hexchange (fun x => .bind (hanswer x) (fun _ => Keeps.pure x) (fun _ _ => id) fun _ => id)
      (fun _ => hopen) hopen
  exact hrest (s, ⟨acf, 0, none⟩ :: log) rfl

theorem bitFrame_sound {acf : Mem UInt8} (h : NvbCoded acf) (sel : UInt8) :
    Triple (fun s => AllSound s.2)
      (rc632Iso14443aTransceiveAcf (roundsAsic t undef fuel (.acf sel)) acf)
      (Ends (fun s => AllSound s.2) fun x _ => NvbCoded x.acf) := by
  have hbus : (roundsAsic t undef fuel (.acf sel)).toBus.Keeps anticolRegs fun s => AllSound s.2 :=
    roundsAsic_bus _ _
  have hprepare : Keeps (fun s => AllSound s.2)
      (rc632Iso14443aPrepareAcf (roundsAsic t undef fuel (.acf sel)) acf) :=
    .bind (rc632ClearBits_keeps hbus (by decide) _) fun _ => .bind (.check _) fun _ =>
      .bind (rc632ClearBits_keeps hbus (by decide) _) fun _ => .bind (.check _) fun _ =>
      hbus.write (by decide) _
  have hboc : Keeps (fun s => AllSound s.2)
      (rc632Iso14443aBitOfCol (roundsAsic t undef fuel (.acf sel))) :=
    .bind (hbus.read _) fun _ => .ite (fun _ => .bind (hbus.read _) fun _ => .pure _) fun _ => .pure _
  have hframe : Keeps (fun s => AllSound s.2)
      (rc632Iso14443aTransceiveAcf (roundsAsic t undef fuel (.acf sel)) acf) := by
    refine .bind hprepare.attempt fun o => ?_
    cases o with
    | error ret => exact .pure _
    | ok =>
      refine .bind (roundsAsic_transceive h sel _ _) fun x => .ite (fun _ => .pure _) fun _ => ?_
      refine .bind hboc.attempt fun o => ?_
      cases o <;> exact .pure _
  refine fun s hs => ⟨hframe s hs, fun x hx => ?_⟩
  rcases (rc632Iso14443aTransceiveAcf_acf _ acf s trivial).2 x hx with hacf | ⟨y, hacf⟩
  · exact hacf ▸ h
  · exact hacf ▸ h.merge y

section Run

variable {rxPast : RxConfig} {txPast : TxConfig} {speed : Nat} {randomBit : ρ → Bool × ρ}

theorem iso14443aCollisions_sound (rounds : Nat) {acf : Mem UInt8} (h : NvbCoded acf)
    (bitOfCol : Nat) :
    Keeps (fun s => AllSound s.1.2) (iso14443aCollisions (roundsReader t rxPast txPast undef fuel
      speed) randomBit rounds acf bitOfCol) := by
  induction rounds generalizing acf bitOfCol with
  | zero => exact .hang
  | succ rounds ih =>
    refine .ite (fun _ => .pure _) fun _ => ?_
    have htoggle : Triple (fun s : (σ × List Round) × Vars ρ => AllSound s.1.2)
        (rndToggleBitInField randomBit (codeNvb acf bitOfCol) acfUidBits 5 bitOfCol)
        (Ends (fun s => AllSound s.1.2) fun acf _ => NvbCoded acf) := by
      rintro ⟨s, v⟩ hs
      obtain ⟨b, v', hrun, -⟩ := rndToggleBitInField_run randomBit (codeNvb acf bitOfCol) acfUidBits 5
        bitOfCol s v
      rw [hrun]
      refine ⟨hs, ?_⟩
      rintro _ ⟨⟩
      split_ifs
      · exact (h.codeNvb bitOfCol).set (by rw [acfUidBits]; omega) _
      · exact h.codeNvb bitOfCol
    refine .ends_bind_const htoggle (fun _ => id) fun acf => .assume fun hacf => ?_
    refine .ends_bind_const (bitFrame_sound hacf (acf 0)).ends_lift (fun _ => id) fun x =>
      .assume fun hx => ?_
    exact Keeps.bind (.check _) fun _ => ih hx _

theorem iso14443aCascade_sound (rounds : Nat) (acf sak : Mem UInt8) :
    Keeps (fun s => AllSound s.1.2) (iso14443aCascade (roundsReader t rxPast txPast undef fuel speed)
      randomBit rounds acf sak) := by
  induction rounds generalizing acf sak with
  | zero => exact .hang
  | succ rounds ih =>
    have hset : ∀ f : Handle → Handle,
        Keeps (fun s : (σ × List Round) × Vars ρ => AllSound s.1.2) (setHandle f) :=
      setHandle_keeps fun s : σ × List Round => AllSound s.2
    have hselect : ∀ tx, Keeps (fun s => AllSound s.2) ((roundsReader t rxPast txPast undef fuel
        speed).transceive .iso14443aFrameRegular tx 7 sak 3 1236) := fun tx =>
      rc632Iso14443abTransceive_keeps (roundsAsic_regular _) _ tx 7 sak 3 1236
    refine .ends_bind_const (bitFrame_sound (.first acf) _).ends_lift (fun _ => id) fun x =>
      .assume fun hx => ?_
    refine Keeps.bind (.check _) fun _ => .bind (iso14443aCollisions_sound rounds hx _) fun acf =>
      .bind (.lift (hselect _)) fun y => .bind (.check _) fun _ => ?_
    refine .ite (fun _ => .ite (fun _ => .ite (fun _ => .fail _) fun _ => ?_) fun _ =>
      .ite (fun _ => ?_) fun _ => ?_) fun _ => ?_
    · exact .bind (hset _) fun _ => ih _ _
    · exact .bind (hset _) fun _ => ih _ _
    · exact .bind (hset _) fun _ => .fail _
    · exact .bind (hset _) fun _ => .pure _

theorem iso14443aAnticol_sound (rounds : Nat) :
    Keeps (fun s => AllSound s.1.2) (iso14443aAnticol (roundsReader t rxPast txPast undef fuel speed)
      randomBit rounds) := by
  have hset : ∀ f : Handle → Handle,
      Keeps (fun s : (σ × List Round) × Vars ρ => AllSound s.1.2) (setHandle f) :=
    setHandle_keeps fun s : σ × List Round => AllSound s.2
  have hleave : ∀ (c : Prop) [Decidable c] (f : Handle → Handle) (ret : Int),
      Keeps (fun s : (σ × List Round) × Vars ρ => AllSound s.1.2) (when c do
        setHandle f
        fail ret) := fun _ _ f ret => .when fun _ => .bind (hset f) fun _ => .fail ret
  refine .bind (hset _) fun _ => .bind (fun _ => id) fun v =>
    .bind (.lift (rc632Iso14443aTransceiveSf_keeps (roundsAsic_sf _) _ _)) fun x =>
    .bind (hset _) fun _ => .bind (hleave _ _ _) fun _ => .bind (hset _) fun _ =>
    .bind (hleave _ _ _) fun _ => .bind (hset _) fun _ => ?_
  exact .bind (iso14443aCascade_sound rounds _ _) fun _ => hset _

/-- A bit frame stays inside the command exactly when it is not longer than seven bytes and the
answer ends where the command does. -/
theorem bitFrame_inBounds_iff (t : Transport σ) (rxPast : RxConfig) (txPast : TxConfig)
    (undef : UInt8) (fuel speed : Nat) (randomBit : ρ → Bool × ρ) (s : σ) :
    (∀ (acf : Mem UInt8), NvbCoded acf → ∀ f ∈ ((roundsReader t rxPast txPast undef fuel
      speed).transceiveAcf acf (s, [])).2.2, (f.InBounds ↔ f.Fits)) ∧
    (∀ (rounds : Nat) (v : Vars ρ), ∀ f ∈ (iso14443aAnticol (roundsReader t rxPast txPast undef fuel
      speed) randomBit rounds ((s, []), v)).2.1.2, (f.InBounds ↔ f.Fits)) ∧
    ∀ (acf : Mem UInt8) (n : Nat) (x : Xfer), 0 ≤ x.ret →
      ∀ i, i ∉ Round.writes ⟨acf, n, some x⟩ →
        acfMerge acf x (acfUidBits + i) = acf (acfUidBits + i) := by
  refine ⟨fun acf hacf f hf => ?_, fun rounds v f hf => ?_, fun acf n x hret i hi =>
    Round.merge_of_not_mem hret n hi⟩
  · have hsound : Triple (fun s => AllSound s.2)
        (rc632Iso14443aTransceiveAcf (roundsAsic t undef fuel (.acf (acf 0))) acf)
        (Ends (fun s => AllSound s.2) fun x _ => NvbCoded x.acf) := bitFrame_sound hacf (acf 0)
    exact ((hsound (s, []) allSound_nil).1 f hf).inBounds_iff
  · exact (iso14443aAnticol_sound rounds ((s, []), v) allSound_nil f hf).inBounds_iff

end Run

end

end

def chipRounds (acf : Mem UInt8) (e : Exch) : List Round :=
  ((roundsReader chip ⟨0, 0, 0, 0⟩ ⟨0, 0⟩ 0 2 rfid14443aSpeed106k).transceiveAcf acf
    (chipAhead [e], [])).2.2

def codedAcf (bits : Nat) : Mem UInt8 :=
  codeNvb (Mem.ofList (fun _ => 0) [acSelCodeCl1, 0, 0, 0, 0, 0, 0]) bits

theorem bitFrame_inBounds_uid :
    ∃ f ∈ chipRounds (codedAcf 16) (idleAtOnce [0x01, 0x02, 0x03, 0x04, 0x04] (by decide)),
      f.InBounds := by
  have hlog : (chipRounds (codedAcf 16) (idleAtOnce [0x01, 0x02, 0x03, 0x04, 0x04] (by decide))).map
      (fun f => (f.acf 1, f.answer)) = [(0x20, some ⟨0, 5, [0x01, 0x02, 0x03, 0x04, 0x04]⟩)] := by
    decide +kernel
  obtain ⟨f, hf, hshape⟩ := List.mem_map.mp (hlog ▸ List.mem_singleton.mpr rfl)
  obtain ⟨hnvb, hanswer⟩ := Prod.mk.inj hshape
  refine ⟨f, hf, ((bitFrame_inBounds_iff chip ⟨0, 0, 0, 0⟩ ⟨0, 0⟩ 0 2 rfid14443aSpeed106k randomBit
    (chipAhead _)).1 (codedAcf 16) (.first _) f hf).mpr ⟨.inl ?_, ?_⟩⟩
  · rw [acfTxBytesTotal, acfTxLastBits, acfTxBytes, hnvb]
    decide
  · rw [acfTxBytes, hnvb, hanswer]
    rintro _ ⟨⟩ -
    decide

/-- A sixth byte, and a byte after a collision at the end of the command. -/
theorem bitFrame_outOfBounds :
    (∃ f ∈ chipRounds (codedAcf 16) (idleAtOnce [1, 2, 3, 4, 5, 6] (by decide)),
      NvbCoded f.acf ∧ ¬ f.InBounds) ∧
    ∃ f ∈ chipRounds (codedAcf (2 * 8 + 0x28)) (idleAtOnce [1] (by decide)),
      NvbCoded f.acf ∧ ¬ f.InBounds := by
  have hlong : (chipRounds (codedAcf 16) (idleAtOnce [1, 2, 3, 4, 5, 6] (by decide))).map
      (fun f => (f.acf 1, f.writes)) = [(0x20, [0, 1, 2, 3, 4, 5])] := by
    decide +kernel
  have hlast : (chipRounds (codedAcf (2 * 8 + 0x28)) (idleAtOnce [1] (by decide))).map
      (fun f => (f.acf 1, f.writes)) = [(0x70, [5])] := by
    decide +kernel
  have hfive : ∀ f : Round, 5 ∈ f.writes → ¬ f.InBounds := fun f hmem hin =>
    absurd (hin.writes 5 hmem).2 (by decide)
  obtain ⟨f, hf, hshape⟩ := List.mem_map.mp (hlong ▸ List.mem_singleton.mpr rfl)
  obtain ⟨g, hg, hshape'⟩ := List.mem_map.mp (hlast ▸ List.mem_singleton.mpr rfl)
  obtain ⟨hnvb, hwrites⟩ := Prod.mk.inj hshape
  obtain ⟨hnvb', hwrites'⟩ := Prod.mk.inj hshape'
  exact ⟨⟨f, hf, ⟨16, by rw [hnvb]; decide⟩, hfive f (by rw [hwrites]; decide)⟩,
    g, hg, ⟨56, by rw [hnvb']; decide⟩, hfive g (by rw [hwrites']; decide)⟩

end Librfid.Layer2
