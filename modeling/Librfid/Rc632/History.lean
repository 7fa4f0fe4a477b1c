import Librfid.Rc632.Configuration

namespace Librfid.Rc632

open Exec

/-- The configuration for itself: of every call some edits from the front, and all of them if it
succeeds. -/
inductive ConfigRun : List (RdrCall × Int) → (UInt8 → UInt8) → (UInt8 → UInt8) → Prop
  | nil (m : UInt8 → UInt8) : ConfigRun [] m m
  | cons {c : RdrCall} {ret : Int} {calls : List (RdrCall × Int)} {m m' : UInt8 → UInt8} (n : Nat) :
      (0 ≤ ret → c.edits.length ≤ n) → ConfigRun calls (Edit.applyAll (c.edits.take n) m) m' →
      ConfigRun ((c, ret) :: calls) m m'

section

variable {σ : Type} {t : Transport σ} {regs : σ → UInt8 → UInt8} {e : Ambient} {calls : List RdrCall}
  {rets : List Int} {s s' : σ}

theorem runRdrCalls_refines_from (h : ∀ reg ∈ configRegs, Register t reg fun s => regs s reg)
    (hrun : runRdrCalls t e calls s = (.ok rets, s')) {m : UInt8 → UInt8}
    (hm : ∀ k ∈ configRegs, regs s k = m k) :
    ∃ m', ConfigRun (calls.zip rets) m m' ∧ ∀ k ∈ configRegs, regs s' k = m' k := by
  induction calls generalizing rets s m with
  | nil =>
    cases hrun
    exact ⟨m, .nil m, hm⟩
  | cons c calls ih =>
    obtain ⟨ret, s₁, hcall, hrun⟩ := of_bind_ok hrun
    obtain ⟨rets', s₂, hcalls, hrun⟩ := of_bind_ok hrun
    cases hrun
    obtain ⟨n, hn, hlen⟩ := c.run_edits h e s
    rw [hcall] at hn hlen
    have hm₁ : ∀ k ∈ configRegs, regs s₁ k = Edit.applyAll (c.edits.take n) m k := fun k hk =>
      (hn k hk).trans (Edit.applyAll_congr (hm k hk))
    obtain ⟨m', hconfig, hm'⟩ := ih hcalls hm₁
    exact ⟨m', .cons n (fun hret => hlen ret rfl hret) hconfig, hm'⟩

/-- The chip does what the configuration for itself can do. -/
theorem runRdrCalls_refines (h : ∀ reg ∈ configRegs, Register t reg fun s => regs s reg)
    (hrun : runRdrCalls t e calls s = (.ok rets, s')) :
    ∃ m', ConfigRun (calls.zip rets) (regs s) m' ∧ ∀ k ∈ configRegs, regs s' k = m' k :=
  runRdrCalls_refines_from h hrun fun _ _ => rfl

end

section Config

variable {calls before after : List (RdrCall × Int)} {m m' : UInt8 → UInt8} {k : UInt8}

theorem ConfigRun.of_append (h : ConfigRun (before ++ after) m m') :
    ∃ m₁, ConfigRun before m m₁ ∧ ConfigRun after m₁ m' := by
  induction before generalizing m with
  | nil => exact ⟨m, .nil m, h⟩
  | cons c before ih =>
    cases h with
    | cons n hn h =>
      obtain ⟨m₁, hbefore, hafter⟩ := ih h
      exact ⟨m₁, .cons n hn hbefore, hafter⟩

theorem ConfigRun.of_forall_ne (h : ConfigRun calls m m')
    (hne : ∀ c ∈ calls, ∀ e ∈ c.1.edits, e.key ≠ k) : m' k = m k := by
  induction h with
  | nil => rfl
  | @cons c ret calls m m' n hn h ih =>
    obtain ⟨hc, hcalls⟩ := List.forall_mem_cons.mp hne
    rw [ih hcalls]
    exact Edit.applyAll_of_forall_ne (fun e he => hc e (List.mem_of_mem_take he)) m

theorem ConfigRun.last_set {c : RdrCall} {ret : Int} (h : ConfigRun (before ++ (c, ret) :: after) m m')
    (hret : 0 ≤ ret) {l r : List RegEdit} {v : UInt8} (hedits : c.edits = l ++ .set k v :: r)
    (hr : ∀ e ∈ r, e.key ≠ k) (hafter : ∀ c ∈ after, ∀ e ∈ c.1.edits, e.key ≠ k) : m' k = v := by
  obtain ⟨m₁, -, h⟩ := h.of_append
  cases h with
  | cons n hn h =>
    rw [h.of_forall_ne hafter, List.take_of_length_le (hn hret), hedits]
    exact Edit.applyAll_set v hr m₁

end Config

def RdrCall.exchanges : RdrCall → Bool
  | .transceive .. | .transceiveSf .. | .transceiveAcf _ | .transceiveAc .. => true
  | .setkey _ | .setkeyEe _ | .auth .. => true
  | _ => false

def RdrCall.footprint : RdrCall → List UInt8
  | .open | .close | .setopt .. => [regTxControl]
  | .init l2 => (layer2Script l2).map Prod.fst
  | .setSpeed tx _ => speedRegs tx
  | _ => [regBitFraming, regChannelRedundancy]

theorem speedEdits_footprint (rate : Nat) (tx : Bool) :
    ∀ e ∈ speedEdits rate tx, e.key ∈ speedRegs tx := by
  cases tx with
  | false =>
    cases hcfg : rxConfigs[rate]? with
    | none => simp [speedEdits, hcfg]
    | some cfg =>
      by_cases hbpsk : cfg.rxCoding = decctrlBpsk <;>
        simp [speedEdits, hcfg, hbpsk, Edit.set, putEdit, speedRegs, rxSpeedRegs]
  | true =>
    cases hcfg : txConfigs[rate]? <;> simp [speedEdits, hcfg, Edit.set, putEdit, speedRegs]

theorem RdrCall.edits_footprint (c : RdrCall) : ∀ e ∈ c.edits, e.key ∈ c.footprint := by
  cases c with
  | «open» | close => simp [edits, footprint, Edit.set, rfPowerEdit]
  | setopt optname optval optlen =>
    cases optval with
    | none => exact fun _ he => absurd he List.not_mem_nil
    | some val =>
      simp only [edits, Option.elim_some]
      split_ifs
      · simp [footprint, rfPowerEdit]
      · exact fun _ he => absurd he List.not_mem_nil
  | init l2 =>
    simp only [edits, footprint, scriptEdits, List.mem_map]
    rintro _ ⟨f, hf, rfl⟩
    exact ⟨f, hf, rfl⟩
  | transceive frametype =>
    cases hred : channelRed frametype <;> simp [edits, footprint, hred, Edit.set]
  | transceiveSf | transceiveAcf => simp [edits, footprint, Edit.set, clearEdit]
  | setSpeed tx speed =>
    simp only [edits, footprint]
    cases speedRate speed with
    | none => exact fun _ he => absurd he List.not_mem_nil
    | some rate => exact speedEdits_footprint rate tx
  | transceiveAc | setkey | setkeyEe => exact fun _ he => absurd he List.not_mem_nil
  | auth cmd =>
    simp only [edits]
    split_ifs
    · simp [footprint, clearEdit]
    · exact fun _ he => absurd he List.not_mem_nil

theorem RdrCall.ne_of_not_mem_footprint {c : RdrCall} {k : UInt8} (h : k ∉ c.footprint) :
    ∀ e ∈ c.edits, e.key ≠ k := fun e he hk => h (hk ▸ c.edits_footprint e he)

theorem RdrCall.exchanges_footprint {c : RdrCall} (h : c.exchanges = true) :
    c.footprint = [regBitFraming, regChannelRedundancy] := by
  cases c <;> first | rfl | cases h

def layer2RxWait : Layer2Id → Option UInt8
  | .iso14443a => some 0x06
  | .iso14443b => some 0x03
  | _ => none

def RdrCall.rxWait : RdrCall → Option UInt8
  | .init l2 => layer2RxWait l2
  | _ => none

theorem RdrCall.rxWait_footprint {c : RdrCall} (h : c.rxWait = none) : regRxWait ∉ c.footprint := by
  cases c with
  | init l2 =>
    cases l2 with
    | iso14443a | iso14443b => cases h
    | none => exact List.not_mem_nil
    | iso15693 => exact (by decide : regRxWait ∉ iso15693FastScript.map Prod.fst)
    | icode1 => exact (by decide : regRxWait ∉ icode1StdScript.map Prod.fst)
  | setSpeed tx => exact (by decide : ∀ tx, regRxWait ∉ speedRegs tx) tx
  | «open» | close | setopt => exact (by decide : regRxWait ∉ [regTxControl])
  | _ => exact (by decide : regRxWait ∉ [regBitFraming, regChannelRedundancy])

theorem scriptEdits_lookup {script : List (UInt8 × UInt8)} (hnodup : (script.map Prod.fst).Nodup)
    {reg : UInt8} (hreg : reg ∈ script.map Prod.fst) :
    ∃ val l r, script.lookup reg = some val ∧ scriptEdits script = l ++ .set reg val :: r ∧
      ∀ e ∈ r, e.key ≠ reg := by
  obtain ⟨⟨_, val⟩, hf, rfl⟩ := List.mem_map.mp hreg
  obtain ⟨l, r, rfl⟩ := List.append_of_mem hf
  rw [List.map_append, List.map_cons] at hnodup
  obtain ⟨-, hcons, hdisj⟩ := List.nodup_append.mp hnodup
  refine ⟨val, scriptEdits l, scriptEdits r, ?_, List.map_append, ?_⟩
  · rw [List.lookup_eq_some_iff]
    refine ⟨l, r, rfl, fun f hf => bne_iff_ne.mpr ?_⟩
    exact (hdisj f.1 (List.mem_map_of_mem hf) _ List.mem_cons_self).symm
  · simp only [scriptEdits, List.mem_map]
    rintro _ ⟨f, hf, rfl⟩ hkey
    exact (List.nodup_cons.mp hcons).1 (List.mem_map.mpr ⟨f, hf, hkey⟩)

theorem layer2Script_nodup (l2 : Layer2Id) : ((layer2Script l2).map Prod.fst).Nodup := by
  cases l2 <;> decide

theorem layer2RxWait_lookup {l2 : Layer2Id} {val : UInt8} (h : layer2RxWait l2 = some val) :
    regRxWait ∈ (layer2Script l2).map Prod.fst ∧ (layer2Script l2).lookup regRxWait = some val := by
  cases l2 with
  | iso14443a | iso14443b =>
    cases h
    decide
  | _ => cases h

theorem layer2Script_complete {l2 : Layer2Id} (hl2 : l2 ≠ .none) :
    ∀ reg ∈ configRegs, reg ≠ regBitFraming → reg ≠ regRxWait →
      reg ∈ (layer2Script l2).map Prod.fst := by
  have hall : configRegs.all fun reg => reg = regBitFraming ∨ reg = regRxWait ∨
      reg ∈ (layer2Script l2).map Prod.fst := by
    cases l2 with
    | none => exact absurd rfl hl2
    | _ => decide
  intro reg hreg hframing hrx
  have hor := of_decide_eq_true (List.all_eq_true.mp hall reg hreg)
  exact (hor.resolve_left hframing).resolve_left hrx

section

variable {σ : Type} {t : Transport σ} {regs : σ → UInt8 → UInt8} {e : Ambient}

/-- Once a layer is initialised, frames and keys leave its configuration alone, and nothing of it
depends on what was done before; but how long the receiver waits is said by types A and B only. -/
theorem layer2_configuration (h : ∀ reg ∈ configRegs, Register t reg fun s => regs s reg)
    {calls : List RdrCall} {rets : List Int} {s s' : σ}
    (hrun : runRdrCalls t e calls s = (.ok rets, s')) :
    (∀ before l2 ret after, calls.zip rets = before ++ (.init l2, ret) :: after → 0 ≤ ret →
      l2 ≠ .none → (∀ c ∈ after, c.1.exchanges = true) → ∀ reg ∈ configRegs, reg ≠ regBitFraming →
        reg ≠ regRxWait → reg ≠ regChannelRedundancy →
          (layer2Script l2).lookup reg = some (regs s' reg)) ∧
      (∀ before l2 ret after val, calls.zip rets = before ++ (.init l2, ret) :: after → 0 ≤ ret →
        layer2RxWait l2 = some val → (∀ c ∈ after, c.1.rxWait = none) → regs s' regRxWait = val) ∧
      ((∀ c ∈ calls.zip rets, c.1.rxWait = none) → regs s' regRxWait = regs s regRxWait) := by
  obtain ⟨m', hconfig, hm'⟩ := runRdrCalls_refines h hrun
  have hwait : regRxWait ∈ configRegs := by decide
  refine ⟨?_, ?_, fun hnone => ?_⟩
  · intro before l2 ret after hcalls hret hl2 hafter reg hreg hframing hrx hred
    rw [hcalls] at hconfig
    obtain ⟨val, l, r, hlookup, hedits, hr⟩ := scriptEdits_lookup (layer2Script_nodup l2)
      (layer2Script_complete hl2 reg hreg hframing hrx)
    have hval := hconfig.last_set hret hedits hr fun c hc => RdrCall.ne_of_not_mem_footprint (by
      rw [RdrCall.exchanges_footprint (hafter c hc)]
      simp [hframing, hred])
    rw [hm' reg hreg, hval, hlookup]
  · intro before l2 ret after val hcalls hret hval hafter
    rw [hcalls] at hconfig
    obtain ⟨hmem, hlookup⟩ := layer2RxWait_lookup hval
    obtain ⟨val', l, r, hlookup', hedits, hr⟩ := scriptEdits_lookup (layer2Script_nodup l2) hmem
    rw [hm' regRxWait hwait, hconfig.last_set hret hedits hr fun c hc =>
      RdrCall.ne_of_not_mem_footprint (RdrCall.rxWait_footprint (hafter c hc))]
    exact Option.some.inj (hlookup'.symm.trans hlookup)
  · rw [hm' regRxWait hwait]
    exact hconfig.of_forall_ne fun c hc =>
      RdrCall.ne_of_not_mem_footprint (RdrCall.rxWait_footprint (hnone c hc))

end

theorem chip_configRegs : ∀ reg ∈ configRegs, Register chip reg fun c => c.regs reg := by
  have hall : configRegs.all (· ∉ activeRegs) := by decide
  exact fun reg hreg => chip_register (of_decide_eq_true (List.all_eq_true.mp hall reg hreg))

def faultyChip (bad : Nat) : Transport (Chip × Nat) where
  writeReg reg val := fun (c, n) =>
    if n = bad then (- eIO, (c, n + 1))
    else ((chip.writeReg reg val c).1, ((chip.writeReg reg val c).2, n + 1))
  readReg reg := fun (c, n) => ((chip.readReg reg c).1, ((chip.readReg reg c).2, n))
  writeFifo bytes flags := fun (c, n) =>
    ((chip.writeFifo bytes flags c).1, ((chip.writeFifo bytes flags c).2, n))
  readFifo len := fun (c, n) => ((chip.readFifo len c).1, ((chip.readFifo len c).2, n))

theorem faultyChip_register (bad : Nat) {reg : UInt8} {get : Chip → UInt8}
    (h : Register chip reg get) : Register (faultyChip bad) reg fun s => get s.1 where
  others v regs hreg :=
    { regWrite := fun r hr val => by
        rintro ⟨c, n⟩ hc
        change get (if n = bad then _ else _ : Int × (Chip × Nat)).2.1 = v
        split_ifs
        · exact hc
        · exact (h.others v regs hreg).regWrite r hr val c hc
      regRead := fun r s hs => (h.others v regs hreg).regRead r s.1 hs
      fifoWrite := fun bytes flags s hs => (h.others v regs hreg).fifoWrite bytes flags s.1 hs
      fifoRead := fun len s hs => (h.others v regs hreg).fifoRead len s.1 hs }
  write val := by
    rintro ⟨c, n⟩
    change get (if n = bad then _ else _ : Int × (Chip × Nat)).2.1 = val ∨
      get (if n = bad then _ else _ : Int × (Chip × Nat)).2.1 = get c ∧
        (if n = bad then _ else _ : Int × (Chip × Nat)).1 < 0
    split_ifs
    · exact .inr ⟨rfl, show - eIO < 0 by decide⟩
    · exact h.write val c
  read s := h.read s.1

theorem runRdrCalls_refines_faulty :
    let calls := [.open, .init .iso14443a, .setopt rfidOptRdrRfKill (some 1) 4, .init .iso15693]
    ∃ s m, runRdrCalls (faultyChip 10) ⟨0, 0, ⟨0, 0, 0, 0⟩, ⟨0, 0⟩⟩ calls (chipAhead [], 0) =
        (.ok [0, - eIO, 0, 0], s) ∧
      ConfigRun (calls.zip [0, - eIO, 0, 0]) (chipAhead []).regs m ∧
      ∀ k ∈ configRegs, s.1.regs k = m k := by
  intro calls
  obtain ⟨s, hrun⟩ : ∃ s, runRdrCalls (faultyChip 10) ⟨0, 0, ⟨0, 0, 0, 0⟩, ⟨0, 0⟩⟩ calls
      (chipAhead [], 0) = (.ok [0, - eIO, 0, 0], s) := ⟨_, Prod.ext (by decide) rfl⟩
  obtain ⟨m, hconfig, hm⟩ := runRdrCalls_refines
    (fun reg hreg => faultyChip_register 10 (chip_configRegs reg hreg)) hrun
  exact ⟨s, m, hrun, hconfig, hm⟩

theorem layer2_configuration_b_15693 :
    ∃ c, runRdrCalls chip ⟨0, 0, ⟨0, 0, 0, 0⟩, ⟨0, 0⟩⟩ [.init .iso14443b, .init .iso15693] (chipAhead []) =
        (.ok [0, 0], c) ∧ c.regs regRxWait = 0x03 ∧
      (layer2Script .iso15693).lookup regRxThreshold = some (c.regs regRxThreshold) := by
  obtain ⟨c, hrun⟩ : ∃ c, runRdrCalls chip ⟨0, 0, ⟨0, 0, 0, 0⟩, ⟨0, 0⟩⟩ [.init .iso14443b, .init .iso15693]
      (chipAhead []) = (.ok [0, 0], c) := ⟨_, Prod.ext (by decide) rfl⟩
  obtain ⟨hconfig, hwait, -⟩ := layer2_configuration chip_configRegs hrun
  refine ⟨c, hrun, ?_, ?_⟩
  · exact hwait [] .iso14443b 0 [(.init .iso15693, 0)] 0x03 rfl (Int.le_refl 0) rfl
      (by simp [RdrCall.rxWait, layer2RxWait])
  · exact hconfig [(.init .iso14443b, 0)] .iso15693 0 [] rfl (Int.le_refl 0) nofun nofun _ (by decide)
      (by decide) (by decide) (by decide)

section Field

def fieldOf (v : UInt8) : Option Bool :=
  if v &&& rfBits = rfBits then some true else if v &&& rfBits = 0 then some false else none

def RdrCall.field : RdrCall → Option Bool
  | .open => some true
  | .close => some false
  | .setopt optname optval optlen =>
    optval.bind fun val =>
      if 4 ≤ optlen ∧ optname = rfidOptRdrRfKill then some (val = 0) else none
  | .init l2 => if l2 = .none then none else some true
  | _ => none

/-- A call that fails may or may not have got to the field; opening the reader switches it twice. -/
def fieldStep (field : Option Bool) : RdrCall × Int → Option Bool
  | (.open, ret) => if 0 ≤ ret then some true else none
  | (c, ret) =>
    match c.field with
    | none => field
    | some on => if 0 ≤ ret then some on else if field = some on then field else none

theorem fieldOf_or (v : UInt8) : fieldOf (v ||| rfBits) = some true := by
  have hbits : (v ||| rfBits) &&& rfBits = rfBits := by
    refine Bits.ext fun i _ => ?_
    rw [Bits.bit_and, Bits.bit_or]
    cases Bits.bit v i <;> cases Bits.bit rfBits i <;> rfl
  rw [fieldOf, if_pos hbits]

theorem fieldOf_and_not (v : UInt8) : fieldOf (v &&& ~~~rfBits) = some false := by
  have hbits : (v &&& ~~~rfBits) &&& rfBits = 0 := by
    refine Bits.ext fun i hi => ?_
    rw [Bits.bit_and, Bits.bit_and, Bits.bit_not _ hi, Bits.bit_zero]
    cases Bits.bit v i <;> cases Bits.bit rfBits i <;> rfl
  rw [fieldOf, hbits]
  rfl

theorem fieldOf_rfPowerEdit (on : Bool) (v : UInt8) : fieldOf ((rfPowerEdit on).act v) = some on := by
  cases on with
  | false => exact fieldOf_and_not v
  | true => exact fieldOf_or v

theorem RdrCall.field_edits {c : RdrCall} {on : Bool} (h : c.field = some on) (hopen : c ≠ .open) :
    (∃ e ∈ c.edits, e.key = regTxControl) ∧
      ∀ e ∈ c.edits, e.key = regTxControl → ∀ v, fieldOf (e.act v) = some on := by
  cases c with
  | «open» => exact absurd rfl hopen
  | close =>
    cases h
    simp only [edits, List.mem_singleton, exists_eq_left, forall_eq]
    exact ⟨rfl, fun _ => fieldOf_rfPowerEdit false⟩
  | setopt optname optval optlen =>
    cases optval with
    | none => cases h
    | some val =>
      simp only [field, Option.bind_some] at h
      split_ifs at h with hkill
      cases h
      simp only [edits, Option.elim_some, if_pos hkill, List.mem_singleton, exists_eq_left, forall_eq]
      exact ⟨rfl, fun _ => fieldOf_rfPowerEdit _⟩
  | init l2 =>
    simp only [field] at h
    split_ifs at h with hnone
    cases h
    have hon : (layer2Script l2).all fun f => f.1 = regTxControl → fieldOf f.2 = some true := by
      cases l2 <;> decide
    obtain ⟨f, hf, hkey⟩ := List.mem_map.mp
      (layer2Script_complete hnone regTxControl (by decide) (by decide) (by decide))
    refine ⟨⟨.set f.1 f.2, List.mem_map.mpr ⟨f, hf, rfl⟩, hkey⟩, ?_⟩
    simp only [edits, scriptEdits, List.mem_map]
    rintro _ ⟨g, hg, rfl⟩ hgkey v
    exact of_decide_eq_true (List.all_eq_true.mp hon g hg) hgkey
  | _ => cases h

theorem RdrCall.field_footprint {c : RdrCall} (h : c.field = none) :
    ∀ e ∈ c.edits, e.key ≠ regTxControl := by
  cases c with
  | «open» | close => cases h
  | setopt optname optval optlen =>
    cases optval with
    | none => exact fun _ he => absurd he List.not_mem_nil
    | some val =>
      simp only [field, Option.bind_some] at h
      split_ifs at h with hkill
      simp only [edits, Option.elim_some, if_neg hkill]
      exact fun _ he => absurd he List.not_mem_nil
  | init l2 =>
    simp only [field] at h
    split_ifs at h with hnone
    subst hnone
    exact fun _ he => absurd he List.not_mem_nil
  | setSpeed tx =>
    exact ne_of_not_mem_footprint ((by decide : ∀ tx, regTxControl ∉ speedRegs tx) tx)
  | _ =>
    exact ne_of_not_mem_footprint
      (by decide : regTxControl ∉ [regBitFraming, regChannelRedundancy])

theorem fieldStep_sound {c : RdrCall} {ret : Int} {n : Nat} (hn : 0 ≤ ret → c.edits.length ≤ n)
    {field : Option Bool} {m : UInt8 → UInt8} (hm : ∀ on, field = some on → fieldOf (m regTxControl) = some on)
    {on : Bool} (hstep : fieldStep field (c, ret) = some on) :
    fieldOf (Edit.applyAll (c.edits.take n) m regTxControl) = some on := by
  by_cases hopen : c = .open
  · subst hopen
    simp only [fieldStep] at hstep
    split_ifs at hstep with hret
    cases hstep
    rw [List.take_of_length_le (hn hret)]
    exact (congrArg fieldOf (Edit.apply_self (rfPowerEdit true) _)).trans (fieldOf_rfPowerEdit true _)
  · have hplain : fieldStep field (c, ret) = match c.field with
        | none => field
        | some on => if 0 ≤ ret then some on else if field = some on then field else none := by
      cases c <;> first | rfl | exact absurd rfl hopen
    rw [hplain] at hstep
    cases hc : c.field with
    | none =>
      rw [hc] at hstep
      rw [Edit.applyAll_of_forall_ne fun e he => RdrCall.field_footprint hc e (List.mem_of_mem_take he)]
      exact hm on hstep
    | some on' =>
      rw [hc] at hstep
      obtain ⟨hex, hedits⟩ := RdrCall.field_edits hc hopen
      simp only at hstep
      split_ifs at hstep with hret hfield
      · cases hstep
        rw [List.take_of_length_le (hn hret)]
        exact Edit.applyAll_of_mem (p := fun v => fieldOf v = some on) hex hedits m
      · obtain rfl : on' = on := Option.some.inj (hfield.symm.trans hstep)
        exact Edit.applyAll_keeps (p := fun v => fieldOf v = some on')
          (fun e he hk v _ => hedits e (List.mem_of_mem_take he) hk v) (hm on' hstep)

theorem ConfigRun.field {calls : List (RdrCall × Int)} {m m' : UInt8 → UInt8}
    (h : ConfigRun calls m m') {field : Option Bool}
    (hm : ∀ on, field = some on → fieldOf (m regTxControl) = some on) {on : Bool}
    (hfold : calls.foldl fieldStep field = some on) : fieldOf (m' regTxControl) = some on := by
  induction h generalizing field with
  | nil => exact hm on hfold
  | cons n hn _ ih => exact ih (fun _ => fieldStep_sound hn hm) hfold

/-- The carrier is on after opening the reader, an initialisation or an `RF_KILL` of 0, off after
closing it or any other `RF_KILL`, and nothing else switches it. -/
theorem runRdrCalls_field {σ : Type} {t : Transport σ} {regs : σ → UInt8 → UInt8}
    (h : ∀ reg ∈ configRegs, Register t reg fun s => regs s reg) {e : Ambient} {calls : List RdrCall}
    {rets : List Int} {s s' : σ}
    (hrun : runRdrCalls t e calls s = (.ok rets, s')) (on : Bool) :
    (calls.zip rets).foldl fieldStep (fieldOf (regs s regTxControl)) = some on →
      fieldOf (regs s' regTxControl) = some on := by
  intro hfold
  obtain ⟨m', hconfig, hm'⟩ := runRdrCalls_refines h hrun
  rw [hm' regTxControl (by decide)]
  exact hconfig.field (fun _ => id) hfold

theorem runRdrCalls_field_killed :
    (∃ c, runRdrCalls chip ⟨0, 0, ⟨0, 0, 0, 0⟩, ⟨0, 0⟩⟩ [.open, .setopt rfidOptRdrRfKill (some 1) 4]
        (chipAhead []) = (.ok [0, 0], c) ∧ fieldOf (c.regs regTxControl) = some false) ∧
      ∃ c, runRdrCalls chip ⟨0, 0, ⟨0, 0, 0, 0⟩, ⟨0, 0⟩⟩
        [.open, .setopt rfidOptRdrRfKill (some 1) 4, .init .iso14443b] (chipAhead []) =
          (.ok [0, 0, 0], c) ∧ fieldOf (c.regs regTxControl) = some true := by
  constructor
  · obtain ⟨c, hrun⟩ : ∃ c, runRdrCalls chip ⟨0, 0, ⟨0, 0, 0, 0⟩, ⟨0, 0⟩⟩
        [.open, .setopt rfidOptRdrRfKill (some 1) 4] (chipAhead []) = (.ok [0, 0], c) :=
      ⟨_, Prod.ext (by decide) rfl⟩
    exact ⟨c, hrun, runRdrCalls_field chip_configRegs hrun false (by decide)⟩
  · obtain ⟨c, hrun⟩ : ∃ c, runRdrCalls chip ⟨0, 0, ⟨0, 0, 0, 0⟩, ⟨0, 0⟩⟩
        [.open, .setopt rfidOptRdrRfKill (some 1) 4, .init .iso14443b] (chipAhead []) =
          (.ok [0, 0, 0], c) := ⟨_, Prod.ext (by decide) rfl⟩
    exact ⟨c, hrun, runRdrCalls_field chip_configRegs hrun true (by decide)⟩

end Field

end Librfid.Rc632
