import Librfid.Layer2.Heard
import Librfid.Layer2.Iso14443b

namespace Librfid.Layer2

open Rc632 Exec

def opt14443aSpeedRx : Int := 0x00010001
def opt14443aSpeedTx : Int := 0x00010002
def opt14443aAtqa : Int := 0x00010003
def opt14443aWupa : Int := 0x00010004
def opt14443aSak : Int := 0x00010005

namespace Opt

section

variable {σ ρ : Type} (r : Reader σ) (hasSetSpeed : Bool)

def setSpeed (tx : Bool) (optval : Option UInt32) : Iso14443aM σ ρ Int :=
  if ¬ hasSetSpeed then pure (-eNotSup)
  else
    match optval with
    | none => fail sigSegv
    | some speed => do
      match ← lift (attempt (r.setSpeed tx speed.toNat)) with
      | .error ret => pure ret
      | .ok () => pure 0

/-- `optval` is a pointer to an `unsigned int`, or null. -/
def iso14443aSetopt (optname : Int) (optval : Option UInt32) : Iso14443aM σ ρ Int :=
  if optname = opt14443aSpeedRx then setSpeed r hasSetSpeed false optval
  else if optname = opt14443aSpeedTx then setSpeed r hasSetSpeed true optval
  else if optname = opt14443aWupa then do
    -- the pointer is tested, not what it points to
    setHandle fun h => { h with
      flags := if optval.isSome then h.flags ||| optLayer2Wup else h.flags &&& ~~~optLayer2Wup }
    pure 0
  else pure (-eInval)

end

def iso14443aGetopt (h : Handle) (optname : Int) : Int × Option (List UInt8) :=
  if optname = opt14443aSak then (-eInval, some [h.sak])
  else if optname = opt14443aAtqa then (0, some (h.atqa.load 0 2))
  else if optname = opt14443aWupa then
    (0, some [if h.flags &&& optLayer2Wup ≠ 0 then 1 else 0, 0, 0, 0])
  else (-eInval, none)

end Opt

inductive OptCall
  | setopt (optname : Int) (optval : UInt32)
  | open

def OptCall.wupa : OptCall → Option UInt32
  | setopt optname optval => if optname = opt14443aWupa then some optval else none
  | .open => none

def lastWupa (calls : List OptCall) : Option UInt32 := (calls.filterMap OptCall.wupa).getLast?

structure OptEvent where
  before : List OptCall
  call : OptCall
  requests : List UInt8

def OptEvent.Good (e : OptEvent) : Prop :=
  e.call = .open →
    e.requests = [if (lastWupa e.before).getD 0 ≠ 0 then sfCmdWupa else sfCmdReqa]

section

variable {σ ρ : Type} (r : Reader σ) (randomBit : ρ → Bool × ρ) (hasSetSpeed : Bool) (fuel : Nat)

def OptCall.run : OptCall → Iso14443aM (σ × Heard) ρ Int
  | setopt optname optval => Opt.iso14443aSetopt (hearing r) hasSetSpeed optname (some optval)
  | .open => do
    iso14443aAnticol (hearing r) randomBit fuel
    pure 0

def optTrace : List OptCall → List OptCall → σ → Vars ρ → List OptEvent
  | _, [], _, _ => []
  | done, c :: calls, s, v =>
    let x := c.run r randomBit hasSetSpeed fuel ((s, .empty), v)
    ⟨done, c, x.2.1.2.requests⟩ ::
      match x.1 with
      | .hang => []
      | _ => optTrace (done ++ [c]) calls x.2.1.1 x.2.2

variable {r} {hasSetSpeed}

theorem keeps_setHandle_flags {f : Handle → Handle} {flags : UInt32}
    (h : ∀ h : Handle, (f h).flags = h.flags) :
    Keeps (fun s : σ × Vars ρ => s.2.handle.flags = flags) (setHandle f) :=
  fun s hs => (h s.2.handle).trans hs

theorem iso14443aCollisions_flags (flags : UInt32) (acf : Mem UInt8) (bitOfCol : Nat) :
    Keeps (fun s : σ × Vars ρ => s.2.handle.flags = flags)
      (iso14443aCollisions r randomBit fuel acf bitOfCol) := by
  induction fuel generalizing acf bitOfCol with
  | zero => exact .hang
  | succ fuel ih =>
    refine .ite (fun _ => .pure _) fun _ => ?_
    have htoggle : Keeps (fun s : σ × Vars ρ => s.2.handle.flags = flags)
        (rndToggleBitInField randomBit (codeNvb acf bitOfCol) acfUidBits 5 bitOfCol) := by
      rintro ⟨s, v⟩ hs
      obtain ⟨_, v', hrun, hv⟩ := rndToggleBitInField_run randomBit (codeNvb acf bitOfCol) acfUidBits
        5 bitOfCol s v
      rw [hrun]
      exact (congrArg Handle.flags hv).trans hs
    exact .bind htoggle fun acf => .bind (keeps_lift_snd (J := fun v : Vars ρ => v.handle.flags = flags))
      fun x => .bind (.check _) fun _ => ih _ _

theorem iso14443aCascade_flags (flags : UInt32) (acf sak : Mem UInt8) :
    Keeps (fun s : σ × Vars ρ => s.2.handle.flags = flags)
      (iso14443aCascade r randomBit fuel acf sak) := by
  induction fuel generalizing acf sak with
  | zero => exact .hang
  | succ fuel ih =>
    have hlift : ∀ {α : Type} {x : Exec σ α},
        Keeps (fun s : σ × Vars ρ => s.2.handle.flags = flags) (lift x) :=
      keeps_lift_snd (J := fun v : Vars ρ => v.handle.flags = flags)
    refine .bind hlift fun x => .bind (.check _) fun _ =>
      .bind (iso14443aCollisions_flags randomBit fuel flags _ _) fun acf =>
      .bind hlift fun y => .bind (.check _) fun _ => ?_
    refine .ite (fun _ => .ite (fun _ => .ite (fun _ => .fail _) fun _ => ?_) fun _ =>
      .ite (fun _ => ?_) fun _ => ?_) fun _ => ?_
    · exact .bind (keeps_setHandle_flags fun _ => rfl) fun _ => ih _ _
    · exact .bind (keeps_setHandle_flags fun _ => rfl) fun _ => ih _ _
    · exact .bind (keeps_setHandle_flags fun _ => rfl) fun _ => .fail _
    · refine .bind (keeps_setHandle_flags fun h => ?_) fun _ => .pure _
      split_ifs <;> rfl

theorem hearing_cascade (requests : List UInt8) (flags : UInt32) (acf sak : Mem UInt8) :
    Keeps (fun s : (σ × Heard) × Vars ρ => s.1.2.requests = requests ∧ s.2.handle.flags = flags)
      (iso14443aCascade (hearing r) randomBit fuel acf sak) :=
  Triple.and (iso14443aCascade_keeps randomBit (hearing_rounds r (· = requests)) fuel acf sak)
    (iso14443aCascade_flags randomBit fuel flags acf sak)

theorem iso14443aAnticol_requests (requests : List UInt8) (flags : UInt32) :
    Triple (fun s : (σ × Heard) × Vars ρ => s.1.2.requests = requests ∧ s.2.handle.flags = flags)
      (iso14443aAnticol (hearing r) randomBit fuel)
      fun _ s => s.1.2.requests =
          requests ++ [if flags &&& optLayer2Wup ≠ 0 then sfCmdWupa else sfCmdReqa] ∧
        s.2.handle.flags = flags := by
  have hset : ∀ {requests : List UInt8} {f : Handle → Handle}, (∀ h : Handle, (f h).flags = h.flags) →
      Keeps (fun s : (σ × Heard) × Vars ρ => s.1.2.requests = requests ∧ s.2.handle.flags = flags)
        (setHandle f) := fun hf => Triple.and (fun _ => id) (keeps_setHandle_flags hf)
  have hleave : ∀ {requests : List UInt8} {f : Handle → Handle} (c : Prop) [Decidable c] (ret : Int),
      (∀ h : Handle, (f h).flags = h.flags) →
      Keeps (fun s : (σ × Heard) × Vars ρ => s.1.2.requests = requests ∧ s.2.handle.flags = flags)
        (when c do
          setHandle f
          fail ret) := fun _ _ _ hf => .when fun _ => .bind (hset hf) fun _ => .fail _
  -- the request, and everything behind it
  have hsf : ∀ cmd atqa,
      Triple (fun s : (σ × Heard) × Vars ρ => s.1.2.requests = requests ∧ s.2.handle.flags = flags)
        (lift ((hearing r).transceiveSf cmd atqa))
        fun _ s => s.1.2.requests = requests ++ [cmd] ∧ s.2.handle.flags = flags :=
    fun cmd atqa s hs => ⟨congrArg (· ++ [cmd]) hs.1, hs.2⟩
  rintro ⟨s, v⟩ ⟨hrequests, rfl⟩
  refine Triple.bind (R := fun _ (s : (σ × Heard) × Vars ρ) => s.1.2.requests = requests ++ [_] ∧
    s.2.handle.flags = v.handle.flags) (hsf _ _) (fun x => ?_) (fun _ _ => id) (fun _ => id) (s, _)
    ⟨hrequests, rfl⟩
  refine Keeps.bind (hset fun _ => rfl) fun _ => .bind (hleave _ _ fun _ => rfl) fun _ =>
    .bind (hset fun _ => rfl) fun _ => .bind (hleave _ _ fun _ => rfl) fun _ =>
    .bind (hset fun _ => rfl) fun _ => .bind (hearing_cascade randomBit fuel _ _ _ _) fun sak => ?_
  refine hset fun h => ?_
  unfold iso14443aSelected
  split_ifs <;> rfl

def WupaKnown (done : List OptCall) (v : Vars ρ) : Prop :=
  v.handle.flags = if (lastWupa done).isSome then optLayer2Wup else 0

theorem lastWupa_snoc (done : List OptCall) (c : OptCall) :
    lastWupa (done ++ [c]) = c.wupa.or (lastWupa done) := by
  rw [lastWupa, List.filterMap_append, List.getLast?_append]
  cases h : c.wupa <;> simp [h, lastWupa]

theorem setSpeed_vars (tx : Bool) (optval : Option UInt32) (s : σ) (v : Vars ρ) :
    (Opt.setSpeed r hasSetSpeed tx optval (s, v)).2.2 = v := by
  have hkeeps : Keeps (fun s : σ × Vars ρ => s.2 = v) (Opt.setSpeed r hasSetSpeed tx optval) := by
    refine .ite (fun _ => .pure _) fun _ => ?_
    cases optval with
    | none => exact .fail _
    | some speed =>
      refine .bind (keeps_lift_snd (J := (· = v))) fun x => ?_
      cases x with
      | error ret => exact .pure _
      | ok u => exact .pure _
  exact hkeeps (s, v) rfl

theorem iso14443aSetopt_vars {optname : Int} (h : optname ≠ opt14443aWupa) (optval : Option UInt32)
    (s : σ) (v : Vars ρ) : (Opt.iso14443aSetopt r hasSetSpeed optname optval (s, v)).2.2 = v := by
  rw [Opt.iso14443aSetopt, if_neg h]
  split_ifs
  · exact setSpeed_vars false optval s v
  · exact setSpeed_vars true optval s v
  · rfl

theorem iso14443aSetopt_unhandled {optname : Int} (hrx : optname ≠ opt14443aSpeedRx)
    (htx : optname ≠ opt14443aSpeedTx) (hwupa : optname ≠ opt14443aWupa) (optval : Option UInt32)
    (s : σ × Vars ρ) :
    Opt.iso14443aSetopt r hasSetSpeed optname optval s = (.ok (-eInval), s) := by
  rw [Opt.iso14443aSetopt, if_neg hrx, if_neg htx, if_neg hwupa]
  rfl

theorem OptCall.open_state (s : (σ × Heard) × Vars ρ) :
    (OptCall.open.run r randomBit hasSetSpeed fuel s).2 =
      (iso14443aAnticol (hearing r) randomBit fuel s).2 := by
  rw [OptCall.run, bind_run]
  split <;> simp_all

theorem OptCall.run_flags {done : List OptCall} {v : Vars ρ} (h : WupaKnown done v) (c : OptCall)
    (s : σ × Heard) :
    WupaKnown (done ++ [c]) (c.run r randomBit hasSetSpeed fuel (s, v)).2.2 := by
  rw [WupaKnown, lastWupa_snoc]
  cases c with
  | setopt optname optval =>
    by_cases hwupa : optname = opt14443aWupa
    · subst hwupa
      have hflags : v.handle.flags ||| optLayer2Wup = optLayer2Wup := by
        rw [h]
        split_ifs <;> rfl
      exact hflags
    · rw [OptCall.run, iso14443aSetopt_vars hwupa, OptCall.wupa, if_neg hwupa, Option.none_or]
      exact h
  | «open» =>
    rw [OptCall.open_state]
    exact ((iso14443aAnticol_requests randomBit fuel s.2.requests v.handle.flags) (s, v)
      ⟨rfl, rfl⟩).2.trans h

theorem OptCall.open_requests {done : List OptCall} {v : Vars ρ} (h : WupaKnown done v) (s : σ) :
    (OptCall.open.run r randomBit hasSetSpeed fuel ((s, .empty), v)).2.1.2.requests =
      [if (lastWupa done).isSome then sfCmdWupa else sfCmdReqa] := by
  rw [OptCall.open_state, ((iso14443aAnticol_requests randomBit fuel [] v.handle.flags)
    ((s, .empty), v) ⟨rfl, rfl⟩).1, h]
  cases (lastWupa done).isSome <;> rfl

theorem OptEvent.good_iff {done : List OptCall} {v : Vars ρ} (h : WupaKnown done v) (c : OptCall)
    (s : σ) :
    (⟨done, c, (c.run r randomBit hasSetSpeed fuel ((s, .empty), v)).2.1.2.requests⟩ :
        OptEvent).Good ↔ (c = .open → lastWupa done ≠ some 0) := by
  unfold OptEvent.Good
  refine forall_congr' fun hopen => ?_
  simp only at hopen
  subst hopen
  rw [OptCall.open_requests randomBit fuel h s]
  rcases lastWupa done with _ | value
  · simp
  · by_cases hvalue : value = 0
    · subst hvalue
      simp [sfCmdWupa, sfCmdReqa]
    · simp [hvalue]

theorem optTrace_good {calls done : List OptCall} {s : σ} {v : Vars ρ} (h : WupaKnown done v) :
    ∀ e ∈ optTrace r randomBit hasSetSpeed fuel done calls s v,
      (e.Good ↔ (e.call = .open → lastWupa e.before ≠ some 0)) := by
  induction calls generalizing done s v with
  | nil =>
    intro e he
    cases he
  | cons c calls ih =>
    intro e he
    rw [optTrace] at he
    rcases List.mem_cons.mp he with rfl | he
    · exact OptEvent.good_iff randomBit fuel h c s
    · have hnext : WupaKnown (done ++ [c])
          (c.run r randomBit hasSetSpeed fuel ((s, .empty), v)).2.2 :=
        OptCall.run_flags randomBit fuel h c (s, .empty)
      split at he
      · cases he
      · exact ih hnext e he

theorem iso14443aGetopt_ok_iff (h : Handle) (optname : Int) :
    ((Opt.iso14443aGetopt h optname).2.isSome → (Opt.iso14443aGetopt h optname).1 = 0) ↔
      optname ≠ opt14443aSak := by
  unfold Opt.iso14443aGetopt
  have hinval : -eInval ≠ 0 := by decide
  split_ifs with hsak hatqa hwupa
  · exact iff_of_false (fun h => hinval (h rfl)) (not_not.mpr hsak)
  · exact iff_of_true (fun _ => rfl) hsak
  · exact iff_of_true (fun _ => rfl) hsak
  · exact iff_of_true (fun _ => rfl) hsak
  · exact iff_of_true (fun h => absurd h Bool.false_ne_true) hsak

/-- Clearing WUPA sets it.  So an open sends the right request exactly when the last value set is
not 0; the SAK is the one option read with an error, and Type B accepts every option. -/
theorem options_effect_iff (r : Reader σ) (randomBit : ρ → Bool × ρ) (hasSetSpeed : Bool)
    (fuel : Nat) (calls : List OptCall) (s : σ) (v : Vars ρ) :
    (∀ e ∈ optTrace r randomBit hasSetSpeed fuel [] calls s
        { v with handle := { v.handle with flags := 0 } },
      (e.Good ↔ (e.call = .open → lastWupa e.before ≠ some 0))) ∧
      (∀ (h : Handle) (optname : Int),
        ((Opt.iso14443aGetopt h optname).2.isSome → (Opt.iso14443aGetopt h optname).1 = 0) ↔
          optname ≠ opt14443aSak) ∧
      (∀ (optname : Int), optname ≠ opt14443aSpeedRx → optname ≠ opt14443aSpeedTx →
        optname ≠ opt14443aWupa → ∀ (optval : Option UInt32) (s : σ × Vars ρ),
          Opt.iso14443aSetopt r hasSetSpeed optname optval s = (.ok (-eInval), s)) ∧
      ∀ (h : Iso14443bHandle) (optname : Int) (optval : Nat), optname ≠ opt14443bCid →
        ¬ ((iso14443bSetopt h optname optval).1 < 0 ∧ (iso14443bSetopt h optname optval).2 = h) := by
  refine ⟨optTrace_good randomBit fuel rfl, iso14443aGetopt_ok_iff,
    fun optname hrx htx hwupa => iso14443aSetopt_unhandled hrx htx hwupa, ?_⟩
  rintro h optname optval hcid ⟨hneg, -⟩
  rw [iso14443bSetopt, if_neg hcid] at hneg
  exact absurd hneg (Int.lt_irrefl 0)

end

def emptyField : Reader Unit where
  transceive _ _ _ rx rxLen _ := pure ⟨-eTimedOut, rxLen, rx⟩
  init := pure ()
  transceiveSf _ atqa := pure ⟨-eTimedOut, atqa⟩
  transceiveAcf acf := pure ⟨-eTimedOut, acf, iso14443aBitOfColNone⟩
  speed := rfid14443aSpeed106k
  setSpeed _ _ := pure ()

/-- WUPA is set, cleared, and sent. -/
theorem options_effect_cleared :
    let calls : List OptCall := [.setopt opt14443aWupa 1, .setopt opt14443aWupa 0, .open]
    let v : Vars Unit := ⟨⟨fun _ => 0, 0, 0, 0, .none, .none, 0, fun _ => 0, 0⟩, ()⟩
    ∃ e ∈ optTrace emptyField (fun u => (false, u)) true 1 [] calls () v,
      e.call = .open ∧ e.requests = [sfCmdWupa] ∧ lastWupa e.before = some 0 ∧ ¬ e.Good := by
  refine ⟨_, .tail _ (.tail _ (.head _)), rfl, rfl, rfl, fun h => ?_⟩
  exact absurd (h rfl) (by decide)

end Librfid.Layer2
