import Librfid.Layer2.Acf
import Librfid.Layer2.Iso15693

namespace Librfid.Layer2

open Rc632 Exec

structure AcfAnswer where
  ret : Int
  xfer : Xfer
  bitOfCol : Nat

def AcfAnswer.result (x : AcfAnswer) (acf : Mem UInt8) : AcfResult :=
  ⟨x.ret, if x.ret < 0 then acf else acfMerge acf x.xfer, x.bitOfCol⟩

structure Answer where
  sf : SfResult
  acf : AcfAnswer
  ab : AbResult
  ac : AcResult

structure Tally where
  frames : Nat
  collisions : Nat

def answered {α : Type} (stream : Nat → Answer) (f : Answer → α) (collided : α → Bool) :
    Exec Tally α :=
  step fun s =>
    let x := f (stream s.frames)
    (x, ⟨s.frames + 1, s.collisions + (collided x).toNat⟩)

def streamReader (stream : Nat → Answer) : Reader Tally where
  transceive _ _ _ _ _ _ := answered stream Answer.ab fun _ => false
  init := pure ()
  transceiveSf _ _ := answered stream Answer.sf fun _ => false
  transceiveAcf acf := answered stream (fun x => x.acf.result acf) fun x =>
    0 ≤ x.ret ∧ x.bitOfCol ≠ iso14443aBitOfColNone
  speed := rfid14443aSpeed106k
  setSpeed _ _ := pure ()

def streamReader15693 (stream : Nat → Answer) : Iso15693Reader Tally where
  transceive _ _ _ _ _ _ := answered stream Answer.ab fun _ => false
  transceiveAc _ _ _ _ := answered stream Answer.ac fun x => 0 ≤ x.ret ∧ x.bitOfCol ≠ 0

structure Spent (c e : Nat) (s : Tally) : Prop where
  frames : s.frames ≤ s.collisions + c
  elapsed : e ≤ s.collisions

theorem Spent.mono {c c' e e' : Nat} {s : Tally} (h : Spent c e s) (hc : c ≤ c') (he : e' ≤ e) :
    Spent c' e' s where
  frames := Nat.le_trans h.frames (Nat.add_le_add_left hc _)
  elapsed := Nat.le_trans he h.elapsed

/-- What a loop with the fuel `f` leaves: without an end, all but `w` of the fuel went into
collisions. -/
def Stopped {τ α : Type} (c e f w : Nat) (o : Outcome α) (s : Tally × τ) : Prop :=
  Spent c e s.1 ∧ (o = .hang → e + f ≤ s.1.collisions + w)

section

variable {τ ρ α β : Type} {stream : Nat → Answer} {c e f w : Nat}

variable (stream) in
theorem answered_spent (g : Answer → α) (collided : α → Bool) :
    Total (fun s : Tally × τ => Spent c e s.1) (lift (answered stream g collided))
      fun x s => Spent (c + 1) e s.1 ∧ (collided x = true → Spent c (e + 1) s.1) := by
  rintro ⟨s, v⟩ ⟨hframes, helapsed⟩
  simp only at hframes helapsed
  refine ⟨_, _, rfl, ⟨?_, ?_⟩, fun hcollided => ⟨?_, ?_⟩⟩
  · change s.frames + 1 ≤ s.collisions + _ + (c + 1)
    omega
  · change e ≤ s.collisions + _
    omega
  · change s.frames + 1 ≤ s.collisions + (collided (g (stream s.frames))).toNat + c
    rw [hcollided, Bool.toNat_true]
    omega
  · change e + 1 ≤ s.collisions + (collided (g (stream s.frames))).toNat
    rw [hcollided, Bool.toNat_true]
    omega

theorem setHandle_spent (g : Handle → Handle) :
    Total (fun s : Tally × Vars ρ => Spent c e s.1) (setHandle g) fun _ s => Spent c e s.1 :=
  fun _ hs => ⟨_, _, rfl, hs⟩

end

section Iso14443a

variable {ρ : Type} {stream : Nat → Answer} {randomBit : ρ → Bool × ρ}

theorem bitFrame_spent {c e : Nat} (acf : Mem UInt8) :
    Total (fun s : Tally × Vars ρ => Spent c e s.1) (lift ((streamReader stream).transceiveAcf acf))
      fun x s => (Spent (c + 1) e s.1 ∧
        (0 ≤ x.ret → x.bitOfCol ≠ iso14443aBitOfColNone → Spent c (e + 1) s.1)) ∧
        (x.acf = acf ∨ ∃ y, x.acf = acfMerge acf y) := by
  intro s hs
  obtain ⟨x, s', hx, hspent, hcollided⟩ := answered_spent stream
    (fun x => x.acf.result acf) (fun x => 0 ≤ x.ret ∧ x.bitOfCol ≠ iso14443aBitOfColNone) s hs
  refine ⟨x, s', hx, ⟨hspent, fun hret hne => hcollided (decide_eq_true ⟨hret, hne⟩)⟩, ?_⟩
  cases hx
  simp only [AcfAnswer.result]
  split_ifs
  · exact .inl rfl
  · exact .inr ⟨_, rfl⟩

theorem iso14443aCollisions_stopped {c e : Nat} {sel : UInt8} (fuel : Nat) {acf : Mem UInt8}
    (h : AtLevel sel acf) (bitOfCol : Nat) :
    Triple (fun s => Spent (c + 1) e s.1 ∧
        (bitOfCol ≠ iso14443aBitOfColNone → Spent c (e + 1) s.1))
      (iso14443aCollisions (streamReader stream) randomBit fuel acf bitOfCol)
      fun o s => Stopped (c + 1) e fuel 0 o s ∧ ∀ acf, o = .ok acf → AtLevel sel acf := by
  induction fuel generalizing acf bitOfCol e with
  | zero => exact fun s hs => ⟨⟨hs.1, fun _ => hs.1.elapsed⟩, fun _ ho => by cases ho⟩
  | succ fuel ih =>
    refine .ite (fun _ => ?_) fun hboc => ?_
    · refine fun s hs => ⟨⟨hs.1, fun ho => by cases ho⟩, ?_⟩
      rintro _ ⟨⟩
      exact h
    have htoggle : Total (fun s : Tally × Vars ρ => Spent c (e + 1) s.1)
        (rndToggleBitInField randomBit (codeNvb acf bitOfCol) acfUidBits 5 bitOfCol)
        fun acf s => Spent c (e + 1) s.1 ∧ AtLevel sel acf := by
      rintro ⟨s, v⟩ hs
      obtain ⟨_, v', hrun, -⟩ := rndToggleBitInField_run randomBit (codeNvb acf bitOfCol) acfUidBits 5
        bitOfCol s v
      refine ⟨_, _, hrun, hs, ?_⟩
      split_ifs
      · exact (h.codeNvb bitOfCol).set (by rw [acfUidBits]; omega) _
      · exact h.codeNvb bitOfCol
    refine (htoggle.pre fun _ hs => hs.2 hboc).bind_triple fun acf => .assume fun hacf => ?_
    refine (bitFrame_spent acf).bind_triple fun x => .assume fun hx => .check_bind ?_ fun hret => ?_
    · exact fun _ s hs => ⟨⟨hs.1.mono (Nat.le_refl _) (Nat.le_succ e), fun ho => by cases ho⟩,
        fun _ ho => by cases ho⟩
    · have hlevel : AtLevel sel x.acf := by
        rcases hx with hx | ⟨y, hx⟩
        · exact hx ▸ hacf
        · exact hx ▸ hacf.merge y
      refine ((ih hlevel x.bitOfCol).pre fun s hs => ⟨hs.1, hs.2 hret⟩).post fun o s hs => ?_
      refine ⟨⟨hs.1.1.mono (Nat.le_refl _) (Nat.le_succ e), fun ho => ?_⟩, hs.2⟩
      have hfuel := hs.1.2 ho
      omega

def levelsFrom (sel : UInt8) : Nat :=
  if sel = acSelCodeCl1 then 3 else if sel = acSelCodeCl2 then 2 else 1

theorem levelsFrom_pos (sel : UInt8) : 1 ≤ levelsFrom sel := by
  unfold levelsFrom
  split_ifs <;> decide

variable (stream randomBit) in
theorem iso14443aCascade_stopped {c e : Nat} (fuel : Nat) (acf sak : Mem UInt8) :
    Triple (fun s => Spent c e s.1)
      (iso14443aCascade (streamReader stream) randomBit fuel acf sak)
      (Stopped (c + 2 * levelsFrom (acf 0)) e fuel (levelsFrom (acf 0))) := by
  induction fuel generalizing acf sak c with
  | zero =>
    exact fun s hs => ⟨hs.mono (Nat.le_add_right _ _) (Nat.le_refl e),
      fun _ => Nat.le_add_right_of_le hs.elapsed⟩
  | succ fuel ih =>
    have hpos := levelsFrom_pos (acf 0)
    -- what leaves the level early has sent two frames at most
    have hleave : ∀ {s : Tally × Vars ρ} {o : Outcome (Mem UInt8)}, o ≠ .hang →
        Spent (c + 2) e s.1 →
        Stopped (c + 2 * levelsFrom (acf 0)) e (fuel + 1) (levelsFrom (acf 0)) o s :=
      fun ho hs => ⟨hs.mono (by omega) (Nat.le_refl e), fun h => absurd h ho⟩
    have hfirst : AtLevel (acf 0) (codeNvb acf 16) := .first rfl
    refine (bitFrame_spent _).bind_triple fun x => .assume fun hx => .check_bind ?_ fun hret => ?_
    · exact fun _ s hs => hleave (by simp) (hs.1.mono (by omega) (Nat.le_refl e))
    have hlevel : AtLevel (acf 0) x.acf := by
      rcases hx with hx | ⟨y, hx⟩
      · exact hx ▸ hfirst
      · exact hx ▸ hfirst.merge y
    refine .bind ((iso14443aCollisions_stopped fuel hlevel x.bitOfCol).pre fun s hs =>
      ⟨hs.1, hs.2 hret⟩) (fun acf' => ?_) (fun _ s hs => ?_) fun s hs => ?_
    rotate_left
    · exact hleave (by simp) (hs.1.1.mono (by omega) (Nat.le_refl e))
    · refine ⟨hs.1.1.mono (by omega) (Nat.le_refl e), fun _ => ?_⟩
      have hfuel := hs.1.2 rfl
      omega
    have hselect : Total (fun s : Tally × Vars ρ => Spent (c + 1) e s.1)
        (lift ((streamReader stream).transceive .iso14443aFrameRegular (codeNvb acf' (7 * 8)) 7 sak 3
          1236)) fun _ s => Spent (c + 2) e s.1 :=
      (answered_spent stream Answer.ab fun _ => false).post fun _ _ hs => hs.1
    refine Triple.pre (P := fun s => Spent (c + 1) e s.1 ∧ AtLevel (acf 0) acf') ?_ fun s hs =>
      ⟨hs.1.1, hs.2 acf' rfl⟩
    refine .assume fun hacf' => hselect.bind_triple fun y => .check_bind ?_ fun _ => ?_
    · exact fun _ s hs => hleave (by simp) hs
    have hset : ∀ g : Handle → Handle, Total (fun s : Tally × Vars ρ => Spent (c + 2) e s.1)
        (setHandle g) fun _ s => Spent (c + 2) e s.1 := setHandle_spent
    have hnext : ∀ (acf' : Mem UInt8) (sel : UInt8), levelsFrom sel + 1 ≤ levelsFrom (acf 0) →
        Triple (fun s => Spent (c + 2) e s.1)
          (iso14443aCascade (streamReader stream) randomBit fuel (acf'.set 0 sel) y.rx)
          (Stopped (c + 2 * levelsFrom (acf 0)) e (fuel + 1) (levelsFrom (acf 0))) := by
      refine fun acf' sel hsel => (ih (acf'.set 0 sel) y.rx).post fun o s hs => ?_
      rw [Mem.set_self] at hs
      refine ⟨hs.1.mono (by omega) (Nat.le_refl e), fun ho => ?_⟩
      have hfuel := hs.2 ho
      omega
    have hsel : codeNvb acf' (7 * 8) 0 = acf 0 := (codeNvb_zero acf' _).trans hacf'.selCode
    refine .ite (fun _ => .ite (fun hcl1 => .ite (fun _ => ?_) fun _ => ?_) fun hcl1 =>
      .ite (fun hcl2 => ?_) fun _ => ?_) fun _ => ?_
    · exact fun s hs => hleave (by simp) hs
    · refine (hset _).bind_triple fun _ => hnext _ _ ?_
      rw [← hsel, hcl1]
      decide
    · refine (hset _).bind_triple fun _ => hnext _ _ ?_
      rw [← hsel, hcl2]
      decide
    · exact (hset _).bind_triple fun _ s hs => hleave (by simp) hs
    · exact (hset _).bind_triple fun _ s hs => hleave (by simp) hs

variable (stream randomBit) in
theorem iso14443aAnticol_stopped (fuel : Nat) :
    Triple (fun s => s.1 = ⟨0, 0⟩) (iso14443aAnticol (streamReader stream) randomBit fuel)
      (Stopped 7 0 fuel 3) := by
  have hset : ∀ {c : Nat} (g : Handle → Handle), Total (fun s : Tally × Vars ρ => Spent c 0 s.1)
      (setHandle g) fun _ s => Spent c 0 s.1 := setHandle_spent
  have hguard : ∀ (p : Prop) [Decidable p] (g : Handle → Handle) (ret : Int)
      {k : Unit → Iso14443aM Tally ρ Unit},
      Triple (fun s => Spent 1 0 s.1) (k ()) (Stopped 7 0 fuel 3) →
      Triple (fun s => Spent 1 0 s.1) (when p (do
        setHandle g
        fail ret) >>= k) (Stopped 7 0 fuel 3) := by
    intro p _ g ret k hk
    by_cases hp : p
    · rw [when_of hp]
      exact fun s hs => ⟨hs.mono (by decide) (Nat.le_refl 0), fun ho => by cases ho⟩
    · rw [when_of_not hp]
      exact hk
  have hstart : ∀ s : Tally × Vars ρ, s.1 = ⟨0, 0⟩ → Spent 0 0 s.1 := fun s hs => by
    rw [hs]
    exact ⟨Nat.le_refl 0, Nat.le_refl 0⟩
  have hrequest : ∀ cmd atqa, Total (fun s : Tally × Vars ρ => Spent 0 0 s.1)
      (lift ((streamReader stream).transceiveSf cmd atqa)) fun _ s => Spent 1 0 s.1 := fun _ _ =>
    (answered_spent stream Answer.sf fun _ => false).post fun _ _ hs => hs.1
  have hget : Total (fun s : Tally × Vars ρ => Spent 0 0 s.1) get fun _ s => Spent 0 0 s.1 :=
    fun s hs => ⟨s.2, s, rfl, hs⟩
  refine ((hset _).pre hstart).bind_triple fun _ => hget.bind_triple fun v => ?_
  refine (hrequest _ _).bind_triple fun x => (hset _).bind_triple fun _ => hguard _ _ _ ?_
  refine (hset _).bind_triple fun _ => hguard _ _ _ ((hset _).bind_triple fun _ => ?_)
  have hlevels : levelsFrom (Mem.ofList (fun _ => 0) [acSelCodeCl1, 0, 0, 0, 0, 0, 0] 0) = 3 := by
    decide
  have hcascade : Triple (fun s => Spent 1 0 s.1) (iso14443aCascade (streamReader stream) randomBit
      fuel (Mem.ofList (fun _ => 0) [acSelCodeCl1, 0, 0, 0, 0, 0, 0]) fun _ => 0)
      (Stopped 7 0 fuel 3) := by
    have hstopped := iso14443aCascade_stopped stream randomBit (c := 1) (e := 0) fuel
      (Mem.ofList (fun _ => 0) [acSelCodeCl1, 0, 0, 0, 0, 0, 0]) fun _ => 0
    rwa [hlevels] at hstopped
  refine .bind hcascade (fun _ s hs => ?_) (fun _ s hs => ?_) fun _ hs => ⟨hs.1, fun _ => hs.2 rfl⟩
  · exact ⟨hs.1, fun ho => by cases ho⟩
  · exact ⟨hs.1, fun ho => by cases ho⟩

end Iso14443a

section Iso15693

variable {stream : Nat → Answer} {h : Iso15693Handle}

structure Counted (k : Nat) (l : List Slot) (s : Tally) : Prop where
  before : k ≤ s.collisions
  since : firstCollided l ≠ none → k < s.collisions

theorem slotFrame_counted (acf : Mem UInt8) (txLen : Nat) (boc : UInt8) {m k : Nat} (l : List Slot) :
    Total (fun s : Tally × Iso15693Handle => s.1.frames ≤ m ∧ Counted k l s.1)
      (lift ((streamReader15693 stream).transceiveAc acf txLen 10 boc))
      fun x s => s.1.frames ≤ m + 1 ∧ Counted k l s.1 ∧
        (0 ≤ x.ret → x.bitOfCol ≠ 0 → k < s.1.collisions) := by
  rintro ⟨s, v⟩ ⟨hframes, hbefore, hsince⟩
  refine ⟨_, _, rfl, Nat.succ_le_succ hframes, ⟨Nat.le_add_right_of_le hbefore, fun hl =>
    Nat.lt_add_right _ (hsince hl)⟩, fun hret hboc => ?_⟩
  change k < s.collisions + (decide (0 ≤ (stream s.frames).ac.ret ∧
    (stream s.frames).ac.bitOfCol ≠ 0)).toNat
  rw [decide_eq_true ⟨hret, hboc⟩]
  exact Nat.lt_succ_of_le hbefore

def RoundCounted (m k : Nat) (o : Outcome Inventory) (s : Tally × Iso15693Handle) : Prop :=
  (s.1.frames ≤ m ∧ k ≤ s.1.collisions) ∧ o ≠ .hang ∧
    ∀ l uuid boc, o = .ok (.slots l uuid boc) → Counted k l s.1

theorem iso15693Slots_counted (acf : Mem UInt8) (txLen n : Nat) {m k : Nat} (l : List Slot)
    (uuid : Mem UInt8) (boc : UInt8) :
    Triple (fun s => s.1.frames ≤ m ∧ Counted k l s.1)
      (iso15693Slots (streamReader15693 stream) acf txLen n l uuid boc) (RoundCounted (m + n) k) := by
  induction n generalizing l uuid boc m with
  | zero =>
    refine fun s hs => ⟨⟨hs.1, hs.2.before⟩, fun ho => (by cases ho), ?_⟩
    rintro _ _ _ ⟨⟩
    exact hs.2
  | succ n ih =>
    have hadd : m + (n + 1) = m + 1 + n := by omega
    rw [hadd]
    refine (slotFrame_counted acf txLen boc l).bind_triple fun x =>
      .ite (fun hneg => ?_) fun hneg => .ite (fun hboc => ?_) fun _ => ?_
    · refine (ih (l ++ [.none]) _ _).pre ?_
      rintro s ⟨hframes, hcounted, -⟩
      refine ⟨hframes, hcounted.before, fun hl => hcounted.since ?_⟩
      rwa [firstCollided_append, firstCollided, firstCollided, Option.or_none] at hl
    · exact (ih _ _ _).pre fun s hs => ⟨hs.1, hs.2.1.before, fun _ =>
        hs.2.2 (Int.not_lt.mp hneg) hboc⟩
    · exact fun s hs => ⟨⟨Nat.le_add_right_of_le hs.1, hs.2.1.before⟩, fun ho => (by cases ho),
        fun _ _ _ ho => by cases ho⟩

theorem iso15693AcLoop_counted (v : Iso15693Handle) (fuel : Nat) (acf : Mem UInt8) (txLen : Nat)
    (boc : UInt8) (k : Nat) :
    Triple (fun s => s.1.frames ≤ v.slots * k ∧ k ≤ s.1.collisions)
      (iso15693AcLoop (streamReader15693 stream) v fuel acf txLen boc)
      fun o s => s.1.frames ≤ v.slots * (s.1.collisions + 1) ∧
        (o = .hang → fuel + k ≤ s.1.collisions) := by
  induction fuel generalizing acf txLen boc k with
  | zero =>
    refine fun s hs => ⟨?_, fun _ => by rw [Nat.zero_add]; exact hs.2⟩
    exact Nat.le_trans hs.1 (Nat.mul_le_mul_left _ (Nat.le_succ_of_le hs.2))
  | succ fuel ih =>
    have hleave : ∀ {s : Tally × Iso15693Handle} {o : Outcome Int}, o ≠ .hang →
        s.1.frames ≤ v.slots * k + v.slots ∧ k ≤ s.1.collisions →
        s.1.frames ≤ v.slots * (s.1.collisions + 1) ∧
          (o = .hang → fuel + 1 + k ≤ s.1.collisions) := fun ho hs =>
      ⟨Nat.le_trans hs.1 (Nat.mul_le_mul_left _ (Nat.succ_le_succ hs.2)), fun h => absurd h ho⟩
    refine .bind ((iso15693Slots_counted acf txLen (v.slots) [] _ boc).pre fun s hs =>
      ⟨hs.1, hs.2, fun h => absurd rfl h⟩) (fun x => ?_) (fun _ s hs => hleave (by simp) hs.1)
      fun s hs => absurd rfl hs.2.1
    cases x with
    | found => exact fun s hs => hleave (by simp) hs.1
    | slots l uuid boc =>
      cases hl : firstCollided l with
      | none =>
        simp only [hl]
        exact fun s hs => hleave (by simp) hs.1
      | some e =>
        simp only [hl]
        refine .ite (fun _ => ?_) fun _ => ?_
        · refine ((ih _ _ _ (k + 1)).pre fun s hs => ?_).post fun o s hs => ?_
          · have hcol := (hs.2.2 l uuid boc rfl).since (by rw [hl]; simp)
            exact ⟨hs.1.1, hcol⟩
          · refine ⟨hs.1, fun ho => ?_⟩
            have hfuel := hs.2 ho
            omega
        · exact fun s hs => hleave (fun ho => by cases ho) hs.1

variable (stream) in
theorem iso15693Anticol_counted (stack : Mem UInt8) (boc : UInt8) (fuel : Nat) (v : Iso15693Handle) :
    Triple (fun s => s.1 = ⟨0, 0⟩ ∧ s.2 = v)
      (iso15693Anticol (streamReader15693 stream) stack boc fuel)
      fun o s => s.1.frames ≤ v.slots * (s.1.collisions + 1) ∧
        (o = .hang → fuel ≤ s.1.collisions) := by
  rintro ⟨_, _⟩ ⟨rfl, rfl⟩
  exact iso15693AcLoop_counted _ fuel _ _ boc 0 (⟨0, 0⟩, _) ⟨Nat.zero_le _, Nat.le_refl 0⟩

end Iso15693

section

variable {ρ : Type}

/-- The frames an anticollision of Type A sends, and the collisions it is told of. -/
def anticolTally (stream : Nat → Answer) (randomBit : ρ → Bool × ρ) (fuel : Nat) (v : Vars ρ) :
    Outcome Unit × Tally :=
  let run := iso14443aAnticol (streamReader stream) randomBit fuel (⟨0, 0⟩, v)
  (run.1, run.2.1)

def anticolTally15693 (stream : Nat → Answer) (stack : Mem UInt8) (boc : UInt8) (fuel : Nat)
    (v : Iso15693Handle) : Outcome Int × Tally :=
  let run := iso15693Anticol (streamReader15693 stream) stack boc fuel (⟨0, 0⟩, v)
  (run.1, run.2.1)

/-- Whatever is received, each further frame is for a collision: seven frames are sent besides
with Type A, and one round with ISO 15693.  An anticollision that is never told of more than `k`
collisions returns. -/
theorem anticol_frames_le (stream : Nat → Answer) (randomBit : ρ → Bool × ρ) (v : Vars ρ)
    (stack : Mem UInt8) (boc : UInt8) (h : Iso15693Handle) :
    (∀ fuel, (anticolTally stream randomBit fuel v).2.frames ≤
      7 + (anticolTally stream randomBit fuel v).2.collisions) ∧
    (∀ k, (∀ fuel, (anticolTally stream randomBit fuel v).2.collisions ≤ k) →
      ∀ fuel, k + 4 ≤ fuel → (anticolTally stream randomBit fuel v).1 ≠ .hang) ∧
    (∀ fuel, (anticolTally15693 stream stack boc fuel h).2.frames ≤
      h.slots * ((anticolTally15693 stream stack boc fuel h).2.collisions + 1)) ∧
    ∀ k, (∀ fuel, (anticolTally15693 stream stack boc fuel h).2.collisions ≤ k) →
      ∀ fuel, k + 1 ≤ fuel → (anticolTally15693 stream stack boc fuel h).1 ≠ .hang := by
  have htypeA : ∀ fuel, Stopped 7 0 fuel 3 _ _ := fun fuel =>
    iso14443aAnticol_stopped stream randomBit fuel (⟨0, 0⟩, v) rfl
  have hvicinity := fun fuel =>
    iso15693Anticol_counted stream stack boc fuel h (⟨0, 0⟩, h) ⟨rfl, rfl⟩
  refine ⟨fun fuel => ?_, fun k hk fuel hfuel ho => ?_, fun fuel => (hvicinity fuel).1,
    fun k hk fuel hfuel ho => ?_⟩
  · rw [Nat.add_comm]
    exact (htypeA fuel).1.frames
  · have hspent := (htypeA fuel).2 ho
    have hcol := hk fuel
    simp only [anticolTally] at hcol
    omega
  · have hspent := (hvicinity fuel).2 ho
    have hcol := hk fuel
    simp only [anticolTally15693] at hcol
    omega

end

def collidingStream : Nat → Answer := fun _ =>
  { sf := ⟨0, Mem.ofList (fun _ => 0) [0x04, 0x00]⟩
    acf := ⟨0, ⟨0, 5, [1, 2, 3, 4, 4]⟩, 24⟩
    ab := ⟨0, 1, fun _ => 0⟩
    ac := ⟨0, 10, [0, 0, 1, 2, 3, 4, 5, 6, 7, 0xe0], 20⟩ }

def settlingStream (i : Nat) : Answer :=
  let x := collidingStream i
  if i < 3 then x
  else { x with acf := { x.acf with bitOfCol := iso14443aBitOfColNone }, ac := { x.ac with bitOfCol := 0 } }

theorem anticol_frames_le_settling :
    (anticolTally settlingStream randomBit 6 initVars).1 ≠ .hang ∧
      (anticolTally15693 settlingStream (fun _ => 0) 0 4 initHandle15693).1 ≠ .hang := by
  have hle := anticol_frames_le settlingStream randomBit initVars (fun _ => 0) 0 initHandle15693
  refine ⟨hle.2.1 2 (fun fuel => ?_) 6 (Nat.le_refl 6),
    hle.2.2.2 3 (fun fuel => ?_) 4 (Nat.le_refl 4)⟩
  · rcases fuel with _ | _ | _ | _ | fuel
    · decide
    · decide
    · decide
    · decide
    · exact Nat.le_refl 2
  · rcases fuel with _ | _ | _ | _ | fuel
    · decide
    · decide
    · decide
    · decide
    · exact Nat.le_refl 3

section

variable {ρ : Type} (randomBit : ρ → Bool × ρ)

theorem iso14443aCollisions_colliding (fuel : Nat) (acf : Mem UInt8) :
    Triple (fun _ => True) (iso14443aCollisions (streamReader collidingStream) randomBit fuel acf 24)
      fun o _ => o = .hang := by
  induction fuel generalizing acf with
  | zero => exact fun _ _ => rfl
  | succ fuel ih =>
    have htoggle : Total (fun _ : Tally × Vars ρ => True)
        (rndToggleBitInField randomBit (codeNvb acf 24) acfUidBits 5 24) fun _ _ => True := by
      rintro ⟨s, v⟩ -
      obtain ⟨_, v', hrun, -⟩ := rndToggleBitInField_run randomBit (codeNvb acf 24) acfUidBits 5 24 s v
      exact ⟨_, _, hrun, trivial⟩
    refine .ite (fun h => absurd h (by decide)) fun _ => htoggle.bind_triple fun acf => ?_
    exact fun s _ => ih _ (_, s.2) trivial

theorem iso14443aAnticol_colliding (fuel : Nat) :
    Triple (fun _ => True) (iso14443aAnticol (streamReader collidingStream) randomBit fuel)
      fun o _ => o = .hang := by
  have hcascade : ∀ acf sak : Mem UInt8, Triple (fun _ => True)
      (iso14443aCascade (streamReader collidingStream) randomBit fuel acf sak)
      fun o _ => o = .hang := by
    intro acf sak
    cases fuel with
    | zero => exact fun _ _ => rfl
    | succ fuel =>
      intro s _
      have hloop := iso14443aCollisions_colliding randomBit fuel
        (acfMerge (codeNvb acf 16) ⟨0, 5, [1, 2, 3, 4, 4]⟩)
        (⟨s.1.frames + 1, s.1.collisions + 1⟩, s.2) trivial
      exact congrArg Prod.fst (bind_hang (Prod.ext hloop rfl))
  have hset : ∀ g : Handle → Handle, Total (fun _ : Tally × Vars ρ => True) (setHandle g)
      fun _ _ => True := fun _ s _ => ⟨_, _, rfl, trivial⟩
  have hget : Total (fun _ : Tally × Vars ρ => True) get fun _ _ => True :=
    fun s _ => ⟨s.2, s, rfl, trivial⟩
  have hrequest : ∀ cmd atqa, Total (fun _ : Tally × Vars ρ => True)
      (lift ((streamReader collidingStream).transceiveSf cmd atqa))
      fun x _ => True ∧ x = ⟨0, Mem.ofList (fun _ => 0) [0x04, 0x00]⟩ :=
    fun _ _ s _ => ⟨_, _, rfl, trivial, rfl⟩
  refine (hset _).bind_triple fun _ => hget.bind_triple fun v => (hrequest _ _).bind_triple fun x =>
    .assume ?_
  rintro rfl
  have hatqa : ¬ bfAnticol (Mem.ofList (fun _ => 0) [0x04, 0x00]) = 0 := by decide
  rw [when_of_not (by decide), when_of_not hatqa]
  have hpure : Total (fun _ : Tally × Vars ρ => True) (pure ()) fun _ _ => True := .pure fun _ => id
  refine (hset _).bind_triple fun _ => hpure.bind_triple fun _ => (hset _).bind_triple fun _ =>
    hpure.bind_triple fun _ => (hset _).bind_triple fun _ => ?_
  refine .bind (hcascade _ _) ?_ ?_ fun _ _ => rfl
  · rintro _ _ ho
    cases ho
  · rintro _ _ ho
    cases ho

end

def Collides (l : List Slot) : Prop := ∃ e, firstCollided l = some (20, e)

theorem iso15693Slots_colliding (acf : Mem UInt8) (txLen n : Nat) (l : List Slot) (uuid : Mem UInt8)
    (boc : UInt8) (hl : Collides l ∨ l = [] ∧ 0 < n) :
    Triple (fun _ => True)
      (iso15693Slots (streamReader15693 collidingStream) acf txLen n l uuid boc)
      fun o _ => ∃ l uuid boc, o = .ok (.slots l uuid boc) ∧ Collides l := by
  induction n generalizing l uuid boc with
  | zero =>
    rcases hl with hl | ⟨-, hl⟩
    · exact fun _ _ => ⟨l, uuid, boc, rfl, hl⟩
    · exact absurd hl (Nat.lt_irrefl 0)
  | succ n ih =>
    refine fun s _ => ih _ _ _ (.inl ?_) (⟨s.1.frames + 1, s.1.collisions + 1⟩, s.2) trivial
    rcases hl with ⟨e, hl⟩ | ⟨rfl, -⟩
    · exact ⟨e, by rw [firstCollided_append, hl, Option.some_or]⟩
    · exact ⟨_, rfl⟩

theorem iso15693AcLoop_colliding (h : Iso15693Handle) (fuel : Nat) (acf : Mem UInt8) (txLen : Nat)
    (boc : UInt8) :
    Triple (fun _ => True)
      (iso15693AcLoop (streamReader15693 collidingStream) h fuel acf txLen boc)
      fun o _ => o = .hang := by
  induction fuel generalizing acf txLen boc with
  | zero => exact fun _ _ => rfl
  | succ fuel ih =>
    have hslots : 0 < if h.singleSlot then 1 else 16 := by split_ifs <;> decide
    refine .bind (iso15693Slots_colliding acf txLen _ [] _ boc (.inr ⟨rfl, hslots⟩)) ?_ ?_ ?_
    · rintro x s ⟨l, uuid, boc, hx, e, hl⟩
      cases hx
      simp only [hl]
      exact ih _ _ _ s trivial
    · rintro _ _ ⟨_, _, _, ho, -⟩
      cases ho
    · exact fun _ _ => rfl

/-- No number of frames is enough for every stream. -/
theorem anticol_unbounded :
    (¬ ∃ n, ∀ (stream : Nat → Answer) (v : Vars Unit), ∃ fuel,
      (anticolTally stream (fun u => (false, u)) fuel v).1 ≠ .hang ∧
        (anticolTally stream (fun u => (false, u)) fuel v).2.frames ≤ n) ∧
    ¬ ∃ n, ∀ (stream : Nat → Answer) (stack : Mem UInt8) (boc : UInt8) (h : Iso15693Handle),
      ∃ fuel, (anticolTally15693 stream stack boc fuel h).1 ≠ .hang ∧
        (anticolTally15693 stream stack boc fuel h).2.frames ≤ n := by
  constructor
  · rintro ⟨n, h⟩
    obtain ⟨fuel, hret, -⟩ := h collidingStream ⟨initHandle, ()⟩
    exact hret (iso14443aAnticol_colliding _ fuel _ trivial)
  · rintro ⟨n, h⟩
    obtain ⟨fuel, hret, -⟩ := h collidingStream (fun _ => 0) 0 initHandle15693
    exact hret (iso15693AcLoop_colliding _ fuel _ _ 0 _ trivial)

end Librfid.Layer2
