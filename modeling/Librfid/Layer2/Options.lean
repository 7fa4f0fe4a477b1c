import Librfid.Layer2.Iso15693
import Mathlib.Logic.Function.Basic

namespace Librfid.Layer2

def opt15693ModDepth : Int := 0x00010001
def opt15693VcdCoding : Int := 0x00010002
def opt15693ViccSubc : Int := 0x00010003
def opt15693ViccSpeed : Int := 0x00010004
def opt15693VcdSlots : Int := 0x00010005
def opt15693UseAfi : Int := 0x00010006
def opt15693Afi : Int := 0x00010007

def mod10ask : Nat := 0x01
def mod100ask : Nat := 0x02
def vcdCoding1out256 : Nat := 0x01
def vcdCoding1out4 : Nat := 0x02
def viccSubcSingle : Nat := 0x01
def viccSubcDual : Nat := 0x02
def viccSpeedSlow : Nat := 0x01
def viccSpeedFast : Nat := 0x02

def fromLe : List UInt8 → Nat
  | [] => 0
  | b :: l => b.toNat + 256 * fromLe l

def toLe : Nat → Nat → List UInt8
  | 0, _ => []
  | n + 1, v => UInt8.ofNat v :: toLe n (v / 256)

theorem fromLe_toLe (n v : Nat) : fromLe (toLe n v) = v % 256 ^ n := by
  induction n generalizing v with
  | zero => rw [toLe, fromLe, Nat.pow_zero, Nat.mod_one]
  | succ n ih =>
    have hbyte : (UInt8.ofNat v).toNat = v % 256 := UInt8.toNat_ofNat'
    rw [toLe, fromLe, ih, hbyte, Nat.pow_succ', Nat.mod_mul]

structure GetoptResult where
  ret : Int
  optval : List UInt8
  optlen : Option Nat

/-- `optlen` is `none` for a null pointer, and `optval` says whether there is one to store to. -/
def iso15693Getopt (h : Iso15693Handle) (optname : Int) (optval : Bool) (optlen : Option Nat) :
    GetoptResult :=
  match optlen with
  | none => ⟨-eInval, [], none⟩
  | some len =>
    if !optval ∨ len < 4 then ⟨-eInval, [], some len⟩
    else
      let value (v : Nat) : GetoptResult := ⟨0, toLe 4 v, some 4⟩
      if optname = opt15693ModDepth then value (if h.vcdAsk100 then mod100ask else mod10ask)
      else if optname = opt15693VcdCoding then
        value (if h.vcdOut256 then vcdCoding1out256 else vcdCoding1out4)
      else if optname = opt15693ViccSubc then
        value (if h.viccTwoSubc then viccSubcDual else viccSubcSingle)
      else if optname = opt15693ViccSpeed then
        value (if h.viccFast then viccSpeedFast else viccSpeedSlow)
      else if optname = opt15693VcdSlots then value (if h.singleSlot then 1 else 16)
      else if optname = opt15693UseAfi then value (if h.useAfi then 1 else 0)
      else if optname = opt15693Afi then ⟨0, [h.afi], some 1⟩
      else ⟨-eInval, [], some 4⟩

/-- `val`; `undef` is what it holds when no length matches. -/
def optVal (optval : Mem UInt8) (optlen undef : Nat) : Nat :=
  if optlen = 1 ∨ optlen = 2 ∨ optlen = 4 then fromLe (optval.load 0 optlen) else undef

def setoptSlots (h : Iso15693Handle) (val : Nat) : Int × Iso15693Handle :=
  if val = 16 then (0, { h with singleSlot := false })
  else if val = 1 then (0, { h with singleSlot := true })
  else (-eInval, h)

def setoptVal (h : Iso15693Handle) (optname : Int) (val : Nat) : Int × Iso15693Handle :=
  if optname = opt15693ModDepth then
    if val = mod10ask then (0, { h with vcdAsk100 := false })
    else if val = mod100ask then (0, { h with vcdAsk100 := true })
    else (-eInval, h)
  else if optname = opt15693VcdCoding then
    if val = vcdCoding1out256 then (0, { h with vcdOut256 := true })
    else if val = vcdCoding1out4 then (0, { h with vcdOut256 := false })
    else (-eInval, h)
  else if optname = opt15693ViccSubc then
    if val = viccSubcSingle then (0, { h with viccTwoSubc := false })
    else if val = viccSubcDual then (0, { h with viccTwoSubc := true })
    else (-eInval, h)
  else if optname = opt15693ViccSpeed then
    -- there is no `break`: the slots are set from the same value
    if val = viccSpeedSlow then setoptSlots { h with viccFast := false } val
    else if val = viccSpeedFast then setoptSlots { h with viccFast := true } val
    else (-eInval, h)
  else if optname = opt15693VcdSlots then setoptSlots h val
  else if optname = opt15693UseAfi then (0, { h with useAfi := decide (val ≠ 0) })
  else if optname = opt15693Afi then
    if val > 0xff then (-eInval, h) else (0, { h with afi := UInt8.ofNat val })
  else (-eInval, h)

def iso15693Setopt (h : Iso15693Handle) (optname : Int) (optval : Option (Mem UInt8))
    (optlen undef : Nat) : Int × Iso15693Handle :=
  match optval with
  | none => (-eInval, h)
  | some optval =>
    if optlen < 1 then (-eInval, h) else setoptVal h optname (optVal optval optlen undef)

def readOpt (h : Iso15693Handle) (optname : Int) : Option Nat :=
  let g := iso15693Getopt h optname true (some 4)
  if g.ret = 0 then some (fromLe g.optval) else none

def setValue (optname : Int) (val : Nat) : Nat :=
  if optname = opt15693UseAfi then (if val ≠ 0 then 1 else 0) else val

structure SetoptCall where
  optname : Int
  optval : Mem UInt8
  optlen : Nat

namespace SetoptCall

def ValidLen (c : SetoptCall) : Prop := c.optlen = 1 ∨ c.optlen = 2 ∨ c.optlen = 4

def val (c : SetoptCall) : Nat := fromLe (c.optval.load 0 c.optlen)

def run (c : SetoptCall) (h : Iso15693Handle) : Int × Iso15693Handle :=
  iso15693Setopt h c.optname (some c.optval) c.optlen 0

/-- The call acts on the options as on a store. -/
def Stores (c : SetoptCall) (h : Iso15693Handle) : Prop :=
  ((c.run h).1 = 0 → ∀ opt, readOpt (c.run h).2 opt =
      Function.update (readOpt h) c.optname (some (setValue c.optname c.val)) opt) ∧
    ((c.run h).1 < 0 → ∀ opt, readOpt (c.run h).2 opt = readOpt h opt)

/-- The speed is set, and the slots with it. -/
def Coupled (c : SetoptCall) (h : Iso15693Handle) : Prop :=
  c.optname = opt15693ViccSpeed ∧
    (c.val = viccSpeedSlow ∧ h.singleSlot = false ∨ c.val = viccSpeedFast ∧ h.viccFast = false)

end SetoptCall

theorem readOpt_eq (h : Iso15693Handle) (opt : Int) :
    readOpt h opt =
      if opt = opt15693ModDepth then some (if h.vcdAsk100 then mod100ask else mod10ask)
      else if opt = opt15693VcdCoding then
        some (if h.vcdOut256 then vcdCoding1out256 else vcdCoding1out4)
      else if opt = opt15693ViccSubc then some (if h.viccTwoSubc then viccSubcDual else viccSubcSingle)
      else if opt = opt15693ViccSpeed then some (if h.viccFast then viccSpeedFast else viccSpeedSlow)
      else if opt = opt15693VcdSlots then some (if h.singleSlot then 1 else 16)
      else if opt = opt15693UseAfi then some (if h.useAfi then 1 else 0)
      else if opt = opt15693Afi then some h.afi.toNat
      else none := by
  let read (g : GetoptResult) : Option Nat := if g.ret = 0 then some (fromLe g.optval) else none
  -- both values of each flag fit into four bytes
  have hvalue : ∀ (b : Bool) (v w : Nat), v < 256 ^ 4 → w < 256 ^ 4 →
      read ⟨0, toLe 4 (if b then v else w), some 4⟩ = some (if b then v else w) := by
    intro b v w hv hw
    refine congrArg some ((fromLe_toLe 4 _).trans (Nat.mod_eq_of_lt ?_))
    cases b
    · exact hw
    · exact hv
  change read (iso15693Getopt h opt true (some 4)) = _
  unfold iso15693Getopt
  simp only [Bool.not_true, Bool.false_eq_true, false_or, Nat.lt_irrefl, if_false, apply_ite read]
  rw [hvalue _ _ _ (by decide) (by decide), hvalue _ _ _ (by decide) (by decide),
    hvalue _ _ _ (by decide) (by decide), hvalue _ _ _ (by decide) (by decide),
    hvalue _ _ _ (by decide) (by decide), hvalue _ _ _ (by decide) (by decide)]
  rfl

theorem SetoptCall.run_eq {c : SetoptCall} (hlen : c.ValidLen) (h : Iso15693Handle) :
    c.run h = setoptVal h c.optname c.val := by
  have hpos : ¬ c.optlen < 1 := by
    rcases hlen with hl | hl | hl <;> omega
  have hval : optVal c.optval c.optlen 0 = c.val := if_pos hlen
  rw [run, iso15693Setopt, if_neg hpos, hval]

theorem setoptVal_spec {h h' : Iso15693Handle} {opt : Int} {val : Nat} {ret : Int}
    (hopt : opt ≠ opt15693ViccSpeed) (hset : setoptVal h opt val = (ret, h')) :
    (ret = 0 ∧ readOpt h' opt = some (setValue opt val) ∧
        ∀ opt', opt' ≠ opt → readOpt h' opt' = readOpt h opt') ∨
      ret < 0 ∧ h' = h := by
  have hneg : (-eInval : Int) < 0 := by decide
  unfold setoptVal setoptSlots at hset
  split_ifs at hset <;> cases hset <;> try exact .inr ⟨hneg, rfl⟩
  all_goals
    subst opt
    refine .inl ⟨rfl, ?_, fun opt' ho => by simp only [readOpt_eq, if_neg ho]⟩
    rw [readOpt_eq]
    try (subst val; rfl)
  · change some (if decide (val ≠ 0) = true then 1 else 0) = some (if val ≠ 0 then 1 else 0)
    simp only [decide_eq_true_eq]
  · have hlt : val < 2 ^ 8 := Nat.lt_succ_of_le (Nat.not_lt.mp ‹_›)
    change some (UInt8.ofNat val).toNat = some val
    rw [UInt8.toNat_ofNat_of_lt' hlt]

theorem SetoptCall.stores_of_ne {c : SetoptCall} (hlen : c.ValidLen) (h : Iso15693Handle)
    (hopt : c.optname ≠ opt15693ViccSpeed) : c.Stores h := by
  rw [Stores, run_eq hlen]
  rcases hset : setoptVal h c.optname c.val with ⟨ret, h'⟩
  rcases setoptVal_spec hopt hset with ⟨rfl, hself, hother⟩ | ⟨hneg, rfl⟩
  · refine ⟨fun _ opt => ?_, fun hneg => absurd hneg (Int.lt_irrefl 0)⟩
    by_cases ho : opt = c.optname
    · rw [ho, hself, Function.update_self]
    · rw [hother opt ho, Function.update_of_ne ho]
  · exact ⟨fun h0 => absurd h0 (Int.ne_of_lt hneg), fun _ _ => rfl⟩

theorem setoptVal_speed (h : Iso15693Handle) (val : Nat) :
    setoptVal h opt15693ViccSpeed val =
      if val = viccSpeedSlow then (0, { h with viccFast := false, singleSlot := true })
      else if val = viccSpeedFast then (-eInval, { h with viccFast := true })
      else (-eInval, h) := by
  have hopt : opt15693ViccSpeed ≠ opt15693ModDepth ∧ opt15693ViccSpeed ≠ opt15693VcdCoding ∧
      opt15693ViccSpeed ≠ opt15693ViccSubc := by decide
  rw [setoptVal, if_neg hopt.1, if_neg hopt.2.1, if_neg hopt.2.2, if_pos rfl]
  split_ifs with hslow hfast
  · rw [hslow]
    rfl
  · rw [hfast]
    rfl
  · rfl

theorem SetoptCall.stores_speed_iff {c : SetoptCall} (hlen : c.ValidLen) (h : Iso15693Handle)
    (hopt : c.optname = opt15693ViccSpeed) : c.Stores h ↔ ¬ c.Coupled h := by
  have hread : ∀ h : Iso15693Handle, readOpt h opt15693ViccSpeed =
      some (if h.viccFast then viccSpeedFast else viccSpeedSlow) := fun h => by
    rw [readOpt_eq]
    rfl
  have hslots : ∀ h : Iso15693Handle, readOpt h opt15693VcdSlots =
      some (if h.singleSlot then 1 else 16) := fun h => by
    rw [readOpt_eq]
    rfl
  have hne : opt15693VcdSlots ≠ opt15693ViccSpeed := by decide
  have hrun := run_eq hlen h
  rw [hopt, setoptVal_speed] at hrun
  have hcoupled : c.Coupled h ↔
      c.val = viccSpeedSlow ∧ h.singleSlot = false ∨ c.val = viccSpeedFast ∧ h.viccFast = false :=
    and_iff_right hopt
  have hneg : ¬ (-eInval : Int) = 0 := by decide
  by_cases hslow : c.val = viccSpeedSlow
  · have hval : viccSpeedSlow ≠ viccSpeedFast := by decide
    rw [if_pos hslow] at hrun
    rw [hcoupled, Stores, hrun, hopt, hslow]
    simp only [true_and, hval, false_and, or_false, Bool.not_eq_false]
    refine ⟨fun hst => ?_, fun hs => ⟨fun _ opt => ?_, fun h => absurd h (Int.lt_irrefl 0)⟩⟩
    · by_contra hs
      have hread := hst.1 trivial opt15693VcdSlots
      rw [Function.update_of_ne hne, hslots, hslots, if_neg hs] at hread
      simp at hread
    · by_cases ho : opt = opt15693ViccSpeed
      · rw [ho, Function.update_self, hread]
        rfl
      · rw [Function.update_of_ne ho]
        simp [readOpt_eq, ho, hs]
  · rw [if_neg hslow] at hrun
    by_cases hfast : c.val = viccSpeedFast
    · have hval : viccSpeedFast ≠ viccSpeedSlow := by decide
      rw [if_pos hfast] at hrun
      rw [hcoupled, Stores, hrun, hopt, hfast]
      simp only [true_and, hval, false_and, false_or, Bool.not_eq_false]
      refine ⟨fun hst => ?_, fun hf => ⟨fun h => absurd h hneg, fun _ opt => ?_⟩⟩
      · by_contra hf
        have hval := hst.2 (by decide) opt15693ViccSpeed
        rw [hread, hread, if_neg hf] at hval
        simp [viccSpeedFast, viccSpeedSlow] at hval
      · simp [readOpt_eq, hf]
    · rw [if_neg hfast] at hrun
      rw [hcoupled, Stores, hrun, hopt]
      simp only [hslow, hfast, false_and, or_self, not_false_iff, iff_true]
      exact ⟨fun h => absurd h hneg, fun _ _ => trivial⟩

theorem SetoptCall.stores_iff {c : SetoptCall} (hlen : c.ValidLen) (h : Iso15693Handle) :
    c.Stores h ↔ ¬ c.Coupled h := by
  by_cases hopt : c.optname = opt15693ViccSpeed
  · exact stores_speed_iff hlen h hopt
  · exact iff_of_true (stores_of_ne hlen h hopt) fun hc => hopt hc.1

def runSetopts (h : Iso15693Handle) : List SetoptCall → Iso15693Handle
  | [] => h
  | c :: cs => runSetopts (c.run h).2 cs

def runStore (h : Iso15693Handle) (store : Int → Option Nat) : List SetoptCall → Int → Option Nat
  | [] => store
  | c :: cs =>
    runStore (c.run h).2
      (if (c.run h).1 = 0 then Function.update store c.optname (some (setValue c.optname c.val))
        else store) cs

def RunUncoupled (h : Iso15693Handle) : List SetoptCall → Prop
  | [] => True
  | c :: cs => c.ValidLen ∧ ¬ c.Coupled h ∧ RunUncoupled (c.run h).2 cs

theorem setoptVal_ret (h : Iso15693Handle) (opt : Int) (val : Nat) :
    (setoptVal h opt val).1 = 0 ∨ (setoptVal h opt val).1 < 0 := by
  by_cases hopt : opt = opt15693ViccSpeed
  · have hneg : (-eInval : Int) < 0 := by decide
    rw [hopt, setoptVal_speed]
    split_ifs
    · exact .inl rfl
    · exact .inr hneg
    · exact .inr hneg
  · rcases hset : setoptVal h opt val with ⟨ret, h'⟩
    exact (setoptVal_spec hopt hset).imp And.left And.left

theorem runSetopts_store {cs : List SetoptCall} {h : Iso15693Handle} {store : Int → Option Nat}
    (hrun : RunUncoupled h cs) (hstore : readOpt h = store) :
    readOpt (runSetopts h cs) = runStore h store cs := by
  induction cs generalizing h store with
  | nil => exact hstore
  | cons c cs ih =>
    obtain ⟨hlen, hc, hrest⟩ := hrun
    obtain ⟨hok, hfail⟩ := (SetoptCall.stores_iff hlen h).mpr hc
    refine ih hrest ?_
    split_ifs with h0
    · exact hstore ▸ funext (hok h0)
    · have hneg : (c.run h).1 < 0 := by
        rw [SetoptCall.run_eq hlen] at h0 ⊢
        exact (setoptVal_ret h _ _).resolve_left h0
      exact hstore ▸ funext (hfail hneg)

/-- A call acts as on a store exactly when it does not couple the speed with the slots, and a
run of such calls leaves every option as a store would. -/
theorem setopts_store (h : Iso15693Handle) (c : SetoptCall) (cs : List SetoptCall) :
    (c.ValidLen → (c.Stores h ↔ ¬ c.Coupled h)) ∧
      (RunUncoupled h cs → readOpt (runSetopts h cs) = runStore h (readOpt h) cs) :=
  ⟨fun hlen => SetoptCall.stores_iff hlen h, fun hrun => runSetopts_store hrun rfl⟩

def setoptByte (opt : Int) (val : UInt8) : SetoptCall := ⟨opt, fun _ => val, 1⟩

theorem setopts_store_afi :
    (setoptByte opt15693Afi 0x20).Stores initHandle15693 ∧
      readOpt (runSetopts initHandle15693 [setoptByte opt15693Afi 0x20, setoptByte opt15693UseAfi 1])
        opt15693Afi = some 0x20 := by
  have hrun : RunUncoupled initHandle15693
      [setoptByte opt15693Afi 0x20, setoptByte opt15693UseAfi 1] :=
    ⟨.inl rfl, fun h => absurd h.1 (by decide), .inl rfl, fun h => absurd h.1 (by decide), trivial⟩
  have hstore := setopts_store initHandle15693 (setoptByte opt15693Afi 0x20)
    [setoptByte opt15693Afi 0x20, setoptByte opt15693UseAfi 1]
  refine ⟨(hstore.1 (.inl rfl)).mpr fun h => absurd h.1 (by decide), ?_⟩
  rw [hstore.2 hrun]
  decide

/-- Setting the slow speed with sixteen slots sets a single slot; setting the fast speed after it
fails and sets the speed. -/
theorem setopt_speed_coupled :
    let h := { initHandle15693 with singleSlot := false }
    let slow := (setoptByte opt15693ViccSpeed 1).run h
    let fast := (setoptByte opt15693ViccSpeed 2).run slow.2
    slow.1 = 0 ∧ readOpt h opt15693VcdSlots = some 16 ∧ readOpt slow.2 opt15693VcdSlots = some 1 ∧
      fast.1 < 0 ∧ readOpt slow.2 opt15693ViccSpeed = some viccSpeedSlow ∧
      readOpt fast.2 opt15693ViccSpeed = some viccSpeedFast := by
  decide

end Librfid.Layer2
