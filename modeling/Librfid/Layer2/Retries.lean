import Librfid.Tcl.FrameSize
import Mathlib.Data.Nat.Find

namespace Librfid.Layer2

open Rc632 Exec Tcl

/-- What an attempt is answered with: the return value of the exchange and a frame. -/
structure ReqbAnswer where
  ret : Int
  len : Nat
  bytes : Mem UInt8

namespace ReqbAnswer

def received (a : ReqbAnswer) (rx : Mem UInt8) (rxLen : Nat) : AbResult :=
  ⟨a.ret, min a.len rxLen, rx.store 0 (a.bytes.load 0 (min a.len rxLen))⟩

structure Valid (a : ReqbAnswer) : Prop where
  ret : 0 ≤ a.ret
  length : a.len = atqbSize
  accepted : LooksUp a.bytes

structure Begins (a : ReqbAnswer) : Prop where
  ret : 0 ≤ a.ret
  length : atqbSize ≤ a.len
  accepted : LooksUp a.bytes

theorem Valid.begins {a : ReqbAnswer} (h : a.Valid) : a.Begins := ⟨h.ret, h.length.ge, h.accepted⟩

theorem looksUp_received {a : ReqbAnswer} {rx : Mem UInt8} {rxLen : Nat}
    (h : min a.len rxLen = atqbSize) : LooksUp (a.received rx rxLen).rx ↔ LooksUp a.bytes := by
  have hbyte : ∀ i : Nat, i < atqbSize → (a.received rx rxLen).rx i = a.bytes i := by
    intro i hi
    have hlen : i < (a.bytes.load 0 (min a.len rxLen)).length := by
      rw [Mem.length_load, h]
      exact hi
    have hstore := rx.store_add 0 (a.bytes.load 0 (min a.len rxLen)) i hlen
    rw [Mem.getElem_load, Int.zero_add] at hstore
    exact hstore
  have h0 : (a.received rx rxLen).rx 0 = a.bytes 0 := hbyte 0 (by decide)
  have h11 : (a.received rx rxLen).rx 11 = a.bytes 11 := hbyte 11 (by decide)
  unfold LooksUp atqbFwi
  rw [h0, h11]

end ReqbAnswer

def answeringReqb (answers : Nat → ReqbAnswer) : Iso14443bReader Nat where
  transceive _ _ _ rx rxLen _ := fun i => (.ok ((answers i).received rx rxLen), i + 1)
  init := pure ()
  ah := rc632Open

section Slots

variable (answers : Nat → ReqbAnswer) (past : Nat) (afi : UInt8) (isWup : Bool)

theorem sendReqbSlots_cons (slot : Nat) (slots : List Nat) (atqb : Mem UInt8) (atqbLen i : Nat)
    (h : Iso14443bHandle) :
    sendReqbSlots (answeringReqb answers) past afi isWup (slot :: slots) atqb atqbLen (i, h) =
      let x := (answers i).received atqb atqbLen
      let h := { h with state := .reqbSent }
      let p := parseAtqb rc632Open past h x.rx
      if x.ret < 0 ∨ x.rxLen ≠ atqbSize then
        sendReqbSlots (answeringReqb answers) past afi isWup slots x.rx x.rxLen (i + 1, h)
      else if 0 ≤ p.1 then (.ok 0, (i + 1, { p.2 with state := .atqbRcvd }))
      else sendReqbSlots (answeringReqb answers) past afi isWup slots x.rx x.rxLen (i + 1, p.2) := by
  have hx : (lift ((answeringReqb answers).transceive .iso14443bFrameRegular
      (Mem.ofList (fun _ => 0) [0x05, afi, if isWup then UInt8.ofNat (slot &&& 0x07) ||| 0x08
        else UInt8.ofNat (slot &&& 0x07)]) 3 atqb atqbLen 1) : Iso14443bM Nat AbResult) (i, h) =
      (.ok ((answers i).received atqb atqbLen), (i + 1, h)) := rfl
  rw [sendReqbSlots, bind_ok hx]
  dsimp only
  by_cases hret : ((answers i).received atqb atqbLen).ret < 0
  · rw [if_pos hret, if_pos (.inl hret)]
    rfl
  · rw [if_neg hret]
    by_cases hlen : ((answers i).received atqb atqbLen).rxLen ≠ atqbSize
    · rw [if_pos hlen, if_pos (.inr hlen)]
      rfl
    · rw [if_neg hlen, if_neg (not_or.mpr ⟨hret, hlen⟩)]
      let p := parseAtqb rc632Open past { h with state := .reqbSent }
        ((answers i).received atqb atqbLen).rx
      change (if 0 ≤ p.1 then (setStateB .atqbRcvd >>= fun _ => pure 0 : Iso14443bM Nat Int)
        else sendReqbSlots (answeringReqb answers) past afi isWup slots
          ((answers i).received atqb atqbLen).rx ((answers i).received atqb atqbLen).rxLen)
        (i + 1, p.2) = if 0 ≤ p.1 then _ else _
      by_cases hok : 0 ≤ p.1
      · rw [if_pos hok, if_pos hok]
        rfl
      · rw [if_neg hok, if_neg hok]

def Succeeds (atqbLen i k : Nat) : Prop :=
  atqbLen = atqbSize ∧ (answers (i + k)).Begins ∧ ∀ j < k, atqbSize ≤ (answers (i + j)).len

theorem succeeds_zero (atqbLen i : Nat) :
    Succeeds answers atqbLen i 0 ↔ atqbLen = atqbSize ∧ (answers i).Begins := by
  simp [Succeeds]

theorem succeeds_succ {atqbLen : Nat} (hle : atqbLen ≤ atqbSize) (i k : Nat) :
    Succeeds answers atqbLen i (k + 1) ↔
      Succeeds answers (min (answers i).len atqbLen) (i + 1) k := by
  unfold Succeeds
  rw [Nat.forall_lt_succ_left, Nat.add_zero, Nat.add_right_comm i 1 k]
  simp only [Nat.add_assoc, Nat.add_comm 1]
  have hmin : min (answers i).len atqbLen = atqbSize ↔
      atqbLen = atqbSize ∧ atqbSize ≤ (answers i).len := by
    omega
  rw [hmin]
  tauto

/-- The loop gets to the first attempt that succeeds, if there is one. -/
theorem sendReqbSlots_run (slots : List Nat) (atqb : Mem UInt8) {atqbLen : Nat}
    (hle : atqbLen ≤ atqbSize) (i : Nat) (h : Iso14443bHandle) :
    ∃ ret n h', sendReqbSlots (answeringReqb answers) past afi isWup slots atqb atqbLen (i, h) =
        (.ok ret, (n, h')) ∧
      (ret = 0 ↔ ∃ k < slots.length, Succeeds answers atqbLen i k) ∧
      (ret = 0 → h'.state = .atqbRcvd) := by
  induction slots generalizing atqb atqbLen i h with
  | nil =>
    refine ⟨-1, i, h, rfl, iff_of_false (by decide) ?_, fun h => absurd h (by decide)⟩
    rintro ⟨k, hk, -⟩
    exact absurd hk (Nat.not_lt_zero k)
  | cons slot slots ih =>
    rw [sendReqbSlots_cons, List.length_cons]
    simp only [Nat.exists_lt_succ_left, succeeds_zero, succeeds_succ answers hle]
    have hrest : ∀ h₁, ¬ (atqbLen = atqbSize ∧ (answers i).Begins) →
        ∃ ret n h', sendReqbSlots (answeringReqb answers) past afi isWup slots
            ((answers i).received atqb atqbLen).rx ((answers i).received atqb atqbLen).rxLen
            (i + 1, h₁) = (.ok ret, (n, h')) ∧
          (ret = 0 ↔ (atqbLen = atqbSize ∧ (answers i).Begins) ∨
            ∃ k < slots.length, Succeeds answers (min (answers i).len atqbLen) (i + 1) k) ∧
          (ret = 0 → h'.state = .atqbRcvd) := by
      intro h₁ hno
      rw [or_iff_right hno]
      exact ih _ (Nat.le_trans (Nat.min_le_right _ _) hle) (i + 1) h₁
    by_cases hbad : ((answers i).received atqb atqbLen).ret < 0 ∨
        ((answers i).received atqb atqbLen).rxLen ≠ atqbSize
    · rw [if_pos hbad]
      refine hrest _ ?_
      rintro ⟨rfl, hbegins⟩
      rcases hbad with hneg | hlen
      · exact absurd hbegins.ret (Int.not_le.mpr hneg)
      · exact hlen (Nat.min_eq_right hbegins.length)
    · rw [if_neg hbad]
      obtain ⟨hret, hlen⟩ := not_or.mp hbad
      have hmin : min (answers i).len atqbLen = atqbSize := not_not.mp hlen
      have hparse := parseAtqb_ret past { h with state := .reqbSent }
        ((answers i).received atqb atqbLen).rx
      rw [ReqbAnswer.looksUp_received hmin] at hparse
      by_cases hok : LooksUp (answers i).bytes
      · rw [if_pos (hparse.mpr hok)]
        refine ⟨0, _, _, rfl, iff_of_true rfl (.inl ⟨by omega, Int.not_lt.mp hret, by omega, hok⟩), ?_⟩
        exact fun _ => rfl
      · rw [if_neg fun h => hok (hparse.mp h)]
        exact hrest _ fun hc => hok hc.2.accepted

end Slots

/-- Whether an attempt succeeds does not depend on the others. -/
structure Independent (answers : Nat → ReqbAnswer) (n : Nat) (ret : Int) (h : Iso14443bHandle) :
    Prop where
  returns : ret = 0 ↔ ∃ k < n, (answers k).Valid
  state : ret = 0 → h.state = .atqbRcvd

/-- Of the frames that begin like an ATQB the first counts: nothing before it must have left less room
than an ATQB needs, unless none of the answers is an ATQB. -/
def FirstUnharmed (answers : Nat → ReqbAnswer) (n : Nat) : Prop :=
  ∀ k < n, (answers k).Begins → (∀ j < k, ¬ (answers j).Begins) →
    ((∀ j < k, atqbSize ≤ (answers j).len) ↔ ∃ i < n, (answers i).Valid)

theorem firstUnharmed_iff (answers : Nat → ReqbAnswer) (n : Nat) :
    FirstUnharmed answers n ↔
      ((∃ k < n, Succeeds answers atqbSize 0 k) ↔ ∃ i < n, (answers i).Valid) := by
  classical
  have hsucc : ∀ k, Succeeds answers atqbSize 0 k ↔
      (answers k).Begins ∧ ∀ j < k, atqbSize ≤ (answers j).len := by
    intro k
    simp only [Succeeds, Nat.zero_add, true_and]
  by_cases hex : ∃ k, k < n ∧ (answers k).Begins
  · -- everything is decided at the first of them
    obtain ⟨first, ⟨hlt, hbegins⟩, hleast⟩ : ∃ k, (k < n ∧ (answers k).Begins) ∧
        ∀ j < k, ¬ (j < n ∧ (answers j).Begins) :=
      ⟨Nat.find hex, Nat.find_spec hex, fun j hj => Nat.find_min hex hj⟩
    have hbefore : ∀ j < first, ¬ (answers j).Begins := fun j hj h => hleast j hj ⟨hj.trans hlt, h⟩
    have hsucceeds : (∃ k < n, Succeeds answers atqbSize 0 k) ↔
        ∀ j < first, atqbSize ≤ (answers j).len := by
      constructor
      · rintro ⟨k, -, hk⟩ j hj
        obtain ⟨hk, hroom⟩ := (hsucc k).mp hk
        have hle : first ≤ k := Nat.not_lt.mp fun hlt => hbefore k hlt hk
        exact hroom j (Nat.lt_of_lt_of_le hj hle)
      · exact fun hroom => ⟨first, hlt, (hsucc first).mpr ⟨hbegins, hroom⟩⟩
    rw [hsucceeds]
    constructor
    · exact fun h => h first hlt hbegins hbefore
    · intro h k _ hk hkfirst
      have heq : k = first := by
        rcases Nat.lt_trichotomy k first with hlt | heq | hlt
        · exact absurd hk (hbefore k hlt)
        · exact heq
        · exact absurd hbegins (hkfirst first hlt)
      rw [heq]
      exact h
  · have hnone : ¬ ∃ k < n, Succeeds answers atqbSize 0 k := fun ⟨k, hk, h⟩ =>
      hex ⟨k, hk, ((hsucc k).mp h).1⟩
    have hinvalid : ¬ ∃ i < n, (answers i).Valid := fun ⟨i, hi, h⟩ => hex ⟨i, hi, h.begins⟩
    exact iff_of_true (fun k hk h => absurd ⟨k, hk, h⟩ hex) (iff_of_false hnone hinvalid)

/-- The attempts are independent exactly when the first frame that begins like an ATQB gets the room
it needs, and is one. -/
theorem sendReqb_independent_iff (answers : Nat → ReqbAnswer) (past : Nat) (stack : Mem UInt8)
    (afi : UInt8) (isWup : Bool) (numInitialSlots : Nat) (h : Iso14443bHandle) :
    ∃ ret n h', sendReqb (answeringReqb answers) past stack afi isWup numInitialSlots (0, h) =
        (.ok ret, (n, h')) ∧
      (Independent answers (5 - numInitialSlots) ret h' ↔
        FirstUnharmed answers (5 - numInitialSlots)) := by
  obtain ⟨ret, n, h', hrun, hret, hstate⟩ := sendReqbSlots_run answers past afi isWup
    (List.range' numInitialSlots (5 - numInitialSlots)) stack (Nat.le_refl atqbSize) 0 h
  rw [List.length_range'] at hret
  refine ⟨ret, n, h', hrun, ?_⟩
  rw [firstUnharmed_iff, ← hret]
  exact ⟨fun h => h.returns, fun h => ⟨h, hstate⟩⟩

def shortThenAtqb : Nat → ReqbAnswer
  | 0 => ⟨0, 3, fun _ => 0⟩
  | _ => ⟨0, 12, Mem.ofList (fun _ => 0) [0x50, 1, 2, 3, 4, 0, 0, 0, 0, 0x00, 0x81, 0x40]⟩

/-- None of the four attempts that are left is heard in full. -/
theorem shortAnswer_spoils :
    (∃ s, sendReqb (answeringReqb shortThenAtqb) 0 (fun _ => 0) 0 false 0 (0, blankHandleB) =
      (.ok (-1), s)) ∧ (∀ k, (shortThenAtqb (k + 1)).Valid) ∧
    ∀ h, ¬ Independent shortThenAtqb 5 (-1) h := by
  have hvalid : ∀ k, (shortThenAtqb (k + 1)).Valid := fun _ =>
    ⟨Int.le_refl 0, rfl, show LooksUp (shortThenAtqb 1).bytes by decide⟩
  refine ⟨⟨_, rfl⟩, hvalid, fun h hind => ?_⟩
  exact absurd (hind.returns.mpr ⟨1, by decide, hvalid 0⟩) (by decide)

end Librfid.Layer2
