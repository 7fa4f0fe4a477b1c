import Librfid.Layer2.Iso15693

namespace Librfid

namespace Rc632.AcResult

def uuid (x : AcResult) : List UInt8 :=
  Mem.load (fun i => (Mem.store (fun _ => 0) 0 x.resp : Mem UInt8) (i + 2)) 0 8

def Clean (x : AcResult) : Prop := 0 ≤ x.ret ∧ x.bitOfCol = 0

def Collided (x : AcResult) : Prop := 0 ≤ x.ret ∧ x.bitOfCol ≠ 0

instance (x : AcResult) : Decidable x.Clean := inferInstanceAs (Decidable (_ ∧ _))

instance (x : AcResult) : Decidable x.Collided := inferInstanceAs (Decidable (_ ∧ _))

end Rc632.AcResult

namespace Layer2

open Rc632 Exec

/-- `ab` has the requests with their answers, `ac` the inventory answers; `β` is what is seen of
the exchange besides. -/
structure AirLog (β : Type) where
  ab : List (List UInt8 × AbResult)
  ac : List (β × AcResult)

def AirLog.empty {β : Type} : AirLog β := ⟨[], []⟩

def Iso15693Reader.logging {σ β : Type} (r : Iso15693Reader σ)
    (obs : Mem UInt8 → Nat → Nat → UInt8 → σ → β) : Iso15693Reader (σ × AirLog β) where
  transceive frametype tx txLen rx rxLen timeout := fun (s, log) =>
    match r.transceive frametype tx txLen rx rxLen timeout s with
    | (.ok x, s') => (.ok x, (s', { log with ab := log.ab ++ [(tx.load 0 txLen, x)] }))
    | (.fail code, s') => (.fail code, (s', log))
    | (.hang, s') => (.hang, (s', log))
  transceiveAc acf acfLen rxLen boc := fun (s, log) =>
    match r.transceiveAc acf acfLen rxLen boc s with
    | (.ok x, s') => (.ok x, (s', { log with ac := log.ac ++ [(obs acf acfLen rxLen boc s, x)] }))
    | (.fail code, s') => (.fail code, (s', log))
    | (.hang, s') => (.hang, (s', log))

def uidPos (boc : UInt8) : UInt8 := if boc > 16 then boc - 16 else boc

/-- The answer the UID is taken from, with `n` slots in a round: the last one, or that of the
first slot with a collision, when it is behind the UID. -/
def takenFrom {β : Type} (n : Nat) (l : List (β × AcResult)) : Option (β × AcResult) :=
  match l.getLast? with
  | none => none
  | some e =>
    if e.2.Clean then some e
    else ((l.drop (l.length - n)).find? fun e => e.2.Collided).filter fun e => ¬ uidPos e.2.bitOfCol < 65

section Spec

variable {σ β : Type} (r : Iso15693Reader σ) (obs : Mem UInt8 → Nat → Nat → UInt8 → σ → β)

def Iso15693Handle.withUid (h : Iso15693Handle) (uuid : List UInt8) : Iso15693Handle :=
  { h with uid := h.uid.store 0 uuid, uidLen := uidLen15693 }

theorem withUid_uidBytes (h : Iso15693Handle) {uuid : List UInt8}
    (hlen : uuid.length = uidLen15693) : (h.withUid uuid).uidBytes = uuid := by
  have hload := Mem.load_store h.uid 0 uuid
  rw [hlen] at hload
  exact hload

def slotOf (x : AcResult) : Slot := if x.ret < 0 then .none else .collided x.bitOfCol x.uuid

theorem firstCollided_map (l : List (β × AcResult)) (h : ∀ e ∈ l, ¬ e.2.Clean) :
    firstCollided (l.map fun e => slotOf e.2) =
      (l.find? fun e => e.2.Collided).map fun e => (e.2.bitOfCol, e.2.uuid) := by
  induction l with
  | nil => rfl
  | cons e l ih =>
    rw [List.forall_mem_cons] at h
    rw [List.map_cons, List.find?_cons, slotOf]
    by_cases hneg : e.2.ret < 0
    · have hnot : ¬ e.2.Collided := fun hc => absurd hneg (Int.not_lt.mpr hc.1)
      rw [if_pos hneg, decide_eq_false hnot]
      exact ih h.2
    · have hcol : e.2.Collided :=
        ⟨Int.not_lt.mp hneg, fun h0 => h.1 ⟨Int.not_lt.mp hneg, h0⟩⟩
      rw [if_neg hneg, decide_eq_true hcol]
      rfl

def RoundDone (l : List (β × AcResult)) (h : Iso15693Handle) (n : Nat) :
    Outcome Inventory → (σ × AirLog β) × Iso15693Handle → Prop
  | .ok .found, s => ∃ l' e, s.1.2.ac = l' ++ [e] ∧ e.2.Clean ∧ s.2 = h.withUid e.2.uuid
  | .ok (.slots slots _ _), s => s.2 = h ∧ ∃ round, s.1.2.ac = l ++ round ∧ round.length = n ∧
      (∀ e ∈ round, ¬ e.2.Clean) ∧ slots = round.map fun e => slotOf e.2
  | _, s => s.2 = h

theorem transceiveAc_spec (acf : Mem UInt8) (acfLen rxLen : Nat) (boc : UInt8)
    (l : List (β × AcResult)) (h : Iso15693Handle) :
    Triple (fun s : (σ × AirLog β) × Iso15693Handle => s.1.2.ac = l ∧ s.2 = h)
      (lift ((r.logging obs).transceiveAc acf acfLen rxLen boc))
      (Ends (fun s => s.2 = h) fun x s => ∃ b, s.1.2.ac = l ++ [(b, x)]) := by
  rintro ⟨⟨s, log⟩, h⟩ ⟨rfl, rfl⟩
  simp only [lift, Iso15693Reader.logging]
  rcases r.transceiveAc acf acfLen rxLen boc s with ⟨_ | _ | _, s'⟩
  · exact ⟨rfl, fun x hx => ⟨_, by cases hx; rfl⟩⟩
  · exact ⟨rfl, fun _ hx => by cases hx⟩
  · exact ⟨rfl, fun _ hx => by cases hx⟩

theorem iso15693Slots_spec (acf : Mem UInt8) (txLen : Nat) (l : List (β × AcResult))
    (h : Iso15693Handle) (n : Nat) (round : List (β × AcResult))
    (hround : ∀ e ∈ round, ¬ e.2.Clean) (uuid : Mem UInt8) (boc : UInt8) :
    Triple (fun s => s.1.2.ac = l ++ round ∧ s.2 = h)
      (iso15693Slots (r.logging obs) acf txLen n (round.map fun e => slotOf e.2) uuid boc)
      (RoundDone l h (round.length + n)) := by
  induction n generalizing round uuid boc with
  | zero => exact fun s hs => ⟨hs.2, round, hs.1, rfl, hround, rfl⟩
  | succ n ih =>
    have hnext : ∀ e : β × AcResult, ¬ e.2.Clean → ∀ uuid,
        Triple (fun s => s.1.2.ac = l ++ round ++ [e] ∧ s.2 = h)
          (iso15693Slots (r.logging obs) acf txLen n ((round.map fun e => slotOf e.2) ++ [slotOf e.2])
            uuid e.2.bitOfCol)
          (RoundDone l h (round.length + (n + 1))) := by
      intro e he uuid
      have hall : ∀ e' ∈ round ++ [e], ¬ e'.2.Clean := by
        rw [List.forall_mem_append]
        exact ⟨hround, List.forall_mem_singleton.mpr he⟩
      have := ih (round ++ [e]) hall uuid e.2.bitOfCol
      rw [List.map_append, List.length_append, ← List.append_assoc, Nat.add_assoc,
        Nat.add_comm _ n] at this
      exact this
    refine .bind (transceiveAc_spec r obs acf txLen 10 boc (l ++ round) h) (fun x => ?_)
      (fun _ _ hs => hs.1) fun _ hs => hs.1
    rintro s hs
    obtain ⟨hh, b, hlog⟩ := Ends.of_ok hs
    dsimp only
    by_cases hneg : x.ret < 0
    · have hslot : slotOf x = .none := if_pos hneg
      rw [if_pos hneg, ← hslot]
      exact hnext (b, x) (fun hc => absurd hneg (Int.not_lt.mpr hc.1)) _ s ⟨hlog, hh⟩
    · by_cases hcol : x.bitOfCol ≠ 0
      · have hslot : slotOf x = .collided x.bitOfCol x.uuid := if_neg hneg
        rw [if_neg hneg, if_pos hcol]
        exact hslot ▸ hnext (b, x) (fun hc => hcol hc.2) _ s ⟨hlog, hh⟩
      · rw [if_neg hneg, if_neg hcol]
        refine ⟨l ++ round, (b, x), hlog, ⟨Int.not_lt.mp hneg, not_not.mp hcol⟩, ?_⟩
        rw [← hh]
        rfl

theorem takenFrom_clean (n : Nat) (l : List (β × AcResult)) {e : β × AcResult} (he : e.2.Clean) :
    takenFrom n (l ++ [e]) = some e := by
  rw [takenFrom, List.getLast?_concat]
  exact if_pos he

theorem takenFrom_round {n : Nat} (hn : n ≠ 0) (l round : List (β × AcResult))
    (hlen : round.length = n) (hround : ∀ e ∈ round, ¬ e.2.Clean) :
    takenFrom n (l ++ round) = (round.find? fun e => e.2.Collided).filter fun e =>
      ¬ uidPos e.2.bitOfCol < 65 := by
  have hne : round ≠ [] := fun h => hn (hlen ▸ congrArg List.length h)
  have hlast : (l ++ round).getLast? = some (round.getLast hne) := by
    rw [List.getLast?_append, List.getLast?_eq_some_getLast hne, Option.some_or]
  have hdrop : (l ++ round).drop ((l ++ round).length - n) = round := by
    rw [List.length_append, hlen, Nat.add_sub_cancel, List.drop_left]
  rw [takenFrom, hlast, hdrop]
  exact if_neg (hround _ (List.getLast_mem hne))

theorem takenFrom_mem {n : Nat} {l : List (β × AcResult)} {e : β × AcResult}
    (h : takenFrom n l = some e) : e ∈ l ∧ 0 ≤ e.2.ret := by
  unfold takenFrom at h
  cases hlast : l.getLast? with
  | none =>
    rw [hlast] at h
    cases h
  | some e' =>
    rw [hlast] at h
    dsimp only at h
    split_ifs at h with hclean
    · cases h
      exact ⟨List.mem_of_getLast? hlast, hclean.1⟩
    · obtain ⟨hfind, -⟩ := Option.filter_eq_some_iff.mp h
      have hcol : decide e.2.Collided = true :=
        List.find?_some (p := fun e : β × AcResult => decide e.2.Collided) hfind
      exact ⟨List.mem_of_mem_drop (List.mem_of_find?_eq_some hfind), (of_decide_eq_true hcol).1⟩

def AnticolDone (h : Iso15693Handle) : Outcome Int → (σ × AirLog β) × Iso15693Handle → Prop
  | .ok v, s => (v = 1 ∧ ∃ e, takenFrom h.slots s.1.2.ac = some e ∧ s.2 = h.withUid e.2.uuid) ∨
      v = -1 ∧ takenFrom h.slots s.1.2.ac = none ∧ s.2 = h
  | _, s => s.2 = h

theorem iso15693AcLoop_spec (h : Iso15693Handle) (fuel : Nat) (acf : Mem UInt8) (txLen : Nat)
    (boc : UInt8) :
    Triple (fun s => s.2 = h) (iso15693AcLoop (r.logging obs) h fuel acf txLen boc)
      (AnticolDone h) := by
  induction fuel generalizing acf txLen boc with
  | zero => exact fun s hs => hs
  | succ fuel ih =>
    intro s hs
    have hround := iso15693Slots_spec r obs acf txLen s.1.2.ac h h.slots [] nofun (fun _ => 0) boc
    rw [List.append_nil, List.length_nil, Nat.zero_add] at hround
    refine Triple.bind (R := AnticolDone h) hround (fun inv => ?_) (fun _ _ => id) (fun _ => id) s
      ⟨rfl, hs⟩
    cases inv with
    | found =>
      rintro s' ⟨l', e, hlog, hclean, hh⟩
      have htaken := takenFrom_clean h.slots l' hclean
      rw [← hlog] at htaken
      exact .inl ⟨rfl, e, htaken, hh⟩
    | slots l uuid boc' =>
      rintro s' ⟨hh, round, hlog, hlen, hdirty, rfl⟩
      have htaken := takenFrom_round h.slots_ne_zero s.1.2.ac round hlen hdirty
      rw [← hlog] at htaken
      dsimp only
      rw [firstCollided_map round hdirty]
      cases hfind : round.find? fun e => e.2.Collided with
      | none =>
        rw [hfind] at htaken
        exact .inr ⟨rfl, htaken, hh⟩
      | some e =>
        rw [hfind, Option.filter_some] at htaken
        have hboc : (if e.2.bitOfCol > 16 then e.2.bitOfCol - 16 else e.2.bitOfCol) =
            uidPos e.2.bitOfCol := rfl
        dsimp only [Option.map_some]
        rw [hboc]
        by_cases hpos : uidPos e.2.bitOfCol < 65
        · rw [if_pos hpos]
          exact ih _ _ _ s' hh
        · rw [if_pos (decide_eq_true hpos)] at htaken
          rw [if_neg hpos]
          exact .inl ⟨rfl, e, htaken, congrArg (Iso15693Handle.withUid · e.2.uuid) hh⟩

theorem iso15693Anticol_spec (h : Iso15693Handle) (stack : Mem UInt8) (boc : UInt8) (fuel : Nat) :
    Triple (fun s => s.2 = h) (iso15693Anticol (r.logging obs) stack boc fuel) (AnticolDone h) := by
  rintro ⟨s, h⟩ rfl
  exact iso15693AcLoop_spec r obs h fuel _ _ boc (s, h) rfl

end Spec

section Keeps

variable {σ : Type} {r : Iso15693Reader σ} {I : σ → Prop}

theorem keeps_setUid (uuid : List UInt8) :
    Exec.Keeps (fun s : σ × Iso15693Handle => I s.1) (setUid uuid) := fun _ => id

theorem iso15693Slots_keeps (hac : ∀ acf n m boc, Exec.Keeps I (r.transceiveAc acf n m boc))
    (acf : Mem UInt8) (txLen n : Nat) (l : List Slot) (uuid : Mem UInt8) (boc : UInt8) :
    Exec.Keeps (fun s => I s.1) (iso15693Slots r acf txLen n l uuid boc) := by
  induction n generalizing l uuid boc with
  | zero => exact .pure _
  | succ n ih =>
    exact .bind (.lift (hac acf txLen 10 boc)) fun _ => .ite (fun _ => ih _ _ _) fun _ =>
      .ite (fun _ => ih _ _ _) fun _ => .bind (keeps_setUid _) fun _ => .pure _

theorem iso15693AcLoop_keeps (hac : ∀ acf n m boc, Exec.Keeps I (r.transceiveAc acf n m boc))
    (h : Iso15693Handle) (fuel : Nat) (acf : Mem UInt8) (txLen : Nat) (boc : UInt8) :
    Exec.Keeps (fun s => I s.1) (iso15693AcLoop r h fuel acf txLen boc) := by
  induction fuel generalizing acf txLen boc with
  | zero => exact .hang
  | succ fuel ih =>
    refine .bind (iso15693Slots_keeps hac _ _ _ _ _ _) fun inv => ?_
    cases inv with
    | found => exact .pure _
    | slots l uuid boc' =>
      dsimp only
      cases firstCollided l with
      | none => exact .pure _
      | some c => exact .ite (fun _ => ih _ _ _) fun _ => .bind (keeps_setUid _) fun _ => .pure _

theorem iso15693Anticol_keeps (hac : ∀ acf n m boc, Exec.Keeps I (r.transceiveAc acf n m boc))
    (stack : Mem UInt8) (boc : UInt8) (fuel : Nat) :
    Exec.Keeps (fun s => I s.1) (iso15693Anticol r stack boc fuel) := fun s hs =>
  iso15693AcLoop_keeps hac s.2 fuel _ _ boc s hs

end Keeps

end Layer2

end Librfid
