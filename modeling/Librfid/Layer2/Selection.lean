import Librfid.Layer2.Anticollision
import Librfid.Layer2.Heard

namespace Librfid.Layer2

open Rc632 Exec

structure Answering {σ : Type} (r : Reader σ) : Prop where
  sf : ∀ cmd atqa, Stays (r.transceiveSf cmd atqa)
  acf : ∀ acf, Stays (r.transceiveAcf acf)
  regular : ∀ frametype tx txLen rx rxLen timeout,
    Stays (r.transceive frametype tx txLen rx rxLen timeout)
  level : ∀ {sel : UInt8} {acf : Mem UInt8}, AtLevel sel acf → Triple (fun _ => True)
    (r.transceiveAcf acf) (Ends (fun _ => True) fun x _ => AtLevel sel x.acf)

section

variable {σ : Type}

theorem reader_answering (t : FrameKind → Transport σ) (undef : UInt8) (fuel : Nat) (rxPast : RxConfig)
    (txPast : TxConfig) (speed : Nat) :
    Answering (reader rxPast txPast (fun k => (t k).asic undef fuel) speed) where
  sf cmd atqa := by
    refine .bind (.attempt _) fun o => ?_
    cases o with
    | error ret => exact .pure _
    | ok =>
      refine .bind (rc632Transceive_stays _ _ _ _ _ _ _) fun x => .ite (.pure _) ?_
      refine .bind (.attempt _) fun o => ?_
      cases o with
      | error ret => exact .pure _
      | ok => exact .ite (.pure _) (.pure _)
  acf acf := by
    refine .bind (.attempt _) fun o => ?_
    cases o with
    | error ret => exact .pure _
    | ok =>
      refine .bind (rc632Transceive_stays _ _ _ _ _ _ _) fun x => .ite (.pure _) ?_
      refine .bind (.attempt _) fun o => ?_
      cases o <;> exact .pure _
  regular := rc632Iso14443abTransceive_stays (t .regular) undef fuel
  level := by
    rintro sel acf h s hs
    refine ⟨trivial, fun x hx => ?_⟩
    rcases (rc632Iso14443aTransceiveAcf_acf _ acf s hs).2 x hx with hacf | ⟨y, hacf⟩
    · exact hacf ▸ h
    · exact hacf ▸ h.merge y

end

def Cascades (e : Mem UInt8 × AbResult) : Prop := e.2.rx 0 &&& 0x04 ≠ 0

def Completes (e : Mem UInt8 × AbResult) : Prop := 0 ≤ e.2.ret ∧ e.2.rx 0 &&& 0x04 = 0

def uidParts (levels : List (Mem UInt8 × AbResult)) : List UInt8 :=
  levels.flatMap fun e => e.1.load 3 3

structure Reading (levels : List (Mem UInt8 × AbResult)) (h : Handle) : Prop where
  cascades : ∀ e ∈ levels, Cascades e
  first : ∀ e ∈ levels.head?, e.1 2 = 0x88
  state : h.state = .anticolRunning
  level : h.level = handleLevel levels.length
  uid : h.uid.load 0 (3 * levels.length) = uidParts levels

theorem Reading.next {levels : List (Mem UInt8 × AbResult)} {h : Handle} (hr : Reading levels h)
    {e : Mem UInt8 × AbResult} (hcascades : Cascades e) (htag : levels = [] → e.1 2 = 0x88) :
    Reading (levels ++ [e]) { h with
      uid := h.uid.store (3 * levels.length : Nat) (e.1.load 3 3)
      level := handleLevel (levels.length + 1) } where
  cascades := List.forall_mem_append.mpr ⟨hr.cascades, List.forall_mem_singleton.mpr hcascades⟩
  first := by
    cases levels with
    | nil =>
      rintro _ ⟨⟩
      exact htag rfl
    | cons e' levels => exact hr.first
  state := hr.state
  level := by rw [List.length_append, List.length_singleton]
  uid := by
    have hstore := Mem.load_store_append h.uid 0 (n := 3 * levels.length) (Mem.length_load e.1 3 3)
    rw [Int.zero_add, hr.uid] at hstore
    rw [List.length_append, List.length_singleton, uidParts, List.flatMap_append, Nat.mul_add]
    refine hstore.trans ?_
    simp [uidParts]

structure Whole (levels : List (Mem UInt8 × AbResult)) (last : Mem UInt8 × AbResult)
    (selects : List (Mem UInt8 × AbResult)) (h : Handle) : Prop where
  selects : selects = levels ++ [last]
  short : levels.length < 3
  cascades : ∀ e ∈ levels, Cascades e
  first : ∀ e ∈ levels.head?, e.1 2 = 0x88
  completes : Completes last
  level : h.level = handleLevel levels.length
  uid : h.uid.load 0 (3 * levels.length + 4) = uidParts levels ++ last.1.load 2 4

theorem Reading.whole {levels : List (Mem UInt8 × AbResult)} {h : Handle} (hr : Reading levels h)
    (hshort : levels.length < 3) {e : Mem UInt8 × AbResult} (hcompletes : Completes e) :
    Whole levels e (levels ++ [e])
      { h with uid := h.uid.store (3 * levels.length : Nat) (e.1.load 2 4) } where
  selects := rfl
  short := hshort
  cascades := hr.cascades
  first := hr.first
  completes := hcompletes
  level := hr.level
  uid := by
    have hstore := Mem.load_store_append h.uid 0 (n := 3 * levels.length) (Mem.length_load e.1 2 4)
    rw [Int.zero_add, hr.uid] at hstore
    exact hstore

section

variable {σ ρ : Type} {r : Reader σ} (hr : Answering r) (randomBit : ρ → Bool × ρ)

def Listening (levels : List (Mem UInt8 × AbResult)) (s : (σ × Heard) × Vars ρ) : Prop :=
  Reading levels s.2.handle ∧ s.1.2.selects = levels

def Cascaded : Outcome (Mem UInt8) → (σ × Heard) × Vars ρ → Prop
  | .ok sak, s => ∃ levels last, Whole levels last s.1.2.selects s.2.handle ∧ sak 0 = last.2.rx 0
  | .fail _, s => s.2.handle.state ≠ .selected ∧ ∀ e ∈ s.1.2.selects, ¬ Completes e
  | .hang, _ => True

theorem not_completes_of_cascades {e : Mem UInt8 × AbResult} (h : Cascades e) : ¬ Completes e :=
  fun hc => h hc.2

theorem Listening.failed {levels : List (Mem UInt8 × AbResult)} {s : (σ × Heard) × Vars ρ}
    (h : Listening levels s) (code : Int) : Cascaded (.fail code) s := by
  refine ⟨fun hstate => ?_, fun e he => not_completes_of_cascades (h.1.cascades e (h.2 ▸ he))⟩
  rw [h.1.state] at hstate
  cases hstate

include hr

theorem transceiveAcf_told {levels : List (Mem UInt8 × AbResult)} {sel : UInt8} {acf : Mem UInt8}
    (h : AtLevel sel acf) :
    Triple (Listening levels) (lift ((hearing r).transceiveAcf acf) : Iso14443aM (σ × Heard) ρ _)
      (Ends (Listening levels) fun x s => AtLevel sel x.acf ∧ s.1.2.last = x.acf) := by
  rintro ⟨⟨s, log⟩, v⟩ hs
  have hlevel := hr.level h s trivial
  simp only [lift, hearing, record_run]
  rcases hx : r.transceiveAcf acf s with ⟨x | code | _, s'⟩
  · rw [hx] at hlevel
    refine ⟨hs, ?_⟩
    rintro _ ⟨⟩
    exact ⟨hlevel.2 x rfl, rfl⟩
  · exact ⟨hs, fun a h => by cases h⟩
  · exact ⟨hs, fun a h => by cases h⟩

theorem iso14443aCollisions_told {levels : List (Mem UInt8 × AbResult)} {sel : UInt8} (fuel : Nat)
    {acf : Mem UInt8} (bitOfCol : Nat) (h : AtLevel sel acf) :
    Triple (fun s : (σ × Heard) × Vars ρ => Listening levels s ∧ s.1.2.last = acf)
      (iso14443aCollisions (hearing r) randomBit fuel acf bitOfCol)
      (Ends (Listening levels) fun acf s => AtLevel sel acf ∧ s.1.2.last = acf) := by
  induction fuel generalizing acf bitOfCol with
  | zero => exact .ends_hang fun _ => And.left
  | succ fuel ih =>
    refine .ite (fun _ => .ends_pure fun s hs => ⟨hs.1, h, hs.2⟩) fun _ => ?_
    have htoggle : Triple (fun s : (σ × Heard) × Vars ρ => Listening levels s ∧ s.1.2.last = acf)
        (rndToggleBitInField randomBit (codeNvb acf bitOfCol) acfUidBits 5 bitOfCol)
        (Ends (Listening levels) fun acf _ => AtLevel sel acf) := by
      rintro ⟨s, v⟩ hs
      obtain ⟨b, v', hrun, hv⟩ := rndToggleBitInField_run randomBit (codeNvb acf bitOfCol) acfUidBits 5
        bitOfCol s v
      rw [hrun]
      refine ⟨⟨hv ▸ hs.1.1, hs.1.2⟩, ?_⟩
      rintro _ ⟨⟩
      split_ifs
      · exact (h.codeNvb bitOfCol).set (by rw [acfUidBits]; omega) _
      · exact h.codeNvb bitOfCol
    refine .ends_bind htoggle fun acf => .assume fun hacf => ?_
    refine .ends_bind (transceiveAcf_told hr hacf) fun x => ?_
    refine .ends_bind (Q := fun _ s => AtLevel sel x.acf ∧ s.1.2.last = x.acf)
      (.ends_check fun s hs => ⟨hs.1, fun _ => hs.2⟩) fun _ s hs => ?_
    exact ih x.bitOfCol hs.2.1 s ⟨hs.1, hs.2.2⟩

omit hr in
theorem transceive_selects {levels : List (Mem UInt8 × AbResult)} (acf tx : Mem UInt8)
    (txLen : Nat) (rx : Mem UInt8) (rxLen timeout : Nat) :
    Triple (fun s : (σ × Heard) × Vars ρ => Listening levels s ∧ s.1.2.last = acf)
      (lift ((hearing r).transceive .iso14443aFrameRegular tx txLen rx rxLen timeout))
      fun o s => match o with
        | .ok y => Reading levels s.2.handle ∧ s.1.2.selects = levels ++ [(acf, y)]
        | _ => Listening levels s := by
  rintro ⟨⟨s, log⟩, v⟩ ⟨⟨hreading, hselects⟩, hlast⟩
  simp only [lift, hearing, record_run]
  rcases hx : r.transceive .iso14443aFrameRegular tx txLen rx rxLen timeout s with ⟨y | code | _, s'⟩
  · refine ⟨hreading, ?_⟩
    simp only at hselects hlast ⊢
    rw [hselects, hlast]
  · exact ⟨hreading, hselects⟩
  · exact ⟨hreading, hselects⟩

omit hr in
theorem failed_of_last {levels : List (Mem UInt8 × AbResult)} {e : Mem UInt8 × AbResult}
    {s : (σ × Heard) × Vars ρ} (hcascades : ∀ e ∈ levels, Cascades e)
    (hselects : s.1.2.selects = levels ++ [e]) (he : ¬ Completes e)
    (hstate : s.2.handle.state ≠ .selected) (code : Int) : Cascaded (.fail code) s := by
  refine ⟨hstate, ?_⟩
  rw [hselects]
  exact List.forall_mem_append.mpr
    ⟨fun e he => not_completes_of_cascades (hcascades e he), List.forall_mem_singleton.mpr he⟩

theorem iso14443aCascade_heard (fuel : Nat) {levels : List (Mem UInt8 × AbResult)}
    {acf sak : Mem UInt8} (hsel : acf 0 = acSelCode levels.length) (hshort : levels.length < 3) :
    Triple (Listening levels) (iso14443aCascade (hearing r) randomBit fuel acf sak)
      (Cascaded (ρ := ρ)) := by
  induction fuel generalizing levels acf sak with
  | zero => exact fun _ _ => trivial
  | succ fuel ih =>
    unfold iso14443aCascade
    refine .bind (transceiveAcf_told hr (.first hsel)) (fun x => ?_) (fun code _ h => h.1.failed code)
      fun _ _ => trivial
    refine .bind (Q := Ends (Listening levels) fun _ s =>
        AtLevel (acSelCode levels.length) x.acf ∧ s.1.2.last = x.acf)
      (.ends_check fun s hs => ⟨hs.1, fun _ => hs.2 x rfl⟩) (fun _ => ?_)
      (fun code _ h => h.1.failed code) fun _ _ => trivial
    intro s hs
    refine Triple.bind (iso14443aCollisions_told hr randomBit fuel x.bitOfCol (hs.2 () rfl).1)
      (fun acf => ?_) (fun code _ h => h.1.failed code) (fun _ _ => trivial) s
      ⟨hs.1, (hs.2 () rfl).2⟩
    clear hs s
    intro s hs
    have hcode : codeNvb acf (7 * 8) 0 = acSelCode levels.length :=
      (codeNvb_zero _ _).trans (hs.2 acf rfl).1.selCode
    have hload : ∀ {q : Int} {n : Nat}, 2 ≤ q → (codeNvb acf (7 * 8)).load q n = acf.load q n :=
      fun hq => Mem.load_congr fun _ hle _ => codeNvb_of_ge acf _ (by omega)
    refine Triple.bind (transceive_selects acf _ _ _ _ _) (fun y => ?_)
      (fun code _ h => h.failed code) (fun _ _ => trivial) s ⟨hs.1, (hs.2 acf rfl).2⟩
    clear hs s
    have hfail : ∀ {s : (σ × Heard) × Vars ρ} (code : Int), ¬ Completes (acf, y) →
        Reading levels s.2.handle ∧ s.1.2.selects = levels ++ [(acf, y)] →
        Cascaded (.fail code) s := fun code he hs => by
      refine failed_of_last hs.1.cascades hs.2 he (fun hstate => ?_) code
      rw [hs.1.state] at hstate
      cases hstate
    by_cases hneg : y.ret < 0
    · rw [check_of_neg hneg]
      exact fun s hs => hfail y.ret (fun he => absurd he.1 (Int.not_le.mpr hneg)) hs
    rw [check_of_nonneg (Int.not_lt.mp hneg)]
    refine Triple.ite (fun hbit => ?_) fun hbit => ?_
    · have hcascades : Cascades (acf, y) := hbit
      have hincomplete := not_completes_of_cascades hcascades
      have hrec : ∀ sel : UInt8, sel = acSelCode (levels.length + 1) → levels.length + 1 < 3 →
          (levels = [] → acf 2 = 0x88) →
          Triple (fun s => Reading levels s.2.handle ∧ s.1.2.selects = levels ++ [(acf, y)])
            (setHandle (fun h => { h with
                uid := h.uid.store (3 * levels.length : Nat) ((codeNvb acf (7 * 8)).load 3 3)
                level := handleLevel (levels.length + 1) }) >>= fun _ =>
              iso14443aCascade (hearing r) randomBit fuel ((codeNvb acf (7 * 8)).set 0 sel) y.rx)
            (Cascaded (ρ := ρ)) := by
        rintro sel hsel hlen htag ⟨s, v⟩ hs
        have hnext := hs.1.next hcascades htag
        rw [hload (by decide)]
        have hlength : (levels ++ [(acf, y)]).length = levels.length + 1 := List.length_append
        refine ih (?_ : _ = acSelCode (levels ++ [(acf, y)]).length) ?_ (s, _) ⟨hnext, hs.2⟩
        · rw [Mem.set_self, hsel, hlength]
        · rw [hlength]
          exact hlen
      rw [hcode]
      rcases levels with _ | ⟨e, _ | ⟨e', _ | ⟨e'', levels⟩⟩⟩
      · refine Triple.ite (fun _ => .ite (fun _ => ?_) fun htag => ?_) fun h => absurd rfl h
        · exact fun s hs => hfail (-1) hincomplete hs
        · refine hrec _ rfl (by decide) fun _ => ?_
          rw [← codeNvb_of_ge acf (7 * 8) (Int.le_refl 2)]
          exact not_not.mp htag
      · exact hrec _ rfl (by simp) fun h => by cases h
      · have herror : Iso14443aState.error ≠ .selected := by decide
        rintro ⟨s, v⟩ hs
        exact failed_of_last (s := (s, { v with handle := { v.handle with state := .error } }))
          hs.1.cascades hs.2 hincomplete herror (-1)
      · exact absurd hshort (by simp)
    · have hcompletes : Completes (acf, y) := ⟨Int.not_lt.mp hneg, not_not.mp hbit⟩
      rintro ⟨s, v⟩ hs
      refine ⟨levels, (acf, y), ?_, rfl⟩
      have hwhole := hs.1.whole hshort hcompletes
      simp only [storeUid_eq hshort hcode]
      rw [hload (by decide)]
      exact hs.2 ▸ hwhole

structure Chosen (levels : List (Mem UInt8 × AbResult)) (last : Mem UInt8 × AbResult)
    (selects : List (Mem UInt8 × AbResult)) (h : Handle) : Prop where
  selects : selects = levels ++ [last]
  short : levels.length < 3
  first : ∀ e ∈ levels.head?, e.1 2 = 0x88
  completes : Completes last
  state : h.state = .selected
  level : h.level = .none
  uidLen : h.uidLen = 3 * levels.length + 4
  uid : h.uid.load 0 (3 * levels.length + 4) = uidParts levels ++ last.1.load 2 4
  proto : h.protoSupported = if last.2.rx 0 &&& 0x20 ≠ 0 then 1 <<< protocolTcl
    else 1 <<< protocolMifareUl ||| 1 <<< protocolMifareClassic

omit hr in
theorem Whole.selected {levels : List (Mem UInt8 × AbResult)} {last : Mem UInt8 × AbResult}
    {selects : List (Mem UInt8 × AbResult)} {h : Handle} (hw : Whole levels last selects h) :
    Chosen levels last selects (iso14443aSelected (last.2.rx 0) h) where
  selects := hw.selects
  short := hw.short
  first := hw.first
  completes := hw.completes
  state := by
    unfold iso14443aSelected
    split_ifs <;> rfl
  level := by
    unfold iso14443aSelected
    split_ifs <;> rfl
  uidLen := by
    have hlevel := hw.level
    have hshort := hw.short
    unfold iso14443aSelected
    rw [hlevel]
    rcases levels with _ | ⟨e, _ | ⟨e', _ | ⟨e'', levels⟩⟩⟩
    · split_ifs <;> rfl
    · split_ifs <;> rfl
    · split_ifs <;> rfl
    · exact absurd hshort (by simp)
  uid := by
    rw [← hw.uid]
    unfold iso14443aSelected
    split_ifs <;> rfl
  proto := by
    unfold iso14443aSelected
    split_ifs <;> rfl

def Opened : Outcome Unit → (σ × Heard) × Vars ρ → Prop
  | .ok _, s => ∃ levels last, Chosen levels last s.1.2.selects s.2.handle
  | .fail _, s => s.2.handle.state ≠ .selected ∧ ∀ e ∈ s.1.2.selects, ¬ Completes e
  | .hang, _ => True

omit hr in
theorem Opened.left {s : (σ × Heard) × Vars ρ} (hselects : s.1.2.selects = [])
    (hstate : s.2.handle.state ≠ .selected) (code : Int) : Opened (.fail code) s := by
  refine ⟨hstate, ?_⟩
  rw [hselects]
  exact List.forall_mem_nil _

theorem iso14443aAnticol_heard (fuel : Nat) :
    Triple (fun s : (σ × Heard) × Vars ρ => s.1.2.selects = [])
      (iso14443aAnticol (hearing r) randomBit fuel) (Opened (ρ := ρ)) := by
  have hsf : ∀ cmd atqa, Triple (fun s : (σ × Heard) × Vars ρ => s.1.2.selects = [])
      (lift ((hearing r).transceiveSf cmd atqa))
      fun o s => (∀ code, o ≠ .fail code) ∧ s.1.2.selects = [] := by
    intro cmd atqa s hs
    have hstays : Stays ((hearing r).transceiveSf cmd atqa) :=
      .bind (.modify _) fun _ => .lift (hr.sf cmd atqa)
    exact ⟨hstays s.1, hs⟩
  rintro ⟨s, v⟩ hs
  refine Triple.bind (hsf _ _) (fun x => ?_) (fun code _ h => absurd rfl (h.1 code))
    (fun _ _ => trivial) (s, _) hs
  rintro ⟨s, v⟩ ⟨-, hs⟩
  by_cases hneg : x.ret < 0
  · rw [when_of hneg]
    have hstate : Iso14443aState.reqaSent ≠ .selected := by decide
    exact Opened.left (s := (s, { v with handle := { v.handle with
      atqa := x.atqa, state := .reqaSent } })) hs hstate x.ret
  rw [when_of_not hneg]
  by_cases hbf : bfAnticol x.atqa = 0
  · rw [when_of hbf]
    have hstate : Iso14443aState.noBitframeAnticol ≠ .selected := by decide
    exact Opened.left (s := (s, { v with handle := { v.handle with
      atqa := x.atqa, state := .noBitframeAnticol } })) hs hstate (-1)
  rw [when_of_not hbf]
  have hsel : Mem.ofList (fun _ => 0) [acSelCodeCl1, 0, 0, 0, 0, 0, 0] 0 = acSelCode 0 := rfl
  have hrest : Triple (Listening [])
      (iso14443aCascade (hearing r) randomBit fuel
        (Mem.ofList (fun _ => 0) [acSelCodeCl1, 0, 0, 0, 0, 0, 0]) (fun _ => 0) >>= fun sak =>
        setHandle (iso14443aSelected (sak 0))) (Opened (ρ := ρ)) := by
    refine .bind (iso14443aCascade_heard hr randomBit fuel hsel (by decide)) (fun sak => ?_)
      (fun code _ h => h) fun _ _ => trivial
    rintro ⟨s, v⟩ ⟨levels, last, hwhole, hsak⟩
    refine ⟨levels, last, ?_⟩
    rw [hsak]
    exact hwhole.selected
  refine hrest (s, _) ⟨?_, hs⟩
  exact ⟨List.forall_mem_nil _, fun e he => absurd he (by simp), rfl, rfl, rfl⟩

theorem iso14443aCollisions_errs (fuel : Nat) (acf : Mem UInt8) (bitOfCol : Nat) :
    Errs (iso14443aCollisions (ρ := ρ) (hearing r) randomBit fuel acf bitOfCol) := by
  induction fuel generalizing acf bitOfCol with
  | zero => exact .hang
  | succ fuel ih =>
    refine .ite (.pure _) ?_
    have htoggle : Errs (rndToggleBitInField (σ := σ × Heard) randomBit (codeNvb acf bitOfCol)
        acfUidBits 5 bitOfCol) :=
      .ite (.bind (.bind .get fun _ => .bind (.modify _) fun _ => .pure _) fun _ => .pure _) (.pure _)
    exact .bind htoggle fun acf => .bind (.lift ((hr.acf acf).record _).errs) fun x =>
      .bind (.check _) fun _ => ih _ _

theorem iso14443aCascade_errs (fuel : Nat) (acf sak : Mem UInt8) :
    Errs (iso14443aCascade (ρ := ρ) (hearing r) randomBit fuel acf sak) := by
  induction fuel generalizing acf sak with
  | zero => exact .hang
  | succ fuel ih =>
    refine .bind (.lift ((hr.acf _).record _).errs) fun x => .bind (.check _) fun _ =>
      .bind (iso14443aCollisions_errs hr randomBit fuel _ _) fun acf =>
      .bind (.lift ((hr.regular _ _ _ _ _ _).record _).errs) fun y => .bind (.check _) fun _ => ?_
    refine .ite (.ite (.ite (.fail (by decide)) ?_) (.ite ?_ ?_)) ?_
    · exact .bind (.modify _) fun _ => ih _ _
    · exact .bind (.modify _) fun _ => ih _ _
    · exact .bind (.modify _) fun _ => .fail (by decide)
    · exact .bind (.modify _) fun _ => .pure _

theorem iso14443aAnticol_errs (fuel : Nat) :
    Errs (iso14443aAnticol (ρ := ρ) (hearing r) randomBit fuel) := by
  have hsf : ∀ cmd atqa, Stays ((hearing r).transceiveSf cmd atqa) := fun cmd atqa =>
    .bind (.modify _) fun _ => .lift (hr.sf cmd atqa)
  refine .bind (.modify _) fun _ => .bind .get fun v => .bind (.lift (hsf _ _).errs) fun x =>
    .bind (.modify _) fun _ => .bind (.when fun h => ?_) fun _ => .bind (.modify _) fun _ =>
    .bind (.when fun _ => ?_) fun _ => .bind (.modify _) fun _ =>
    .bind (iso14443aCascade_errs hr randomBit fuel _ _) fun _ => .modify _
  · exact .bind (.modify _) fun _ => .fail h
  · exact .bind (.modify _) fun _ => .fail (by decide)

end

inductive HandleOp
  | open
  | close
  deriving DecidableEq

def HandleOp.run {σ ρ : Type} (r : Reader σ) (randomBit : ρ → Bool × ρ) (fuel : Nat) :
    HandleOp → Iso14443aM (σ × Heard) ρ Int
  | .open => do
    iso14443aAnticol (hearing r) randomBit fuel
    pure 0
  | .close => iso14443aHlta (hearing r)

def returned : Outcome Int → Option Int
  | .ok ret => some ret
  | .fail code => some code
  | .hang => none

structure HandleEvent where
  op : HandleOp
  ret : Option Int
  heard : Heard
  handle : Handle

def handleTrace {σ ρ : Type} (r : Reader σ) (randomBit : ρ → Bool × ρ) (fuel : Nat) :
    List HandleOp → σ → Vars ρ → List HandleEvent
  | [], _, _ => []
  | op :: ops, s, v =>
    let x := op.run r randomBit fuel ((s, .empty), v)
    ⟨op, returned x.1, x.2.1.2, x.2.2.handle⟩ ::
      match x.1 with
      | .hang => []
      | _ => handleTrace r randomBit fuel ops x.2.1.1 x.2.2

/-- What the handle has to show after an open that returns 0: `levels` are those before the last. -/
structure Shows (levels : List (Mem UInt8 × AbResult)) (last : Mem UInt8 × AbResult)
    (heard : Heard) (h : Handle) : Prop where
  selects : heard.selects = levels ++ [last]
  short : levels.length < 3
  level : h.level = .none
  cascaded : ∀ e ∈ levels, e.1 2 = 0x88
  uidLen : h.uidLen = 3 * levels.length + 4
  uid : h.uid.load 0 h.uidLen = uidParts levels ++ last.1.load 2 4
  proto : h.protoSupported = if last.2.rx 0 &&& 0x20 ≠ 0 then 1 <<< protocolTcl
    else 1 <<< protocolMifareUl ||| 1 <<< protocolMifareClassic

structure HandleEvent.Good (e : HandleEvent) : Prop where
  selected : e.ret = some 0 ↔ e.handle.state = .selected
  shows : e.ret = some 0 → ∃ levels last, Shows levels last e.heard e.handle

/-- Where a third level completes, the second began with the cascade tag. -/
def HandleEvent.Tagged (e : HandleEvent) : Prop :=
  ∀ l₁ l₂ l₃, e.heard.selects = [l₁, l₂, l₃] → Completes l₃ → l₂.1 2 = 0x88

section

variable {σ ρ : Type} {r : Reader σ} (hr : Answering r) (randomBit : ρ → Bool × ρ) (fuel : Nat)

theorem Chosen.good_iff {levels : List (Mem UInt8 × AbResult)} {last : Mem UInt8 × AbResult}
    {heard : Heard} {h : Handle} (hc : Chosen levels last heard.selects h) :
    let e : HandleEvent := ⟨.open, some 0, heard, h⟩
    e.Good ↔ e.Tagged := by
  constructor
  · intro hgood l₁ l₂ l₃ hselects _
    obtain ⟨levels', last', hshows⟩ := hgood.shows rfl
    have hlevels : levels' ++ [last'] = [l₁, l₂] ++ [l₃] := hshows.selects.symm.trans hselects
    obtain ⟨rfl, -⟩ := List.append_inj' hlevels rfl
    exact hshows.cascaded l₂ (by simp)
  · intro htagged
    refine ⟨iff_of_true rfl hc.state, fun _ => ⟨levels, last, ?_⟩⟩
    refine ⟨hc.selects, hc.short, hc.level, ?_, hc.uidLen, hc.uidLen ▸ hc.uid, hc.proto⟩
    have hfirst := hc.first
    have hselects := hc.selects
    have hshort := hc.short
    rcases levels with _ | ⟨l₁, _ | ⟨l₂, _ | ⟨l₃, levels⟩⟩⟩
    · exact List.forall_mem_nil _
    · exact List.forall_mem_singleton.mpr (hfirst l₁ rfl)
    · have hsecond := htagged l₁ l₂ last hselects hc.completes
      exact List.forall_mem_cons.mpr ⟨hfirst l₁ rfl, List.forall_mem_singleton.mpr hsecond⟩
    · exact absurd hshort (by simp)

include hr

theorem HandleOp.open_good_iff (s : σ) (v : Vars ρ)
    (hret : (HandleOp.open.run r randomBit fuel ((s, .empty), v)).1 ≠ .hang) :
    let x := HandleOp.open.run r randomBit fuel ((s, .empty), v)
    let e : HandleEvent := ⟨.open, returned x.1, x.2.1.2, x.2.2.handle⟩
    e.Good ↔ e.Tagged := by
  have hopened := iso14443aAnticol_heard hr randomBit fuel ((s, .empty), v) rfl
  have herrs := iso14443aAnticol_errs hr randomBit fuel ((s, .empty), v)
  rcases hrun : iso14443aAnticol (hearing r) randomBit fuel ((s, .empty), v) with
    ⟨_ | code | _, ⟨s', heard⟩, v'⟩ <;> rw [hrun] at hopened herrs
  · obtain ⟨levels, last, hchosen⟩ := hopened
    rw [HandleOp.run, bind_ok hrun]
    exact hchosen.good_iff
  · have hcode : some code ≠ some 0 := fun h => absurd (herrs code rfl) (by
      rw [Option.some.inj h]
      exact Int.lt_irrefl 0)
    rw [HandleOp.run, bind_fail hrun]
    refine iff_of_true ⟨iff_of_false hcode hopened.1, fun h => absurd h hcode⟩ ?_
    intro l₁ l₂ l₃ hselects hcompletes
    have hmem : l₃ ∈ heard.selects := by
      simp only at hselects
      rw [hselects]
      simp
    exact absurd hcompletes (hopened.2 l₃ hmem)
  · rw [HandleOp.run, bind_hang hrun] at hret
    exact absurd rfl hret

theorem handleTrace_good {ops : List HandleOp} {s : σ} {v : Vars ρ} :
    ∀ e ∈ handleTrace r randomBit fuel ops s v, e.op = .open → e.ret ≠ none →
      (e.Good ↔ e.Tagged) := by
  induction ops generalizing s v with
  | nil =>
    intro e he
    cases he
  | cons op ops ih =>
    intro e he
    rw [handleTrace] at he
    rcases List.mem_cons.mp he with rfl | he
    · intro hop hret
      simp only at hop
      subst hop
      refine HandleOp.open_good_iff hr randomBit fuel s v fun hhang => hret ?_
      simp only [hhang, returned]
    · split at he
      · cases he
      · exact ih e he

end

/-- The step from the second level to the third does not look for the cascade tag, as that from
the first does.  Else a handle shows after each open what was heard. -/
theorem handleTrace_good_iff {σ ρ : Type} (t : FrameKind → Transport σ) (undef : UInt8)
    (rounds : Nat) (rxPast : RxConfig) (txPast : TxConfig) (speed : Nat) (randomBit : ρ → Bool × ρ)
    (fuel : Nat) (ops : List HandleOp) (s : σ) (v : Vars ρ) :
    ∀ e ∈ handleTrace (reader rxPast txPast (fun k => (t k).asic undef rounds) speed) randomBit fuel
      ops s v, e.op = .open → e.ret ≠ none → (e.Good ↔ e.Tagged) :=
  handleTrace_good (reader_answering t undef rounds rxPast txPast speed) randomBit fuel

def scriptedChip : Transport (List (List UInt8)) where
  writeReg _ _ s := (0, s)
  readReg reg s := ((0, if reg = regFifoLength then UInt8.ofNat (s.headD []).length else 0), s)
  writeFifo _ _ s := (0, s)
  readFifo _ s := ((0, s.headD []), s.tail)

def blankHandle : Handle := ⟨fun _ => 0, 0, 0, 0, .none, .none, 0, fun _ => 0, 0⟩

def scriptedTrace (answers : List (List UInt8)) : List HandleEvent :=
  handleTrace (reader ⟨0, 0, 0, 0⟩ ⟨0, 0⟩ (fun _ => scriptedChip.asic 0 1) rfid14443aSpeed106k)
    (fun u : Unit => (false, u)) 8 [.open, .close] answers ⟨blankHandle, ()⟩

theorem handleTrace_good_single :
    ∃ e ∈ scriptedTrace [[0x04, 0x00], [1, 2, 3, 4, 4], [0x20]],
      e.op = .open ∧ e.ret = some 0 ∧ (e.Good ↔ e.Tagged) := by
  have hfirst : (scriptedTrace [[0x04, 0x00], [1, 2, 3, 4, 4], [0x20]]).head?.map
      (fun e => (e.op, e.ret)) = some (.open, some 0) := by
    decide +kernel
  obtain ⟨e, he, hboth⟩ := Option.map_eq_some_iff.mp hfirst
  obtain ⟨hop, hret⟩ := Prod.mk.inj hboth
  have hmem := List.mem_of_head? he
  refine ⟨e, hmem, hop, hret, ?_⟩
  exact handleTrace_good_iff _ _ _ _ _ _ _ _ _ _ _ e hmem hop (by simp [hret])

def scriptedReader : Reader (List (List UInt8)) where
  transceive _ _ _ rx _ _ s := (.ok ⟨0, (s.headD []).length, rx.store 0 (s.headD [])⟩, s.tail)
  init := pure ()
  transceiveSf _ atqa s := (.ok ⟨0, atqa.store 0 (s.headD [])⟩, s.tail)
  transceiveAcf acf s := (.ok ⟨0, acf.store 2 (s.headD []), iso14443aBitOfColNone⟩, s.tail)
  speed := rfid14443aSpeed106k
  setSpeed _ _ := pure ()

/-- The second level begins with 0x11. -/
theorem handleTrace_untagged :
    ∃ e ∈ handleTrace scriptedReader (fun u : Unit => (false, u)) 8 [.open]
        [[0x04, 0x00], [0x88, 1, 2, 3, 0], [0x04], [0x11, 5, 6, 7, 0], [0x04], [8, 9, 10, 11, 0],
          [0x20]] ⟨blankHandle, ()⟩,
      e.op = .open ∧ e.ret = some 0 ∧
        e.handle.uid.load 0 10 = [1, 2, 3, 5, 6, 7, 8, 9, 10, 11] ∧ ¬ e.Good := by
  refine ⟨_, .head _, rfl, rfl, rfl, fun hgood => ?_⟩
  obtain ⟨levels, last, hshows⟩ := hgood.shows rfl
  obtain ⟨rfl, -⟩ := List.append_inj' (hshows.selects.symm.trans (rfl : _ = [_, _] ++ [_])) rfl
  exact absurd (hshows.cascaded _ (.tail _ (.head _))) (by decide)

end Librfid.Layer2
