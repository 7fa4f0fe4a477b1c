import Librfid.Layer2.Inventory

namespace Librfid.Layer2

open Rc632 Exec

def rfidLayer2SetoptUid (h : Iso15693Handle) (optval : Mem UInt8) (optlen : Nat) :
    Int × Iso15693Handle :=
  if h.uidLen < 10 ∧ optlen ≤ 10 then
    (0, { h with uidLen := optlen, uid := h.uid.store 0 (optval.load 0 optlen) })
  else (-eInval, h)

inductive TagOp
  | anticol (stack : Mem UInt8) (boc : UInt8)
  | select (stack : Mem UInt8)
  | stayQuiet (stack : Mem UInt8)
  | readBlock (stack : Mem UInt8) (blocknr : UInt8) (len : Nat) (blockSecOut : Bool)
  | writeBlock (stack : Mem UInt8) (blocknr : UInt8) (data : List UInt8)
  | setUid (optval : Mem UInt8) (optlen : Nat)

def TagOp.run {σ : Type} (r : Iso15693Reader σ) (fuel : Nat) : TagOp → Iso15693M σ Int
  | anticol stack boc => iso15693Anticol r stack boc fuel
  | select stack => iso15693Select r stack
  | stayQuiet stack => iso15693StayQuiet r stack
  | readBlock stack blocknr len blockSecOut => do
    let x ← iso15693ReadBlock r stack blocknr len blockSecOut
    pure x.ret
  | writeBlock stack blocknr data => iso15693WriteBlock r stack blocknr data
  | setUid optval optlen => fun (s, h) =>
    let (ret, h) := rfidLayer2SetoptUid h optval optlen
    (.ok ret, (s, h))

def TagOp.isBlock : TagOp → Bool
  | readBlock .. => true
  | writeBlock .. => true
  | _ => false

def TagOp.isSelect : TagOp → Bool
  | select _ => true
  | _ => false

/-- One call of a run: the handle before and after it, how it ended, and the answers it got. -/
structure TagEvent where
  op : TagOp
  before : Iso15693Handle
  out : Outcome Int
  after : Iso15693Handle
  air : AirLog Unit

def TagOp.event {σ : Type} (r : Iso15693Reader σ) (fuel : Nat) (op : TagOp) (s : σ)
    (h : Iso15693Handle) : TagEvent :=
  let x := op.run (r.logging fun _ _ _ _ _ => ()) fuel ((s, .empty), h)
  ⟨op, h, x.1, x.2.2, x.2.1.2⟩

def tagTrace {σ : Type} (r : Iso15693Reader σ) (fuel : Nat) :
    List TagOp → σ → Iso15693Handle → List TagEvent
  | [], _, _ => []
  | op :: ops, s, h =>
    let x := op.run (r.logging fun _ _ _ _ _ => ()) fuel ((s, .empty), h)
    op.event r fuel s h ::
      match x.1 with
      | .ok _ => tagTrace r fuel ops x.2.1.1 x.2.2
      | _ => []

structure Acknowledges (uid : List UInt8) (x : List UInt8 × AbResult) : Prop where
  request : ∃ flags, x.1 = flags :: cmdSelect :: uid
  ret : 0 ≤ x.2.ret
  answered : 1 ≤ x.2.rxLen
  noError : x.2.rx 0 &&& rfError = 0

def TagEvent.Acks (e : TagEvent) (uid : List UInt8) : Prop := ∃ x ∈ e.air.ab, Acknowledges uid x

/-- `uid` has acknowledged a SELECT, and is what the handle has held since. -/
def AckedSince (uid : List UInt8) (l : List TagEvent) : Prop :=
  ∃ l₁ e l₂, l = l₁ ++ e :: l₂ ∧ e.Acks uid ∧ ∀ e' ∈ e :: l₂, e'.after.uidBytes = uid

/-- What has to hold of a call after the calls of `l`. -/
structure Truthful (l : List TagEvent) (e : TagEvent) : Prop where
  selected : e.after.state = .selected → AckedSince e.after.uidBytes (l ++ [e])
  select : e.op.isSelect → e.out = .ok 0 → e.Acks e.before.uidBytes
  block : e.op.isBlock → ∀ x ∈ e.air.ab, x.1.headD 0 &&& f4Selected ≠ 0 →
    AckedSince e.before.uidBytes l

/-- The answers to SELECT are answers, and the UID of a selected VICC is not replaced. -/
def TagEvent.Holds (e : TagEvent) : Prop :=
  match e.op with
  | .select _ => ∀ x ∈ e.air.ab, x.2.rx 0 &&& rfError = 0 → 0 ≤ x.2.ret ∧ 1 ≤ x.2.rxLen
  | .anticol _ _ => e.before.state = .selected →
      ∀ x, takenFrom e.before.slots e.air.ac = some x → x.2.uuid = e.before.uidBytes
  | .setUid optval optlen => e.before.state = .selected → e.before.uidLen < 10 → optlen ≤ 10 →
      optval.load 0 (min optlen 8) = e.before.uid.load 0 (min optlen 8)
  | _ => True

theorem AckedSince.snoc {uid : List UInt8} {l : List TagEvent} (h : AckedSince uid l)
    {e : TagEvent} (he : e.after.uidBytes = uid) : AckedSince uid (l ++ [e]) := by
  obtain ⟨l₁, e₁, l₂, rfl, hacks, hsince⟩ := h
  refine ⟨l₁, e₁, l₂ ++ [e], by simp, hacks, ?_⟩
  rw [← List.cons_append, List.forall_mem_append]
  exact ⟨hsince, List.forall_mem_singleton.mpr he⟩

theorem AckedSince.of_acks {uid : List UInt8} {e : TagEvent} (l : List TagEvent)
    (h : e.Acks uid) (he : e.after.uidBytes = uid) : AckedSince uid (l ++ [e]) :=
  ⟨l, e, [], rfl, h, List.forall_mem_singleton.mpr he⟩

section Calls

variable {σ : Type} (r : Iso15693Reader σ) (obs : Mem UInt8 → Nat → Nat → UInt8 → σ → Unit)
  (h : Iso15693Handle)

def Begun (s : (σ × AirLog Unit) × Iso15693Handle) : Prop := s.1.2 = .empty ∧ s.2 = h

theorem iso15693Transceive_spec (tx : List UInt8) (rx : Mem UInt8) (rxLen timeout : Nat) :
    Triple (Begun h) (iso15693Transceive (r.logging obs) tx rx rxLen timeout)
      (Ends (fun s => s.2 = h ∧ ∀ x ∈ s.1.2.ab, x.1 = tx) fun x s => s.1.2.ab = [(tx, x)]) := by
  rintro ⟨⟨s, _⟩, _⟩ ⟨rfl, rfl⟩
  simp only [iso15693Transceive, Iso15693Reader.logging, lift]
  rcases r.transceive .iso15693Frame (Mem.ofList (fun _ => 0) tx) tx.length rx rxLen timeout s with
    ⟨_ | _ | _, s'⟩
  · have hload : (Mem.ofList (fun _ => 0) tx).load 0 tx.length = tx := Mem.load_ofList _ tx
    simp [Ends, AirLog.empty, hload]
  · exact ⟨⟨rfl, fun _ hx => absurd hx List.not_mem_nil⟩, fun _ hx => by cases hx⟩
  · exact ⟨⟨rfl, fun _ hx => absurd hx List.not_mem_nil⟩, fun _ hx => by cases hx⟩

def SelectDone : Outcome Int → (σ × AirLog Unit) × Iso15693Handle → Prop
  | .ok ret, s => ∃ x, s.1.2.ab = [(addressedRequest h cmdSelect, x)] ∧
      (x.rx 0 &&& rfError = 0 ∧ s.2 = { h with state := .selected } ∨ ret = -1 ∧ s.2 = h)
  | _, s => s.2 = h

theorem iso15693Select_spec (stack : Mem UInt8) :
    Triple (Begun h) (iso15693Select (r.logging obs) stack) (SelectDone h) := by
  rintro ⟨s, _⟩ ⟨hlog, rfl⟩
  refine Triple.bind (R := SelectDone _) (iso15693Transceive_spec r obs _ _ _ _ _) (fun x => ?_)
    (fun _ _ hs => hs.1.1) (fun _ hs => hs.1.1) _ ⟨hlog, rfl⟩
  intro s hs
  obtain ⟨⟨hh, -⟩, hab⟩ := Ends.of_ok hs
  by_cases herr : x.rx 0 &&& rfError ≠ 0
  · rw [if_pos herr]
    exact ⟨x, hab, .inr ⟨rfl, hh⟩⟩
  · rw [if_neg herr]
    exact ⟨x, hab, .inl ⟨not_not.mp herr, by rw [← hh]; rfl⟩⟩

theorem iso15693StayQuiet_spec (stack : Mem UInt8) :
    Triple (Begun h) (iso15693StayQuiet (r.logging obs) stack) fun _ s =>
      s.2 = h ∨ s.2 = { h with state := .quiet } := by
  rintro ⟨s, _⟩ ⟨hlog, rfl⟩
  refine Triple.bind (R := fun _ s => s.2 = _ ∨ s.2 = _) (iso15693Transceive_spec r obs _ _ _ _ _)
    (fun x => ?_) (fun _ _ hs => .inl hs.1.1) (fun _ hs => .inl hs.1.1) _ ⟨hlog, rfl⟩
  intro s hs
  obtain ⟨⟨hh, -⟩, -⟩ := Ends.of_ok hs
  exact .inr (by rw [← hh]; rfl)

def BlockDone {α : Type} (_ : Outcome α) (s : (σ × AirLog Unit) × Iso15693Handle) : Prop :=
  s.2 = h ∧ ∀ x ∈ s.1.2.ab, x.1.headD 0 &&& f4Selected ≠ 0 → h.state = .selected

theorem blockRequest_selected {command flags blocknr : UInt8} {data : List UInt8}
    (hflags : flags = 0 ∨ flags = f4Custom)
    (hsel : (blockRequest h command flags blocknr data).headD 0 &&& f4Selected ≠ 0) :
    h.state = .selected := by
  by_contra hstate
  have hreq : blockRequest h command flags blocknr data =
      (flags ||| h.rateFlags ||| h.subcFlags ||| f4Address) :: command ::
        h.uidBytes ++ blocknr :: data := if_neg hstate
  have hclear : (flags ||| h.rateFlags ||| h.subcFlags ||| f4Address) &&& f4Selected = 0 := by
    unfold Iso15693Handle.rateFlags Iso15693Handle.subcFlags
    rcases hflags with rfl | rfl <;> cases h.viccFast <;> cases h.viccTwoSubc <;> decide
  rw [hreq] at hsel
  exact hsel hclear

theorem blockDone_bind {α : Type} {command flags blocknr : UInt8} {data : List UInt8}
    (hflags : flags = 0 ∨ flags = f4Custom) (stack : Mem UInt8) (rxLen timeout : Nat)
    (f : AbResult → Iso15693M (σ × AirLog Unit) α) (hf : ∀ x J, Keeps J (f x)) :
    Triple (Begun h) (iso15693Transceive (r.logging obs) (blockRequest h command flags blocknr data)
      stack rxLen timeout >>= f) (BlockDone h) := by
  have hsent : ∀ s : (σ × AirLog Unit) × Iso15693Handle,
      (s.2 = h ∧ ∀ x ∈ s.1.2.ab, x.1 = blockRequest h command flags blocknr data) →
      BlockDone h (.hang : Outcome α) s := fun s hs =>
    ⟨hs.1, fun x hx hsel => blockRequest_selected h hflags (hs.2 x hx ▸ hsel)⟩
  exact .bind (iso15693Transceive_spec r obs h _ stack rxLen timeout)
    (fun x => (hf x _).pre fun s hs => hsent s hs.1) (fun _ s hs => hsent s hs.1)
    fun s hs => hsent s hs.1

theorem iso15693ReadBlock_spec (stack : Mem UInt8) (blocknr : UInt8) (len : Nat)
    (blockSecOut : Bool) :
    Triple (Begun h) (iso15693ReadBlock (r.logging obs) stack blocknr len blockSecOut)
      (BlockDone h) := by
  rintro ⟨s, _⟩ ⟨hlog, rfl⟩
  refine blockDone_bind r obs _ ?_ stack _ _ _ (fun x J => ?_) _ ⟨hlog, rfl⟩
  · cases blockSecOut
    · exact .inl rfl
    · exact .inr rfl
  · exact .ite (fun _ => .pure _) fun _ => .ite (fun _ => .pure _) fun _ =>
      .ite (fun _ => .pure _) fun _ => .pure _

theorem iso15693WriteBlock_spec (stack : Mem UInt8) (blocknr : UInt8) (data : List UInt8) :
    Triple (Begun h) (iso15693WriteBlock (r.logging obs) stack blocknr data) (BlockDone h) := by
  unfold iso15693WriteBlock
  refine .ite (fun _ => fun s hs => ?_) fun _ => ?_
  · exact ⟨hs.2, by rw [pure_run, hs.1]; nofun⟩
  · rintro ⟨s, _⟩ ⟨hlog, rfl⟩
    refine blockDone_bind r obs _ (.inl rfl) stack _ _ _ (fun x J => ?_) _ ⟨hlog, rfl⟩
    exact .ite (fun _ => .pure _) fun _ => .ite (fun _ => .pure _) fun _ =>
      .ite (fun _ => .pure _) fun _ => .pure _

end Calls

section Steps

variable {l : List TagEvent} {h h' : Iso15693Handle} {out : Outcome Int} {air : AirLog Unit}

theorem ackedSince_same {e : TagEvent}
    (hinv : e.before.state = .selected → AckedSince e.before.uidBytes l)
    (huid : e.after.uidBytes = e.before.uidBytes)
    (hstate : e.after.state = .selected → e.before.state = .selected) :
    e.after.state = .selected → AckedSince e.after.uidBytes (l ++ [e]) := by
  intro hsel
  rw [huid]
  exact (hinv (hstate hsel)).snoc huid

theorem truthful_other {op : TagOp} (hop : op.isSelect = false ∧ op.isBlock = false)
    (hinv : h.state = .selected → AckedSince h.uidBytes l)
    (hh : h'.state = .selected → h.state = .selected ∧ h'.uidBytes = h.uidBytes) :
    Truthful l ⟨op, h, out, h', air⟩ := by
  refine ⟨fun hsel => ?_, fun h => ?_, fun h => ?_⟩
  · obtain ⟨hstate, huid⟩ := hh hsel
    exact ackedSince_same hinv huid (fun _ => hstate) hsel
  · exact absurd (hop.1.symm.trans h) Bool.false_ne_true
  · exact absurd (hop.2.symm.trans h) Bool.false_ne_true

theorem truthful_select {σ : Type} (stack : Mem UInt8) {w : (σ × AirLog Unit) × Iso15693Handle}
    (hinv : h.state = .selected → AckedSince h.uidBytes l) (hdone : SelectDone h out w)
    (hok : TagEvent.Holds ⟨.select stack, h, out, w.2, w.1.2⟩) :
    Truthful l ⟨.select stack, h, out, w.2, w.1.2⟩ := by
  have hsame : w.2 = h → w.2.state = .selected →
      AckedSince w.2.uidBytes (l ++ [⟨.select stack, h, out, w.2, w.1.2⟩]) := fun hw =>
    ackedSince_same (e := ⟨.select stack, h, out, w.2, w.1.2⟩) hinv (congrArg _ hw) (hw ▸ id)
  cases out with
  | ok ret =>
    obtain ⟨x, hab, ⟨herr, hw⟩ | ⟨hret, hw⟩⟩ := hdone
    · have hmem : (addressedRequest h cmdSelect, x) ∈ w.1.2.ab := hab ▸ List.mem_singleton_self _
      obtain ⟨hret, hlen⟩ := hok _ hmem herr
      have hacks : TagEvent.Acks ⟨.select stack, h, .ok ret, w.2, w.1.2⟩ h.uidBytes :=
        ⟨_, hmem, ⟨_, rfl⟩, hret, hlen, herr⟩
      have huid : w.2.uidBytes = h.uidBytes := (congrArg Iso15693Handle.uidBytes hw).trans rfl
      exact ⟨fun _ => huid ▸ .of_acks l hacks huid, fun _ _ => hacks, nofun⟩
    · refine ⟨hsame hw, fun _ hout => ?_, nofun⟩
      rw [hret] at hout
      cases hout
  | fail => exact ⟨hsame hdone, nofun, nofun⟩
  | hang => exact ⟨hsame hdone, nofun, nofun⟩

theorem truthful_anticol {σ : Type} (stack : Mem UInt8) (boc : UInt8)
    {w : (σ × AirLog Unit) × Iso15693Handle}
    (hinv : h.state = .selected → AckedSince h.uidBytes l) (hdone : AnticolDone h out w)
    (hok : TagEvent.Holds ⟨.anticol stack boc, h, out, w.2, w.1.2⟩) :
    Truthful l ⟨.anticol stack boc, h, out, w.2, w.1.2⟩ := by
  have hsame : w.2 = h → w.2.state = .selected → h.state = .selected ∧ w.2.uidBytes = h.uidBytes :=
    fun hw hsel => ⟨hw ▸ hsel, congrArg _ hw⟩
  refine truthful_other ⟨rfl, rfl⟩ hinv ?_
  cases out with
  | ok v =>
    obtain ⟨-, e, htaken, hw⟩ | ⟨-, -, hw⟩ := hdone
    · intro hsel
      have hstate : h.state = .selected := (congrArg Iso15693Handle.state hw).symm.trans hsel
      have huid : (h.withUid e.2.uuid).uidBytes = e.2.uuid :=
        withUid_uidBytes h (Mem.length_load _ _ _)
      exact ⟨hstate, (congrArg _ hw).trans (huid.trans (hok hstate e htaken))⟩
    · exact hsame hw
  | fail => exact hsame hdone
  | hang => exact hsame hdone

theorem truthful_block {op : TagOp} (hop : op.isBlock)
    (hinv : h.state = .selected → AckedSince h.uidBytes l) (hh : h' = h)
    (hsent : ∀ x ∈ air.ab, x.1.headD 0 &&& f4Selected ≠ 0 → h.state = .selected) :
    Truthful l ⟨op, h, out, h', air⟩ := by
  subst hh
  refine ⟨ackedSince_same hinv rfl id, fun hsel => ?_, fun _ x hx hmode => hinv (hsent x hx hmode)⟩
  cases op <;> cases hop <;> cases hsel

end Steps

section Run

variable {σ : Type} (r : Iso15693Reader σ) (fuel : Nat)

theorem TagOp.event_truthful {l : List TagEvent} {h : Iso15693Handle} (op : TagOp) (s : σ)
    (hinv : h.state = .selected → AckedSince h.uidBytes l) (hok : (op.event r fuel s h).Holds) :
    Truthful l (op.event r fuel s h) := by
  have hbegun : Begun h (((s, .empty), h) : (σ × AirLog Unit) × Iso15693Handle) := ⟨rfl, rfl⟩
  cases op with
  | anticol stack boc =>
    exact truthful_anticol stack boc hinv
      (iso15693Anticol_spec r (fun _ _ _ _ _ => ()) h stack boc fuel _ hbegun.2) hok
  | select stack =>
    exact truthful_select stack hinv
      (iso15693Select_spec r (fun _ _ _ _ _ => ()) h stack _ hbegun) hok
  | stayQuiet stack =>
    refine truthful_other ⟨rfl, rfl⟩ hinv fun hsel => ?_
    rcases iso15693StayQuiet_spec r (fun _ _ _ _ _ => ()) h stack _ hbegun with hh | hh
    · exact ⟨hh ▸ hsel, congrArg _ hh⟩
    · exact absurd ((congrArg Iso15693Handle.state hh).symm.trans hsel) nofun
  | readBlock stack blocknr len sec =>
    have hspec : Triple (Begun h)
        (TagOp.run (r.logging fun _ _ _ _ _ => ()) fuel (.readBlock stack blocknr len sec))
        (BlockDone h) :=
      .bind (iso15693ReadBlock_spec r (fun _ _ _ _ _ => ()) h stack blocknr len sec)
        (fun _ _ => id) (fun _ _ => id) fun _ => id
    exact truthful_block rfl hinv (hspec _ hbegun).1 (hspec _ hbegun).2
  | writeBlock stack blocknr data =>
    have hspec := iso15693WriteBlock_spec r (fun _ _ _ _ _ => ()) h stack blocknr data _ hbegun
    exact truthful_block rfl hinv hspec.1 hspec.2
  | setUid optval optlen =>
    refine truthful_other ⟨rfl, rfl⟩ hinv fun hsel => ?_
    change (rfidLayer2SetoptUid h optval optlen).2.state = .selected at hsel
    change h.state = .selected ∧ (rfidLayer2SetoptUid h optval optlen).2.uidBytes = h.uidBytes
    unfold rfidLayer2SetoptUid at hsel ⊢
    split_ifs at hsel ⊢ with hlen
    · exact ⟨hsel, Mem.load_store_same h.uid optval 0 (hok hsel hlen.1 hlen.2)⟩
    · exact ⟨hsel, rfl⟩

theorem tagTrace_truthful_from (ops : List TagOp) (s : σ) (h : Iso15693Handle)
    (past : List TagEvent) (hinv : h.state = .selected → AckedSince h.uidBytes past)
    (hok : ∀ e ∈ tagTrace r fuel ops s h, e.Holds) :
    ∀ l e l', tagTrace r fuel ops s h = l ++ e :: l' → Truthful (past ++ l) e := by
  induction ops generalizing s h past with
  | nil =>
    intro l e l' heq
    simp [tagTrace] at heq
  | cons op ops ih =>
    rw [tagTrace] at hok ⊢
    rw [List.forall_mem_cons] at hok
    have hstep := op.event_truthful r fuel s hinv hok.1
    intro l e l' heq
    cases l with
    | nil =>
      obtain ⟨rfl, -⟩ := List.cons.inj heq
      rwa [List.append_nil]
    | cons e' l =>
      obtain ⟨rfl, htail⟩ := List.cons.inj heq
      rw [List.append_cons]
      split at htail
      · rename_i hout
        rw [hout] at hok
        exact ih _ _ _ hstep.selected hok.2 l e l' htail
      · simp at htail

/-- From a handle that `iso15693_init` has made, whatever the answers. -/
theorem tagTrace_truthful (ops : List TagOp) (s : σ) (h : Iso15693Handle)
    (hinit : h.state ≠ .selected) (hok : ∀ e ∈ tagTrace r fuel ops s h, e.Holds) :
    ∀ l e l', tagTrace r fuel ops s h = l ++ e :: l' → Truthful l e :=
  tagTrace_truthful_from r fuel ops s h [] (fun hsel => absurd hsel hinit) hok

end Run

def constReader (x : AbResult) : Iso15693Reader Unit where
  transceive _ _ _ _ _ _ := pure x
  transceiveAc _ _ rxLen boc := pure ⟨-eTimedOut, rxLen, [], boc⟩

theorem tagTrace_truthful_read :
    ∃ e e', tagTrace (constReader ⟨0, 1, fun _ => 0⟩) 1
        [.select fun _ => 0, .readBlock (fun _ => 0) 0 4 false] () initHandle15693 = [e, e'] ∧
      e'.before.state = .selected ∧ Truthful [e] e' :=
  ⟨_, _, rfl, rfl, tagTrace_truthful (constReader ⟨0, 1, fun _ => 0⟩) 1
    [.select fun _ => 0, .readBlock (fun _ => 0) 0 4 false] () initHandle15693 (by decide)
    (List.forall_mem_cons.mpr ⟨List.forall_mem_singleton.mpr fun _ => ⟨by decide, by decide⟩,
      List.forall_mem_singleton.mpr trivial⟩) [_] _ [] rfl⟩

/-- Nothing answers the SELECT: 0 is returned, and the VICC counts as selected. -/
theorem select_timeout :
    ∃ e, tagTrace (constReader ⟨-eTimedOut, 0, fun _ => 0⟩) 1 [.select fun _ => 0] () initHandle15693 = [e] ∧
      e.out = .ok 0 ∧ e.after.state = .selected ∧ ¬ Truthful [] e := by
  refine ⟨_, rfl, rfl, rfl, fun h => ?_⟩
  obtain ⟨x, hx, hack⟩ := h.select rfl rfl
  obtain rfl := List.mem_singleton.mp hx
  exact absurd hack.ret (by decide)

end Librfid.Layer2
