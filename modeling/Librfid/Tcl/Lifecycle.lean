import Librfid.Layer2.Activation
import Librfid.Tcl.Connect

namespace Librfid.Tcl

open Exec Layer2

section Keeps

variable {σ : Type} {l2 : TclLayer2 σ} {I : σ → Prop}

def TclLayer2.Keeps (l2 : TclLayer2 σ) (I : σ → Prop) (call : L2Call) : Prop :=
  ∀ rx n, Exec.Keeps I (l2.transceive call rx n)

theorem keeps_setTcl (f : TclHandle → TclHandle) :
    Exec.Keeps (fun s : σ × TclHandle => I s.1) (setTcl f) := .modify f

theorem tclRequestAts_keeps (past : Nat)
    (h : ∀ th fsdi, l2.Keeps I (ratsCall l2.ah th fsdi)) :
    Exec.Keeps (fun s => I s.1) (tclRequestAts l2 past) := by
  refine .bind keeps_get fun th => .bind (.when fun _ => .fail _) fun _ => ?_
  cases iso14443FsdToFsdi th.fsd with
  | none => exact .fail _
  | some fsdi =>
    refine .bind (.lift (h _ _ _ _)) fun r => .bind (keeps_setTcl _) fun _ => .bind (.when fun _ =>
      .bind (keeps_setTcl _) fun _ => .fail _) fun _ => .bind (keeps_setTcl _) fun _ =>
      .bind keeps_get fun th => ?_
    exact .bind (keeps_setTcl _) fun _ => .check _

theorem tclDoPps_keeps (stack : Mem UInt8) (h : ∀ th, l2.Keeps I (ppsCall l2.speed th))
    (hspeed : ∀ th tx, Exec.Keeps I
      (l2.setSpeed tx (diToSpeed (dToDi l2.speed (ppsDr (TclHandle.ta th)))))) :
    Exec.Keeps (fun s => I s.1) (tclDoPps l2 stack) := by
  refine .bind keeps_get fun th => .bind (.when fun _ => .fail _) fun _ =>
    .bind (.when fun _ => .fail _) fun _ => .bind (.lift (h _ _ _)) fun r => .bind (.check _) fun _ =>
    .bind (.when fun _ => .fail _) fun _ => ?_
  exact .bind (.lift (hspeed th false)) fun _ => .lift (hspeed th true)

theorem tclConnect_keeps (past : Nat) (stack : Mem UInt8)
    (hrats : l2.id = .iso14443a → ∀ th fsdi, l2.Keeps I (ratsCall l2.ah th fsdi))
    (hpps : l2.id = .iso14443a → ∀ th, l2.Keeps I (ppsCall l2.speed th))
    (hspeed : l2.id = .iso14443a → ∀ th tx, Exec.Keeps I
      (l2.setSpeed tx (diToSpeed (dToDi l2.speed (ppsDr (TclHandle.ta th)))))) :
    Exec.Keeps (fun s => I s.1) (tclConnect l2 past stack) := by
  have hactivate : Exec.Keeps (fun s => I s.1) (tclActivate l2 past stack) := by
    unfold tclActivate
    cases hid : l2.id with
    | iso14443a =>
      exact .bind (tclRequestAts_keeps past (hrats hid)) fun _ => .bind keeps_get fun th =>
        .when fun _ => tclDoPps_keeps stack (hpps hid) (hspeed hid)
    | iso14443b => exact fun _ => id
    | none => exact .fail _
    | iso15693 => exact .fail _
    | icode1 => exact .fail _
  exact .bind keeps_get fun th => .bind (.when fun _ => .fail _) fun _ =>
    .bind hactivate fun _ => keeps_setTcl _

theorem tclExchange_keeps_of {K : TclXcv → Prop}
    (hK : ∀ s r s', K s → tclNext s r = .inl s' → K s')
    (h : ∀ s, K s → l2.Keeps I (tclSend l2.id s)) (fuel : Nat) {s : TclXcv} (hs : K s)
    (rx : Mem UInt8) : Exec.Keeps I (tclExchange l2 fuel s rx) := by
  induction fuel generalizing s rx with
  | zero => exact .hang
  | succ fuel ih =>
    refine .bind (h s hs rx 256) fun r => ?_
    cases hnext : tclNext s r with
    | inl s' => exact ih (hK s r s' hs hnext) r.data
    | inr o => exact .pure o

theorem tclExchange_keeps (h : ∀ s, l2.Keeps I (tclSend l2.id s)) (fuel : Nat) (s : TclXcv)
    (rx : Mem UInt8) : Exec.Keeps I (tclExchange l2 fuel s rx) :=
  tclExchange_keeps_of (K := fun _ => True) (fun _ _ _ _ _ => trivial) (fun s _ => h s) fuel trivial rx

theorem tclTransceiveL2_keeps (h : ∀ s, l2.Keeps I (tclSend l2.id s)) (fuel : Nat)
    (args : XcvArgs) : Exec.Keeps (fun s => I s.1) (tclTransceiveL2 l2 fuel args) := by
  refine .bind keeps_get fun th => ?_
  dsimp only
  split
  · exact .pure _
  · exact .bind (.lift (tclExchange_keeps h fuel _ _)) fun o => .bind (keeps_setTcl _) fun _ =>
      .pure _

end Keeps

def TclLayer2.logging {σ : Type} (l2 : TclLayer2 σ) : TclLayer2 (σ × List L2Call) where
  id := l2.id
  transceive call rx n := fun (s, log) =>
    let (o, s) := l2.transceive call rx n s
    (o, (s, log ++ [call]))
  setSpeed tx speed := lift (l2.setSpeed tx speed)
  iso14443b s := l2.iso14443b s.1
  speed := l2.speed
  ah := l2.ah

theorem logging_keeps {σ : Type} (l2 : TclLayer2 σ) {G : L2Call → Prop} {call : L2Call}
    (h : G call) : l2.logging.Keeps (fun s => ∀ c ∈ s.2, G c) call := by
  rintro rx n ⟨s, log⟩ hlog
  change ∀ c ∈ log ++ [call], G c
  rw [List.forall_mem_append]
  exact ⟨hlog, List.forall_mem_singleton.mpr h⟩

inductive TclOp
  | connect (stack : Mem UInt8)
  | transceive (args : XcvArgs)
  | deselect (frame rx : Mem UInt8)

namespace TclOp

def isDeselect : TclOp → Bool
  | deselect _ _ => true
  | _ => false

variable {σ : Type}

def returning (x : TclM σ Int) : TclM σ Int := do
  match ← attempt x with
  | .ok ret => pure ret
  | .error code => pure code

def run (l2 : TclLayer2 σ) (past fuel : Nat) : TclOp → TclM σ Int
  | connect stack => returning (tclConnect l2 past stack >>= fun _ => pure 0)
  | transceive args => returning (tclTransceiveL2 l2 fuel args >>= fun o => pure o.ret)
  | deselect frame rx => returning (tclDeselect l2 frame rx >>= fun _ => pure 0)

theorem returning_ok {x : TclM σ Int} {s s' : σ × TclHandle} {ret : Int} (h : x s = (.ok ret, s')) :
    returning x s = (.ok ret, s') := bind_ok (attempt_ok h)

theorem returning_fail {x : TclM σ Int} {s s' : σ × TclHandle} {code : Int}
    (h : x s = (.fail code, s')) : returning x s = (.ok code, s') := bind_ok (attempt_fail h)

theorem returning_triple {P Q : σ × TclHandle → Prop} {α : Type} {x : TclM σ α} {f : α → Int}
    (h : Triple P x fun _ => Q) :
    Triple P (returning (x >>= fun a => pure (f a))) fun _ => Q := by
  refine .bind (.attempt_const (.bind h (fun _ _ => id) (fun _ _ => id) fun _ => id)) (fun r => ?_)
    (fun _ _ => id) fun _ => id
  cases r <;> exact fun _ => id

theorem run_keeps {l2 : TclLayer2 σ} {I : σ → Prop} (h : ∀ call, l2.Keeps I call)
    (hspeed : ∀ tx speed, Exec.Keeps I (l2.setSpeed tx speed)) (past fuel : Nat) (op : TclOp) :
    Exec.Keeps (fun s => I s.1) (op.run l2 past fuel) := by
  cases op with
  | connect stack =>
    exact returning_triple (tclConnect_keeps past stack (fun _ _ _ => h _) (fun _ _ => h _)
      fun _ _ tx => hspeed tx _)
  | transceive args => exact returning_triple (tclTransceiveL2_keeps (fun _ => h _) fuel args)
  | deselect frame rx =>
    exact returning_triple (Exec.Keeps.bind keeps_get fun _ => .bind (.lift (h _ _ _)) fun _ =>
      .bind (.check _) fun _ => keeps_setTcl _)

end TclOp

structure TclEvent where
  op : TclOp
  before : TclHandle
  out : Outcome Int
  after : TclHandle
  sent : List L2Call

def tclTrace {σ : Type} (l2 : TclLayer2 σ) (past fuel : Nat) :
    List TclOp → σ → TclHandle → List TclEvent
  | [], _, _ => []
  | op :: ops, s, th =>
    match op.run l2.logging past fuel ((s, []), th) with
    | (out, ((s, sent), th')) =>
      ⟨op, th, out, th', sent⟩ ::
        match out with
        | .ok _ => tclTrace l2 past fuel ops s th'
        | _ => []

theorem forall_mem_tclTrace {σ : Type} (l2 : TclLayer2 σ) {past fuel : Nat}
    {J : TclHandle → Prop} {P : TclEvent → Prop}
    (hkeep : ∀ op, Exec.Keeps (fun s => J s.2) (TclOp.run l2.logging past fuel op))
    (h : ∀ op s th, J th → P ⟨op, th, (op.run l2.logging past fuel ((s, []), th)).1,
      (op.run l2.logging past fuel ((s, []), th)).2.2,
      (op.run l2.logging past fuel ((s, []), th)).2.1.2⟩) (ops : List TclOp) (s : σ)
    {th : TclHandle} (hth : J th) : ∀ e ∈ tclTrace l2 past fuel ops s th, P e := by
  induction ops generalizing s th with
  | nil => exact fun _ h => absurd h List.not_mem_nil
  | cons op ops ih =>
    rw [tclTrace, List.forall_mem_cons]
    refine ⟨h op s th hth, ?_⟩
    split
    · exact ih _ (hkeep op ((s, []), th) hth)
    · exact fun _ h => absurd h List.not_mem_nil

section FrameType

/-- The frame type that belongs to a layer 2. -/
def ownFrame : Layer2Id → Option RfidFrametype
  | .iso14443a => some .iso14443aFrameRegular
  | .iso14443b => some .iso14443bFrameRegular
  | _ => none

def OwnFrame (id : Layer2Id) (c : L2Call) : Prop := ∀ f, ownFrame id = some f → c.frametype = f

theorem ownFrame_of_a {id : Layer2Id} {c : L2Call} (hid : id ≠ .iso14443b)
    (hc : c.frametype = .iso14443aFrameRegular) : OwnFrame id c := by
  intro f hf
  cases id <;> simp_all [ownFrame]

theorem ownFrame_send (id : Layer2Id) (s : TclXcv) : OwnFrame id (tclSend id s) := by
  intro f hf
  cases id <;> cases hf <;> rfl

variable {σ : Type} (l2 : TclLayer2 σ) (past fuel : Nat)

theorem sent_deselect (frame rx : Mem UInt8) (s : σ) (th : TclHandle) :
    ((TclOp.deselect frame rx).run l2.logging past fuel ((s, []), th)).2.1.2 =
      [deselectCall l2.ah th frame] := by
  let sent (s : σ × List L2Call) : Prop := s.2 = [deselectCall l2.ah th frame]
  have hrest : ∀ r : L2Reply, Exec.Keeps (fun s => sent s.1) (check r.ret >>= fun _ =>
      setTcl fun th => { th with state := .deselected }) := fun r =>
    .bind (.check _) fun _ => keeps_setTcl (I := sent) _
  have hsend : Triple (fun s : (σ × List L2Call) × TclHandle => s.1.2 = [])
      (lift (l2.logging.transceive (deselectCall l2.ah th frame) rx 3)) fun _ s => sent s.1 := by
    rintro ⟨⟨s, log⟩, th⟩ rfl
    rfl
  have hcall : Triple (fun s => s = ((s.1.1, []), th)) (tclDeselect l2.logging frame rx)
      fun _ s => sent s.1 := by
    rintro ⟨⟨s, log⟩, th⟩ hs
    cases hs
    exact (hsend.bind hrest (fun _ _ => id) fun _ => id) ((s, []), th) rfl
  exact TclOp.returning_triple hcall ((s, []), th) rfl

theorem sent_ownFrame_iff (op : TclOp) (s : σ) (th : TclHandle) :
    (∀ c ∈ (op.run l2.logging past fuel ((s, []), th)).2.1.2, OwnFrame l2.id c) ↔
      (l2.id = .iso14443b → op.isDeselect = false) := by
  have hnil : ∀ c ∈ ([] : List L2Call), OwnFrame l2.id c := fun _ h => absurd h List.not_mem_nil
  cases op with
  | connect stack =>
    have hkeeps := tclConnect_keeps (I := fun s : σ × List L2Call => ∀ c ∈ s.2, OwnFrame l2.id c)
      past stack
      (fun hid th fsdi => logging_keeps l2
        (ownFrame_of_a (fun hb => by cases hid.symm.trans hb) rfl))
      (fun hid th => logging_keeps l2 (ownFrame_of_a (fun hb => by cases hid.symm.trans hb) rfl))
      (fun _ _ _ _ => id)
    refine iff_of_true ?_ fun _ => rfl
    exact TclOp.returning_triple hkeeps ((s, []), th) hnil
  | transceive args =>
    have hkeeps := tclTransceiveL2_keeps (I := fun s : σ × List L2Call => ∀ c ∈ s.2, OwnFrame l2.id c)
      (fun s => logging_keeps l2 (ownFrame_send l2.id s)) fuel args
    refine iff_of_true ?_ fun _ => rfl
    exact TclOp.returning_triple hkeeps ((s, []), th) hnil
  | deselect frame rx =>
    rw [sent_deselect, List.forall_mem_singleton]
    cases hid : l2.id <;> simp [OwnFrame, ownFrame, deselectCall, TclOp.isDeselect]

/-- Every frame of a run is of the type that belongs to the handle's layer 2, unless that is
Type B and a connection is closed. -/
theorem tclTrace_ownFrame_iff (ops : List TclOp) (s : σ) (th : TclHandle) :
    (∀ e ∈ tclTrace l2 past fuel ops s th, ∀ c ∈ e.sent, OwnFrame l2.id c) ↔
      (l2.id = .iso14443b → ∀ e ∈ tclTrace l2 past fuel ops s th, e.op.isDeselect = false) := by
  have hevent : ∀ e ∈ tclTrace l2 past fuel ops s th,
      ((∀ c ∈ e.sent, OwnFrame l2.id c) ↔ (l2.id = .iso14443b → e.op.isDeselect = false)) :=
    forall_mem_tclTrace l2 (J := fun _ => True) (fun _ _ => id)
      (fun op s th _ => sent_ownFrame_iff l2 past fuel op s th) ops s trivial
  constructor
  · exact fun h hid e he => (hevent e he).mp (h e he) hid
  · exact fun h e he => (hevent e he).mpr fun hid => h hid e he

end FrameType

def plainLayer2 (id : Layer2Id) : TclLayer2 Unit where
  id := id
  transceive _ _ _ := pure ⟨0, 0, fun _ => 0⟩
  setSpeed _ _ := pure ()
  iso14443b _ := blankHandleB
  speed := rfid14443aSpeed106k
  ah := rc632Open

/-- A card of Type B is deselected with the frame type and the CRC of Type A. -/
theorem tclTrace_deselect_typeB :
    let ops : List TclOp := [.connect fun _ => 0, .deselect (fun _ => 0) fun _ => 0]
    ∃ e ∈ tclTrace (plainLayer2 .iso14443b) 0 0 ops () (tclInit rc632Open), e.out = .ok 0 ∧
      ∃ c ∈ e.sent, c.frametype = .iso14443aFrameRegular ∧ ¬ OwnFrame .iso14443b c ∧
        Rc632.channelRed c.frametype ≠ Rc632.channelRed .iso14443bFrameRegular := by
  refine ⟨_, List.mem_cons_of_mem _ (List.mem_singleton_self _), rfl, _, List.mem_singleton_self _,
    rfl, fun h => ?_, by decide⟩
  cases h .iso14443bFrameRegular rfl

end Librfid.Tcl
