import Librfid.Lib.Twice
import Librfid.Scan
import Librfid.Tcl.Connect
import Librfid.Layer2.Options

/-! The calls on a handle of layer 2: `rfid_layer2.c`, and `rfid_protocol_scan` after an open. -/

namespace Librfid.Layer2

open Rc632 Exec

def optLayer2Uid : Int := 0x0001

structure Sent where
  tx : List UInt8
  timeout : Nat
  answer : Mem UInt8

/-- `loc` and `stack` are what the locals of a call hold before anything is written to them, and
`undef` is what `val` holds when no length matches. -/
inductive ApiCall (L : Type)
  | open (loc : L)
  | close (stack : Mem UInt8)
  | getopt (optname : Int) (optlen : Nat)
  | setopt (optname : Int) (optval : Mem UInt8) (optlen undef : Nat)
  | scan (stack : Mem UInt8)

inductive CallResult
  | ret (ret : Int)
  | opt (g : GetoptResult)
  | found (ph : Option Scan.Driver)

def rfidLayer2Getopt (uid : Mem UInt8) (uidLen : Nat) (priv : GetoptResult) (optname : Int)
    (optlen : Nat) : GetoptResult :=
  if optname >>> 16 = 0 then
    if optname = optLayer2Uid then
      let optlen := if uidLen < optlen then uidLen else optlen
      ⟨0, uid.load 0 optlen, some optlen⟩
    else ⟨-eInval, [], some optlen⟩
  else priv

/-- `stored` is the handle with the new UID in it. -/
def rfidLayer2Setopt {H : Type} (h stored : H) (uidLen : Nat) (priv : Int × H) (optname : Int)
    (optlen : Nat) : Int × H :=
  if optname >>> 16 = 0 then
    if optname = optLayer2Uid then
      if uidLen < 10 ∧ optlen ≤ 10 then (0, stored) else (-eInval, h)
    else (-eInval, h)
  else priv

/-- What `tcl_connect` returns for a new handle.  Nothing is sent with Type B, or refused before
with ISO 15693, so the layer below is not called. -/
def tclOpenRet (id : Layer2Id) (h : Iso14443bHandle) (ah : AsicHandle) : Int :=
  match (Tcl.tclConnect ⟨id, fun _ _ _ => hang, fun _ _ => hang, fun _ => h, 0, ah⟩ 0 (fun _ => 0)
    ((), Tcl.tclInit ah)).1 with
  | .ok () => 0
  | .fail ret => ret
  | .hang => 0

def protocolAnswers (tclRet : Int) (mful mfcl tagit : Bool) (protoSupported : Nat) : Scan.Answers where
  init d := match d with
    | .tcl => true
    | .mful => mful
    | .mfcl => mfcl
    | .tagit => tagit
    | .layer2 _ => false
  fnOpen d := match d with
    | .tcl => some tclRet
    | _ => none
  protoSupported _ := UInt32.ofNat protoSupported

def protocolScan {σ : Type} (a : Scan.Answers) (m : Scan.Masks) (id : Layer2Id) : Exec σ CallResult :=
  match (Scan.rfidProtocolScan a m (.layer2 id) []).1 with
  | .ok ph => pure (.found ph)
  | .fail code => fail code
  | .hang => hang

theorem protocolScan_twice {σ τ : Type} {P : σ → τ → τ → Prop}
    {Q : Outcome CallResult → σ → τ → τ → Prop} (a : Scan.Answers) (m : Scan.Masks) (id : Layer2Id)
    (h : ∀ o s t t', P s t t' → Q o s t t') :
    Twice P (protocolScan a m id) (protocolScan a m id) Q := by
  unfold protocolScan
  split
  · exact .pure (h _)
  · exact .fail (h _)
  · exact .hang (h _)

section

open Scan

variable {tclRet : Int} {tagit : Bool} {protoSupported : Nat} {m : Masks} {l2h : Driver}

structure ScanSettled (tclRet : Int) (tagit : Bool) (m : Masks) : Prop where
  hole : ¬ supported m.protoSupported 0 ∧ ¬ supported m.protoSupported 4
  tcl : supported m.protoSupported 1 → tclRet < 0
  tagit : supported m.protoSupported 5 → tagit = false

variable (protoSupported l2h) in
theorem ScanSettled.passes (h : ScanSettled tclRet tagit m) (id : Nat) :
    Passes (protocolAnswers tclRet false false tagit protoSupported)
      (protoSup (protocolAnswers tclRet false false tagit protoSupported) m l2h) rfidProtocols id := by
  have hmask : ∀ {id}, protoSup (protocolAnswers tclRet false false tagit protoSupported) m l2h id →
      supported m.protoSupported id := fun hsup => (Bool.and_eq_true_iff.mp hsup).1
  constructor
  · rintro ⟨hsup, hslot⟩
    rcases (protocols_hole id).mp hslot with rfl | rfl
    · exact h.hole.1 (hmask hsup)
    · exact h.hole.2 (hmask hsup)
  · rintro d ⟨hsup, hslot, hinit, hopens⟩
    rcases id with _ | _ | _ | _ | _ | _ | id
    · cases hslot
    · obtain rfl : Driver.tcl = d := by simpa [rfidProtocols] using hslot
      exact absurd (h.tcl (hmask hsup)) (Int.not_lt.mpr hopens)
    · obtain rfl : Driver.mful = d := by simpa [rfidProtocols] using hslot
      cases hinit
    · obtain rfl : Driver.mfcl = d := by simpa [rfidProtocols] using hslot
      cases hinit
    · cases hslot
    · obtain rfl : Driver.tagit = d := by simpa [rfidProtocols] using hslot
      exact absurd hinit (by simp [protocolAnswers, h.tagit (hmask hsup)])
    · cases hslot

theorem ScanSettled.scan {σ : Type} (h : ScanSettled tclRet tagit m) (id : Layer2Id) :
    (protocolScan (protocolAnswers tclRet false false tagit protoSupported) m id : Exec σ CallResult) =
      pure (.found none) := by
  have hpass := h.passes protoSupported (.layer2 id)
  have hrun : (rfidProtocolScan (protocolAnswers tclRet false false tagit protoSupported) m (.layer2 id) []).1 =
      .ok none := by
    rcases scanFrom_run rfidProtocolMax 0 [] with
      ⟨k, d, -, -, -, hworks, -⟩ | ⟨-, hrun⟩ | ⟨k, -, -, -, hhole, -⟩
    · exact absurd hworks ((hpass k).2 d)
    · exact congrArg Prod.fst hrun
    · exact absurd hhole (hpass k).1
  rw [protocolScan, hrun]

end

structure ApiEvent (L : Type) where
  call : ApiCall L
  out : Outcome CallResult
  frames : List Sent

section

variable {σ τ L : Type} (run : ApiCall L → Exec ((σ × List Sent) × τ) CallResult)

def apiTrace : List (ApiCall L) → σ → τ → List (ApiEvent L)
  | [], _, _ => []
  | c :: calls, s, h =>
    let x := run c ((s, []), h)
    ⟨c, x.1, x.2.1.2⟩ ::
      match x.1 with
      | .ok _ => apiTrace calls x.2.1.1 x.2.2
      | _ => []

def apiRun (init : Exec σ τ) (calls : List (ApiCall L)) (s : σ) : Outcome Unit × List (ApiEvent L) :=
  match init s with
  | (.ok h, s) => (.ok (), apiTrace run calls s h)
  | (.fail code, _) => (.fail code, [])
  | (.hang, _) => (.hang, [])

end

/-- What has been assigned in a handle since it was allocated: the first bytes of the UID, its
length, `proto_supported`, and the frame size of a card of Type B. -/
structure Assigned where
  uid : Nat
  uidLen : Option Nat
  proto : Bool
  fsc : Bool

def Assigned.nothing : Assigned := ⟨0, none, false, false⟩

def Assigned.setUid (k : Assigned) (n : Nat) : Assigned := { k with uid := max k.uid n, uidLen := some n }

section

variable {σ τ L : Type} (run run' : ApiCall L → Exec ((σ × List Sent) × τ) CallResult)
  (reads : Assigned → ApiCall L → τ → Prop)
  (after : Assigned → ApiCall L → Outcome CallResult → List Sent → Assigned)

def ReadsAssigned : Assigned → List (ApiCall L) → σ → τ → Prop
  | _, [], _, _ => True
  | k, c :: calls, s, h =>
    reads k c h ∧
      let x := run c ((s, []), h)
      match x.1 with
      | .ok _ => ReadsAssigned (after k c x.1 x.2.1.2) calls x.2.1.1 x.2.2
      | _ => True

variable {run run' reads after} {agree : Assigned → τ → τ → Prop}

theorem apiTrace_eq (hstep : ∀ k c, Twice
      (fun s h h' => s.2 = [] ∧ agree k h h' ∧ reads k c h) (run c) (run' c)
      fun o s h h' => ∀ x, o = .ok x → agree (after k c o s.2) h h')
    {calls : List (ApiCall L)} {k : Assigned} {s : σ} {h h' : τ} (hagree : agree k h h')
    (hreads : ReadsAssigned run reads after k calls s h) :
    apiTrace run calls s h = apiTrace run' calls s h' := by
  induction calls generalizing k s h h' with
  | nil => rfl
  | cons c calls ih =>
    obtain ⟨hc, hrest⟩ := hreads
    obtain ⟨o, s₁, h₁, h₁', hrun, hrun', hafter⟩ := hstep k c (s, []) h h' ⟨rfl, hagree, hc⟩
    rw [apiTrace, apiTrace, hrun, hrun']
    simp only [hrun] at hrest
    cases o with
    | ok x =>
      simp only at hrest ⊢
      rw [ih (hafter x rfl) hrest]
    | fail code => rfl
    | hang => rfl

theorem apiRun_eq (hstep : ∀ k c, Twice
      (fun s h h' => s.2 = [] ∧ agree k h h' ∧ reads k c h) (run c) (run' c)
      fun o s h h' => ∀ x, o = .ok x → agree (after k c o s.2) h h')
    {init : Exec σ Unit} {h h' : τ} (hagree : agree .nothing h h') {calls : List (ApiCall L)} {s : σ}
    (hreads : ∀ s', init s = (.ok (), s') → ReadsAssigned run reads after .nothing calls s' h) :
    apiRun run (init >>= fun _ => pure h) calls s = apiRun run' (init >>= fun _ => pure h') calls s := by
  unfold apiRun
  rcases hinit : init s with ⟨_ | code | _, s₁⟩
  · have hrun : ∀ h : τ, (init >>= fun _ => pure h) s = (.ok h, s₁) := fun h => bind_ok hinit
    rw [hrun, hrun]
    simp only [apiTrace_eq hstep hagree (hreads _ hinit)]
  · have hrun : ∀ h : τ, (init >>= fun _ => pure h) s = (.fail code, s₁) := fun h => bind_fail hinit
    rw [hrun, hrun]
  · have hrun : ∀ h : τ, (init >>= fun _ => pure h) s = (.hang, s₁) := fun h => bind_hang hinit
    rw [hrun, hrun]

end

end Librfid.Layer2
