import Librfid.Lib.Exec
import Librfid.Tcl.Transceive
import Librfid.Layer2.Iso14443b

/-! The life of a T=CL connection: `tcl_init`, `tcl_connect`, `tcl_transceive` and `tcl_deselect`
on one handle, over whatever layer 2 it was made for. -/

namespace Librfid.Tcl

open Exec Layer2

/-- What T=CL uses of layer 2.  `transceive` is also given what the receive buffer holds and its
size; `setSpeed` is one of the two speed options of Type A, `iso14443b` the handle of Type B;
`speed` and `ah` belong to the reader. -/
structure TclLayer2 (σ : Type) where
  id : Layer2Id
  transceive : L2Call → Mem UInt8 → Nat → Exec σ L2Reply
  setSpeed : Bool → Nat → Exec σ Unit
  iso14443b : σ → Iso14443bHandle
  speed : Nat
  ah : AsicHandle

def sfgiToSfgt (ah : AsicHandle) (sfgi : UInt8) : Nat :=
  let sfgi := if sfgi > 14 then 14 else sfgi
  4096000000 / ah.fc * 2 ^ sfgi.toNat % 2 ^ 32

def fwiToFwt (ah : AsicHandle) (fwi : UInt8) : Nat :=
  let fwi := if fwi > 14 then 14 else fwi
  4096000000 / ah.fc * 2 ^ fwi.toNat % 2 ^ 32

def activationFwt (ah : AsicHandle) : Nat := 1000000 * 65536 / ah.fc

def setFsc (ah : AsicHandle) (past : Nat) (fsdi : UInt8) (th : TclHandle) : TclHandle :=
  let th := match iso14443FsdiToFsd past fsdi.toNat with
    | some fsc => { th with fsc := fsc }
    | none => th
  if th.fsc > ah.mtu then { th with fsc := ah.mtu } else th

def atsTa (t0 : UInt8) (ats : Mem UInt8) (th : TclHandle) (cur : Nat) : TclHandle × Nat :=
  if t0 &&& 0x10 ≠ 0 then ({ th with ta := ats cur }, cur + 1) else (th, cur)

def atsTb (ah : AsicHandle) (t0 : UInt8) (ats : Mem UInt8) (th : TclHandle) (cur : Nat) :
    TclHandle × Nat :=
  if t0 &&& 0x20 ≠ 0 then
    ({ th with
        sfgt := UInt8.ofNat (sfgiToSfgt ah (ats cur &&& 0x0f))
        fwt := fwiToFwt ah ((ats cur &&& 0xf0) >>> 4) }, cur + 1)
  else (th, cur)

def atsTc (t0 : UInt8) (ats : Mem UInt8) (th : TclHandle) (cur : Nat) : TclHandle × Nat :=
  if t0 &&& 0x40 ≠ 0 then
    let th := if ats cur &&& 0x01 ≠ 0 then { th with flags := th.flags ||| handleFNadSupported }
      else th
    let th := if ats cur &&& 0x02 ≠ 0 then { th with flags := th.flags ||| handleFCidSupported }
      else th
    (th, cur + 1)
  else (th, cur)

def atsDefaults (id : Layer2Id) (ah : AsicHandle) (th : TclHandle) : TclHandle :=
  let th := { th with fsc := 32, ta := 0x80, sfgt := UInt8.ofNat (sfgiToSfgt ah 0) }
  if id = .iso14443a then { th with fwt := fwiToFwt ah 4 } else th

def tclParseAts (id : Layer2Id) (ah : AsicHandle) (past : Nat) (th : TclHandle) (ats : Mem UInt8)
    (size : Nat) : Int × TclHandle :=
  let len := (ats 0).toNat
  if len = 0 ∨ size = 0 then (-1, th)
  else
    let len := if size < len then size else len
    let th := { th with ta := 0 }
    if len = 1 then (0, atsDefaults id ah th)
    else
      let t0 := ats 1
      let th := setFsc ah past (t0 &&& 0x0f) th
      let (th, cur) := atsTa t0 ats th 2
      let (th, cur) := atsTb ah t0 ats th cur
      let (th, cur) := atsTc t0 ats th cur
      (0, { th with historicalLen := u32Sub len cur, historicalBytes := cur })

def dToDi (speed : Nat) (d : UInt8) : UInt8 :=
  if d &&& 4 ≠ 0 ∧ speed &&& rfid14443aSpeed848k ≠ 0 then 3
  else if d &&& 2 ≠ 0 ∧ speed &&& rfid14443aSpeed424k ≠ 0 then 2
  else if d &&& 1 ≠ 0 ∧ speed &&& rfid14443aSpeed212k ≠ 0 then 1
  else 0

def diToSpeed (di : UInt8) : Nat :=
  if di = 3 then rfid14443aSpeed848k
  else if di = 2 then rfid14443aSpeed424k
  else if di = 1 then rfid14443aSpeed212k
  else rfid14443aSpeed106k

section

variable {σ : Type} (l2 : TclLayer2 σ)

abbrev TclM (σ : Type) := Exec (σ × TclHandle)

def setTcl (f : TclHandle → TclHandle) : TclM σ Unit := modify f

def ratsCall (ah : AsicHandle) (th : TclHandle) (fsdi : UInt8) : L2Call where
  frametype := .iso14443aFrameRegular
  tx := [0xe0, UInt8.ofNat (th.cid &&& 0x0f) ||| fsdi <<< 4 &&& 0xf0]
  timeout := activationFwt ah

/-- `tcl_request_ats`, once the frame size has a code. -/
def tclSendRats (past : Nat) (th : TclHandle) (fsdi : UInt8) : TclM σ Unit := do
  let r ← lift (l2.transceive (ratsCall l2.ah th fsdi) th.ats th.atsLen)
  setTcl fun th => { th with ats := r.data, atsLen := r.frameLen }
  when (r.ret < 0) do
    setTcl fun th => { th with state := .ratsSent }
    fail r.ret
  setTcl fun th => { th with state := .atsRcvd }
  let th ← get
  setTcl fun _ => (tclParseAts l2.id l2.ah past th th.ats th.atsLen).2
  check (tclParseAts l2.id l2.ah past th th.ats th.atsLen).1

def tclRequestAts (past : Nat) : TclM σ Unit := do
  let th ← get
  when (th.state ≠ .initial) (fail (-1))
  match iso14443FsdToFsdi th.fsd with
  | none => fail (-1)
  | some fsdi => tclSendRats l2 past th fsdi

def ppss (th : TclHandle) : UInt8 := 0xd0 ||| UInt8.ofNat (th.cid &&& 0x0f)

def ppsDr (ta : UInt8) : UInt8 := ta &&& 0x07

/-- The shift is carried out first. -/
def ppsDs (ta : UInt8) : UInt8 := ta &&& (0x70 : UInt8) >>> 4

theorem ppsDs_eq_ppsDr (ta : UInt8) : ppsDs ta = ppsDr ta := by
  have h : (0x70 : UInt8) >>> 4 = 0x07 := by decide
  rw [ppsDs, h, ppsDr]

def ppsCall (speed : Nat) (th : TclHandle) : L2Call where
  frametype := .iso14443aFrameRegular
  tx := [ppss th, 0x11, dToDi speed (ppsDr th.ta) ||| dToDi speed (ppsDs th.ta) <<< 2]
  timeout := th.fwt

def tclDoPps (stack : Mem UInt8) : TclM σ Unit := do
  let th ← get
  when (th.state ≠ .atsRcvd) (fail (-1))
  when (ppsDr th.ta ≠ ppsDs th.ta ∧ th.ta &&& 0x80 = 0) (fail (-1))
  let r ← lift (l2.transceive (ppsCall l2.speed th) stack 1)
  check r.ret
  when (r.data 0 ≠ ppss th) (fail (-1))
  let speed := diToSpeed (dToDi l2.speed (ppsDr th.ta))
  lift (l2.setSpeed false speed)
  lift (l2.setSpeed true speed)

def tclConnectB (h : Iso14443bHandle) (th : TclHandle) : TclHandle :=
  let th := { th with cid := h.cid, fsc := h.fsc, fsd := h.fsd, fwt := h.fwt }
  let th := if h.flags &&& iso14443bCidSupported ≠ 0 then
      { th with flags := th.flags ||| handleFCidSupported } else th
  let th := if h.flags &&& iso14443bNadSupported ≠ 0 then
      { th with flags := th.flags ||| handleFNadSupported } else th
  let th := match h.state with
    | .selected => { th with state := .atsRcvd }
    | .attribSent => { th with state := .ratsSent }
    | _ => th
  { th with ats := th.ats.store 0 (h.uid.load 0 4), atsLen := 4, historicalBytes := 0 }

def TclState.Admits (s : TclState) : Prop := s = .deselected ∨ s = .initial

instance : DecidablePred TclState.Admits := fun s => inferInstanceAs (Decidable (s = _ ∨ s = _))

def tclActivate (past : Nat) (stack : Mem UInt8) : TclM σ Unit :=
  match l2.id with
  | .iso14443a => do
    tclRequestAts l2 past
    let th ← get
    when (th.ta &&& 0x77 ≠ 0) (tclDoPps l2 stack)
  | .iso14443b => fun (s, th) => (.ok (), (s, tclConnectB (l2.iso14443b s) th))
  | _ => fail (-1)

def tclConnect (past : Nat) (stack : Mem UInt8) : TclM σ Unit := do
  let th ← get
  when (¬ th.state.Admits) (fail (-1))
  tclActivate l2 past stack
  setTcl fun th => { th with state := .established }

/-- `frame` and `rx` are what the two buffers hold before the call. -/
def deselectCall (ah : AsicHandle) (th : TclHandle) (frame : Mem UInt8) : L2Call :=
  let (_, frame, prlgLen) := tclBuildPrologueS th frame
  { frametype := .iso14443aFrameRegular, tx := frame.load 0 prlgLen, timeout := activationFwt ah }

theorem deselectCall_tx (ah : AsicHandle) (th : TclHandle) (frame : Mem UInt8) :
    (deselectCall ah th frame).tx =
      (tclBuildPrologueS th frame).2.1.load 0 (tclBuildPrologueS th frame).2.2 := rfl

def tclDeselect (frame rx : Mem UInt8) : TclM σ Unit := do
  let th ← get
  let r ← lift (l2.transceive (deselectCall l2.ah th frame) rx 3)
  check r.ret
  setTcl fun th => { th with state := .deselected }

/-- `tcl_transceive` from `do_tx` on; `rx` is what `xcvb.rx.data` holds. -/
def tclExchange : Nat → TclXcv → Mem UInt8 → Exec σ TclOut
  | 0, _, _ => hang
  | fuel + 1, s, rx => do
    let r ← l2.transceive (tclSend l2.id s) rx 256
    match tclNext s r with
    | .inl s => tclExchange fuel s r.data
    | .inr o => pure o

/-- The arguments of `tcl_transceive`, and what its locals hold before anything is written to
them. -/
structure XcvArgs where
  tx : List UInt8
  rxLen : Nat
  stack : Mem UInt8
  rx : Mem UInt8

def tclTransceiveL2 (fuel : Nat) (args : XcvArgs) : TclM σ TclOut := do
  let th ← get
  let s := tclLocals th args.stack args.tx args.rxLen
  match tclRefillXcvb s with
  | none => pure ⟨-1, s⟩
  | some s =>
    let o ← lift (tclExchange l2 fuel s args.rx)
    setTcl fun _ => o.s.th
    pure o

theorem tclTransceiveL2_of_none {fuel : Nat} {args : XcvArgs} {th : TclHandle}
    (h : tclRefillXcvb (tclLocals th args.stack args.tx args.rxLen) = none) (s : σ) :
    tclTransceiveL2 l2 fuel args (s, th) =
      (.ok ⟨-1, tclLocals th args.stack args.tx args.rxLen⟩, (s, th)) := by
  rw [tclTransceiveL2, bind_ok (show Exec.get (s, th) = (.ok th, (s, th)) from rfl)]
  simp only [h]
  rfl

theorem tclTransceiveL2_of_some {fuel : Nat} {args : XcvArgs} {th : TclHandle} {x : TclXcv}
    (h : tclRefillXcvb (tclLocals th args.stack args.tx args.rxLen) = some x) (s : σ) :
    tclTransceiveL2 l2 fuel args (s, th) =
      (lift (tclExchange l2 fuel x args.rx) >>= fun o =>
        setTcl (fun _ => o.s.th) >>= fun _ => pure o) (s, th) := by
  rw [tclTransceiveL2, bind_ok (show Exec.get (s, th) = (.ok th, (s, th)) from rfl)]
  simp only [h]

def tclInit (ah : AsicHandle) : TclHandle where
  historicalBytes := 0
  historicalLen := 0
  fsc := 0
  fsd := iso14443FsdApprox ah.mru
  fwt := 0
  ta := 0
  sfgt := 0
  cid := 0
  nad := 0
  flags := 0
  state := .initial
  toggle := 1
  atsLen := ah.mru
  ats := fun _ => 0

end

end Librfid.Tcl
