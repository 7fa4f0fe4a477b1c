import Librfid.Lib.Client
import Librfid.Tcl.Block

/-! `tcl_transceive` and its helpers.  The function talks to layer 2 only through
`rfid_layer2_transceive`; each such call is one exchange of `tclClient`. -/

namespace Librfid.Tcl

structure FrBuff where
  frameLen : Nat
  hdrLen : Nat
  data : Mem UInt8

structure RfidXcvb where
  timeout : Nat
  tx : FrBuff

/-- `struct tcl_tx_context`: `tx` is the request, `nextTxByte` the offset of
`next_tx_byte` in it, `rx` what was written through `next_rx_byte` so far and
`rxLen` the capacity of the caller's buffer. -/
structure TclTxContext where
  tx : List UInt8
  rx : List UInt8
  nextTxByte : Nat
  rxLen : Nat

/-- The locals of `tcl_transceive` and the handle they work on; `stack` is what lies behind
`xcvb`, as seen from `xcvb.tx.data`. -/
structure TclXcv where
  th : TclHandle
  xcvb : RfidXcvb
  ctx : TclTxContext
  stack : Mem UInt8

structure L2Call where
  frametype : RfidFrametype
  tx : List UInt8
  timeout : Nat

/-- What it leaves: its return value, `xcvb.rx.frame_len` and the whole of
`xcvb.rx.data`, of which only the first `frameLen` bytes are the received frame. -/
structure L2Reply where
  ret : Int
  frameLen : Nat
  data : Mem UInt8

def l2ToFrame : Layer2Id → RfidFrametype
  | .iso14443a => .iso14443aFrameRegular
  | .iso14443b => .iso14443bFrameRegular
  | _ => .iso14443aFrameRegular

def tclCtxTodo (ctx : TclTxContext) : Nat := ctx.tx.length - ctx.nextTxByte

/-- `none` is the return value -1. -/
def tclRefillXcvb (s : TclXcv) : Option TclXcv :=
  if s.ctx.nextTxByte ≥ s.ctx.tx.length then none
  else
    let (th, data, hdrLen) := tclBuildPrologueI s.th s.xcvb.tx.data
    let frameLen :=
      if tclCtxTodo s.ctx > u32Sub th.fsc hdrLen then maxNetTxFramesize th
      else tclCtxTodo s.ctx
    let data := data.store hdrLen ((s.ctx.tx.drop s.ctx.nextTxByte).take frameLen)
    let nextTxByte := s.ctx.nextTxByte + frameLen
    let data := if nextTxByte < s.ctx.tx.length then data.set 0 (data 0 ||| 0x10) else data
    some
      { th := th
        xcvb := { timeout := th.fwt
                  tx := { frameLen := frameLen + hdrLen, hdrLen := hdrLen, data := data } }
        ctx := { s.ctx with nextTxByte := nextTxByte }
        stack := s.stack }

def fillXcvbWtxm (th : TclHandle) (xcvb : RfidXcvb) (inf : UInt8) : RfidXcvb :=
  let (th, data, hdrLen) := tclBuildPrologueS th xcvb.tx.data
  let data := data.set 0 (data 0 ||| 0x30)
  let data := data.set hdrLen inf
  { timeout := th.fwt * inf.toNat % 2 ^ 32
    tx := { frameLen := hdrLen + 1, hdrLen := hdrLen, data := data } }

def checkCid (th : TclHandle) (r : L2Reply) : Bool :=
  if r.data 0 &&& pcbCidFollowing ≠ 0 then (r.data 1).toNat == th.cid else true

inductive Goto
  | doTx (s : TclXcv)
  | txRefill (s : TclXcv)
  | out (ret : Int) (s : TclXcv)

def rxHdrLen (pcb : UInt8) : Nat :=
  let hdrLen : Nat := 1
  let hdrLen := if pcb &&& pcbCidFollowing ≠ 0 then hdrLen + 1 else hdrLen
  if pcb &&& pcbNadFollowing ≠ 0 then hdrLen + 1 else hdrLen

def netPayloadLen (r : L2Reply) : Nat := u32Sub r.frameLen (rxHdrLen (r.data 0))

/-- The code from the return of the layer-2 call to the next `goto`. -/
def tclReceive (s : TclXcv) (r : L2Reply) : Goto :=
  if r.ret < 0 then .out r.ret s
  else if isRBlock (r.data 0) then
    if (r.data 0 &&& 0x01).toNat ≠ s.th.toggle then .out r.ret s
    else if !checkCid s.th r then .out r.ret s
    else .txRefill s
  else if isSBlock (r.data 0) then
    if !checkCid s.th r then .out r.ret s
    else if r.data 0 &&& pcbCidFollowing ≠ 0 ∧ r.frameLen < 3 then .out (-1) s
    else
      let inf := if r.data 0 &&& pcbCidFollowing ≠ 0 then r.data 2 else r.data 1
      if r.data 0 &&& 0x30 ≠ 0x30 then .out (-1) s
      else
        let inf := inf &&& 0x3f
        if inf = 0 ∨ (60 ≤ inf ∧ inf ≤ 63) then .out (-1) s
        else .doTx { s with xcvb := fillXcvbWtxm s.th s.xcvb inf }
  else if isIBlock (r.data 0) then
    if (r.data 0 &&& 0x01).toNat ≠ s.th.toggle then .out r.ret s
    else if !checkCid s.th r then .out r.ret s
    else
      let payload := r.data.load (rxHdrLen (r.data 0)) (netPayloadLen r)
      let s := { s with ctx := { s.ctx with rx := s.ctx.rx ++ payload } }
      if r.data 0 &&& 0x10 ≠ 0 then
        let (th, data, frameLen) := tclBuildPrologueR s.th s.xcvb.tx.data false
        .doTx
          { s with
            th := th
            xcvb := { timeout := th.fwt, tx := { s.xcvb.tx with data := data, frameLen := frameLen } } }
      else .out r.ret s
  else .out r.ret s

structure TclOut where
  ret : Int
  s : TclXcv

/-- What `do_tx` leaves at `p`, seen from `xcvb.tx.data`, in place of a byte of the frame: a
frame that runs past the 256 bytes of `tx.data` goes on in `xcvb.rx`, whose `frame_len` has
just been set to 256 (low byte first), and past its end in what lies behind `xcvb`. -/
def overwritten (stack : Mem UInt8) (p : Int) : Option UInt8 :=
  if p < 256 then none
  else if p < 260 then some (if p = 257 then 0x01 else 0x00)
  else if p < 520 then none
  else some (stack p)

def TclXcv.handed (s : TclXcv) : Mem UInt8 :=
  fun p => (overwritten s.stack p).getD (s.xcvb.tx.data p)

def tclSend (l2 : Layer2Id) (s : TclXcv) : L2Call where
  frametype := l2ToFrame l2
  tx := s.handed.load 0 s.xcvb.tx.frameLen
  timeout := s.xcvb.timeout

theorem overwritten_of_lt (stack : Mem UInt8) {p : Int} (h : p < 256) :
    overwritten stack p = none := if_pos h

theorem TclXcv.handed_of_lt (s : TclXcv) {p : Int} (h : p < 256) :
    s.handed p = s.xcvb.tx.data p := by
  rw [handed, overwritten_of_lt _ h, Option.getD_none]

theorem tclSend_tx (l2 : Layer2Id) {s : TclXcv} (h : s.xcvb.tx.frameLen ≤ 256) :
    (tclSend l2 s).tx = s.xcvb.tx.data.load 0 s.xcvb.tx.frameLen :=
  Mem.load_congr fun _ _ hp => s.handed_of_lt (by omega)

def tclNext (s : TclXcv) (r : L2Reply) : TclXcv ⊕ TclOut :=
  match tclReceive s r with
  | .doTx s => .inl s
  | .txRefill s =>
    match tclRefillXcvb s with
    | some s => .inl s
    | none => .inr ⟨-1, s⟩
  | .out ret s => .inr ⟨ret, s⟩

def tclClient (l2 : Layer2Id) : Client TclXcv L2Call L2Reply TclOut where
  send := tclSend l2
  recv := tclNext

abbrev Layer2 (σ : Type) := Server σ L2Call L2Reply

abbrev History := List (L2Call × L2Reply)

structure TclResult where
  ret : Int
  th : TclHandle
  rxData : List UInt8
  rxLen : Nat
  history : History

def TclResult.ofOut (history : History) (o : TclOut) : TclResult where
  ret := o.ret
  th := o.s.th
  rxData := o.s.ctx.rx
  rxLen := o.s.ctx.rx.length % 2 ^ 32
  history := history

/-- The locals before the first `tcl_refill_xcvb`; `stack` is what the frame of the
call holds before anything is written to `xcvb`, and behind it. -/
def tclLocals (th : TclHandle) (stack : Mem UInt8) (tx : List UInt8) (rxLen : Nat) : TclXcv where
  th := th
  xcvb := { timeout := th.fwt, tx := { frameLen := 0, hdrLen := 0, data := stack } }
  ctx := { tx := tx, rx := [], nextTxByte := 0, rxLen := rxLen }
  stack := stack

/-- `none` when layer 2 was called `fuel` times and the call has not returned. -/
def tclTransceive (l2 : Layer2Id) (srv : Layer2 σ) (fuel : Nat) (th : TclHandle)
    (stack : Mem UInt8) (tx : List UInt8) (rxLen : Nat) (w : σ) : Option (TclResult × σ) :=
  let s := tclLocals th stack tx rxLen
  match tclRefillXcvb s with
  | none => some (.ofOut [] ⟨-1, s⟩, w)
  | some s => ((tclClient l2).run srv fuel s w).map fun x => (.ofOut x.1 x.2.1, x.2.2)

section

variable {l2 : Layer2Id} {srv : Layer2 σ} {fuel : Nat} {th : TclHandle} {stack : Mem UInt8}
  {tx : List UInt8} {rxLen : Nat} {w w' : σ}

theorem tclTransceive_of_none (h : tclRefillXcvb (tclLocals th stack tx rxLen) = none) :
    tclTransceive l2 srv fuel th stack tx rxLen w =
      some (.ofOut [] ⟨-1, tclLocals th stack tx rxLen⟩, w) := by
  rw [tclTransceive, h]

theorem tclTransceive_of_some {s : TclXcv} {log : History} {o : TclOut}
    (h : tclRefillXcvb (tclLocals th stack tx rxLen) = some s)
    (hrun : (tclClient l2).run srv fuel s w = some (log, o, w')) :
    tclTransceive l2 srv fuel th stack tx rxLen w = some (.ofOut log o, w') := by
  rw [tclTransceive, h]
  simp only [hrun, Option.map_some]

theorem tclTransceive_cases {res : TclResult}
    (h : tclTransceive l2 srv fuel th stack tx rxLen w = some (res, w')) :
    res.history = [] ∨
      ∃ s₀ s log w₁ r o, tclRefillXcvb (tclLocals th stack tx rxLen) = some s₀ ∧
        Client.Reaches (tclClient l2) srv s₀ w log s w₁ ∧ tclNext s r = .inr o ∧
        res = .ofOut (log ++ [(tclSend l2 s, r)]) o := by
  cases hf : tclRefillXcvb (tclLocals th stack tx rxLen) with
  | none =>
    rw [tclTransceive_of_none hf] at h
    cases h
    exact .inl rfl
  | some s₀ =>
    simp only [tclTransceive, hf] at h
    obtain ⟨⟨log, o, w''⟩, hrun, hx⟩ := Option.map_eq_some_iff.mp h
    cases hx
    obtain ⟨log', s, w₁, r, hreach, -, hlast, rfl⟩ := Client.run_last hrun
    exact .inr ⟨s₀, s, log', w₁, r, o, rfl, hreach, hlast, rfl⟩

end

end Librfid.Tcl
