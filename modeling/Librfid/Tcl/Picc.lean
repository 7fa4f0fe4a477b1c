import Librfid.Tcl.Verdict

/-! A card that follows the block rules of ISO 14443-4, without CID and NAD, and the
loss-free layer 2 between it and the reader. -/

namespace Librfid.Tcl

inductive Block
  | i (bn chaining : Bool) (inf : List UInt8)
  | ack (bn : Bool)
  | nak (bn : Bool)
  | wtx (inf : UInt8)

def numbered (bn : Bool) (pcb : UInt8) : UInt8 := if bn then pcb ||| 0x01 else pcb

namespace Block

def frame : Block → List UInt8
  | i bn chaining inf => numbered bn (if chaining then 0x12 else 0x02) :: inf
  | ack bn => [numbered bn 0xa2]
  | nak bn => [numbered bn 0xb2]
  | wtx inf => [0xf2, inf]

def ofFrame : List UInt8 → Option Block
  | [] => none
  | pcb :: inf =>
    let bn : Bool := pcb &&& 0x01 ≠ 0
    if pcb &&& 0xee = 0x02 then some (i bn (pcb &&& 0x10 ≠ 0) inf)
    else if pcb &&& 0xee = 0xa2 ∧ inf = [] then
      some (if pcb &&& 0x10 ≠ 0 then nak bn else ack bn)
    else if pcb = 0xf2 then
      match inf with
      | [m] => some (wtx m)
      | _ => none
    else none

@[simp] theorem ofFrame_frame (b : Block) : ofFrame b.frame = some b := by
  cases b with
  | i bn chaining inf => cases bn <;> cases chaining <;> rfl
  | ack bn => cases bn <;> rfl
  | nak bn => cases bn <;> rfl
  | wtx inf => rfl

end Block

/-- What a card does on its own account: the response to the requests it has had so far,
cut into the information fields of its I-blocks, and the waiting time extensions it asks
for before its `n`-th block. -/
structure PiccPlan where
  answer : List (List UInt8) → List UInt8 × List (List UInt8)
  wtx : Nat → List UInt8
  answer_fits : ∀ d, ∀ inf ∈ (answer d).1 :: (answer d).2, inf.length < 256
  wtx_valid : ∀ n, ∀ m ∈ wtx n, 1 ≤ (m &&& 0x3f).toNat ∧ (m &&& 0x3f).toNat ≤ 59

namespace PiccPlan

def response (p : PiccPlan) (d : List (List UInt8)) : List UInt8 :=
  (p.answer d).1 ++ (p.answer d).2.flatten

end PiccPlan

/-- `rcvd` is the chain being received, `done` the requests received whole, `rest` the
information fields still to be sent; `held` is the last block of the card and `wtxs` the
extensions to be granted before it goes out; `sent` counts the blocks. -/
structure Picc where
  bn : Bool
  rcvd : List UInt8
  done : List (List UInt8)
  rest : List (List UInt8)
  wtxs : List UInt8
  held : Option Block
  sent : Nat

namespace Picc

def fresh : Picc where
  bn := true
  rcvd := []
  done := []
  rest := []
  wtxs := []
  held := none
  sent := 0

def current (c : Picc) : Option Block :=
  match c.wtxs with
  | m :: _ => some (.wtx m)
  | [] => c.held

def emit (p : PiccPlan) (c : Picc) (b : Block) : Picc :=
  { c with wtxs := p.wtx c.sent, held := some b, sent := c.sent + 1 }

def toggled (c : Picc) : Picc := { c with bn := !c.bn }

def emitI (p : PiccPlan) (c : Picc) (inf : List UInt8) (rest : List (List UInt8)) : Picc :=
  ({ c with rest := rest }).emit p (.i c.bn (!rest.isEmpty) inf)

def react (p : PiccPlan) (c : Picc) : Block → Picc × Option Block
  | .i _ chaining inf =>
    if c.wtxs ≠ [] then (c, none)
    else
      let c := c.toggled
      let c :=
        if chaining then ({ c with rcvd := c.rcvd ++ inf }).emit p (.ack c.bn)
        else
          let done := c.done ++ [c.rcvd ++ inf]
          let (first, rest) := p.answer done
          ({ c with rcvd := [], done := done }).emitI p first rest
      (c, c.current)
  | .ack bn =>
    if bn = c.bn then (c, c.current)
    else if c.wtxs ≠ [] then (c, none)
    else
      let c := c.toggled
      match c.rest with
      | [] => (c, none)
      | inf :: rest =>
        let c := c.emitI p inf rest
        (c, c.current)
  | .nak bn =>
    if bn = c.bn then (c, c.current)
    else if c.wtxs ≠ [] then (c, none)
    else
      let c := c.emit p (.ack c.bn)
      (c, c.current)
  | .wtx m =>
    match c.wtxs with
    | m' :: wtxs =>
      if m = m' &&& 0x3f then
        let c := { c with wtxs := wtxs }
        (c, c.current)
      else (c, none)
    | [] => (c, none)

theorem react_i_last {p : PiccPlan} {c : Picc} (h : c.wtxs = []) (bn : Bool) (inf : List UInt8) :
    c.react p (.i bn false inf) =
      let done := c.done ++ [c.rcvd ++ inf]
      let c := ({ c.toggled with rcvd := [], done := done }).emitI p (p.answer done).1
        (p.answer done).2
      (c, c.current) := by
  simp only [react, h, ne_eq, not_true_eq_false, if_false, Bool.false_eq_true]
  rfl

end Picc

/-- What layer 2 may choose freely: its non-negative return value and what the receive
buffer holds behind the frame, for every exchange. -/
structure Air where
  ret : Nat → Nat
  stale : Nat → Mem UInt8

namespace Air

def deliver (air : Air) (t : Nat) (frame : List UInt8) : L2Reply where
  ret := air.ret t
  frameLen := frame.length
  data := Mem.ofList (air.stale t) frame

def mute (air : Air) (t : Nat) : L2Reply where
  ret := -eTimedOut
  frameLen := 0
  data := air.stale t

end Air

def picc (p : PiccPlan) (air : Air) : Layer2 (Picc × Nat) := fun call (c, t) =>
  match Block.ofFrame call.tx with
  | none => (air.mute t, (c, t + 1))
  | some b =>
    match c.react p b with
    | (c, some b) => (air.deliver t b.frame, (c, t + 1))
    | (c, none) => (air.mute t, (c, t + 1))

end Librfid.Tcl
