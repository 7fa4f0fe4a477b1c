import Librfid.Rc632.Keeps

/-! An RC632 with a FIFO that is a queue of bytes, emptied only by reading, by
transmission and by `CONTROL.FIFO_FLUSH`.  Every register access succeeds; when the chip
sends, answers and becomes idle is chosen by the environment. -/

namespace Librfid.Rc632

open Exec

def fifoSize : Nat := 64

structure Poll where
  stat : UInt8
  err : UInt8
  irq : UInt8
  cmd : UInt8

/-- The part of the environment in one exchange: the fill levels at the refill reads, the
answer, what the polls see from the end of the transmission on, and the collision
position. -/
structure Exch where
  left : List Nat
  answer : List UInt8
  polls : Nat → Poll
  collPos : UInt8
  fits : answer.length ≤ fifoSize

inductive Phase
  | idle | sending | receiving (n : Nat)

structure Link where
  fifo : List UInt8
  left : List Nat
  phase : Phase
  air : List (List UInt8)
  exch : Exch
  next : List Exch

structure Chip where
  regs : UInt8 → UInt8
  link : Link

namespace Link

def push (k : Link) (bytes : List UInt8) : Link :=
  { k with fifo := (k.fifo ++ bytes).take fifoSize }

def transmit (k : Link) (n : Nat) : Link :=
  { k with
    fifo := k.fifo.drop n
    air := k.air.dropLast ++ [k.air.getLastD [] ++ k.fifo.take n] }

def turnAround (k : Link) : Link :=
  { k.transmit k.fifo.length with fifo := k.exch.answer, phase := .receiving 0 }

def writeCommand (k : Link) (val : UInt8) : Link :=
  if val = cmdTransceive then { k with phase := .sending, air := k.air ++ [[]] }
  else
    match k.next with
    | [] => { k with phase := .idle }
    | e :: next => { k with phase := .idle, left := e.left, exch := e, next := next }

/-- While the chip sends, some bytes have left the queue since the last look. -/
def readFifoLength (k : Link) : UInt8 × Link :=
  match k.phase, k.left with
  | .sending, n :: left =>
    let k := k.transmit (k.fifo.length - n)
    (UInt8.ofNat k.fifo.length, { k with left := left })
  | _, _ => (UInt8.ofNat k.fifo.length, k)

def readStatus (k : Link) : UInt8 × Link :=
  match k.phase with
  | .idle => (0, k)
  | .sending => ((k.exch.polls 0).stat, k.turnAround)
  | .receiving n => ((k.exch.polls n).stat, k)

def poll (k : Link) : Poll :=
  match k.phase with
  | .receiving n => k.exch.polls n
  | _ => ⟨0, 0, 0, 0⟩

/-- A read of the command register ends a poll. -/
def readCommand (k : Link) : UInt8 × Link :=
  match k.phase with
  | .receiving n => ((k.exch.polls n).cmd, { k with phase := .receiving (n + 1) })
  | _ => (0, k)

def read (k : Link) (regs : UInt8 → UInt8) (reg : UInt8) : UInt8 × Link :=
  if reg = regFifoLength then k.readFifoLength
  else if reg = regPrimaryStatus then k.readStatus
  else if reg = regErrorFlag then (k.poll.err, k)
  else if reg = regInterruptRq then (k.poll.irq, k)
  else if reg = regCommand then k.readCommand
  else if reg = regCollPos then (k.exch.collPos, k)
  else (regs reg, k)

def write (k : Link) (reg val : UInt8) : Link :=
  if reg = regCommand then k.writeCommand val
  else if reg = regControl ∧ val &&& controlFifoFlush ≠ 0 then { k with fifo := [] }
  else k

section

variable (k : Link) (regs : UInt8 → UInt8)

@[simp] theorem read_fifoLength : k.read regs regFifoLength = k.readFifoLength := rfl
@[simp] theorem read_primaryStatus : k.read regs regPrimaryStatus = k.readStatus := rfl
@[simp] theorem read_errorFlag : k.read regs regErrorFlag = (k.poll.err, k) := rfl
@[simp] theorem read_interruptRq : k.read regs regInterruptRq = (k.poll.irq, k) := rfl
@[simp] theorem read_command : k.read regs regCommand = k.readCommand := rfl
@[simp] theorem read_collPos : k.read regs regCollPos = (k.exch.collPos, k) := rfl
@[simp] theorem write_command (val : UInt8) : k.write regCommand val = k.writeCommand val := rfl

theorem read_snd {reg : UInt8} (hfifo : reg ≠ regFifoLength) (hstat : reg ≠ regPrimaryStatus)
    (hcmd : reg ≠ regCommand) : (k.read regs reg).2 = k := by
  rw [read, if_neg hfifo, if_neg hstat]
  split_ifs <;> rfl

theorem write_of_ne (reg val : UInt8) (hcmd : reg ≠ regCommand)
    (hctl : reg ≠ regControl) : k.write reg val = k := by
  simp [write, hcmd, hctl]

end

end Link

namespace Chip

def write (c : Chip) (reg val : UInt8) : Chip where
  regs r := if r = reg then if reg = regControl then val &&& ~~~controlFifoFlush else val else c.regs r
  link := c.link.write reg val

end Chip

/-- The transport of a chip; the `flags` of a FIFO write are ignored. -/
def chip : Transport Chip where
  writeReg reg val := fun c => (0, c.write reg val)
  readReg reg := fun c =>
    let (val, link) := c.link.read c.regs reg
    ((0, val), { c with link := link })
  writeFifo bytes _ := fun c => (0, { c with link := c.link.push bytes })
  readFifo len := fun c =>
    ((0, c.link.fifo.take len.toNat),
      { c with link := { c.link with fifo := c.link.fifo.drop len.toNat } })

def idleAtOnce (answer : List UInt8) (fits : answer.length ≤ fifoSize) : Exch where
  left := []
  answer := answer
  polls _ := ⟨0, 0, 0, 0⟩
  collPos := 0
  fits := fits

def unanswered : Exch where
  left := []
  answer := []
  polls _ := ⟨statIrq, 0, irqTimer, cmdTransceive⟩
  collPos := 0
  fits := by decide

def chipAhead (next : List Exch) : Chip where
  regs _ := 0
  link := ⟨[], [], .idle, [], idleAtOnce [] (by decide), next⟩

section Access

variable {P : Link → Prop} {reg : UInt8}

@[simp] theorem chip_regWrite_run (reg val : UInt8) (c : Chip) :
    chip.regWrite reg val c = (.ok 0, c.write reg val) := rfl

@[simp] theorem chip_write_run (reg val : UInt8) (c : Chip) :
    chip.write reg val c = (.ok (), c.write reg val) := rfl

@[simp] theorem chip_regRead_run (reg : UInt8) (c : Chip) :
    chip.regRead reg c =
      (.ok (0, (c.link.read c.regs reg).1), { c with link := (c.link.read c.regs reg).2 }) := rfl

@[simp] theorem chip_read_run (reg : UInt8) (c : Chip) :
    chip.read reg c =
      (.ok (c.link.read c.regs reg).1, { c with link := (c.link.read c.regs reg).2 }) := rfl

theorem chip_fifoRead_run (len : UInt8) (c : Chip) :
    chip.fifoRead len c = (.ok (0, c.link.fifo.take len.toNat),
      { c with link := { c.link with fifo := c.link.fifo.drop len.toNat } }) := rfl

@[simp] theorem Chip.write_link (c : Chip) (reg val : UInt8) :
    (c.write reg val).link = c.link.write reg val := rfl

theorem chip_regWrite (val : UInt8) (h : ∀ k, P k → P (k.write reg val)) :
    Total (fun c => P c.link) (chip.regWrite reg val) fun ret c => 0 ≤ ret ∧ P c.link :=
  fun _ hc => ⟨0, _, rfl, Int.le_refl 0, h _ hc⟩

theorem chip_regWrite_of_ne (val : UInt8) (hcmd : reg ≠ regCommand) (hctl : reg ≠ regControl) :
    Total (fun c => P c.link) (chip.regWrite reg val) fun ret c => 0 ≤ ret ∧ P c.link :=
  chip_regWrite val fun k hk => (k.write_of_ne reg val hcmd hctl).symm ▸ hk

theorem chip_write {val : UInt8} (h : Total (fun c => P c.link) (chip.regWrite reg val)
      fun ret c => 0 ≤ ret ∧ P c.link) :
    Total (fun c => P c.link) (chip.write reg val) fun _ c => P c.link :=
  write_total h

theorem chip_regRead (hfifo : reg ≠ regFifoLength) (hstat : reg ≠ regPrimaryStatus)
    (hcmd : reg ≠ regCommand) :
    Total (fun c => P c.link) (chip.regRead reg) fun r c => 0 ≤ r.1 ∧ P c.link :=
  fun c hc => ⟨_, _, rfl, Int.le_refl 0, (congrArg P (c.link.read_snd c.regs hfifo hstat hcmd)).mpr hc⟩

theorem chip_clearBits (val : UInt8) (hfifo : reg ≠ regFifoLength)
    (hstat : reg ≠ regPrimaryStatus) (hcmd : reg ≠ regCommand)
    (h : ∀ val k, P k → P (k.write reg val)) :
    Total (fun c => P c.link) (rc632ClearBits chip.toBus reg val) fun ret c =>
      0 ≤ ret ∧ P c.link := by
  refine .bind (chip_regRead hfifo hstat hcmd) fun r => .ite (fun hneg => ?_) fun _ =>
    .ite (fun _ => .pure fun _ h => ⟨Int.le_refl 0, h.2⟩) fun _ =>
    (chip_regWrite _ (h _)).pre fun _ => And.right
  exact fun _ h => absurd hneg (Int.not_lt.mpr h.1)

end Access

end Librfid.Rc632
