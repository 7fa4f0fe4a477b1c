import Librfid.Ccid.Escape
import Librfid.Rc632.Carried

namespace Librfid.Rc632

open Exec

inductive Access
  | writeReg (reg val : UInt8)
  | readReg (reg : UInt8)
  | writeFifo (bytes : List UInt8)
  | readFifo (len : UInt8)

def Access.run {σ : Type} (t : Transport σ) : Access → σ → List UInt8 × σ
  | .writeReg reg val, s => ([], (t.writeReg reg val s).2)
  | .readReg reg, s => ([(t.readReg reg s).1.2], (t.readReg reg s).2)
  | .writeFifo bytes, s => ([], (t.writeFifo bytes 0x03 s).2)
  | .readFifo len, s => ((t.readFifo len s).1.2, (t.readFifo len s).2)

/-- The chip on its bus: no access fails, the queue holds 64 bytes, and it gives as many as it is asked
for. -/
structure OnBus {σ : Type} (t : Transport σ) : Prop where
  writeReg : ∀ reg val s, 0 ≤ (t.writeReg reg val s).1
  readReg : ∀ reg s, 0 ≤ (t.readReg reg s).1.1
  writeFifo : ∀ bytes flags s, 0 ≤ (t.writeFifo bytes flags s).1
  readFifo : ∀ len s, 0 ≤ (t.readFifo len s).1.1
  level : ∀ s, (t.readReg regFifoLength s).1.2.toNat ≤ fifoSize
  length_readFifo : ∀ len s, (t.readFifo len s).1.2.length = len.toNat

section Openpcd

def openpcdAccess : List UInt8 → Option Access
  | cmd :: _ :: reg :: val :: data =>
    if cmd = openpcdCmdWriteReg then some (.writeReg reg val)
    else if cmd = openpcdCmdReadReg then some (.readReg reg)
    else if cmd = openpcdCmdWriteFifo then some (.writeFifo data)
    else if cmd = openpcdCmdReadFifo then some (.readFifo val)
    else none
  | _ => none

/-- A register that was read is in the header of the reply, bytes from the queue are behind it. -/
inductive OpenpcdReply : Access → List UInt8 → List UInt8 → Prop
  | value {reg v : UInt8} (cmd flags r : UInt8) : OpenpcdReply (.readReg reg) [v] [cmd, flags, r, v]
  | data {a : Access} {bytes : List UInt8} (cmd flags r v : UInt8) : (∀ reg, a ≠ .readReg reg) →
      OpenpcdReply a bytes (cmd :: flags :: r :: v :: bytes)

def OpenpcdServes {υ σ : Type} (d : UsbDevice υ) (t : Transport σ) (R : υ → σ → Prop) : Prop :=
  ∀ {frame : List UInt8} {a : Access} {w : υ} {s : σ}, R w s → openpcdAccess frame = some a →
    ∃ reply w₁ w₂, d.bulkWrite frame w = ((frame.length : Int), w₁) ∧
      d.bulkRead w₁ = (.received reply, w₂) ∧ OpenpcdReply a (a.run t s).1 reply ∧ R w₂ (a.run t s).2

variable {υ σ : Type} {d : UsbDevice υ} {t : Transport σ} {R : υ → σ → Prop}

def openpcdRat (d : UsbDevice υ) (rcvBuf : Mem UInt8) (undef : UInt8) : Transport υ where
  writeReg reg val := runOk (openpcdRegWrite d reg val) (-1)
  readReg reg w :=
    let (r, w) := runOk (openpcdRegRead d rcvBuf reg) (-1, none) w
    ((r.1, r.2.getD undef), w)
  writeFifo bytes _ := runOk (openpcdFifoWrite d bytes) (-1)
  readFifo len := runOk (openpcdFifoRead d rcvBuf len) (-1, [])

theorem openpcdXcv_served (h : OpenpcdServes d t R) (cmd reg val : UInt8) (data : List UInt8)
    {a : Access} {w : υ} {s : σ} (hr : R w s)
    (ha : openpcdAccess ([cmd, openpcdFlagRespond, reg, val] ++ data) = some a) :
    ∃ reply w', openpcdXcv d cmd reg val data w = (.ok (.received reply), w') ∧
      OpenpcdReply a (a.run t s).1 reply ∧ R w' (a.run t s).2 := by
  obtain ⟨reply, w₁, w₂, hwrite, hread, hreply, hr'⟩ := h hr ha
  refine ⟨reply, w₂, ?_, hreply, hr'⟩
  have hsend : openpcdSendCommand d cmd reg val data w =
      (.ok ((([cmd, openpcdFlagRespond, reg, val] ++ data).length : Nat) : Int), w₁) := by
    rw [openpcdSendCommand, step, hwrite]
  have hlong : ¬ ((([cmd, openpcdFlagRespond, reg, val] ++ data).length : Nat) : Int).toNat <
      openpcdHdr := by
    rw [Int.toNat_natCast, List.length_append]
    exact Nat.not_lt.mpr (Nat.le_add_right 4 _)
  rw [openpcdXcv, bind_ok hsend, dif_neg (Int.not_lt.mpr (Int.natCast_nonneg _)), if_neg hlong, step,
    hread]

theorem openpcd_carries (hchip : OnBus t) (h : OpenpcdServes d t R) (rcvBuf : Mem UInt8)
    (undef : UInt8) : Carries (openpcdRat d rcvBuf undef) t R where
  level _ := hchip.level _
  regWrite {reg} val _ := .step fun w s hr => by
    obtain ⟨reply, w', hx, -, hr'⟩ := openpcdXcv_served h openpcdCmdWriteReg reg val [] hr rfl
    have hrun : openpcdRegWrite d reg val w = (.ok (Reply.received reply).ret, w') := by
      rw [openpcdRegWrite, bind_ok hx]
      rfl
    simp only [openpcdRat, runOk_of_ok hrun]
    exact ⟨⟨Int.natCast_nonneg _, hchip.writeReg _ _ _⟩, hr'⟩
  regRead {reg} _ := .step fun w s hr => by
    obtain ⟨reply, w', hx, hreply, hr'⟩ := openpcdXcv_served h openpcdCmdReadReg reg 0 [] hr rfl
    have hrun : openpcdRegRead d rcvBuf reg w = (.ok (4, some (t.readReg reg s).1.2), w') := by
      rw [openpcdRegRead, bind_ok hx]
      cases hreply with
      | value => rfl
      | data _ _ _ _ hne => exact absurd rfl (hne reg)
    simp only [openpcdRat, runOk_of_ok hrun]
    exact ⟨⟨⟨by decide, hchip.readReg _ _⟩, rfl⟩, hr'⟩
  fifoWrite {bytes} _ _ := .step fun w s hr => by
    obtain ⟨reply, w', hx, -, hr'⟩ := openpcdXcv_served h openpcdCmdWriteFifo 0 0 bytes hr rfl
    have hrun : openpcdFifoWrite d bytes w = (.ok (Reply.received reply).ret, w') := by
      rw [openpcdFifoWrite, bind_ok hx]
      rfl
    simp only [openpcdRat, runOk_of_ok hrun]
    exact ⟨⟨Int.natCast_nonneg _, hchip.writeFifo _ _ _⟩, hr'⟩
  fifoRead {len} _ _ := .step fun w s hr => by
    obtain ⟨reply, w', hx, hreply, hr'⟩ := openpcdXcv_served h openpcdCmdReadFifo 0x00 len [] hr rfl
    have hrun : openpcdFifoRead d rcvBuf len w = (.ok (reply.length, (t.readFifo len s).1.2), w') := by
      have hnn : ¬ (Reply.received reply).ret < 0 := Int.not_lt.mpr (Int.natCast_nonneg _)
      rw [openpcdFifoRead, bind_ok hx, if_neg hnn]
      cases hreply with
      | data cmd flags r v _ =>
        have hload := Mem.load_store_drop rcvBuf 0 (cmd :: flags :: r :: v :: (t.readFifo len s).1.2)
          (k := 4) (n := (t.readFifo len s).1.2.length) (by simp only [List.length_cons]; omega)
        exact congrArg (fun bytes => (Outcome.ok (_, bytes), w')) hload
    simp only [openpcdRat, runOk_of_ok hrun]
    exact ⟨⟨⟨Int.natCast_nonneg _, hchip.readFifo _ _⟩, trivial⟩, hr'⟩

end Openpcd

section Cm5121

def cm5121Access : List UInt8 → Option Access
  | cmd :: _ :: wlen :: _ :: rlen :: _ :: reg :: data =>
    if cmd ≠ 0x20 ∨ wlen.toNat ≠ data.length then none
    else if reg = regFifo then
      if data = [] then some (.readFifo rlen) else some (.writeFifo data)
    else if wlen = 0 then some (.readReg reg)
    else if wlen = 1 then some (.writeReg reg (data.headD 0))
    else none
  | _ => none

/-- The firmware of the CM5121: it may ask for more time, but not as often as `waits` times. -/
def Cm5121Serves {κ σ : Type} (d : UsbDevice κ) (t : Transport σ) (R : κ → σ → Prop) (waits : Nat) :
    Prop :=
  ∀ {seqno : UInt8} {data msg : List UInt8} {a : Access} {w : κ} {s : σ}, R w s →
    Ccid.Request seqno data msg → cm5121Access data = some a →
    ∃ status n w₁, d.bulkWrite msg w = ((msg.length : Int), w₁) ∧ n < waits ∧
      Ccid.Answering d seqno (status :: (a.run t s).1) (fun w₂ => R w₂ (a.run t s).2) n w₁

variable {κ σ : Type} {d : UsbDevice κ} {t : Transport σ} {R : κ → σ → Prop}

def cm5121RecvbufLen : Nat := 256 + 7 + 10

def cm5121Ccid (d : UsbDevice κ) (fuel : Nat) (recvbuf : Mem UInt8) (undef : UInt8) :
    Transport (κ × Nat) where
  writeReg reg val :=
    runOk (write1ByteToReg (Ccid.escapeDevice d fuel cm5121RecvbufLen) reg val) (-1)
  readReg reg w :=
    let (r, w) := runOk (read1ByteFromReg (Ccid.escapeDevice d fuel cm5121RecvbufLen) recvbuf reg)
      (-1, none) w
    ((r.1, r.2.getD undef), w)
  writeFifo bytes flags := runOk (writeNBytesToFifo (Ccid.escapeDevice d fuel 0x7f) bytes flags) (-1)
  readFifo len := runOk (readNBytesFromFifo (Ccid.escapeDevice d fuel 0x7f) recvbuf len) (-1, [])

theorem escapeDevice_served {waits fuel : Nat} (h : Cm5121Serves d t R waits) (hfuel : waits ≤ fuel)
    {data : List UInt8} {a : Access} {w : κ} {s : σ} (hr : R w s) (ha : cm5121Access data = some a)
    (hdata : data.length ≤ Ccid.escapeMax) {resultmax : Nat}
    (hmax : (a.run t s).1.length < resultmax) (seq : Nat) :
    ∃ status w', step ((Ccid.escapeDevice d fuel resultmax).escape data) (w, seq) =
        (.ok (0, status :: (a.run t s).1), (w', seq + 1)) ∧ R w' (a.run t s).2 := by
  obtain ⟨status, n, w₁, hwrite, hn, hanswer⟩ := h hr (Ccid.escapeMsg_request (UInt8.ofNat seq) hdata) ha
  obtain ⟨w₂, hrun, hr'⟩ := Ccid.sendEscapeCmd_answered hdata (Nat.succ_le_of_lt hmax)
    (Nat.lt_of_lt_of_le hn hfuel) hwrite hanswer
  refine ⟨status, w₂, ?_, hr'⟩
  simp only [step, Ccid.escapeDevice, runOk_of_ok hrun]

theorem cm5121_carries (hchip : OnBus t) {waits fuel : Nat} (h : Cm5121Serves d t R waits)
    (hfuel : waits ≤ fuel) (recvbuf : Mem UInt8) (undef : UInt8) :
    Carries (cm5121Ccid d fuel recvbuf undef) t fun w s => R w.1 s where
  level _ := hchip.level _
  regWrite {reg} val hreg := .step fun w s hr => by
    have ha : cm5121Access [0x20, 0x00, 0x01, 0x00, 0x00, 0x00, reg, val] = some (.writeReg reg val) :=
      if_neg hreg.1
    obtain ⟨status, w', hx, hr'⟩ := escapeDevice_served h hfuel hr ha (Nat.le_of_ble_eq_true rfl)
      (by decide : 0 < cm5121RecvbufLen) w.2
    have hrun : write1ByteToReg (Ccid.escapeDevice d fuel cm5121RecvbufLen) reg val w =
        (.ok 0, (w', w.2 + 1)) := by
      rw [write1ByteToReg, bind_ok hx]
      rfl
    simp only [cm5121Ccid, runOk_of_ok hrun]
    exact ⟨⟨Int.le_refl 0, hchip.writeReg _ _ _⟩, hr'⟩
  regRead {reg} hreg := .step fun w s hr => by
    have ha : cm5121Access [0x20, 0x00, 0x00, 0x00, 0x01, 0x00, reg] = some (.readReg reg) :=
      if_neg hreg.1
    obtain ⟨status, w', hx, hr'⟩ := escapeDevice_served h hfuel hr ha (Nat.le_of_ble_eq_true rfl)
      (by decide : 1 < cm5121RecvbufLen) w.2
    have hrun : read1ByteFromReg (Ccid.escapeDevice d fuel cm5121RecvbufLen) recvbuf reg w =
        (.ok (0, some (t.readReg reg s).1.2), (w', w.2 + 1)) := by
      rw [read1ByteFromReg, bind_ok hx]
      rfl
    simp only [cm5121Ccid, runOk_of_ok hrun]
    exact ⟨⟨⟨Int.le_refl 0, hchip.readReg _ _⟩, rfl⟩, hr'⟩
  fifoWrite {bytes} hne hle := .step fun w s hr => by
    have hsize : fifoSize = 64 := rfl
    have hlen : (UInt8.ofNat bytes.length).toNat = bytes.length :=
      UInt8.toNat_ofNat_of_lt' (show bytes.length < 2 ^ 8 by omega)
    have ha : cm5121Access ([0x20, 0x00, UInt8.ofNat bytes.length, 0x00, 0x00, 0x03, 0x02] ++ bytes) =
        some (.writeFifo bytes) := by
      simp [cm5121Access, regFifo, hlen, hne]
    obtain ⟨status, w', hx, hr'⟩ := escapeDevice_served h hfuel hr ha
      (show bytes.length + 7 ≤ 90 by omega) (by decide : 0 < 0x7f) w.2
    have hrun : writeNBytesToFifo (Ccid.escapeDevice d fuel 0x7f) bytes 0x03 w =
        (.ok 0, (w', w.2 + 1)) := by
      rw [writeNBytesToFifo, bind_ok hx]
      rfl
    simp only [cm5121Ccid, runOk_of_ok hrun]
    exact ⟨⟨Int.le_refl 0, hchip.writeFifo _ _ _⟩, hr'⟩
  fifoRead {len} _ hle := .step fun w s hr => by
    have hsize : fifoSize = 64 := rfl
    have hlen := hchip.length_readFifo len s
    have ha : cm5121Access [0x20, 0x00, 0x00, 0x00, len, 0x00, 0x02] = some (.readFifo len) := rfl
    obtain ⟨status, w', hx, hr'⟩ := escapeDevice_served h hfuel hr ha (Nat.le_of_ble_eq_true rfl)
      (show (t.readFifo len s).1.2.length < 0x7f by omega) w.2
    have hrun : readNBytesFromFifo (Ccid.escapeDevice d fuel 0x7f) recvbuf len w =
        (.ok (0, (t.readFifo len s).1.2), (w', w.2 + 1)) := by
      have hload := Mem.load_store_drop recvbuf 0 (status :: (t.readFifo len s).1.2)
        (k := 1) (n := len.toNat) (by rw [List.length_cons, hlen, Nat.add_comm])
      rw [readNBytesFromFifo, bind_ok hx]
      exact congrArg (fun bytes => (Outcome.ok ((0 : Int), bytes), (w', w.2 + 1))) hload
    simp only [cm5121Ccid, runOk_of_ok hrun]
    exact ⟨⟨⟨Int.le_refl 0, hchip.readFifo _ _⟩, trivial⟩, hr'⟩

end Cm5121

section Spidev

/-- The address is in the first byte; when the chip is read, the others have those of the next bytes. -/
def spidevAccess : List UInt8 → Option Access
  | [] => none
  | b :: rest =>
    let reg := (b &&& 0x7e) >>> 1
    if b &&& 0x80 = 0 then
      if reg = regFifo then some (.writeFifo rest)
      else if rest.length = 1 then some (.writeReg reg (rest.headD 0))
      else none
    else if reg = regFifo then
      if rest.length ≤ fifoSize ∧ rest.dropLast.all fun c => (c &&& 0x7e) >>> 1 == reg then
        some (.readFifo (UInt8.ofNat rest.length))
      else none
    else if rest.length = 1 then some (.readReg reg)
    else none

def Access.reads : Access → Prop
  | .readReg _ | .readFifo _ => True
  | _ => False

/-- The chip on a serial bus: a byte comes back while the next address goes out. -/
def SpidevServes {ς σ : Type} (d : SpiDevice ς) (t : Transport σ) (R : ς → σ → Prop) : Prop :=
  ∀ {frame : List UInt8} {a : Access} {w : ς} {s : σ}, R w s → spidevAccess frame = some a →
    ∃ reply w', d.ioctl frame w = (reply, w') ∧ reply.ret = frame.length ∧
      (a.reads → reply.bytes.drop 1 = (a.run t s).1) ∧ R w' (a.run t s).2

variable {ς σ : Type} {d : SpiDevice ς} {t : Transport σ} {R : ς → σ → Prop}

def spidevSpi (d : SpiDevice ς) (rcvBuf : Mem UInt8) (undef : UInt8) : Transport ς where
  writeReg reg val := runOk (spidevRegWrite d reg val) (-1)
  readReg reg w :=
    let (r, w) := runOk (spidevRegRead d rcvBuf reg) (-1, none) w
    ((r.1, r.2.getD undef), w)
  writeFifo bytes _ := runOk (spidevFifoWrite d bytes) (-1)
  readFifo len := runOk (spidevFifoRead d rcvBuf len) (-1, [])

theorem spidev_address {reg : UInt8} (h : reg < 64) :
    (reg <<< 1 &&& 0x7e) &&& 0x80 = 0 ∧ ((reg <<< 1 &&& 0x7e) &&& 0x7e) >>> 1 = reg ∧
      (reg <<< 1 ||| 0x80) &&& 0x80 ≠ 0 ∧ ((reg <<< 1 ||| 0x80) &&& 0x7e) >>> 1 = reg := by
  have hall : ∀ n < 64, (UInt8.ofNat n <<< 1 &&& 0x7e) &&& 0x80 = 0 ∧
      ((UInt8.ofNat n <<< 1 &&& 0x7e) &&& 0x7e) >>> 1 = UInt8.ofNat n ∧
      (UInt8.ofNat n <<< 1 ||| 0x80) &&& 0x80 ≠ 0 ∧
      ((UInt8.ofNat n <<< 1 ||| 0x80) &&& 0x7e) >>> 1 = UInt8.ofNat n := by decide
  have hreg := hall reg.toNat (UInt8.lt_iff_toNat_lt.mp h)
  rwa [UInt8.ofNat_toNat] at hreg

theorem spidevWrite_served (h : SpidevServes d t R) {reg : UInt8} {buf : List UInt8} {a : Access}
    {w : ς} {s : σ} (hr : R w s) (hne : buf ≠ [])
    (ha : spidevAccess ((reg <<< 1 &&& 0x7e) :: buf) = some a) :
    ∃ w', spidevWrite d reg buf w = (.ok buf.length, w') ∧ R w' (a.run t s).2 := by
  obtain ⟨reply, w', hx, hret, -, hr'⟩ := h hr ha
  refine ⟨w', ?_, hr'⟩
  have hstep : step (d.ioctl ((reg <<< 1 &&& 0x7e) :: buf)) w = (.ok reply, w') := by rw [step, hx]
  have hlen : reply.ret = buf.length + 1 := hret
  rw [spidevWrite, if_neg (mt List.length_eq_zero_iff.mp hne), bind_ok hstep, if_neg (by omega),
    if_neg (not_not.mpr hlen)]
  rfl

theorem spidevRead_served (h : SpidevServes d t R) {reg len : UInt8} {a : Access} {w : ς} {s : σ}
    (hr : R w s) (hne : len ≠ 0) (rcvBuf : Mem UInt8)
    (ha : spidevAccess (spidevSndBuf reg len) = some a) (hreads : a.reads) :
    ∃ w', spidevRead d rcvBuf reg len w = (.ok (len.toNat, (a.run t s).1), w') ∧
      R w' (a.run t s).2 := by
  obtain ⟨reply, w', hx, hret, hbytes, hr'⟩ := h hr ha
  refine ⟨w', ?_, hr'⟩
  have hpos : 0 < len.toNat := Nat.pos_of_ne_zero fun h0 => hne (UInt8.toNat_inj.mp h0)
  have hframe : (spidevSndBuf reg len).length = len.toNat + 1 := by
    simp only [spidevSndBuf, List.length_append, List.length_cons, List.length_replicate,
      List.length_nil]
    omega
  have hstep : step (d.ioctl (spidevSndBuf reg len)) w = (.ok reply, w') := by rw [step, hx]
  have hret' : reply.ret = len.toNat + 1 := by rw [hret, hframe, Int.natCast_add, Int.natCast_one]
  have hload := Mem.load_store_drop rcvBuf 0 reply.bytes (k := 1) (n := len.toNat) (by
    have hlength := reply.length_eq (by omega)
    omega)
  rw [spidevRead, if_neg hne, bind_ok hstep, if_neg (by omega), if_neg (not_not.mpr hret'),
    ← hbytes hreads]
  exact congrArg (fun bytes => (Outcome.ok ((len.toNat : Int), bytes), w')) hload

theorem spidev_carries (hchip : OnBus t) (h : SpidevServes d t R) (rcvBuf : Mem UInt8)
    (undef : UInt8) : Carries (spidevSpi d rcvBuf undef) t R where
  level _ := hchip.level _
  regWrite {reg} val hreg := .step fun w s hr => by
    obtain ⟨hwrite, haddr, -, -⟩ := spidev_address hreg.2
    have ha : spidevAccess [reg <<< 1 &&& 0x7e, val] = some (.writeReg reg val) := by
      simp [spidevAccess, hwrite, haddr, hreg.1]
    obtain ⟨w', hx, hr'⟩ := spidevWrite_served h hr (List.cons_ne_nil _ _) ha
    have hrun : spidevRegWrite d reg val w = (.ok 1, w') := by
      rw [spidevRegWrite, bind_ok hx]
      rfl
    simp only [spidevSpi, runOk_of_ok hrun]
    exact ⟨⟨by decide, hchip.writeReg _ _ _⟩, hr'⟩
  regRead {reg} hreg := .step fun w s hr => by
    obtain ⟨-, -, hread, haddr⟩ := spidev_address hreg.2
    have ha : spidevAccess (spidevSndBuf reg 1) = some (.readReg reg) := by
      simp [spidevAccess, spidevSndBuf, hread, haddr, hreg.1]
    obtain ⟨w', hx, hr'⟩ := spidevRead_served h hr (by decide) rcvBuf ha trivial
    have hrun : spidevRegRead d rcvBuf reg w = (.ok (1, some (t.readReg reg s).1.2), w') := by
      rw [spidevRegRead, bind_ok hx]
      rfl
    simp only [spidevSpi, runOk_of_ok hrun]
    exact ⟨⟨⟨by decide, hchip.readReg _ _⟩, rfl⟩, hr'⟩
  fifoWrite {bytes} hne _ := .step fun w s hr => by
    have ha : spidevAccess (((2 : UInt8) <<< 1 &&& 0x7e) :: bytes) = some (.writeFifo bytes) := rfl
    obtain ⟨w', hx, hr'⟩ := spidevWrite_served h hr hne ha
    have hrun : spidevFifoWrite d bytes w = (.ok bytes.length, w') := by
      rw [spidevFifoWrite, bind_ok hx, if_neg (Int.not_lt.mpr (Int.natCast_nonneg _))]
      rfl
    simp only [spidevSpi, runOk_of_ok hrun]
    exact ⟨⟨Int.natCast_nonneg _, hchip.writeFifo _ _ _⟩, hr'⟩
  fifoRead {len} hne hle := .step fun w s hr => by
    have hlen : (List.replicate (len.toNat - 1) (0x04 : UInt8) ++ [0]).length = len.toNat := by
      have hpos : 0 < len.toNat := Nat.pos_of_ne_zero fun h0 => hne (UInt8.toNat_inj.mp h0)
      rw [List.length_append, List.length_replicate, List.length_singleton, Nat.sub_add_cancel hpos]
    have haddr : (List.replicate (len.toNat - 1) (0x04 : UInt8) ++ [0]).dropLast.all
        (fun c => (c &&& 0x7e) >>> 1 == regFifo) = true := by
      rw [List.dropLast_concat, List.all_eq_true]
      intro c hc
      rw [List.eq_of_mem_replicate hc]
      rfl
    have ha : spidevAccess (spidevSndBuf 2 len) = some (.readFifo len) := by
      have hread : spidevAccess (0x84 :: (List.replicate (len.toNat - 1) 0x04 ++ [0])) = _ :=
        if_pos ⟨hlen.trans_le hle, haddr⟩
      rw [hlen, UInt8.ofNat_toNat] at hread
      exact hread
    obtain ⟨w', hx, hr'⟩ := spidevRead_served h hr hne rcvBuf ha trivial
    have hrun : spidevFifoRead d rcvBuf len w = (.ok (len.toNat, (t.readFifo len s).1.2), w') := by
      rw [spidevFifoRead, bind_ok hx]
      dsimp only
      rw [if_neg (Int.not_lt.mpr (Int.natCast_nonneg _))]
      rfl
    simp only [spidevSpi, runOk_of_ok hrun]
    exact ⟨⟨⟨Int.natCast_nonneg _, hchip.readFifo _ _⟩, trivial⟩, hr'⟩

end Spidev

/-- Whatever is asked of the reader, what comes back and what the chip is left with do not depend on
how it is connected. -/
theorem rdrResults_links {υ κ ς σ : Type} {t : Transport σ} (hchip : OnBus t) {usb : UsbDevice υ}
    {ccid : UsbDevice κ} {spi : SpiDevice ς} {U : υ → σ → Prop} {C : κ → σ → Prop} {S : ς → σ → Prop}
    {waits fuel : Nat} (husb : OpenpcdServes usb t U) (hccid : Cm5121Serves ccid t C waits)
    (hfuel : waits ≤ fuel) (hspi : SpidevServes spi t S) (buf : Mem UInt8) (undef : UInt8) (e : Ambient)
    {calls : List RdrCall} (hcalls : ∀ c ∈ calls, c.Transfers) :
    Mimics U (rdrResults (openpcdRat usb buf undef) e calls) (rdrResults t e calls)
        (List.Forall₂ RdrResult.Same) ∧
      Mimics (fun w s => C w.1 s) (rdrResults (cm5121Ccid ccid fuel buf undef) e calls)
        (rdrResults t e calls) (List.Forall₂ RdrResult.Same) ∧
      Mimics S (rdrResults (spidevSpi spi buf undef) e calls) (rdrResults t e calls)
        (List.Forall₂ RdrResult.Same) :=
  ⟨rdrResults_carried (openpcd_carries hchip husb buf undef) e hcalls,
    rdrResults_carried (cm5121_carries hchip hccid hfuel buf undef) e hcalls,
    rdrResults_carried (spidev_carries hchip hspi buf undef) e hcalls⟩

structure Bank where
  regs : UInt8 → UInt8
  queue : List UInt8
  fits : queue.length ≤ fifoSize

def bank : Transport Bank where
  writeReg reg val s := (0, ⟨fun r => if r = reg then val else s.regs r, s.queue, s.fits⟩)
  readReg reg s :=
    ((0, if reg = regFifoLength then UInt8.ofNat s.queue.length
      else if reg = regCommand then cmdIdle else s.regs reg), s)
  writeFifo bytes _ s := (0, ⟨s.regs, (s.queue ++ bytes).take fifoSize, List.length_take_le _ _⟩)
  readFifo len s :=
    ((0, (s.queue ++ List.replicate len.toNat 0).take len.toNat),
      ⟨s.regs, s.queue.drop len.toNat,
        List.length_drop.trans_le ((Nat.sub_le _ _).trans s.fits)⟩)

theorem bank_onBus : OnBus bank where
  writeReg _ _ _ := Int.le_refl 0
  readReg _ _ := Int.le_refl 0
  writeFifo _ _ _ := Int.le_refl 0
  readFifo _ _ := Int.le_refl 0
  level s := (Nat.mod_le _ _).trans s.fits
  length_readFifo len s := by
    change List.length (List.take _ _) = _
    rw [List.length_take, List.length_append, List.length_replicate]
    omega

section Over

variable {σ : Type} (t : Transport σ)

def openpcdReply (frame result : List UInt8) : Access → List UInt8
  | .readReg _ => frame.take 3 ++ result
  | _ => frame.take 4 ++ result

def openpcdOver : UsbDevice (σ × List UInt8) where
  bulkWrite frame w :=
    (frame.length, (openpcdAccess frame).elim w fun a =>
      ((a.run t w.1).2, openpcdReply frame (a.run t w.1).1 a))
  bulkRead w := (.received w.2, w)

def cm5121Over : UsbDevice (σ × List (List UInt8)) where
  bulkWrite msg w :=
    (msg.length, (cm5121Access (msg.drop 10)).elim w fun a =>
      ((a.run t w.1).2, [[Ccid.msgRdrToPcEscape, 0, 0, 0, 0, 0, msg.getD 6 0, 0x80, 0, 0],
        [Ccid.msgRdrToPcEscape, 0, 0, 0, 0, 0, msg.getD 6 0, 0, 0, 0] ++ 0 :: (a.run t w.1).1]))
  bulkRead w := (.received (w.2.headD []), (w.1, w.2.tail))

def spidevOver : SpiDevice σ where
  ioctl frame s :=
    (spidevAccess frame).elim (.received frame, s) fun a =>
      (.received (0 :: if (a.run t s).1 = [] then frame.tail else (a.run t s).1), (a.run t s).2)

theorem openpcdOver_serves : OpenpcdServes (openpcdOver t) t fun w s => w.1 = s := by
  rintro frame a ⟨_, reply⟩ s rfl ha
  refine ⟨_, _, _, rfl, rfl, ?_⟩
  simp only [ha, Option.elim_some]
  refine ⟨?_, trivial⟩
  unfold openpcdAccess at ha
  split at ha
  · cases a with
    | readReg reg => exact .value _ _ _
    | writeReg | writeFifo | readFifo => exact .data _ _ _ _ fun _ h => by cases h
  · cases ha

theorem cm5121Over_serves : Cm5121Serves (cm5121Over t) t (fun w s => w.1 = s) 2 := by
  rintro seqno data msg a ⟨_, replies⟩ s rfl ⟨b, c, d, -⟩ ha
  refine ⟨0, 1, _, rfl, by decide, ?_⟩
  simp only [List.cons_append, List.nil_append, List.drop_succ_cons, List.drop_zero, ha, Option.elim_some]
  exact .wait rfl (.mk 0 0 0 0 0 0) (by decide) (.answer rfl (.mk 0 0 0 0 0 0) (by decide) rfl)

theorem spidevAccess_length (h : OnBus t) {frame : List UInt8} {a : Access}
    (ha : spidevAccess frame = some a) (s : σ) :
    0 < frame.length ∧ (a.reads → (a.run t s).1.length = frame.length - 1) ∧
      (¬ a.reads → (a.run t s).1 = []) := by
  cases frame with
  | nil => cases ha
  | cons b rest =>
    refine ⟨Nat.succ_pos _, ?_⟩
    dsimp only [spidevAccess] at ha
    split_ifs at ha with _ _ _ _ hfifo hone
    · cases ha
      exact ⟨False.elim, fun _ => rfl⟩
    · cases ha
      exact ⟨False.elim, fun _ => rfl⟩
    · cases ha
      have hlt : rest.length < 2 ^ 8 := Nat.lt_of_le_of_lt hfifo.1 (by decide)
      exact ⟨fun _ => (h.length_readFifo _ s).trans (UInt8.toNat_ofNat_of_lt' hlt),
        fun hreads => absurd trivial hreads⟩
    · cases ha
      exact ⟨fun _ => hone.symm, fun hreads => absurd trivial hreads⟩

theorem spidevOver_serves (h : OnBus t) : SpidevServes (spidevOver t) t fun w s => w = s := by
  rintro frame a s _ rfl ha
  obtain ⟨hpos, hreads, hwrites⟩ := spidevAccess_length t h ha s
  have htail : frame.tail.length = frame.length - 1 := List.length_tail
  have hrun : (spidevOver t).ioctl frame s =
      (.received (0 :: if (a.run t s).1 = [] then frame.tail else (a.run t s).1), (a.run t s).2) := by
    simp only [spidevOver, ha, Option.elim_some]
  by_cases hnil : (a.run t s).1 = []
  · rw [if_pos hnil] at hrun
    refine ⟨_, _, hrun, ?_, fun ha' => ?_, rfl⟩
    · exact congrArg (Nat.cast) ((congrArg (· + 1) htail).trans (Nat.sub_add_cancel hpos))
    · have hlen := hreads ha'
      rw [hnil, ← htail, List.length_nil] at hlen
      rw [hnil]
      exact List.eq_nil_of_length_eq_zero hlen.symm
  · have ha' : a.reads := not_not.mp fun hno => hnil (hwrites hno)
    rw [if_neg hnil] at hrun
    refine ⟨_, _, hrun, ?_, fun _ => rfl, rfl⟩
    exact congrArg (Nat.cast) ((congrArg (· + 1) (hreads ha')).trans (Nat.sub_add_cancel hpos))

end Over

def twoBytes : List RdrCall :=
  [.open, .transceive .mifareFrame (Mem.ofList (fun _ => 0) [0x30, 0x04]) 2 (fun _ => 0) 16 100]

theorem rdrResults_links_twoBytes :
    Mimics (fun w s => w.1 = s)
        (rdrResults (openpcdRat (openpcdOver bank) (fun _ => 0) 0) ⟨0, 4, ⟨0, 0, 0, 0⟩, ⟨0, 0⟩⟩ twoBytes)
        (rdrResults bank ⟨0, 4, ⟨0, 0, 0, 0⟩, ⟨0, 0⟩⟩ twoBytes) (List.Forall₂ RdrResult.Same) ∧
      Mimics (fun w s => w.1.1 = s)
        (rdrResults (cm5121Ccid (cm5121Over bank) 2 (fun _ => 0) 0) ⟨0, 4, ⟨0, 0, 0, 0⟩, ⟨0, 0⟩⟩
          twoBytes)
        (rdrResults bank ⟨0, 4, ⟨0, 0, 0, 0⟩, ⟨0, 0⟩⟩ twoBytes) (List.Forall₂ RdrResult.Same) ∧
      Mimics (fun w s => w = s)
        (rdrResults (spidevSpi (spidevOver bank) (fun _ => 0) 0) ⟨0, 4, ⟨0, 0, 0, 0⟩, ⟨0, 0⟩⟩ twoBytes)
        (rdrResults bank ⟨0, 4, ⟨0, 0, 0, 0⟩, ⟨0, 0⟩⟩ twoBytes) (List.Forall₂ RdrResult.Same) := by
  refine rdrResults_links bank_onBus (openpcdOver_serves bank) (cm5121Over_serves bank) (Nat.le_refl 2)
    (spidevOver_serves bank bank_onBus) _ 0 ⟨0, 4, ⟨0, 0, 0, 0⟩, ⟨0, 0⟩⟩ ?_
  rw [twoBytes, List.forall_mem_cons, List.forall_mem_singleton]
  exact ⟨trivial, (by decide : UInt8.ofNat 2 ≠ 0), (by decide : 0 < 16)⟩

end Librfid.Rc632
