import Librfid.Rc632.Driver

/-! The transports below the chip: OpenPCD in `rfid_reader_openpcd.c`, CM5121 in
`rfid_reader_cm5121.c` and `spidev` in `rfid_reader_spidev.c`. -/

namespace Librfid.Rc632

structure Reply where
  ret : Int
  bytes : List UInt8
  length_eq : 0 ≤ ret → (bytes.length : Int) = ret

def Reply.received (bytes : List UInt8) : Reply := ⟨bytes.length, bytes, fun _ => rfl⟩

def Reply.error (ret : Int) (h : ret < 0) : Reply :=
  ⟨ret, [], fun hret => absurd hret (Int.not_le.mpr h)⟩

structure UsbDevice (σ : Type) where
  bulkWrite : List UInt8 → σ → Int × σ
  bulkRead : σ → Reply × σ

structure CcidDevice (σ : Type) where
  escape : List UInt8 → σ → (Int × List UInt8) × σ

structure SpiDevice (σ : Type) where
  ioctl : List UInt8 → σ → Reply × σ

def sizeSub (a b : Nat) : Nat := if b ≤ a then a - b else a + 2 ^ 64 - b

section Openpcd

def openpcdFlagRespond : UInt8 := 0x01

def openpcdCmdWriteReg : UInt8 := 0x11
def openpcdCmdWriteFifo : UInt8 := 0x12
def openpcdCmdReadReg : UInt8 := 0x16
def openpcdCmdReadFifo : UInt8 := 0x17

def openpcdHdr : Nat := 4

variable {σ : Type} (d : UsbDevice σ)

def openpcdSendCommand (cmd reg val : UInt8) (data : List UInt8) : Exec σ Int :=
  Exec.step (d.bulkWrite ([cmd, openpcdFlagRespond, reg, val] ++ data))

def openpcdXcv (cmd reg val : UInt8) (data : List UInt8) : Exec σ Reply := do
  let ret ← openpcdSendCommand d cmd reg val data
  if h : ret < 0 then pure (Reply.error ret h)
  else if ret.toNat < openpcdHdr then pure (Reply.error (-eInval) (by decide))
  else Exec.step d.bulkRead

def openpcdRegWrite (reg value : UInt8) : Exec σ Int := do
  let x ← openpcdXcv d openpcdCmdWriteReg reg value []
  pure x.ret

/-- What is returned, and `*value` where it is assigned; `rcvBuf` is what the buffer holds before. -/
def openpcdRegRead (rcvBuf : Mem UInt8) (reg : UInt8) : Exec σ (Int × Option UInt8) := do
  let x ← openpcdXcv d openpcdCmdReadReg reg 0 []
  if x.ret < 0 then pure (x.ret, none)
  else if x.ret.toNat < openpcdHdr then pure (x.ret, none)
  else pure (x.ret, some (rcvBuf.store 0 x.bytes 3))

def openpcdFifoRead (rcvBuf : Mem UInt8) (numBytes : UInt8) : Exec σ (Int × List UInt8) := do
  let x ← openpcdXcv d openpcdCmdReadFifo 0x00 numBytes []
  if x.ret < 0 then pure (x.ret, [])
  else pure (x.ret, (rcvBuf.store 0 x.bytes).load openpcdHdr (sizeSub x.ret.toNat openpcdHdr))

def openpcdFifoWrite (bytes : List UInt8) : Exec σ Int := do
  let x ← openpcdXcv d openpcdCmdWriteFifo 0 0 bytes
  pure x.ret

end Openpcd

section Cm5121

variable {σ : Type} (d : CcidDevice σ)

def write1ByteToReg (reg value : UInt8) : Exec σ Int := do
  let x ← Exec.step (d.escape [0x20, 0x00, 0x01, 0x00, 0x00, 0x00, reg, value])
  pure (if x.1 = 0 then 0 else -1)

def read1ByteFromReg (recvbuf : Mem UInt8) (reg : UInt8) : Exec σ (Int × Option UInt8) := do
  let x ← Exec.step (d.escape [0x20, 0x00, 0x00, 0x00, 0x01, 0x00, reg])
  pure (if x.1 = 0 then (0, some (recvbuf.store 0 x.2 1)) else (-1, none))

def readNBytesFromFifo (recvbuf : Mem UInt8) (numBytes : UInt8) : Exec σ (Int × List UInt8) := do
  let x ← Exec.step (d.escape [0x20, 0x00, 0x00, 0x00, numBytes, 0x00, 0x02])
  pure (if x.1 = 0 then (0, (recvbuf.store 0 x.2).load 1 numBytes.toNat) else (-1, []))

def writeNBytesToFifo (bytes : List UInt8) (flags : UInt8) : Exec σ Int := do
  let x ← Exec.step (d.escape
    ([0x20, 0x00, UInt8.ofNat bytes.length, 0x00, 0x00, flags, 0x02] ++ bytes))
  pure (if x.1 = 0 then 0 else -1)

end Cm5121

section Spidev

def spidevSndBuf (reg len : UInt8) : List UInt8 :=
  (reg <<< 1 ||| 0x80) :: List.replicate (len.toNat - 1) (reg <<< 1) ++ [0]

variable {σ : Type} (d : SpiDevice σ)

def spidevRead (rcvBuf : Mem UInt8) (reg len : UInt8) : Exec σ (Int × List UInt8) :=
  if len = 0 then pure (-eInval, [])
  else do
    let x ← Exec.step (d.ioctl (spidevSndBuf reg len))
    if x.ret < 0 then pure (x.ret, [])
    else if x.ret ≠ len.toNat + 1 then pure (-eInval, [])
    else pure (len.toNat, (rcvBuf.store 0 x.bytes).load 1 len.toNat)

def spidevWrite (reg : UInt8) (buf : List UInt8) : Exec σ Int :=
  if buf.length = 0 then pure (-eInval)
  else do
    let x ← Exec.step (d.ioctl ((reg <<< 1 &&& 0x7e) :: buf))
    if x.ret < 0 then pure x.ret
    else if x.ret ≠ buf.length + 1 then pure (-eInval)
    else pure buf.length

def spidevRegRead (rcvBuf : Mem UInt8) (reg : UInt8) : Exec σ (Int × Option UInt8) := do
  let (ret, buf) ← spidevRead d rcvBuf reg 1
  if ret < 0 then pure (ret, buf.head?) else pure (1, buf.head?)

def spidevRegWrite (reg value : UInt8) : Exec σ Int := do
  let ret ← spidevWrite d reg [value]
  if ret < 0 then pure ret else pure 1

def spidevFifoRead (rcvBuf : Mem UInt8) (len : UInt8) : Exec σ (Int × List UInt8) := do
  let (ret, buf) ← spidevRead d rcvBuf 2 len
  if ret < 0 then pure (ret, buf) else pure (len.toNat, buf)

def spidevFifoWrite (buf : List UInt8) : Exec σ Int := do
  let ret ← spidevWrite d 2 buf
  if ret < 0 then pure ret else pure buf.length

end Spidev

/-- A FIFO read of `n` bytes, when the reply has this payload: a value and the bytes stored. -/
structure FifoHonoured (n : Nat) (payload : List UInt8) (r : Int × List UInt8) : Prop where
  exact : 0 ≤ r.1 → payload.length = n ∧ r.2 = payload
  within : r.2.length ≤ n

def RegHonoured (byte : Option UInt8) (r : Int × Option UInt8) : Prop :=
  0 ≤ r.1 → byte.isSome ∧ r.2 = byte

theorem fifoHonoured_error {n : Nat} {payload : List UInt8} {ret : Int} (h : ret < 0) :
    FifoHonoured n payload (ret, []) :=
  ⟨fun hret => absurd hret (Int.not_le.mpr h), Nat.zero_le n⟩

theorem regHonoured_error {byte val : Option UInt8} {ret : Int} (h : ret < 0) :
    RegHonoured byte (ret, val) := fun hret => absurd hret (Int.not_le.mpr h)

theorem store_getElem? (m : Mem UInt8) {l : List UInt8} {i : Nat} (h : i < l.length) :
    l[i]? = some (m.store 0 l i) := by
  have hstore := Mem.store_add m 0 l i h
  rw [Int.zero_add] at hstore
  rw [hstore, List.getElem?_eq_getElem h]

section Openpcd

variable {σ : Type} (d : UsbDevice σ) (rcvBuf : Mem UInt8) (s : σ)

theorem openpcdXcv_run (cmd reg val : UInt8) (data : List UInt8) :
    ∃ x s', openpcdXcv d cmd reg val data s = (.ok x, s') := by
  unfold openpcdXcv openpcdSendCommand
  rw [Exec.bind_ok (Exec.step_run _ s)]
  split_ifs
  · exact ⟨_, _, rfl⟩
  · exact ⟨_, _, rfl⟩
  · exact ⟨_, _, rfl⟩

/-- Nothing compares the reply with what was asked for; a reply without a header is even taken for
one of nearly the whole memory. -/
theorem openpcdFifoRead_honoured (n : UInt8) :
    ∃ x r s', openpcdXcv d openpcdCmdReadFifo 0x00 n [] s = (.ok x, s') ∧
      openpcdFifoRead d rcvBuf n s = (.ok r, s') ∧
      (FifoHonoured n.toNat (x.bytes.drop openpcdHdr) r ↔
        x.ret < 0 ∨ x.bytes.length = n.toNat + openpcdHdr) := by
  obtain ⟨x, s', hx⟩ := openpcdXcv_run d s openpcdCmdReadFifo 0x00 n []
  by_cases hneg : x.ret < 0
  · refine ⟨x, (x.ret, []), s', hx, ?_, iff_of_true (fifoHonoured_error hneg) (.inl hneg)⟩
    rw [openpcdFifoRead, Exec.bind_ok hx, if_pos hneg]
    rfl
  · have hlen : x.ret.toNat = x.bytes.length := by
      have hlength := x.length_eq (Int.not_lt.mp hneg)
      omega
    refine ⟨x, (x.ret, (rcvBuf.store 0 x.bytes).load openpcdHdr (sizeSub x.bytes.length openpcdHdr)),
      s', hx, ?_, ?_⟩
    · rw [openpcdFifoRead, Exec.bind_ok hx, if_neg hneg, hlen]
      rfl
    constructor
    · rintro ⟨hexact, -⟩
      obtain ⟨hn, hbytes⟩ := hexact (Int.not_lt.mp hneg)
      have hcopied := congrArg List.length hbytes
      rw [Mem.length_load, hn, sizeSub] at hcopied
      rw [List.length_drop] at hn
      have hbyte := n.toNat_lt
      split_ifs at hcopied with hle
      · exact .inr (by omega)
      · have hhdr : openpcdHdr = 4 := rfl
        omega
    · rintro (hret | hn)
      · exact absurd hret hneg
      · have hsize : sizeSub x.bytes.length openpcdHdr = n.toNat := by
          rw [sizeSub, hn, if_pos (Nat.le_add_left _ _), Nat.add_sub_cancel]
        have hpayload : (rcvBuf.store 0 x.bytes).load openpcdHdr n.toNat =
            x.bytes.drop openpcdHdr := by
          rw [← Mem.load_store_drop rcvBuf 0 x.bytes (hn.trans (Nat.add_comm _ _)), Int.zero_add]
        rw [hsize]
        exact ⟨fun _ => ⟨by rw [List.length_drop, hn, Nat.add_sub_cancel], hpayload⟩,
          Nat.le_of_eq (Mem.length_load _ _ _)⟩

theorem openpcdRegRead_honoured (reg : UInt8) :
    ∃ x r s', openpcdXcv d openpcdCmdReadReg reg 0 [] s = (.ok x, s') ∧
      openpcdRegRead d rcvBuf reg s = (.ok r, s') ∧
      (RegHonoured x.bytes[3]? r ↔ x.ret < 0 ∨ openpcdHdr ≤ x.bytes.length) := by
  obtain ⟨x, s', hx⟩ := openpcdXcv_run d s openpcdCmdReadReg reg 0 []
  by_cases hneg : x.ret < 0
  · refine ⟨x, (x.ret, none), s', hx, ?_, iff_of_true (regHonoured_error hneg) (.inl hneg)⟩
    rw [openpcdRegRead, Exec.bind_ok hx, if_pos hneg]
    rfl
  · have hret := Int.not_lt.mp hneg
    have hlen : x.ret.toNat = x.bytes.length := by
      have hlength := x.length_eq hret
      omega
    by_cases hshort : x.ret.toNat < openpcdHdr
    · refine ⟨x, (x.ret, none), s', hx, ?_, iff_of_false (fun h => ?_) ?_⟩
      · rw [openpcdRegRead, Exec.bind_ok hx, if_neg hneg, if_pos hshort]
        rfl
      · obtain ⟨hsome, hnone⟩ := h hret
        rw [← hnone] at hsome
        cases hsome
      · rintro (h | h)
        · exact hneg h
        · omega
    · have hheader : 3 < x.bytes.length := by
        have hhdr : openpcdHdr = 4 := rfl
        omega
      refine ⟨x, (x.ret, some (rcvBuf.store 0 x.bytes 3)), s', hx, ?_,
        iff_of_true (fun _ => ?_) (.inr (by omega))⟩
      · rw [openpcdRegRead, Exec.bind_ok hx, if_neg hneg, if_neg hshort]
        rfl
      · rw [store_getElem? rcvBuf hheader]
        exact ⟨rfl, rfl⟩

end Openpcd

section Cm5121

variable {σ : Type} (d : CcidDevice σ) (recvbuf : Mem UInt8) (s : σ)

/-- The length of the reply is not looked at. -/
theorem readNBytesFromFifo_honoured {n : UInt8} (hn : 0 < n.toNat) :
    ∃ x r s', d.escape [0x20, 0x00, 0x00, 0x00, n, 0x00, 0x02] s = (x, s') ∧
      readNBytesFromFifo d recvbuf n s = (.ok r, s') ∧
      (FifoHonoured n.toNat (x.2.drop 1) r ↔ x.1 ≠ 0 ∨ x.2.length = n.toNat + 1) := by
  refine ⟨_, _, _, rfl, rfl, ?_⟩
  set x := (d.escape [0x20, 0x00, 0x00, 0x00, n, 0x00, 0x02] s).1
  by_cases hrc : x.1 = 0
  · rw [if_pos hrc]
    constructor
    · rintro ⟨hexact, -⟩
      obtain ⟨hlen, -⟩ := hexact (Int.le_refl 0)
      rw [List.length_drop] at hlen
      exact .inr (by omega)
    · rintro (hret | hlen)
      · exact absurd hrc hret
      · have hpayload := Mem.load_store_drop recvbuf 0 x.2 (hlen.trans (Nat.add_comm _ _))
        exact ⟨fun _ => ⟨by rw [List.length_drop, hlen, Nat.add_sub_cancel], hpayload⟩,
          Nat.le_of_eq (Mem.length_load _ _ _)⟩
  · rw [if_neg hrc]
    exact iff_of_true (fifoHonoured_error (by decide)) (.inl hrc)

theorem read1ByteFromReg_honoured (reg : UInt8) :
    ∃ x r s', d.escape [0x20, 0x00, 0x00, 0x00, 0x01, 0x00, reg] s = (x, s') ∧
      read1ByteFromReg d recvbuf reg s = (.ok r, s') ∧
      (RegHonoured x.2[1]? r ↔ x.1 ≠ 0 ∨ 2 ≤ x.2.length) := by
  refine ⟨_, _, _, rfl, rfl, ?_⟩
  set x := (d.escape [0x20, 0x00, 0x00, 0x00, 0x01, 0x00, reg] s).1
  by_cases hrc : x.1 = 0
  · rw [if_pos hrc]
    constructor
    · intro h
      have hsome := (h (Int.le_refl 0)).1
      rw [Option.isSome_iff_exists] at hsome
      obtain ⟨v, hv⟩ := hsome
      exact .inr (List.getElem?_eq_some_iff.mp hv).1
    · rintro (hret | hlen) -
      · exact absurd hrc hret
      · rw [store_getElem? recvbuf hlen]
        exact ⟨rfl, rfl⟩
  · rw [if_neg hrc]
    exact iff_of_true (regHonoured_error (by decide)) (.inl hrc)

end Cm5121

section Spidev

variable {σ : Type} (d : SpiDevice σ) (rcvBuf : Mem UInt8) (s : σ)

theorem spidevRead_honoured (reg n : UInt8) :
    ∃ r s', spidevRead d rcvBuf reg n s = (.ok r, s') ∧
      FifoHonoured n.toNat ((d.ioctl (spidevSndBuf reg n) s).1.bytes.drop 1) r ∧
      (0 ≤ r.1 → r.1 = n.toNat) := by
  by_cases hzero : n = 0
  · refine ⟨(-eInval, []), s, ?_, fifoHonoured_error (by decide), fun h => absurd h (by decide)⟩
    rw [spidevRead, if_pos hzero]
    rfl
  set x := (d.ioctl (spidevSndBuf reg n) s).1 with hx
  have hrun : ∀ r, (if x.ret < 0 then pure (x.ret, [])
      else if x.ret ≠ n.toNat + 1 then pure (-eInval, [])
      else pure (n.toNat, (rcvBuf.store 0 x.bytes).load 1 n.toNat) : Exec σ (Int × List UInt8)) =
        pure r → spidevRead d rcvBuf reg n s = (.ok r, (d.ioctl (spidevSndBuf reg n) s).2) := by
    intro r hr
    rw [spidevRead, if_neg hzero, Exec.bind_ok (Exec.step_run _ s), ← hx, hr]
    rfl
  by_cases hneg : x.ret < 0
  · exact ⟨(x.ret, []), _, hrun _ (if_pos hneg), fifoHonoured_error hneg,
      fun h => absurd hneg (Int.not_lt.mpr h)⟩
  by_cases hlen : x.ret = n.toNat + 1
  · refine ⟨(n.toNat, (rcvBuf.store 0 x.bytes).load 1 n.toNat), _, hrun _ ?_,
      ⟨fun _ => ?_, Nat.le_of_eq (Mem.length_load _ _ _)⟩, fun _ => rfl⟩
    · rw [if_neg hneg, if_neg (not_not.mpr hlen)]
    · have hlength := x.length_eq (Int.not_lt.mp hneg)
      have hbytes : x.bytes.length = 1 + n.toNat := by omega
      exact ⟨by rw [List.length_drop, hbytes, Nat.add_sub_cancel_left],
        Mem.load_store_drop rcvBuf 0 x.bytes hbytes⟩
  · refine ⟨(-eInval, []), _, hrun _ ?_, fifoHonoured_error (by decide), fun h => absurd h (by decide)⟩
    rw [if_neg hneg, if_pos hlen]

theorem spidevFifoRead_honoured (n : UInt8) :
    ∃ r s', spidevFifoRead d rcvBuf n s = (.ok r, s') ∧
      FifoHonoured n.toNat ((d.ioctl (spidevSndBuf 2 n) s).1.bytes.drop 1) r := by
  obtain ⟨r, s', hr, hhonoured, hret⟩ := spidevRead_honoured d rcvBuf s 2 n
  refine ⟨r, s', ?_, hhonoured⟩
  rw [spidevFifoRead, Exec.bind_ok hr]
  by_cases hneg : r.1 < 0
  · simp only [if_pos hneg, Exec.pure_run]
  · simp only [if_neg hneg, ← hret (Int.not_lt.mp hneg), Exec.pure_run]

theorem spidevRegRead_honoured (reg : UInt8) :
    ∃ r s', spidevRegRead d rcvBuf reg s = (.ok r, s') ∧
      RegHonoured (d.ioctl (spidevSndBuf reg 1) s).1.bytes[1]? r := by
  obtain ⟨r, s', hr, hhonoured, hret⟩ := spidevRead_honoured d rcvBuf s reg 1
  by_cases hneg : r.1 < 0
  · refine ⟨(r.1, r.2.head?), s', ?_, regHonoured_error hneg⟩
    rw [spidevRegRead, Exec.bind_ok hr]
    simp only [if_pos hneg, Exec.pure_run]
  · obtain ⟨hlen, hbytes⟩ := hhonoured.exact (Int.not_lt.mp hneg)
    refine ⟨(1, r.2.head?), s', ?_, fun _ => ?_⟩
    · rw [spidevRegRead, Exec.bind_ok hr]
      simp only [if_neg hneg, Exec.pure_run]
    · rw [hbytes, List.head?_drop]
      set x := (d.ioctl (spidevSndBuf reg 1) s).1.bytes
      rw [List.length_drop] at hlen
      have hone : (1 : UInt8).toNat = 1 := rfl
      have hlt : 1 < x.length := by omega
      rw [List.getElem?_eq_getElem hlt]
      exact ⟨rfl, rfl⟩

end Spidev

/-- The chip's code takes what a transport gives as it is.  OpenPCD copies what came, CM5121 what
was asked for: each is right exactly when the reply has the length asked for, and `spidev` always.
A register is read from a reply that may be too short to have the value. -/
theorem transports_honoured_iff {υ κ ς : Type} (usb : UsbDevice υ) (ccid : CcidDevice κ)
    (spi : SpiDevice ς) (buf : Mem UInt8) {n : UInt8} (hn : 0 < n.toNat) (reg : UInt8) (u : υ)
    (k : κ) (s : ς) :
    ((∃ x r u', openpcdXcv usb openpcdCmdReadFifo 0x00 n [] u = (.ok x, u') ∧
        openpcdFifoRead usb buf n u = (.ok r, u') ∧
        (FifoHonoured n.toNat (x.bytes.drop openpcdHdr) r ↔
          x.ret < 0 ∨ x.bytes.length = n.toNat + openpcdHdr)) ∧
      ∃ x r u', openpcdXcv usb openpcdCmdReadReg reg 0 [] u = (.ok x, u') ∧
        openpcdRegRead usb buf reg u = (.ok r, u') ∧
        (RegHonoured x.bytes[3]? r ↔ x.ret < 0 ∨ openpcdHdr ≤ x.bytes.length)) ∧
    ((∃ x r k', ccid.escape [0x20, 0x00, 0x00, 0x00, n, 0x00, 0x02] k = (x, k') ∧
        readNBytesFromFifo ccid buf n k = (.ok r, k') ∧
        (FifoHonoured n.toNat (x.2.drop 1) r ↔ x.1 ≠ 0 ∨ x.2.length = n.toNat + 1)) ∧
      ∃ x r k', ccid.escape [0x20, 0x00, 0x00, 0x00, 0x01, 0x00, reg] k = (x, k') ∧
        read1ByteFromReg ccid buf reg k = (.ok r, k') ∧
        (RegHonoured x.2[1]? r ↔ x.1 ≠ 0 ∨ 2 ≤ x.2.length)) ∧
    (∃ r s', spidevFifoRead spi buf n s = (.ok r, s') ∧
        FifoHonoured n.toNat ((spi.ioctl (spidevSndBuf 2 n) s).1.bytes.drop 1) r) ∧
      ∃ r s', spidevRegRead spi buf reg s = (.ok r, s') ∧
        RegHonoured (spi.ioctl (spidevSndBuf reg 1) s).1.bytes[1]? r :=
  ⟨⟨openpcdFifoRead_honoured usb buf u n, openpcdRegRead_honoured usb buf u reg⟩,
    ⟨readNBytesFromFifo_honoured ccid buf k hn, read1ByteFromReg_honoured ccid buf k reg⟩,
    spidevFifoRead_honoured spi buf s n, spidevRegRead_honoured spi buf s reg⟩

def usbAnswering (bytes : List UInt8) : UsbDevice Unit where
  bulkWrite sent u := (sent.length, u)
  bulkRead u := (.received bytes, u)

def ccidAnswering (bytes : List UInt8) : CcidDevice Unit where
  escape _ u := ((0, bytes), u)

def spiAnswering (bytes : List UInt8) : SpiDevice Unit where
  ioctl _ u := (.received bytes, u)

theorem transports_honoured_one :
    (∃ x r u', openpcdXcv (usbAnswering [0, 0, 0, 0, 7]) openpcdCmdReadFifo 0x00 1 [] () = (.ok x, u') ∧
      openpcdFifoRead (usbAnswering [0, 0, 0, 0, 7]) (fun _ => 0) 1 () = (.ok r, u') ∧
      (FifoHonoured 1 (x.bytes.drop openpcdHdr) r ↔
        x.ret < 0 ∨ x.bytes.length = 1 + openpcdHdr)) ∧
    ∃ r s', spidevFifoRead (spiAnswering [0, 7]) (fun _ => 0) 1 () = (.ok r, s') ∧
      FifoHonoured 1 (((spiAnswering [0, 7]).ioctl (spidevSndBuf 2 1) ()).1.bytes.drop 1) r :=
  have h := transports_honoured_iff (usbAnswering [0, 0, 0, 0, 7]) (ccidAnswering [0, 7])
    (spiAnswering [0, 7]) (fun _ => 0) (n := 1) (by decide) 0x01 () () ()
  ⟨h.1.1, h.2.2.1⟩

/-- Two bytes are asked for, and the replies have one: both calls succeed. -/
theorem transports_short :
    openpcdFifoRead (usbAnswering [0, 0, 0, 0, 7]) (fun _ => 0) 2 () = (.ok (5, [7]), ()) ∧
      ¬ FifoHonoured 2 [7] (5, [7]) ∧
      readNBytesFromFifo (ccidAnswering [0, 7]) (fun _ => 0) 2 () = (.ok (0, [7, 0]), ()) ∧
      ¬ FifoHonoured 2 [7] (0, [7, 0]) := by
  refine ⟨rfl, fun h => ?_, rfl, fun h => ?_⟩
  · exact absurd (h.exact (by decide)).1 (by decide)
  · exact absurd (h.exact (by decide)).1 (by decide)

end Librfid.Rc632
