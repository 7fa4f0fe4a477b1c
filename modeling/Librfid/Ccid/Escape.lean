import Librfid.Lib.Mimic
import Librfid.Rc632.Transports

/-! Escape commands in `ccid-driver.c`: messages on two bulk pipes, numbered by the driver. -/

namespace Librfid.Ccid

open Exec Rc632

def msgPcToRdrEscape : UInt8 := 0x6b
def msgRdrToPcEscape : UInt8 := 0x83

def ccidDriverErrInvValue : Int := 0x10002
def ccidDriverErrNoCard : Int := 0x10008
def ccidDriverErrCardInactive : Int := 0x10009
def ccidDriverErrCardIoError : Int := 0x1000a

def msgLen (length : Nat) : List UInt8 :=
  [UInt8.ofNat length, UInt8.ofNat (length >>> 8), UInt8.ofNat (length >>> 16),
    UInt8.ofNat (length >>> 24)]

def escapeMsg (seqno : UInt8) (data : List UInt8) : List UInt8 :=
  msgPcToRdrEscape :: msgLen data.length ++ [0, seqno, 0, 0, 0] ++ data

def escapeMax : Nat := 90

def TimeExtension (status : UInt8) : Prop := status &&& 0x03 = 0 ∧ status &&& 0xc0 = 0x80

instance (status : UInt8) : Decidable (TimeExtension status) := inferInstanceAs (Decidable (_ ∧ _))

def cardCode (status : UInt8) : Int :=
  if status &&& 0x03 = 1 then ccidDriverErrCardInactive
  else if status &&& 0x03 = 2 then ccidDriverErrNoCard
  else 0

def Ignored (rc : Int) : Prop := rc = 0 ∨ rc = ccidDriverErrCardInactive ∨ rc = ccidDriverErrNoCard

instance (rc : Int) : Decidable (Ignored rc) := inferInstanceAs (Decidable (_ ∨ _ ∨ _))

section

variable {κ : Type} (d : UsbDevice κ)

def bulkOut (msg : List UInt8) : Exec κ Int := do
  let rc ← step (d.bulkWrite msg)
  pure (if rc = msg.length then 0 else ccidDriverErrCardIoError)

def bulkIn (expectedType seqno : UInt8) : Nat → Exec κ (Int × List UInt8)
  | 0 => hang
  | fuel + 1 => do
    let x ← step d.bulkRead
    let buffer := fun i => x.bytes.getD i 0
    if x.ret < 0 then pure (ccidDriverErrCardIoError, [])
    else if x.bytes.length < 10 then pure (ccidDriverErrInvValue, x.bytes)
    else if buffer 0 ≠ expectedType then pure (ccidDriverErrInvValue, x.bytes)
    else if buffer 5 ≠ 0 then pure (ccidDriverErrInvValue, x.bytes)
    else if buffer 6 ≠ seqno then pure (ccidDriverErrInvValue, x.bytes)
    else if TimeExtension (buffer 7) then bulkIn expectedType seqno fuel
    else pure (cardCode (buffer 7), x.bytes)

/-- The return value and what is copied to `result`; an answer that does not fit is dropped without an
error.  The second part of the state is `handle->seqno`. -/
def sendEscapeCmd (fuel : Nat) (data : List UInt8) (resultmax : Nat) :
    Exec (κ × Nat) (Int × List UInt8) :=
  if data.length > escapeMax then pure (ccidDriverErrInvValue, [])
  else do
    let seqno ← get
    modify (· + 1)
    let rc ← lift (bulkOut d (escapeMsg (UInt8.ofNat seqno) data))
    if rc ≠ 0 then pure (rc, [])
    else do
      let (rc, msg) ← lift (bulkIn d msgRdrToPcEscape (UInt8.ofNat seqno) fuel)
      if Ignored rc then
        if msg.length < 10 ∨ msg.length - 10 > resultmax then pure (0, []) else pure (0, msg.drop 10)
      else pure (rc, [])

/-- `PC_to_RDR_Escape` with a buffer of this size, as the reader's code sees it; a call that does not
come back counts as an error. -/
def escapeDevice (fuel resultmax : Nat) : CcidDevice (κ × Nat) where
  escape data := runOk (sendEscapeCmd d fuel data resultmax) (-1, [])

end

inductive Request (seqno : UInt8) (data : List UInt8) : List UInt8 → Prop
  | mk {l0 l1 l2 l3 : UInt8} (a b c : UInt8)
      (len : l0.toNat + l1.toNat * 2 ^ 8 + l2.toNat * 2 ^ 16 + l3.toNat * 2 ^ 24 = data.length) :
      Request seqno data ([msgPcToRdrEscape, l0, l1, l2, l3, 0, seqno, a, b, c] ++ data)

inductive Response (seqno status : UInt8) (payload : List UInt8) : List UInt8 → Prop
  | mk (l0 l1 l2 l3 error chain : UInt8) : Response seqno status payload
      ([msgRdrToPcEscape, l0, l1, l2, l3, 0, seqno, status, error, chain] ++ payload)

theorem escapeMsg_request (seqno : UInt8) {data : List UInt8} (h : data.length ≤ escapeMax) :
    Request seqno data (escapeMsg seqno data) := by
  have hmax : escapeMax = 90 := rfl
  refine .mk 0 0 0 ?_
  simp only [UInt8.toNat_ofNat', Nat.shiftRight_eq_div_pow]
  omega

inductive Answering {κ : Type} (d : UsbDevice κ) (seqno : UInt8) (payload : List UInt8)
    (P : κ → Prop) : Nat → κ → Prop
  | answer {w w' : κ} {msg : List UInt8} {status : UInt8} : d.bulkRead w = (.received msg, w') →
      Response seqno status payload msg → ¬ TimeExtension status → P w' →
      Answering d seqno payload P 0 w
  | wait {n : Nat} {w w' : κ} {msg rest : List UInt8} {status : UInt8} :
      d.bulkRead w = (.received msg, w') → Response seqno status rest msg → TimeExtension status →
      Answering d seqno payload P n w' → Answering d seqno payload P (n + 1) w

structure Accepted (expectedType seqno : UInt8) (msg : List UInt8) : Prop where
  length : 10 ≤ msg.length
  type : msg.getD 0 0 = expectedType
  slot : msg.getD 5 0 = 0
  number : msg.getD 6 0 = seqno

section

variable {κ : Type} {d : UsbDevice κ} {seqno : UInt8} {payload : List UInt8} {P : κ → Prop}

theorem cardCode_ignored (status : UInt8) : Ignored (cardCode status) := by
  unfold cardCode
  split_ifs
  · exact .inr (.inl rfl)
  · exact .inr (.inr rfl)
  · exact .inl rfl

theorem bulkIn_accepted {expectedType : UInt8} {x : Reply} {w w' : κ} (fuel : Nat)
    (hread : d.bulkRead w = (x, w')) (hret : 0 ≤ x.ret) (h : Accepted expectedType seqno x.bytes) :
    bulkIn d expectedType seqno (fuel + 1) w =
      if TimeExtension (x.bytes.getD 7 0) then bulkIn d expectedType seqno fuel w'
      else (.ok (cardCode (x.bytes.getD 7 0), x.bytes), w') := by
  have hstep : step d.bulkRead w = (.ok x, w') := by rw [step, hread]
  rw [bulkIn, bind_ok hstep, if_neg (Int.not_lt.mpr hret), if_neg (Nat.not_lt.mpr h.length),
    if_neg (not_not.mpr h.type), if_neg (not_not.mpr h.slot), if_neg (not_not.mpr h.number)]
  split_ifs <;> rfl

theorem bulkIn_error {expectedType : UInt8} {x : Reply} {w w' : κ} (fuel : Nat)
    (hread : d.bulkRead w = (x, w')) (hret : x.ret < 0) :
    bulkIn d expectedType seqno (fuel + 1) w = (.ok (ccidDriverErrCardIoError, []), w') := by
  have hstep : step d.bulkRead w = (.ok x, w') := by rw [step, hread]
  rw [bulkIn, bind_ok hstep, if_pos hret]
  rfl

theorem bulkIn_rejected {expectedType : UInt8} {x : Reply} {w w' : κ} (fuel : Nat)
    (hread : d.bulkRead w = (x, w')) (hret : 0 ≤ x.ret) (h : ¬ Accepted expectedType seqno x.bytes) :
    bulkIn d expectedType seqno (fuel + 1) w = (.ok (ccidDriverErrInvValue, x.bytes), w') := by
  have hstep : step d.bulkRead w = (.ok x, w') := by rw [step, hread]
  rw [bulkIn, bind_ok hstep, if_neg (Int.not_lt.mpr hret)]
  split_ifs with hlen htype hslot hnumber
  · rfl
  · rfl
  · rfl
  · rfl
  all_goals
    exact absurd ⟨Nat.not_lt.mp hlen, not_not.mp htype, not_not.mp hslot, not_not.mp hnumber⟩ h

theorem Response.accepted {status : UInt8} {msg : List UInt8} (h : Response seqno status payload msg) :
    Accepted msgRdrToPcEscape seqno msg ∧ msg.getD 7 0 = status ∧ msg.drop 10 = payload := by
  cases h
  exact ⟨⟨by simp, rfl, rfl, rfl⟩, rfl, rfl⟩

theorem bulkIn_answered {n : Nat} {w : κ} (h : Answering d seqno payload P n w) {fuel : Nat}
    (hfuel : n < fuel) :
    ∃ rc msg w', bulkIn d msgRdrToPcEscape seqno fuel w = (.ok (rc, msg), w') ∧ Ignored rc ∧
      10 ≤ msg.length ∧ msg.drop 10 = payload ∧ P w' := by
  induction h generalizing fuel with
  | answer hread hresp hstatus hp =>
    obtain ⟨k, rfl⟩ : ∃ k, fuel = k + 1 := ⟨fuel - 1, by omega⟩
    obtain ⟨haccepted, rfl, hdrop⟩ := hresp.accepted
    rw [bulkIn_accepted k hread (Int.natCast_nonneg _) haccepted]
    exact ⟨_, _, _, if_neg hstatus, cardCode_ignored _, haccepted.length, hdrop, hp⟩
  | wait hread hresp hstatus _ ih =>
    obtain ⟨k, rfl⟩ : ∃ k, fuel = k + 1 := ⟨fuel - 1, by omega⟩
    obtain ⟨haccepted, rfl, -⟩ := hresp.accepted
    rw [bulkIn_accepted k hread (Int.natCast_nonneg _) haccepted]
    exact (if_pos hstatus).symm ▸ ih (by omega)

theorem sendEscapeCmd_run {data msg : List UInt8} {fuel resultmax n : Nat} {w w₁ w₂ : κ} {rc : Int}
    (hdata : data.length ≤ escapeMax)
    (hwrite : d.bulkWrite (escapeMsg (UInt8.ofNat n) data) w =
      (((escapeMsg (UInt8.ofNat n) data).length : Int), w₁))
    (hin : bulkIn d msgRdrToPcEscape (UInt8.ofNat n) fuel w₁ = (.ok (rc, msg), w₂)) :
    sendEscapeCmd d fuel data resultmax (w, n) =
      (.ok (if Ignored rc then
        if msg.length < 10 ∨ msg.length - 10 > resultmax then (0, []) else (0, msg.drop 10)
        else (rc, [])), (w₂, n + 1)) := by
  have hget : (get : Exec (κ × Nat) Nat) (w, n) = (.ok n, (w, n)) := rfl
  have hnext : (modify (· + 1) : Exec (κ × Nat) Unit) (w, n) = (.ok (), (w, n + 1)) := rfl
  have hout : lift (bulkOut d (escapeMsg (UInt8.ofNat n) data)) (w, n + 1) = (.ok 0, (w₁, n + 1)) := by
    have hstep : step (d.bulkWrite (escapeMsg (UInt8.ofNat n) data)) w =
        (.ok ((escapeMsg (UInt8.ofNat n) data).length : Int), w₁) := by rw [step, hwrite]
    rw [lift, bulkOut, bind_ok hstep, if_pos rfl]
    rfl
  have hin' : lift (bulkIn d msgRdrToPcEscape (UInt8.ofNat n) fuel) (w₁, n + 1) =
      (.ok (rc, msg), (w₂, n + 1)) := lift_run hin
  rw [sendEscapeCmd, if_neg (Nat.not_lt.mpr hdata), bind_ok hget, bind_ok hnext, bind_ok hout,
    if_neg (not_not.mpr rfl), bind_ok hin']
  dsimp only
  split_ifs <;> rfl

theorem sendEscapeCmd_failed {data msg : List UInt8} {fuel n : Nat} {w w₁ w₂ : κ} {rc : Int}
    (resultmax : Nat) (hdata : data.length ≤ escapeMax)
    (hwrite : d.bulkWrite (escapeMsg (UInt8.ofNat n) data) w =
      (((escapeMsg (UInt8.ofNat n) data).length : Int), w₁))
    (hin : bulkIn d msgRdrToPcEscape (UInt8.ofNat n) fuel w₁ = (.ok (rc, msg), w₂)) (hrc : ¬ Ignored rc) :
    sendEscapeCmd d fuel data resultmax (w, n) = (.ok (rc, []), (w₂, n + 1)) := by
  rw [sendEscapeCmd_run hdata hwrite hin, if_neg hrc]

theorem sendEscapeCmd_answered {data : List UInt8} {resultmax fuel n seq : Nat} {w w₁ : κ}
    (hdata : data.length ≤ escapeMax) (hpayload : payload.length ≤ resultmax) (hfuel : n < fuel)
    (hwrite : d.bulkWrite (escapeMsg (UInt8.ofNat seq) data) w =
      (((escapeMsg (UInt8.ofNat seq) data).length : Int), w₁))
    (h : Answering d (UInt8.ofNat seq) payload P n w₁) :
    ∃ w₂, sendEscapeCmd d fuel data resultmax (w, seq) = (.ok (0, payload), (w₂, seq + 1)) ∧ P w₂ := by
  obtain ⟨rc, msg, w₂, hin, hrc, hlen, hdrop, hp⟩ := bulkIn_answered h hfuel
  have hfits : ¬ (msg.length < 10 ∨ msg.length - 10 > resultmax) := by
    rw [← hdrop, List.length_drop] at hpayload
    omega
  refine ⟨w₂, ?_, hp⟩
  rw [sendEscapeCmd_run hdata hwrite hin, if_pos hrc, if_neg hfits, hdrop]

end

end Librfid.Ccid
