import Librfid.Tcl.Ats
import Librfid.Tcl.Pps
import Librfid.Tcl.Session

namespace Librfid.Tcl

open Layer2

structure CardA where
  ats : List UInt8
  wellFormed : WellFormedAts (Mem.ofList (fun _ => 0) ats) ats.length
  plan : PiccPlan

namespace CardA

def HasTa (card : CardA) : Prop := 2 ≤ card.ats.length ∧ card.ats.getD 1 0 &&& 0x10 ≠ 0

instance (card : CardA) : Decidable card.HasTa := inferInstanceAs (Decidable (_ ∧ _))

def ta (card : CardA) : UInt8 := if card.HasTa then card.ats.getD 2 0 else 0

end CardA

inductive Phase
  | ready
  | activated
  | exchanging
  | halted
  deriving DecidableEq

/-- The card with the two divisors it works at, the speeds the reader is set to, and the number
of exchanges there have been. -/
structure Link where
  phase : Phase
  picc : Picc
  dr : UInt8
  ds : UInt8
  rxSpeed : Nat
  txSpeed : Nat
  exchanges : Nat

namespace Link

structure Tuned (s : Link) : Prop where
  tx : s.txSpeed = diToSpeed s.dr
  rx : s.rxSpeed = diToSpeed s.ds

structure Idle (s : Link) : Prop where
  phase : s.phase = .ready
  dr : s.dr = 0
  ds : s.ds = 0
  tuned : s.Tuned

def Open (s : Link) : Prop := s.phase = .activated ∨ s.phase = .exchanging

end Link

namespace CardA

structure Takes (ta pps1 : UInt8) : Prop where
  dr : dri pps1 = 0 ∨ DrAnnounced ta (dri pps1)
  ds : dsi pps1 = 0 ∨ DsAnnounced ta (dsi pps1)
  same : Bits.bit ta 7 → dri pps1 = dsi pps1

theorem takes_iff (ta pps1 : UInt8) : Takes ta pps1 ↔
    (dri pps1 = 0 ∨ DrAnnounced ta (dri pps1)) ∧ (dsi pps1 = 0 ∨ DsAnnounced ta (dsi pps1)) ∧
      (Bits.bit ta 7 → dri pps1 = dsi pps1) :=
  ⟨fun h => ⟨h.dr, h.ds, h.same⟩, fun h => ⟨h.1, h.2.1, h.2.2⟩⟩

instance (ta pps1 : UInt8) : Decidable (Takes ta pps1) :=
  decidable_of_iff _ (takes_iff ta pps1).symm

def IsPps (tx : List UInt8) : Prop := tx.length = 3 ∧ tx.take 2 = [0xd0, 0x11]

instance (tx : List UInt8) : Decidable (IsPps tx) := inferInstanceAs (Decidable (_ ∧ _))

def IsRats (tx : List UInt8) : Prop := tx.length = 2 ∧ tx.take 1 = [0xe0]

instance (tx : List UInt8) : Decidable (IsRats tx) := inferInstanceAs (Decidable (_ ∧ _))

def deselect : List UInt8 := [0xc2]

def block (card : CardA) (s : Link) (tx : List UInt8) : Link × Option (List UInt8) :=
  if tx = deselect then ({ s with phase := .halted, dr := 0, ds := 0 }, some deselect)
  else
    match Block.ofFrame tx with
    | none => (s, none)
    | some b =>
      let (c, reply) := s.picc.react card.plan b
      ({ s with phase := .exchanging, picc := c }, reply.map Block.frame)

/-- The card behind the frame, and what it says.  A PPS is possible right behind the ATS only. -/
def hear (card : CardA) (s : Link) (tx : List UInt8) : Link × Option (List UInt8) :=
  match s.phase with
  | .ready =>
    if IsRats tx then ({ s with phase := .activated, picc := .fresh }, some card.ats)
    else (s, none)
  | .activated =>
    if IsPps tx ∧ Takes card.ta (tx.getD 2 0) then
      ({ s with
          phase := .exchanging
          dr := tx.getD 2 0 &&& 0x03
          ds := tx.getD 2 0 >>> 2 &&& 0x03 }, some (tx.take 1))
    else card.block s tx
  | .exchanging => card.block s tx
  | .halted => (s, none)

/-- The card hears frames of Type A at its own rate, and is heard at its own rate. -/
def answer (card : CardA) (air : Air) (call : L2Call) (s : Link) : L2Reply × Link :=
  let (s', frame) :=
    if call.frametype = .iso14443aFrameRegular ∧ s.txSpeed = diToSpeed s.dr then
      card.hear s call.tx
    else (s, none)
  let reply := match frame with
    | some frame =>
      if s.rxSpeed = diToSpeed s.ds then air.deliver s.exchanges frame else air.mute s.exchanges
    | none => air.mute s.exchanges
  (reply, { s' with exchanges := s.exchanges + 1 })

def layer2 (card : CardA) (air : Air) (speed : Nat) : TclLayer2 Link where
  id := .iso14443a
  transceive call _ _ := fun s => (.ok (card.answer air call s).1, (card.answer air call s).2)
  setSpeed tx speed := fun s =>
    (.ok (), if tx then { s with txSpeed := speed } else { s with rxSpeed := speed })
  iso14443b _ := blankHandleB
  speed := speed
  ah := rc632Open

variable (card : CardA) (air : Air) {s s' : Link} {call : L2Call}

theorem transceive_eq (speed : Nat) (rx : Mem UInt8) (n : Nat) :
    (card.layer2 air speed).transceive call rx n s =
      (.ok (card.answer air call s).1, (card.answer air call s).2) := rfl

theorem answer_some {frame : List UInt8} (htype : call.frametype = .iso14443aFrameRegular)
    (hs : s.Tuned) (h : card.hear s call.tx = (s', some frame)) :
    card.answer air call s = (air.deliver s.exchanges frame, { s' with exchanges := s.exchanges + 1 }) := by
  rw [answer, if_pos ⟨htype, hs.tx⟩, h]
  simp only [if_pos hs.rx]

theorem answer_none (htype : call.frametype = .iso14443aFrameRegular) (hs : s.Tuned)
    (h : card.hear s call.tx = (s', none)) :
    card.answer air call s = (air.mute s.exchanges, { s' with exchanges := s.exchanges + 1 }) := by
  rw [answer, if_pos ⟨htype, hs.tx⟩, h]

theorem frame_ne_deselect (b : Block) : b.frame ≠ deselect := by
  intro h
  have hdec := congrArg Block.ofFrame h
  rw [Block.ofFrame_frame] at hdec
  cases hdec

theorem ofFrame_pps {tx : List UInt8} (h : IsPps tx) : Block.ofFrame tx = none := by
  obtain ⟨inf, rfl⟩ : ∃ inf, tx = 0xd0 :: inf := by
    cases tx with
    | nil => exact absurd h.1 (by decide)
    | cons pcb inf => exact ⟨inf, by rw [(List.cons.inj h.2).1]⟩
  have hI : (0xd0 : UInt8) &&& 0xee ≠ 0x02 := by decide
  have hR : (0xd0 : UInt8) &&& 0xee ≠ 0xa2 := by decide
  have hS : (0xd0 : UInt8) ≠ 0xf2 := by decide
  unfold Block.ofFrame
  dsimp only
  rw [if_neg hI, if_neg fun h => hR h.1, if_neg hS]

theorem not_isPps_frame (b : Block) : ¬ IsPps b.frame := by
  intro h
  have hnone := ofFrame_pps h
  rw [Block.ofFrame_frame] at hnone
  cases hnone

theorem hear_frame (hs : s.Open) (b : Block) :
    card.hear s b.frame =
      ({ s with phase := .exchanging, picc := (s.picc.react card.plan b).1 },
        (s.picc.react card.plan b).2.map Block.frame) := by
  have hblock : card.block s b.frame =
      ({ s with phase := .exchanging, picc := (s.picc.react card.plan b).1 },
        (s.picc.react card.plan b).2.map Block.frame) := by
    rw [block, if_neg (frame_ne_deselect b), Block.ofFrame_frame]
  rcases hs with hs | hs <;> rw [hear, hs]
  · exact (if_neg fun h => not_isPps_frame b h.1).trans hblock
  · exact hblock

theorem hear_deselect (hs : s.Open) :
    card.hear s deselect = ({ s with phase := .halted, dr := 0, ds := 0 }, some deselect) := by
  rcases hs with hs | hs <;> rw [hear, hs]
  · exact (if_neg fun h => absurd h.1 (by decide)).trans (if_pos rfl)
  · exact if_pos rfl

end CardA

end Librfid.Tcl
