import Librfid.Proto.Desk
import Librfid.Proto.Dump
import Librfid.Proto.Pages

namespace Librfid.Proto

open Rc632 Layer2 Exec

@[ext]
structure Block where
  bytes : List UInt8
  length : bytes.length = mifareClPageSize

def Block.load (m : Mem UInt8) : Block := ⟨m.load 0 mifareClPageSize, Mem.length_load ..⟩

def Trailer (b : Nat) : Prop := if b < 128 then b % 4 = 3 else b % 16 = 15

instance (b : Nat) : Decidable (Trailer b) := by
  unfold Trailer
  infer_instance

structure Locks where
  key : UInt8 → Nat → List UInt8
  uid : List UInt8

/-- After an error a card is asleep, till it is selected anew. -/
inductive Phase
  | asleep
  | selected
  | challenged (cmd : UInt8) (sector : Nat) (uid : List UInt8)
  | opened (sector : Nat)
  | writing (b : Nat)

inductive Phase.Shut : Phase → Prop
  | asleep : Shut .asleep
  | selected : Shut .selected

structure Vault where
  blocks : Nat → Block
  phase : Phase
  plan : List Fate

namespace Vault

def asleep (g : Vault) : Vault := { g with phase := .asleep }

/-- A card that does not encipher yet is not put off by a frame that it misses. -/
def missed (g : Vault) : Vault :=
  match g.phase with
  | .selected => g
  | _ => g.asleep

def fated {α : Type} (nothing : α) (react : Vault → α × Vault) (g : Vault) : α × Vault :=
  let later := { g with plan := g.plan.tail }
  match g.plan.headD .heard with
  | .heard => react later
  | .unheard => (nothing, (react later).2.asleep)
  | .lost => (nothing, later.missed)

def react (frame : List UInt8) (g : Vault) : Option (List UInt8) × Vault :=
  match g.phase with
  | .opened sector =>
    let b := (frame.getD 1 0).toNat
    if frame.length ≠ 2 ∨ standardSector b ≠ sector then (some [0x04], g.asleep)
    else if frame.headD 0 = mifareClCmdRead then (some (g.blocks b).bytes, g)
    else if frame.headD 0 = mifareClCmdWrite16 ∧ ¬ Trailer b then
      (some [mifareClRespAck], { g with phase := .writing b })
    else (some [0x04], g.asleep)
  | .writing b =>
    if h : frame.length = mifareClPageSize then
      (some [mifareClRespAck],
        { g with blocks := Function.update g.blocks b ⟨frame, h⟩, phase := .opened (standardSector b) })
    else (some [0x04], g.asleep)
  | _ => (none, g.asleep)

def hear (crypto : Bool) (frame : List UInt8) : Vault → Option (List UInt8) × Vault :=
  fated none fun g => if crypto then g.react frame else (none, g.asleep)

def challenge (cmd block : UInt8) (uid : List UInt8) : Vault → Bool × Vault :=
  fated false fun g =>
    match g.phase with
    | .selected | .opened _ =>
      (true, { g with phase := .challenged cmd (standardSector block.toNat) uid })
    | _ => (false, g.asleep)

def verify (locks : Locks) (key : List UInt8) : Vault → Bool × Vault :=
  fated false fun g =>
    match g.phase with
    | .challenged cmd sector uid =>
      if key = locks.key cmd sector ∧ uid = locks.uid then (true, { g with phase := .opened sector })
      else (false, g.asleep)
    | _ => (false, g.asleep)

theorem fated_cases {α : Type} {nothing : α} {react : Vault → α × Vault} {g : Vault} {r : α × Vault}
    (h : fated nothing react g = r) :
    r = react { g with plan := g.plan.tail } ∨
      r = (nothing, (react { g with plan := g.plan.tail }).2.asleep) ∨
      r = (nothing, { g with plan := g.plan.tail }.missed) := by
  subst h
  rw [fated]
  split
  · exact .inl rfl
  · exact .inr (.inl rfl)
  · exact .inr (.inr rfl)

theorem missed_shut (g : Vault) : g.missed.phase.Shut := by
  rw [missed]
  split
  next h => exact h ▸ .selected
  next => exact .asleep

theorem missed_blocks (g : Vault) : g.missed.blocks = g.blocks := by
  rw [missed]
  split
  · rfl
  · rfl

theorem react_answers {frame answer : List UInt8} {g : Vault} (h : (g.react frame).1 = some answer) :
    answer ≠ [] ∧ answer.length ≤ answerRoom frame := by
  have hone : ∀ b : UInt8, [b] ≠ [] ∧ [b].length ≤ answerRoom frame := fun b => by
    refine ⟨List.cons_ne_nil _ _, ?_⟩
    rw [answerRoom]
    split_ifs
    · exact (by decide : 1 ≤ mifareClPageSize)
    · exact Nat.le_refl 1
  rw [react] at h
  split at h
  next sector _ =>
    dsimp only at h
    split_ifs at h with hbad hread hwrite
    · cases h
      exact hone _
    · cases h
      have hlen := (g.blocks (frame.getD 1 0).toNat).length
      rw [answerRoom, if_pos ⟨not_not.mp (not_or.mp hbad).1, hread⟩, hlen]
      exact ⟨List.length_pos_iff.mp (hlen.symm ▸ (by decide : 0 < mifareClPageSize)), Nat.le_refl _⟩
    · cases h
      exact hone _
    · cases h
      exact hone _
  next b _ =>
    split_ifs at h
    · cases h
      exact hone _
    · cases h
      exact hone _
  next => cases h

theorem hear_answers {crypto : Bool} {frame answer : List UInt8} {g : Vault}
    (h : (hear crypto frame g).1 = some answer) : answer ≠ [] ∧ answer.length ≤ answerRoom frame := by
  obtain ⟨r, hr⟩ : ∃ r, hear crypto frame g = r := ⟨_, rfl⟩
  rw [hr] at h
  obtain rfl | rfl | rfl := fated_cases hr
  · cases crypto with
    | false => cases h
    | true => exact react_answers h
  · cases h
  · cases h

def TurnedAway (g : Vault) (r : Option (List UInt8) × Vault) : Prop :=
  (r.1 = none ∨ r.1 = some [0x04]) ∧ r.2.phase.Shut ∧ r.2.blocks = g.blocks

theorem TurnedAway.asleep {g : Vault} {answer : Option (List UInt8)}
    (h : answer = none ∨ answer = some [0x04]) : TurnedAway g (answer, g.asleep) :=
  ⟨h, .asleep, rfl⟩

theorem TurnedAway.missed (g : Vault) : TurnedAway g (none, g.missed) :=
  ⟨.inl rfl, g.missed_shut, g.missed_blocks⟩

theorem blockByte_toNat {b : Nat} (hb : b ≤ mifareClPageMax) : (UInt8.ofNat (b &&& 0xff)).toNat = b := by
  have hmax : mifareClPageMax = 255 := rfl
  rw [Nat.and_two_pow_sub_one_eq_mod b 8, UInt8.toNat_ofNat', Nat.mod_mod]
  omega

theorem react_command (cmd : UInt8) {b : Nat} (hb : b ≤ mifareClPageMax) (g : Vault) :
    TurnedAway g (g.react [cmd, UInt8.ofNat (b &&& 0xff)]) ∨
      g.phase = .opened (standardSector b) ∧
        (cmd = mifareClCmdRead ∧
            g.react [cmd, UInt8.ofNat (b &&& 0xff)] = (some (g.blocks b).bytes, g) ∨
          cmd = mifareClCmdWrite16 ∧ ¬ Trailer b ∧ g.react [cmd, UInt8.ofNat (b &&& 0xff)] =
            (some [mifareClRespAck], { g with phase := .writing b })) := by
  have hbyte : ([cmd, UInt8.ofNat (b &&& 0xff)].getD 1 0).toNat = b := blockByte_toNat hb
  have hcmd : [cmd, UInt8.ofNat (b &&& 0xff)].headD 0 = cmd := rfl
  rw [react, hbyte, hcmd]
  split
  next sector hphase =>
    dsimp only
    split_ifs with hbad hread hwrite
    · exact .inl (.asleep (.inr rfl))
    · obtain rfl := not_not.mp (not_or.mp hbad).2
      exact .inr ⟨hphase, .inl ⟨hread, rfl⟩⟩
    · obtain rfl := not_not.mp (not_or.mp hbad).2
      exact .inr ⟨hphase, .inr ⟨hwrite.1, hwrite.2, rfl⟩⟩
    · exact .inl (.asleep (.inr rfl))
  next =>
    have hlen : ¬ [cmd, UInt8.ofNat (b &&& 0xff)].length = mifareClPageSize :=
      (by decide : ¬ 2 = mifareClPageSize)
    rw [dif_neg hlen]
    exact .inl (.asleep (.inr rfl))
  next => exact .inl (.asleep (.inl rfl))

theorem hear_command {crypto : Bool} {cmd : UInt8} {b : Nat} (hb : b ≤ mifareClPageMax) {g : Vault}
    {r : Option (List UInt8) × Vault} (h : hear crypto [cmd, UInt8.ofNat (b &&& 0xff)] g = r) :
    TurnedAway g r ∨
      g.phase = .opened (standardSector b) ∧
        (cmd = mifareClCmdRead ∧ r = (some (g.blocks b).bytes, { g with plan := g.plan.tail }) ∨
          cmd = mifareClCmdWrite16 ∧ ¬ Trailer b ∧
            r = (some [mifareClRespAck], { g with phase := .writing b, plan := g.plan.tail })) := by
  have hreact := react_command cmd hb { g with plan := g.plan.tail }
  cases crypto with
  | false =>
    obtain rfl | rfl | rfl := fated_cases h
    · exact .inl (.asleep (.inl rfl))
    · exact .inl (.asleep (.inl rfl))
    · exact .inl (.missed _)
  | true =>
    obtain rfl | rfl | rfl := fated_cases h
    · exact hreact
    · refine .inl ⟨.inl rfl, .asleep, ?_⟩
      rcases hreact with haway | ⟨-, ⟨-, hread⟩ | ⟨-, -, hwrite⟩⟩
      · exact haway.2.2
      · exact congrArg (fun r => r.2.blocks) hread
      · exact congrArg (fun r => r.2.blocks) hwrite
    · exact .inl (.missed _)

theorem hear_data_shut {crypto : Bool} {frame : List UInt8} {g : Vault} (hg : g.phase.Shut)
    {r : Option (List UInt8) × Vault} (h : hear crypto frame g = r) :
    r.1 = none ∧ r.2.phase.Shut ∧ r.2.blocks = g.blocks := by
  have hreact : ({ g with plan := g.plan.tail } : Vault).react frame =
      (none, ({ g with plan := g.plan.tail } : Vault).asleep) := by
    generalize hphase : g.phase = phase at hg
    cases hg with
    | asleep => rfl
    | selected => rfl
  obtain rfl | rfl | rfl := fated_cases h
  · rw [hreact, ite_self]
    exact ⟨rfl, .asleep, rfl⟩
  · rw [hreact, ite_self]
    exact ⟨rfl, .asleep, rfl⟩
  · exact ⟨rfl, missed_shut _, missed_blocks _⟩

theorem hear_data {crypto : Bool} {frame : List UInt8} (hlen : frame.length = mifareClPageSize)
    {g : Vault} {b : Nat} (hg : g.phase = .writing b) {r : Option (List UInt8) × Vault}
    (h : hear crypto frame g = r) :
    (r.1 = some [mifareClRespAck] ∧ r.2.phase = .opened (standardSector b) ∧
        r.2.blocks = Function.update g.blocks b ⟨frame, hlen⟩) ∨
      r.1 = none ∧ r.2.phase.Shut ∧
        (r.2.blocks = g.blocks ∨ r.2.blocks = Function.update g.blocks b ⟨frame, hlen⟩) := by
  have hreact : ({ g with plan := g.plan.tail } : Vault).react frame =
      (some [mifareClRespAck], ⟨Function.update g.blocks b ⟨frame, hlen⟩, .opened (standardSector b),
        g.plan.tail⟩) := by
    simp only [react, hg, dif_pos hlen]
  cases crypto with
  | false =>
    obtain rfl | rfl | rfl := fated_cases h
    · exact .inr ⟨rfl, .asleep, .inl rfl⟩
    · exact .inr ⟨rfl, .asleep, .inl rfl⟩
    · exact .inr ⟨rfl, missed_shut _, .inl (missed_blocks _)⟩
  | true =>
    obtain rfl | rfl | rfl := fated_cases h
    · rw [if_pos rfl, hreact]
      exact .inl ⟨rfl, rfl, rfl⟩
    · rw [if_pos rfl, hreact]
      exact .inr ⟨rfl, .asleep, .inr rfl⟩
    · exact .inr ⟨rfl, missed_shut _, .inl (missed_blocks _)⟩

theorem challenge_phase {cmd block : UInt8} {uid : List UInt8} {g : Vault} {r : Bool × Vault}
    (h : challenge cmd block uid g = r) : r.2.blocks = g.blocks ∧
      (r.1 = false ∧ r.2.phase.Shut ∨
        r.1 = true ∧ r.2.phase = .challenged cmd (standardSector block.toNat) uid) := by
  obtain rfl | rfl | rfl := fated_cases h
  · split
    · exact ⟨rfl, .inr ⟨rfl, rfl⟩⟩
    · exact ⟨rfl, .inr ⟨rfl, rfl⟩⟩
    · exact ⟨rfl, .inl ⟨rfl, .asleep⟩⟩
  · refine ⟨?_, .inl ⟨rfl, .asleep⟩⟩
    split
    · rfl
    · rfl
    · rfl
  · exact ⟨missed_blocks _, .inl ⟨rfl, missed_shut _⟩⟩

theorem challenge_asleep (cmd block : UInt8) (uid : List UInt8) {g : Vault} (hg : g.phase = .asleep) :
    (challenge cmd block uid g).1 = false ∧ (challenge cmd block uid g).2.phase = .asleep := by
  obtain ⟨r, hr⟩ : ∃ r, challenge cmd block uid g = r := ⟨_, rfl⟩
  rw [hr]
  obtain rfl | rfl | rfl := fated_cases hr
  · simp only [hg, asleep, and_self]
  · exact ⟨rfl, rfl⟩
  · simp only [missed, hg, asleep, and_self]

theorem verify_phase {locks : Locks} {key : List UInt8} {cmd : UInt8} {sector : Nat}
    {uid : List UInt8} {g : Vault} (hg : g.phase = .challenged cmd sector uid) {r : Bool × Vault}
    (h : verify locks key g = r) : r.2.blocks = g.blocks ∧
      (r.1 = false ∧ r.2.phase.Shut ∨
        r.1 = true ∧ key = locks.key cmd sector ∧ uid = locks.uid ∧ r.2.phase = .opened sector) := by
  obtain rfl | rfl | rfl := fated_cases h
  · simp only [hg]
    split_ifs with hright
    · exact ⟨rfl, .inr ⟨rfl, hright.1, hright.2, rfl⟩⟩
    · exact ⟨rfl, .inl ⟨rfl, .asleep⟩⟩
  · refine ⟨?_, .inl ⟨rfl, .asleep⟩⟩
    simp only [hg]
    split_ifs
    · rfl
    · rfl
  · exact ⟨missed_blocks _, .inl ⟨rfl, missed_shut _⟩⟩

end Vault

def vaultCard (locks : Locks) : CryptoCard Vault where
  challenge := Vault.challenge
  verify := Vault.verify locks
  hear := Vault.hear
  answers := Vault.hear_answers

end Librfid.Proto
