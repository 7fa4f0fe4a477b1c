import Librfid.Layer2.Requests
import Librfid.Lib.Store

namespace Librfid.Layer2

open Rc632 Exec

@[ext]
structure ViccBlock where
  bytes : List UInt8
  fits : bytes.length ≤ blockSizeMax
  deriving DecidableEq

def ViccBlock.ofList (l : List UInt8) : ViccBlock := ⟨l.take blockSizeMax, List.length_take_le _ _⟩

def overwrite (_ : UInt8) (v _ : ViccBlock) : ViccBlock := v

inductive ViccPhase
  | ready | quiet | selected
  deriving DecidableEq

inductive BlockAccess
  | absent | locked | free
  deriving DecidableEq

structure Tag where
  uid : List UInt8
  access : UInt8 → BlockAccess
  blocks : UInt8 → ViccBlock
  phase : ViccPhase

/-- What becomes of a frame: which cards it reaches, which answers get back, and what is in the
buffer if none does. -/
structure TagRound where
  reaches : List UInt8 → Bool
  returns : List UInt8 → Bool
  noise : Mem UInt8

def TagRound.clear : TagRound := ⟨fun _ => true, fun _ => true, fun _ => 0⟩

namespace Tag

variable (d : DecodedRequest) (t : Tag)

def Meant : Prop := d.mode = .addressed t.uid ∨ d.mode = .selected ∧ t.phase = .selected

instance : Decidable (t.Meant d) := inferInstanceAs (Decidable (_ ∨ _))

def security (b : UInt8) : List UInt8 :=
  if d.option then [if t.access b = .locked then 0x01 else 0x00] else []

def readBlock (b : UInt8) : List UInt8 :=
  if t.access b = .absent then [rfError, 0x10] else 0x00 :: t.security d b ++ (t.blocks b).bytes

def writeBlock (b : UInt8) (data : List UInt8) : List UInt8 × Tag :=
  if t.access b ≠ .free then ([rfError, 0x12], t)
  else if data.length ≠ (t.blocks b).bytes.length then ([rfError, 0x13], t)
  else ([0x00], { t with blocks := Function.update t.blocks b (.ofList data) })

def react : Option (List UInt8) × Tag :=
  if t.Meant d then
    if d.command = cmdReadBlockSingle then (some (t.readBlock d (d.params.headD 0)), t)
    else if d.command = cmdWriteBlockSingle then
      (some (t.writeBlock (d.params.headD 0) d.params.tail).1,
        (t.writeBlock (d.params.headD 0) d.params.tail).2)
    else if d.command = cmdSelect then (some [0x00], { t with phase := .selected })
    else if d.command = cmdStayQuiet then (none, { t with phase := .quiet })
    else (some [rfError, 0x01], t)
  else if d.command = cmdSelect ∧ t.phase = .selected then (none, { t with phase := .ready })
  else (none, t)

def hear (round : TagRound) : Option (List UInt8) × Tag :=
  if round.reaches t.uid then
    (if round.returns t.uid then (t.react d).1 else none, (t.react d).2)
  else (none, t)

variable {d}

theorem react_read (hd : d.command = cmdReadBlockSingle) :
    t.react d = (if t.Meant d then some (t.readBlock d (d.params.headD 0)) else none, t) := by
  have hselect : ¬ (d.command = cmdSelect ∧ t.phase = .selected) := fun h =>
    absurd (hd.symm.trans h.1) (by decide)
  rw [react, if_pos hd, if_neg hselect]
  split_ifs <;> rfl

theorem react_write (hd : d.command = cmdWriteBlockSingle) :
    t.react d = if t.Meant d then (some (t.writeBlock (d.params.headD 0) d.params.tail).1,
      (t.writeBlock (d.params.headD 0) d.params.tail).2) else (none, t) := by
  have hread : d.command ≠ cmdReadBlockSingle := fun h => absurd (hd.symm.trans h) (by decide)
  have hselect : ¬ (d.command = cmdSelect ∧ t.phase = .selected) := fun h =>
    absurd (hd.symm.trans h.1) (by decide)
  rw [react, if_neg hread, if_pos hd, if_neg hselect]

theorem react_kept (hd : d.command ≠ cmdWriteBlockSingle) :
    (t.react d).2.uid = t.uid ∧ (t.react d).2.access = t.access ∧ (t.react d).2.blocks = t.blocks := by
  rw [react]
  split_ifs
  all_goals exact ⟨rfl, rfl, rfl⟩

theorem react_phase (hd : d.command ≠ cmdSelect) (ht : t.phase ≠ .selected) :
    (t.react d).2.phase ≠ .selected := by
  have hwrite : ∀ b data, (t.writeBlock b data).2.phase = t.phase := by
    intro b data
    rw [writeBlock]
    split_ifs <;> rfl
  have hselect : ¬ (d.command = cmdSelect ∧ t.phase = .selected) := fun h => hd h.1
  rw [react, if_neg hselect, if_neg hd]
  split_ifs
  · exact ht
  · exact (hwrite _ _).symm ▸ ht
  · intro hquiet
    cases hquiet
  · exact ht
  · exact ht

theorem writeBlock_cases (b : UInt8) (data : List UInt8) :
    (∃ code, t.writeBlock b data = ([rfError, code], t)) ∨
      t.access b = .free ∧ t.writeBlock b data =
        ([0x00], { t with blocks := Store.put overwrite b (.ofList data) t.blocks }) := by
  rw [writeBlock]
  split_ifs with haccess hlen
  · exact .inl ⟨_, rfl⟩
  · exact .inl ⟨_, rfl⟩
  · exact .inr ⟨not_not.mp haccess, rfl⟩

end Tag

structure Viccs (n : Nat) where
  tags : Fin n → Tag
  plan : List TagRound

namespace Viccs

variable {n : Nat}

def round (w : Viccs n) : TagRound := w.plan.headD .clear

def answers (d : DecodedRequest) (w : Viccs n) : List (List UInt8) :=
  (List.finRange n).filterMap fun i => ((w.tags i).hear d w.round).1

def after (d : DecodedRequest) (w : Viccs n) : Viccs n where
  tags i := ((w.tags i).hear d w.round).2
  plan := w.plan.tail

def receive (answers : List (List UInt8)) (rxLen : Nat) (noise rx : Mem UInt8) : AbResult :=
  match answers with
  | [answer] =>
    if answer.length ≤ rxLen then ⟨0, answer.length, rx.store 0 answer⟩ else ⟨- eIO, rxLen, noise⟩
  | [] => ⟨-eTimedOut, rxLen, noise⟩
  | _ => ⟨- eIO, rxLen, noise⟩

def reader : Iso15693Reader (Viccs n) where
  transceive _ tx txLen rx rxLen _ w :=
    match decodeRequest (tx.load 0 txLen) with
    | some d => (.ok (receive (w.answers d) rxLen w.round.noise rx), w.after d)
    | none => (.ok ⟨-eTimedOut, rxLen, w.round.noise⟩, { w with plan := w.plan.tail })
  transceiveAc _ _ rxLen _ := pure ⟨-eTimedOut, rxLen, [], 0⟩

def next (w : Viccs n) (i : Fin n) (t : Tag) : Viccs n where
  tags := Function.update w.tags i t
  plan := w.plan.tail

theorem next_self (w : Viccs n) (i : Fin n) : w.next i (w.tags i) = { w with plan := w.plan.tail } := by
  rw [next, Function.update_eq_self]

theorem next_tags (w : Viccs n) (i : Fin n) (t : Tag) : (w.next i t).tags i = t := by
  simp only [next, Function.update_self]

theorem next_of_ne {w : Viccs n} {i j : Fin n} (t : Tag) (hj : j ≠ i) :
    (w.next i t).tags j = w.tags j := by
  simp only [next, Function.update_of_ne hj]

def Alone (w : Viccs n) (i : Fin n) (d : DecodedRequest) : Prop :=
  ∀ j, j ≠ i → (w.tags j).react d = (none, w.tags j)

variable {w : Viccs n} {i : Fin n} {d : DecodedRequest}

theorem Alone.hear (hw : w.Alone i d) {j : Fin n} (hj : j ≠ i) :
    (w.tags j).hear d w.round = (none, w.tags j) := by
  rw [Tag.hear, hw j hj]
  split_ifs <;> rfl

theorem answers_alone (hw : w.Alone i d) : w.answers d = ((w.tags i).hear d w.round).1.toList := by
  obtain ⟨before, behind, hsplit⟩ := List.append_of_mem (List.mem_finRange i)
  have hnodup := List.nodup_finRange n
  rw [hsplit, List.nodup_append, List.nodup_cons] at hnodup
  obtain ⟨-, ⟨hbehind, -⟩, hbefore⟩ := hnodup
  have hnone : ∀ l : List (Fin n), i ∉ l → l.filterMap (fun j => ((w.tags j).hear d w.round).1) = [] :=
    fun l hl => List.filterMap_eq_nil_iff.mpr fun j hj =>
      congrArg Prod.fst (hw.hear (ne_of_mem_of_not_mem hj hl))
  rw [answers, hsplit, List.filterMap_append, List.filterMap_cons, hnone behind hbehind,
    hnone before fun hi => hbefore i hi i List.mem_cons_self rfl, List.nil_append]
  cases ((w.tags i).hear d w.round).1 <;> rfl

theorem after_alone (hw : w.Alone i d) : w.after d = w.next i ((w.tags i).hear d w.round).2 := by
  have htags : (fun j => ((w.tags j).hear d w.round).2) =
      Function.update w.tags i ((w.tags i).hear d w.round).2 := by
    funext j
    by_cases hj : j = i
    · subst hj
      rw [Function.update_self]
    · rw [Function.update_of_ne hj, hw.hear hj]
  rw [after, htags, next]

theorem reader_alone {frame : List UInt8} (hframe : decodeRequest frame = some d) (hw : w.Alone i d)
    (rx : Mem UInt8) (rxLen timeout : Nat) :
    reader.transceive .iso15693Frame (Mem.ofList (fun _ => 0) frame) frame.length rx rxLen timeout w =
      (.ok (receive ((w.tags i).hear d w.round).1.toList rxLen w.round.noise rx),
        w.next i ((w.tags i).hear d w.round).2) := by
  have hload : decodeRequest ((Mem.ofList (fun _ => 0) frame).load 0 frame.length) = some d :=
    (congrArg decodeRequest (Mem.load_ofList _ frame)).trans hframe
  simp only [reader, hload, answers_alone hw, after_alone hw]

theorem reader_cases {frame : List UInt8} (hframe : decodeRequest frame = some d) (hw : w.Alone i d)
    (rx : Mem UInt8) (rxLen timeout : Nat) :
    ∃ x t, reader.transceive .iso15693Frame (Mem.ofList (fun _ => 0) frame) frame.length rx rxLen
        timeout w = (.ok x, w.next i t) ∧
      (x.ret < 0 ∧ (t = w.tags i ∨ t = ((w.tags i).react d).2) ∨
        ∃ answer, (w.tags i).react d = (some answer, t) ∧ x = ⟨0, answer.length, rx.store 0 answer⟩) := by
  refine ⟨_, _, reader_alone hframe hw rx rxLen timeout, ?_⟩
  obtain ⟨r, hr⟩ : ∃ r, (w.tags i).react d = r := ⟨_, rfl⟩
  obtain ⟨answer, t⟩ := r
  rw [Tag.hear, hr]
  split_ifs
  · cases answer with
    | none => exact .inl ⟨(by decide : -eTimedOut < 0), .inr rfl⟩
    | some answer =>
      by_cases hroom : answer.length ≤ rxLen
      · exact .inr ⟨answer, rfl, if_pos hroom⟩
      · refine .inl ⟨?_, .inr rfl⟩
        rw [Option.toList_some, receive, if_neg hroom]
        exact (by decide : - eIO < 0)
  · exact .inl ⟨(by decide : -eTimedOut < 0), .inr rfl⟩
  · exact .inl ⟨(by decide : -eTimedOut < 0), .inl rfl⟩

theorem reader_clear {frame answer : List UInt8} {t : Tag} (hframe : decodeRequest frame = some d)
    (hw : w.Alone i d) (hplan : w.plan = []) (hreact : (w.tags i).react d = (some answer, t))
    (rx : Mem UInt8) {rxLen : Nat} (hroom : answer.length ≤ rxLen) (timeout : Nat) :
    reader.transceive .iso15693Frame (Mem.ofList (fun _ => 0) frame) frame.length rx rxLen timeout w =
      (.ok ⟨0, answer.length, rx.store 0 answer⟩, w.next i t) := by
  have hround : w.round = .clear := by
    rw [round, hplan]
    rfl
  have hhear : (w.tags i).hear d w.round = (some answer, t) := by
    rw [hround, ← hreact]
    rfl
  have hreceive : receive [answer] rxLen w.round.noise rx = ⟨0, answer.length, rx.store 0 answer⟩ :=
    if_pos hroom
  rw [reader_alone hframe hw, hhear, Option.toList_some, hreceive]

end Viccs

end Librfid.Layer2
