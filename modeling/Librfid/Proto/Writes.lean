import Librfid.Proto.Reads

namespace Librfid.Proto

open Rc632 Exec

structure WritePhase where
  tx : List UInt8
  result : Outcome AbResult

def Acked (o : Outcome AbResult) : Prop :=
  ∃ x, o = .ok x ∧ 0 ≤ x.ret ∧ 1 ≤ x.rxLen ∧ x.rx 0 = mifareClRespAck

def Refused (o : Outcome AbResult) : Prop :=
  ∃ x, o = .ok x ∧ 0 ≤ x.ret ∧ ¬ (1 ≤ x.rxLen ∧ x.rx 0 = mifareClRespAck)

def MifareReader.recording {σ : Type} (r : MifareReader σ) :
    MifareReader (σ × List WritePhase) where
  transceive frametype tx txLen rx rxLen timeout := fun (s, phases) =>
    match r.transceive frametype tx txLen rx rxLen timeout s with
    | (o, s) => (o, (s, phases ++ [⟨tx.load 0 txLen, o⟩]))
  setkey := r.setkey.map fun setkey key => lift (setkey key)
  auth := r.auth.map fun auth cmd serno block => lift (auth cmd serno block)

/-- The reader clears the buffer as far as it is said to reach, puts the answer there and gives its
length; errors are negative. -/
structure AnswersInto {σ : Type} (r : MifareReader σ) : Prop where
  filled : ∀ {frametype tx txLen rx n timeout s x s'},
    r.transceive frametype tx txLen rx n timeout s = (.ok x, s') → 0 ≤ x.ret →
    x.rxLen ≤ n ∧ ∃ bytes, Filled rx x.rx n x.rxLen bytes
  errs : ∀ frametype tx txLen rx n timeout, Errs (r.transceive frametype tx txLen rx n timeout)

def Returns (o : Outcome Int) (p : Int → Prop) : Prop := ∃ ret, (o = .ok ret ∨ o = .fail ret) ∧ p ret

/-- Success means two phases that were acknowledged, and after a refused command no data is sent. -/
structure WriteAcked (o : Outcome Int) (phases : List WritePhase) : Prop where
  success : Returns o (0 ≤ ·) ↔
    ∃ command data, phases = [command, data] ∧ Acked command.result ∧ Acked data.result
  refused : ∀ command ∈ phases.head?, Refused command.result → Returns o (· < 0) ∧ phases = [command]

section

variable {σ : Type} {r : MifareReader σ}

theorem recording_run {frametype : RfidFrametype} {tx rx : Mem UInt8} {txLen n timeout : Nat} {s s' : σ}
    {o : Outcome AbResult} (phases : List WritePhase)
    (h : r.transceive frametype tx txLen rx n timeout s = (o, s')) :
    r.recording.transceive frametype tx txLen rx n timeout (s, phases) =
      (o, (s', phases ++ [⟨tx.load 0 txLen, o⟩])) := by
  simp only [MifareReader.recording, h]

def writeCommand (page : Nat) : Mem UInt8 :=
  Mem.ofList (fun _ => 0) [mifareClCmdWrite16, UInt8.ofNat (page &&& 0xff)]

def writeData (r : MifareReader σ) (txData : List UInt8) (x : AbResult) : Exec σ Int := do
  let x ← r.transceive .mifareFrame (Mem.ofList (fun _ => 0) txData) txData.length x.rx x.rxLen
    mifareClWriteFwt
  if x.ret < 0 then pure x.ret
  else if x.rx 0 ≠ mifareUlRespAck then pure (- eIO)
  else pure x.ret

theorem not_returns_hang (p : Int → Prop) : ¬ Returns .hang p := by
  rintro ⟨ret, hret | hret, -⟩
  · cases hret
  · cases hret

theorem returns_ok {ret : Int} {p : Int → Prop} : Returns (.ok ret) p ↔ p ret := by
  constructor
  · rintro ⟨ret, hret | hret, hp⟩
    · cases hret
      exact hp
    · cases hret
  · exact fun h => ⟨ret, .inl rfl, h⟩

theorem returns_fail {code : Int} {p : Int → Prop} : Returns (.fail code) p ↔ p code := by
  constructor
  · rintro ⟨ret, hret | hret, hp⟩
    · cases hret
    · cases hret
      exact hp
  · exact fun h => ⟨code, .inr rfl, h⟩

theorem writeData_returns (h : AnswersInto r) (txData : List UInt8) (x : AbResult) (s : σ)
    (phases : List WritePhase) :
    ∃ o, (writeData r.recording txData x (s, phases)).2.2 = phases ++ [⟨txData, o⟩] ∧
      o = (r.transceive .mifareFrame (Mem.ofList (fun _ => 0) txData) txData.length x.rx x.rxLen
        mifareClWriteFwt s).1 ∧
      (Returns (writeData r.recording txData x (s, phases)).1 (0 ≤ ·) ↔
        ∃ y, o = .ok y ∧ 0 ≤ y.ret ∧ y.rx 0 = mifareUlRespAck) := by
  have hload : (Mem.ofList (fun _ => 0) txData : Mem UInt8).load 0 txData.length = txData :=
    Mem.load_ofList _ txData
  rcases hrun : r.transceive .mifareFrame (Mem.ofList (fun _ => 0) txData) txData.length x.rx x.rxLen
    mifareClWriteFwt s with ⟨o, s'⟩
  have hrec := recording_run phases hrun
  rw [hload] at hrec
  refine ⟨o, ?_, rfl, ?_⟩
  · cases o with
    | ok y =>
      rw [writeData, bind_ok hrec]
      split_ifs <;> rfl
    | fail code => rw [writeData, bind_fail hrec]
    | hang => rw [writeData, bind_hang hrec]
  · cases o with
    | ok y =>
      rw [writeData, bind_ok hrec]
      split_ifs with hneg hack
      · rw [pure_run, returns_ok]
        refine iff_of_false (Int.not_le.mpr hneg) ?_
        rintro ⟨_, ⟨⟩, hnn, -⟩
        exact absurd hnn (Int.not_le.mpr hneg)
      · rw [pure_run, returns_ok]
        refine iff_of_false (by decide) ?_
        rintro ⟨_, ⟨⟩, -, hack'⟩
        exact hack hack'
      · rw [pure_run, returns_ok]
        exact ⟨fun hnn => ⟨y, rfl, hnn, not_not.mp hack⟩, fun _ => Int.not_lt.mp hneg⟩
    | fail code =>
      have hneg := h.errs _ _ _ _ _ _ s code (congrArg Prod.fst hrun)
      rw [writeData, bind_fail hrec, returns_fail]
      exact iff_of_false (Int.not_le.mpr hneg) nofun
    | hang =>
      rw [writeData, bind_hang hrec]
      exact iff_of_false (not_returns_hang _) nofun

section

variable {stack : Mem UInt8} {page : Nat} {txData : List UInt8} {s s₁ : σ}

theorem mfclWrite_eq (r : MifareReader σ) (hpage : page ≤ mifareClPageMax) (hlen : txData.length = 16) :
    mfclWrite r stack page txData =
      r.transceive .mifareFrame (writeCommand page) 2 stack 1 mifareClWriteFwt >>= fun x =>
        if x.ret < 0 then pure x.ret else writeData r txData x := by
  rw [mfclWrite, if_neg (Nat.not_lt.mpr hpage), if_neg (not_not.mpr hlen)]
  rfl

theorem mfclWrite_failed (h : AnswersInto r) (hpage : page ≤ mifareClPageMax)
    (hlen : txData.length = 16) {o : Outcome AbResult}
    (hrun : r.transceive .mifareFrame (writeCommand page) 2 stack 1 mifareClWriteFwt s = (o, s₁))
    (ho : ∀ x, o = .ok x → x.ret < 0) :
    ¬ Returns (mfclWrite r.recording stack page txData (s, [])).1 (0 ≤ ·) ∧
      (mfclWrite r.recording stack page txData (s, [])).2.2 = [⟨(writeCommand page).load 0 2, o⟩] := by
  have hrec := recording_run [] hrun
  rw [mfclWrite_eq _ hpage hlen]
  cases o with
  | ok x =>
    have hneg := ho x rfl
    rw [bind_ok hrec, if_pos hneg, pure_run, returns_ok]
    exact ⟨Int.not_le.mpr hneg, rfl⟩
  | fail code =>
    have hneg := h.errs _ _ _ _ _ _ s code (congrArg Prod.fst hrun)
    rw [bind_fail hrec, returns_fail]
    exact ⟨Int.not_le.mpr hneg, rfl⟩
  | hang =>
    rw [bind_hang hrec]
    exact ⟨not_returns_hang _, rfl⟩

theorem mfclWrite_answered (h : AnswersInto r) (hpage : page ≤ mifareClPageMax)
    (hlen : txData.length = 16) {x : AbResult}
    (hrun : r.transceive .mifareFrame (writeCommand page) 2 stack 1 mifareClWriteFwt s = (.ok x, s₁))
    (hret : 0 ≤ x.ret) :
    ∃ o, (mfclWrite r.recording stack page txData (s, [])).2.2 =
        [⟨(writeCommand page).load 0 2, .ok x⟩, ⟨txData, o⟩] ∧
      o = (r.transceive .mifareFrame (Mem.ofList (fun _ => 0) txData) txData.length x.rx x.rxLen
        mifareClWriteFwt s₁).1 ∧
      (Returns (mfclWrite r.recording stack page txData (s, [])).1 (0 ≤ ·) ↔
        ∃ y, o = .ok y ∧ 0 ≤ y.ret ∧ y.rx 0 = mifareUlRespAck) := by
  rw [mfclWrite_eq _ hpage hlen, bind_ok (recording_run [] hrun), if_neg (Int.not_lt.mpr hret)]
  exact writeData_returns h txData x s₁ _

theorem acked_iff (h : AnswersInto r) {frametype : RfidFrametype} {tx rx : Mem UInt8} {txLen n timeout : Nat}
    (hn : n = 1) {y : AbResult} (hrun : r.transceive frametype tx txLen rx n timeout s = (.ok y, s₁)) :
    (0 ≤ y.ret ∧ y.rx 0 = mifareUlRespAck) ↔ Acked (.ok y) := by
  constructor
  · rintro ⟨hret, hack⟩
    obtain ⟨-, bytes, hfilled⟩ := h.filled hrun hret
    refine ⟨y, rfl, hret, ?_, hack⟩
    by_contra hnone
    have hzero : y.rx 0 = 0 := hfilled.cleared 0 (by omega) (by omega)
    rw [hack] at hzero
    exact absurd hzero (by decide)
  · rintro ⟨_, ⟨⟩, hret, -, hack⟩
    exact ⟨hret, hack⟩

theorem writeAcked_failed (h : AnswersInto r) (hpage : page ≤ mifareClPageMax)
    (hlen : txData.length = 16) {o : Outcome AbResult}
    (hrun : r.transceive .mifareFrame (writeCommand page) 2 stack 1 mifareClWriteFwt s = (o, s₁))
    (ho : ∀ x, o = .ok x → x.ret < 0) :
    WriteAcked (mfclWrite r.recording stack page txData (s, [])).1
      (mfclWrite r.recording stack page txData (s, [])).2.2 := by
  obtain ⟨hreturns, hphases⟩ := mfclWrite_failed h hpage hlen hrun ho
  rw [hphases]
  constructor
  · refine iff_of_false hreturns ?_
    rintro ⟨command, data, heq, -⟩
    cases heq
  · rintro command ⟨⟩ ⟨x, rfl, hret, -⟩
    exact absurd hret (Int.not_le.mpr (ho x rfl))

theorem writeAcked_answered (h : AnswersInto r) (hpage : page ≤ mifareClPageMax)
    (hlen : txData.length = 16) {x : AbResult}
    (hrun : r.transceive .mifareFrame (writeCommand page) 2 stack 1 mifareClWriteFwt s = (.ok x, s₁))
    (hret : 0 ≤ x.ret) :
    WriteAcked (mfclWrite r.recording stack page txData (s, [])).1
        (mfclWrite r.recording stack page txData (s, [])).2.2 ↔ ¬ Refused (.ok x) := by
  obtain ⟨o, hphases, hdata, hreturns⟩ := mfclWrite_answered h hpage hlen hrun hret
  rw [hphases]
  constructor
  · intro hacked hrefused
    have hone := (hacked.refused _ rfl hrefused).2
    cases hone
  · intro hrefused
    have hack : 1 ≤ x.rxLen ∧ x.rx 0 = mifareClRespAck := by
      by_contra hno
      exact hrefused ⟨x, rfl, hret, hno⟩
    have hone : x.rxLen = 1 := Nat.le_antisymm (h.filled hrun hret).1 hack.1
    constructor
    · rw [hreturns]
      constructor
      · rintro ⟨y, rfl, hy⟩
        refine ⟨_, _, rfl, ⟨x, rfl, hret, hack⟩, ?_⟩
        exact (acked_iff h hone (Prod.ext hdata.symm rfl)).mp hy
      · rintro ⟨command, data, heq, -, hy⟩
        cases heq
        obtain ⟨y, rfl, hy⟩ := hy
        exact ⟨y, rfl, hy.1, hy.2.2⟩
    · rintro command ⟨⟩ hrefused'
      exact absurd hrefused' hrefused

/-- A refused command is not noticed: the data is sent, and only the answer to it is looked at. -/
theorem mfclWrite_acked_iff (h : AnswersInto r) (stack : Mem UInt8) (page : Nat)
    (hlen : txData.length = 16) (s : σ) :
    WriteAcked (mfclWrite r.recording stack page txData (s, [])).1
        (mfclWrite r.recording stack page txData (s, [])).2.2 ↔
      mifareClPageMax < page ∨
        ¬ Refused (r.transceive .mifareFrame (writeCommand page) 2 stack 1 mifareClWriteFwt s).1 := by
  rcases Nat.lt_or_ge mifareClPageMax page with hpage | hpage
  · have hrun : mfclWrite r.recording stack page txData (s, []) = (.ok (-eInval), (s, [])) := by
      rw [mfclWrite, if_pos hpage]
      rfl
    rw [hrun]
    refine iff_of_true ⟨?_, nofun⟩ (.inl hpage)
    rw [returns_ok]
    exact iff_of_false (by decide) nofun
  rw [or_iff_right (Nat.not_lt.mpr hpage)]
  rcases hcommand : r.transceive .mifareFrame (writeCommand page) 2 stack 1 mifareClWriteFwt s with ⟨o, s₁⟩
  by_cases hanswered : ∃ x, o = .ok x ∧ 0 ≤ x.ret
  · obtain ⟨x, rfl, hret⟩ := hanswered
    exact writeAcked_answered h hpage hlen hcommand hret
  · have ho : ∀ x, o = .ok x → x.ret < 0 := fun x hx => by
      by_contra hnn
      exact hanswered ⟨x, hx, Int.not_lt.mp hnn⟩
    refine iff_of_true (writeAcked_failed h hpage hlen hcommand ho) ?_
    rintro ⟨x, rfl, hret, -⟩
    exact absurd hret (Int.not_le.mpr (ho x rfl))

end

end

def scriptReader : MifareReader (List (Int × List UInt8)) where
  transceive _ _ _ rx n _ := fun
    | [] => (.ok ⟨-eTimedOut, n, rx⟩, [])
    | (ret, bytes) :: rest =>
      let len := min n bytes.length
      (.ok ⟨ret, len, (rx.store 0 (List.replicate n 0)).store 0 (bytes.take len)⟩, rest)
  setkey := none
  auth := none

theorem answersInto_script : AnswersInto scriptReader where
  filled := by
    intro frametype tx txLen rx n timeout s x s' hrun hret
    cases s with
    | nil =>
      cases hrun
      exact absurd hret (by decide : ¬ (0 : Int) ≤ -eTimedOut)
    | cons e rest =>
      cases hrun
      exact ⟨Nat.min_le_left _ _, e.2, filled_store rx (Nat.min_le_left _ _) (Nat.min_le_right _ _)⟩
  errs := by
    rintro frametype tx txLen rx n timeout (_ | ⟨e, rest⟩) code hcode
    · cases hcode
    · cases hcode

theorem mfclWrite_acked_twice :
    WriteAcked
      (mfclWrite scriptReader.recording (fun _ => 0) 4 (List.replicate 16 0)
        ([(0, [0x0a]), (0, [0x0a])], [])).1
      (mfclWrite scriptReader.recording (fun _ => 0) 4 (List.replicate 16 0)
        ([(0, [0x0a]), (0, [0x0a])], [])).2.2 := by
  apply (mfclWrite_acked_iff answersInto_script _ 4 (by decide) _).mpr
  apply Or.inr
  rintro ⟨x, hx, -, hno⟩
  cases hx
  exact hno ⟨by decide, rfl⟩

/-- The command is answered with NAK, and the data with a stray ACK: the write is reported as done. -/
theorem mfclWrite_after_nak :
    (mfclWrite scriptReader.recording (fun _ => 0) 4 (List.replicate 16 0)
        ([(0, [0x00]), (0, [0x0a])], [])).1 = .ok 0 ∧
      (mfclWrite scriptReader.recording (fun _ => 0) 4 (List.replicate 16 0)
        ([(0, [0x00]), (0, [0x0a])], [])).2.2.map WritePhase.tx = [[0xa0, 4], List.replicate 16 0] ∧
      ¬ WriteAcked
        (mfclWrite scriptReader.recording (fun _ => 0) 4 (List.replicate 16 0)
          ([(0, [0x00]), (0, [0x0a])], [])).1
        (mfclWrite scriptReader.recording (fun _ => 0) 4 (List.replicate 16 0)
          ([(0, [0x00]), (0, [0x0a])], [])).2.2 := by
  refine ⟨rfl, rfl, fun hacked => ?_⟩
  have hnak : ¬ (0x00 : UInt8) = mifareClRespAck := by decide
  have hone := (hacked.refused _ rfl ⟨_, rfl, Int.le_refl 0, fun h => hnak h.2⟩).2
  exact absurd (congrArg List.length hone) (by decide : ¬ 2 = 1)

end Librfid.Proto
