import Librfid.Layer2.Iso15693

namespace Librfid.Layer2

open Rc632 Exec

/-- `iso15693_read_block` with what `*block_sec_out` holds, `none` for a null pointer: nothing is
ever written to it. -/
def iso15693ReadBlockOut {σ : Type} (r : Iso15693Reader σ) (stack : Mem UInt8) (blocknr : UInt8)
    (len : Nat) (blockSecOut : Option UInt8) : Iso15693M σ (ReadResult × Option UInt8) := do
  let x ← iso15693ReadBlock r stack blocknr len blockSecOut.isSome
  pure (x, blockSecOut)

def readHeader (blockSecOut : Option UInt8) : Nat := if blockSecOut.isSome then 2 else 1

/-- What the caller gets is the block of the response, if the return value says so. -/
structure DeliversBlock (len : Nat) (before : Option UInt8) (x : AbResult) (res : ReadResult)
    (after : Option UInt8) : Prop where
  copied : res.data.length ≤ len ∧ res.data.length ≤ x.rxLen
  noError : 0 ≤ res.ret → x.rx 0 &&& rfError = 0
  count : 0 ≤ res.ret → readHeader before ≤ x.rxLen ∧
    res.ret = (x.rxLen - readHeader before : Nat)
  data : 0 ≤ res.ret → res.data = x.rx.load (readHeader before) (x.rxLen - readHeader before)
  security : 0 ≤ res.ret → before.isSome → after = some (x.rx 1)

def Refused (len : Nat) (x : AbResult) : Prop :=
  x.ret < 0 ∨ x.rxLen > (len + 1) % 2 ^ 32 ∨ x.rx 0 &&& rfError ≠ 0

instance (len : Nat) (x : AbResult) : Decidable (Refused len x) :=
  inferInstanceAs (Decidable (_ ∨ _ ∨ _))

section Read

variable {σ : Type} (r : Iso15693Reader σ) {stack : Mem UInt8} {blocknr : UInt8} {len : Nat}
  {sec : Option UInt8}

def readRequest (h : Iso15693Handle) (blocknr : UInt8) (sec : Option UInt8) : List UInt8 :=
  blockRequest h cmdReadBlockSingle (if sec.isSome then f4Custom else 0) blocknr []

def readReturn (len : Nat) (sec : Option UInt8) (x : AbResult) : ReadResult :=
  if x.ret < 0 then ⟨x.ret, []⟩
  else if x.rxLen > (len + 1) % 2 ^ 32 then ⟨-1, []⟩
  else if x.rx 0 &&& rfError ≠ 0 then ⟨-1, []⟩
  else
    let n := u32Sub x.rxLen (readHeader sec)
    ⟨(n : Int).bmod (2 ^ 32), x.rx.load (readHeader sec) n⟩

def ReadExchange (stack : Mem UInt8) (blocknr : UInt8) (sec : Option UInt8) (h : Iso15693Handle)
    (s : σ) (x : AbResult) (s' : σ) : Prop :=
  r.transceive .iso15693Frame (Mem.ofList (fun _ => 0) (readRequest h blocknr sec))
    (readRequest h blocknr sec).length stack respSizeMax (iso15693TimingT4 h.viccFast) s = (.ok x, s')

theorem iso15693ReadBlock_run {h : Iso15693Handle} {s s' : σ} {x : AbResult}
    (hx : ReadExchange r stack blocknr sec h s x s') :
    iso15693ReadBlock r stack blocknr len sec.isSome (s, h) = (.ok (readReturn len sec x), (s', h)) := by
  have hlift : iso15693Transceive r (readRequest h blocknr sec) stack respSizeMax
      (iso15693TimingT4 h.viccFast) (s, h) = (.ok x, (s', h)) := lift_run hx
  rw [iso15693ReadBlock, bind_ok (show Exec.get (s, h) = (.ok h, (s, h)) from rfl)]
  refine (bind_ok hlift).trans ?_
  unfold readReturn readHeader
  split_ifs <;> rfl

theorem iso15693ReadBlockOut_run {h : Iso15693Handle} {s s' : σ} {x : AbResult}
    (hx : ReadExchange r stack blocknr sec h s x s') :
    iso15693ReadBlockOut r stack blocknr len sec (s, h) =
      (.ok (readReturn len sec x, sec), (s', h)) := by
  rw [iso15693ReadBlockOut, bind_ok (iso15693ReadBlock_run r hx)]
  rfl

end Read

section Return

variable {len : Nat} {sec : Option UInt8} {x : AbResult}

theorem readReturn_of_refused (h : Refused len x) :
    (readReturn len sec x).ret < 0 ∧ (readReturn len sec x).data = [] := by
  unfold readReturn
  split_ifs with hret hlen herr
  · exact ⟨hret, rfl⟩
  · exact ⟨by decide, rfl⟩
  · exact ⟨by decide, rfl⟩
  · rcases h with h | h | h
    · exact absurd h hret
    · exact absurd h hlen
    · exact absurd h herr

theorem readReturn_of_accepted (h : ¬ Refused len x) :
    readReturn len sec x =
      ⟨((u32Sub x.rxLen (readHeader sec) : Nat) : Int).bmod (2 ^ 32),
        x.rx.load (readHeader sec) (u32Sub x.rxLen (readHeader sec))⟩ := by
  rw [Refused, not_or, not_or] at h
  rw [readReturn, if_neg h.1, if_neg h.2.1, if_neg h.2.2]

theorem deliversBlock_of_refused (h : Refused len x) (after : Option UInt8) :
    DeliversBlock len sec x (readReturn len sec x) after := by
  obtain ⟨hret, hdata⟩ : (readReturn len sec x).ret < 0 ∧ (readReturn len sec x).data = [] :=
    readReturn_of_refused h
  have hneg : ¬ 0 ≤ (readReturn len sec x).ret := Int.not_le.mpr hret
  refine ⟨?_, fun h => absurd h hneg, fun h => absurd h hneg, fun h => absurd h hneg,
    fun h => absurd h hneg⟩
  rw [hdata]
  exact ⟨Nat.zero_le _, Nat.zero_le _⟩

theorem readHeader_le (sec : Option UInt8) : 1 ≤ readHeader sec ∧ readHeader sec ≤ 2 := by
  unfold readHeader
  split_ifs <;> decide

theorem deliversBlock_of_header (h : ¬ Refused len x) (hhead : readHeader sec ≤ x.rxLen)
    (hmax : x.rxLen ≤ respSizeMax) {after : Option UInt8} :
    DeliversBlock len sec x (readReturn len sec x) after ↔
      (sec.isSome → after = some (x.rx 1)) := by
  have hret : readReturn len sec x = _ := readReturn_of_accepted h
  rw [u32Sub_of_le hhead] at hret
  have hlen : x.rxLen ≤ len + 1 :=
    Nat.le_trans (Nat.not_lt.mp fun hlt => h (.inr (.inl hlt))) (Nat.mod_le _ _)
  have hpos := (readHeader_le sec).1
  rw [respSizeMax] at hmax
  have hbmod : (((x.rxLen - readHeader sec : Nat) : Int)).bmod (2 ^ 32) =
      (x.rxLen - readHeader sec : Nat) := Int.bmod_eq_of_le (by omega) (by omega)
  rw [hret, hbmod]
  constructor
  · intro hdel hsome
    exact hdel.security (Int.natCast_nonneg _) hsome
  · intro hsec
    refine ⟨?_, fun _ => ?_, fun _ => ⟨hhead, rfl⟩, fun _ => rfl, fun _ => hsec⟩
    · rw [Mem.length_load]
      omega
    · exact not_not.mp fun herr => h (.inr (.inr herr))

theorem not_deliversBlock_of_short (h : ¬ Refused len x) (hhead : x.rxLen < readHeader sec)
    (hpos : 1 ≤ x.rxLen) (after : Option UInt8) :
    ¬ DeliversBlock len sec x (readReturn len sec x) after := by
  intro hdel
  have hcopied := hdel.copied.2
  have htwo := (readHeader_le sec).2
  rw [readReturn_of_accepted h, u32Sub_of_lt hhead] at hcopied
  dsimp only at hcopied
  rw [Mem.length_load] at hcopied
  omega

end Return

/-- The block is delivered unless the security status is asked for; then it is only if the response
is refused, or if the caller's variable happens to hold that status already. -/
theorem deliversBlock_iff {σ : Type} (r : Iso15693Reader σ) (stack : Mem UInt8) (blocknr : UInt8)
    (len : Nat) (sec : Option UInt8) (h : Iso15693Handle) {s s' : σ} {x : AbResult}
    (hx : ReadExchange r stack blocknr sec h s x s') (hlen : 1 ≤ x.rxLen ∧ x.rxLen ≤ respSizeMax) :
    ∃ res after, iso15693ReadBlockOut r stack blocknr len sec (s, h) = (.ok (res, after), (s', h)) ∧
      (DeliversBlock len sec x res after ↔
        sec = none ∨ Refused len x ∨ (2 ≤ x.rxLen ∧ sec = some (x.rx 1))) := by
  refine ⟨readReturn len sec x, sec, iso15693ReadBlockOut_run r hx, ?_⟩
  by_cases href : Refused len x
  · exact iff_of_true (deliversBlock_of_refused href sec) (.inr (.inl href))
  rw [or_iff_right href]
  cases sec with
  | none =>
    refine iff_of_true ?_ (.inl rfl)
    exact (deliversBlock_of_header href (show readHeader none ≤ x.rxLen from hlen.1) hlen.2).mpr nofun
  | some b =>
    rw [or_iff_right (Option.some_ne_none b)]
    by_cases hshort : x.rxLen < readHeader (some b)
    · refine iff_of_false (not_deliversBlock_of_short href hshort hlen.1 _) ?_
      exact fun hc => absurd hc.1 (Nat.not_le.mpr hshort)
    · have hlong : readHeader (some b) ≤ x.rxLen := Nat.not_lt.mp hshort
      rw [deliversBlock_of_header href hlong hlen.2, and_iff_right (show 2 ≤ x.rxLen from hlong)]
      exact ⟨fun hsec => hsec rfl, fun hsec _ => hsec⟩

def fixedVicc (resp : List UInt8) : Iso15693Reader Unit where
  transceive _ _ _ rx _ _ := pure ⟨0, resp.length, rx.store 0 resp⟩
  transceiveAc _ _ _ _ := fail (- eIO)

def fixedAnswer (resp : List UInt8) : AbResult := ⟨0, resp.length, Mem.store (fun _ => 0) 0 resp⟩

def selectedHandle : Iso15693Handle :=
  { initHandle15693 with uid := fun _ => 7, uidLen := 8, state := .selected }

theorem deliversBlock_plain :
    ReadExchange (fixedVicc [0, 1, 2, 3, 4]) (fun _ => 0) 5 none selectedHandle ()
        (fixedAnswer [0, 1, 2, 3, 4]) () ∧
      (1 ≤ (fixedAnswer [0, 1, 2, 3, 4]).rxLen ∧ (fixedAnswer [0, 1, 2, 3, 4]).rxLen ≤ respSizeMax) ∧
      ∃ res after, iso15693ReadBlockOut (fixedVicc [0, 1, 2, 3, 4]) (fun _ => 0) 5 4 none
          ((), selectedHandle) = (.ok (res, after), ((), selectedHandle)) ∧
        DeliversBlock 4 none (fixedAnswer [0, 1, 2, 3, 4]) res after := by
  have hx : ReadExchange (fixedVicc [0, 1, 2, 3, 4]) (fun _ => 0) 5 none selectedHandle ()
      (fixedAnswer [0, 1, 2, 3, 4]) () := rfl
  obtain ⟨res, after, hrun, hiff⟩ := deliversBlock_iff _ _ 5 4 none selectedHandle hx (by decide)
  exact ⟨hx, by decide, res, after, hrun, hiff.mpr (.inl rfl)⟩

/-- The security status 1 does not reach the caller, and of a response of one byte that is cut by two
bytes the rest is copied. -/
theorem securityStatus_lost :
    (∃ res after, iso15693ReadBlockOut (fixedVicc [0, 1, 2, 3, 4, 5]) (fun _ => 0) 5 5 (some 0)
        ((), selectedHandle) = (.ok (res, after), ((), selectedHandle)) ∧ res.ret = 4 ∧ after = some 0 ∧
      ¬ DeliversBlock 5 (some 0) (fixedAnswer [0, 1, 2, 3, 4, 5]) res after) ∧
    ∃ res after, iso15693ReadBlockOut (fixedVicc [0]) (fun _ => 0) 5 5 (some 0)
        ((), selectedHandle) = (.ok (res, after), ((), selectedHandle)) ∧ res.data.length = 2 ^ 32 - 1 ∧
      ¬ DeliversBlock 5 (some 0) (fixedAnswer [0]) res after := by
  have hlong : ReadExchange (fixedVicc [0, 1, 2, 3, 4, 5]) (fun _ => 0) 5 (some 0) selectedHandle ()
      (fixedAnswer [0, 1, 2, 3, 4, 5]) () := rfl
  have hshort : ReadExchange (fixedVicc [0]) (fun _ => 0) 5 (some 0) selectedHandle ()
      (fixedAnswer [0]) () := rfl
  refine ⟨⟨_, _, iso15693ReadBlockOut_run _ hlong, by decide, rfl, fun h => ?_⟩,
    ⟨_, _, iso15693ReadBlockOut_run _ hshort, Mem.length_load _ _ _, ?_⟩⟩
  · exact absurd (h.security (by decide) rfl) (by decide)
  · have href : ¬ Refused 5 (fixedAnswer [0]) := by decide
    exact not_deliversBlock_of_short href (by decide) (by decide) _

end Librfid.Layer2
