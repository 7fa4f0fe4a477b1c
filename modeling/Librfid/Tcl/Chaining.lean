import Librfid.Tcl.FrameSize
import Mathlib.Data.List.Chain

namespace Librfid.Tcl

abbrev RawBlock := List UInt8

namespace RawBlock

variable (b : RawBlock)

def pcb : UInt8 := b.headD 0
def isI : Bool := b.head?.any isIBlock
def isNumbered : Bool := b.head?.any fun pcb => !isSBlock pcb
def number : Nat := (b.pcb &&& 0x01).toNat
def Chains : Prop := b.pcb &&& 0x10 ≠ 0
def inf : List UInt8 := b.drop (rxHdrLen b.pcb)

end RawBlock

/-- The I-blocks carry the first `next` bytes of the request, with block numbers that alternate along
the blocks in `turn`. -/
structure Fragments (turn : RawBlock → Bool) (fsc : Nat) (tx : List UInt8) (next : Nat)
    (blocks : List RawBlock) : Prop where
  inRange : next ≤ tx.length
  sent : (blocks.filter RawBlock.isI).flatMap RawBlock.inf = tx.take next
  chaining : ∀ (pre : List RawBlock) (b : RawBlock), pre ++ [b] <+: blocks.filter RawBlock.isI →
    (b.Chains ↔ ((pre ++ [b]).flatMap RawBlock.inf).length < tx.length)
  numbers : ((blocks.filter turn).map RawBlock.number).IsChain (· ≠ ·)
  size : ∀ b ∈ blocks.filter RawBlock.isI, b.length ≤ fsc ∧ b.inf ≠ []

def Alternates (turn : RawBlock → Bool) (blocks : List RawBlock) (b : RawBlock) : Prop :=
  turn b → ∀ n ∈ ((blocks.filter turn).map RawBlock.number).getLast?, n ≠ b.number

namespace Fragments

variable {turn : RawBlock → Bool} {fsc next : Nat} {tx : List UInt8} {blocks : List RawBlock}
  {b : RawBlock}

theorem nil (tx : List UInt8) : Fragments turn fsc tx 0 [] where
  inRange := Nat.zero_le _
  sent := rfl
  chaining _ _ h := absurd (List.prefix_nil.mp h) (List.append_ne_nil_of_right_ne_nil _ nofun)
  numbers := List.isChain_nil
  size _ h := absurd h List.not_mem_nil

theorem numbers_snoc (h : Fragments turn fsc tx next blocks) (hnum : Alternates turn blocks b) :
    (((blocks ++ [b]).filter turn).map RawBlock.number).IsChain (· ≠ ·) := by
  rw [List.filter_append, List.map_append]
  cases hb : turn b with
  | false =>
    rw [List.filter_singleton, hb]
    simpa using h.numbers
  | true =>
    rw [List.filter_singleton, hb]
    refine h.numbers.append (List.isChain_singleton _) fun n hn m hm => ?_
    cases hm
    exact hnum hb n hn

theorem other (h : Fragments turn fsc tx next blocks) (hb : b.isI = false)
    (hnum : Alternates turn blocks b) : Fragments turn fsc tx next (blocks ++ [b]) := by
  have hfilter : (blocks ++ [b]).filter RawBlock.isI = blocks.filter RawBlock.isI := by
    rw [List.filter_append, List.filter_singleton, hb]
    exact List.append_nil _
  refine ⟨h.inRange, ?_, ?_, h.numbers_snoc hnum, ?_⟩
  · rw [hfilter]
    exact h.sent
  · rw [hfilter]
    exact h.chaining
  · rw [hfilter]
    exact h.size

theorem block (h : Fragments turn fsc tx next blocks) {next' : Nat} (hb : b.isI)
    (hle : next' ≤ tx.length) (hinf : tx.take next ++ b.inf = tx.take next')
    (hchain : b.Chains ↔ next' < tx.length) (hsize : b.length ≤ fsc ∧ b.inf ≠ [])
    (hnum : Alternates turn blocks b) : Fragments turn fsc tx next' (blocks ++ [b]) := by
  have hfilter : (blocks ++ [b]).filter RawBlock.isI = blocks.filter RawBlock.isI ++ [b] := by
    rw [List.filter_append, List.filter_singleton, hb]
    rfl
  have hsent : (blocks.filter RawBlock.isI ++ [b]).flatMap RawBlock.inf = tx.take next' := by
    rw [List.flatMap_append, List.flatMap_singleton, h.sent]
    exact hinf
  refine ⟨hle, ?_, ?_, h.numbers_snoc hnum, ?_⟩
  · rw [hfilter]
    exact hsent
  · intro pre b' hpre
    rw [hfilter] at hpre
    rcases List.prefix_concat_iff.mp hpre with heq | hpre
    · have hlast := List.append_inj' heq rfl
      cases hlast.2
      rw [heq, hsent, List.length_take, Nat.min_eq_left hle]
      exact hchain
    · exact h.chaining pre b' hpre
  · intro b' hmem
    rw [hfilter] at hmem
    rcases List.mem_append.mp hmem with hmem | hmem
    · exact h.size b' hmem
    · rw [List.mem_singleton.mp hmem]
      exact hsize

end Fragments

section Built

variable {l2 : Layer2Id}

def built (l2 : Layer2Id) (s : TclXcv) (log : History) : List RawBlock :=
  log.map (fun x => x.1.tx) ++ [(tclSend l2 s).tx]

theorem built_snoc (s s' : TclXcv) (log : History) (r : L2Reply) :
    built l2 s' (log ++ [(tclSend l2 s, r)]) = built l2 s log ++ [(tclSend l2 s').tx] := by
  rw [built, built, List.map_append, List.map_singleton]

theorem tclSend_pcb (l2 : Layer2Id) {s : TclXcv} (h : 0 < s.xcvb.tx.frameLen) :
    (tclSend l2 s).tx.head? = some (s.xcvb.tx.data 0) ∧
      RawBlock.pcb (tclSend l2 s).tx = s.xcvb.tx.data 0 := by
  obtain ⟨n, hn⟩ := Nat.exists_eq_add_of_lt h
  rw [Nat.zero_add] at hn
  have htx : (tclSend l2 s).tx = s.xcvb.tx.data 0 :: s.handed.load 1 n := by
    rw [tclSend, hn, Mem.load_succ, s.handed_of_lt (by decide)]
    rfl
  rw [htx]
  exact ⟨rfl, rfl⟩

theorem rxHdrLen_prologueI (th : TclHandle) (prlg : Mem UInt8) {pcb : UInt8}
    (hcid : pcb &&& pcbCidFollowing = (tclBuildPrologueI th prlg).2.1 0 &&& pcbCidFollowing)
    (hnad : pcb &&& pcbNadFollowing = (tclBuildPrologueI th prlg).2.1 0 &&& pcbNadFollowing) :
    rxHdrLen pcb = tclPrlgLen th := by
  rw [rxHdrLen, hcid, hnad, tclPrlgLen]
  simp only [(tclBuildPrologueI_following th prlg).1, (tclBuildPrologueI_following th prlg).2]

end Built

section Refill

variable (l2 : Layer2Id) {s s' : TclXcv} (h : tclRefillXcvb s = some s')

include h

theorem refill_pcb :
    (tclSend l2 s').tx.head? = some (s'.xcvb.tx.data 0) ∧
      RawBlock.pcb (tclSend l2 s').tx = s'.xcvb.tx.data 0 := by
  obtain ⟨-, -, -, -, -, hlen, -⟩ := tclRefillXcvb_eq h
  have hpos := tclPrlgLen_pos s.th
  exact tclSend_pcb l2 (by omega)

theorem refill_isI : RawBlock.isI (tclSend l2 s').tx ∧ RawBlock.isNumbered (tclSend l2 s').tx := by
  have hclass := tclRefillXcvb_class h
  rw [RawBlock.isI, RawBlock.isNumbered, (refill_pcb l2 h).1]
  refine ⟨hclass, ?_⟩
  rw [Option.any_some, isSBlock_of_isIBlock hclass]
  rfl

theorem refill_number : RawBlock.number (tclSend l2 s').tx = if s.th.toggle ≠ 0 then 0 else 1 := by
  rw [RawBlock.number, (refill_pcb l2 h).2, tclRefillXcvb_pcb h (by decide), tclBuildPrologueI_number]
  split_ifs <;> rfl

theorem refill_inf (hfits : s'.xcvb.tx.frameLen ≤ 256) :
    RawBlock.inf (tclSend l2 s').tx = s.chunk := by
  obtain ⟨-, -, -, -, -, hlen, -⟩ := tclRefillXcvb_eq h
  have hinf := infField_refill l2 h
  rw [handedOver_eq_self s.stack (by omega)] at hinf
  obtain ⟨pcb, rest, htx⟩ : ∃ pcb rest, (tclSend l2 s').tx = pcb :: rest :=
    ⟨_, _, List.eq_cons_of_mem_head? (refill_pcb l2 h).1⟩
  have hpcb : pcb = s'.xcvb.tx.data 0 := by
    have hhead := (refill_pcb l2 h).2
    rw [htx] at hhead
    exact hhead
  rw [infField, htx] at hinf
  dsimp only at hinf
  rw [hpcb, if_pos (tclRefillXcvb_class h), ← hpcb, ← htx] at hinf
  rw [RawBlock.inf, (refill_pcb l2 h).2, rxHdrLen_prologueI s.th s.xcvb.tx.data
    (tclRefillXcvb_pcb h (by decide)) (tclRefillXcvb_pcb h (by decide))]
  exact hinf

theorem refill_chains :
    RawBlock.Chains (tclSend l2 s').tx ↔ s'.ctx.nextTxByte < s.ctx.tx.length := by
  obtain ⟨-, -, hctx, -, -, -, hdata⟩ := tclRefillXcvb_eq h
  have hpos := tclPrlgLen_pos s.th
  have hnone : (tclBuildPrologueI s.th s.xcvb.tx.data).2.1 0 &&& 0x10 = 0 := by
    rw [tclBuildPrologueI, tclBuildPrologue2_masked _ _ (by decide) (by decide)]
    split_ifs <;> decide
  have h0 := Mem.store_of_lt (tclBuildPrologueI s.th s.xcvb.tx.data).2.1 (p := tclPrlgLen s.th)
    (q := 0) s.chunk (by omega)
  rw [RawBlock.Chains, (refill_pcb l2 h).2, hdata, hctx]
  dsimp only
  split_ifs with hmore
  · rw [Mem.set_self, h0, Bits.or_and, hnone]
    exact iff_of_true (by decide) hmore
  · rw [h0]
    exact iff_of_false (not_not.mpr hnone) hmore

end Refill

section Other

variable {l2 : Layer2Id} (s : TclXcv)

theorem acknowledge_pcb :
    (tclSend l2 s.acknowledge).tx.head? =
        some ((tclBuildPrologueR s.th s.xcvb.tx.data false).2.1 0) ∧
      RawBlock.pcb (tclSend l2 s.acknowledge).tx =
        (tclBuildPrologueR s.th s.xcvb.tx.data false).2.1 0 := by
  have hpos : 1 ≤ s.acknowledge.xcvb.tx.frameLen :=
    tclBuildPrologue2_len_pos s.th s.xcvb.tx.data 0xa2
  exact tclSend_pcb l2 hpos

theorem acknowledge_class : RawBlock.isI (tclSend l2 s.acknowledge).tx = false ∧
    RawBlock.isNumbered (tclSend l2 s.acknowledge).tx := by
  have hclass := tclBuildPrologueR_class s.th s.xcvb.tx.data false
  rw [isRBlock, beq_iff_eq] at hclass
  rw [RawBlock.isI, RawBlock.isNumbered, (acknowledge_pcb s).1, Option.any_some, Option.any_some, isIBlock,
    isSBlock, hclass]
  decide

theorem acknowledge_number :
    RawBlock.number (tclSend l2 s.acknowledge).tx = if s.th.toggle ≠ 0 then 0 else 1 := by
  have hnum : (tclBuildPrologueR s.th s.xcvb.tx.data false).2.1 0 &&& 0x01 =
      if s.th.toggle ≠ 0 then 0 else 1 :=
    tclBuildPrologue2_number s.th s.xcvb.tx.data (by decide) (by decide)
  rw [RawBlock.number, (acknowledge_pcb s).2, hnum]
  split_ifs <;> rfl

theorem extend_class (inf : UInt8) : RawBlock.isI (tclSend l2 (s.extend inf)).tx = false ∧
    RawBlock.isNumbered (tclSend l2 (s.extend inf)).tx = false := by
  have hclass := tclBuildPrologueS_class s.th s.xcvb.tx.data
  rw [isSBlock, beq_iff_eq] at hclass
  have hpcb : (s.extend inf).xcvb.tx.data 0 &&& 0xc0 = 0xc0 := by
    rw [TclXcv.extend_pcb, Bits.or_and, hclass]
    decide
  have hhead := (tclSend_pcb l2 (s := s.extend inf) (Nat.succ_pos _)).1
  rw [RawBlock.isI, RawBlock.isNumbered, hhead, Option.any_some, Option.any_some, isIBlock, isSBlock, hpcb]
  decide

end Other

structure Sending (fsc : Nat) (tx : List UInt8) (s : TclXcv) (blocks : List RawBlock) : Prop where
  frameSize : s.th.fsc = fsc
  request : s.ctx.tx = tx
  fragments : Fragments RawBlock.isNumbered fsc tx s.ctx.nextTxByte blocks
  number : ∀ n ∈ ((blocks.filter RawBlock.isNumbered).map RawBlock.number).getLast?,
    n = if s.th.toggle ≠ 0 then 1 else 0

namespace Sending

variable {fsc : Nat} {tx : List UInt8} {s s' : TclXcv} {blocks : List RawBlock} {l2 : Layer2Id}

theorem getLast?_snoc (blocks : List RawBlock) {b : RawBlock} (hb : b.isNumbered) :
    (((blocks ++ [b]).filter RawBlock.isNumbered).map RawBlock.number).getLast? = some b.number := by
  rw [List.filter_append, List.filter_singleton, hb, List.map_append]
  exact List.getLast?_concat

theorem alternates (h : Sending fsc tx s blocks) {b : RawBlock}
    (hb : b.number = if s.th.toggle ≠ 0 then 0 else 1) : Alternates RawBlock.isNumbered blocks b := by
  intro _ n hn
  rw [h.number n hn, hb]
  split_ifs <;> decide

theorem number_snoc {b : RawBlock} (hb : b.isNumbered)
    (hnum : b.number = if s.th.toggle ≠ 0 then 0 else 1) (hth : s'.th = s.th.flip) :
    ∀ n ∈ (((blocks ++ [b]).filter RawBlock.isNumbered).map RawBlock.number).getLast?,
      n = if s'.th.toggle ≠ 0 then 1 else 0 := by
  intro n hn
  rw [getLast?_snoc blocks hb] at hn
  cases hn
  rw [hnum, hth, TclHandle.flip_toggle]
  split_ifs <;> first | rfl | omega

theorem refill (hfsc : 16 ≤ fsc ∧ fsc ≤ 256) (h : Sending fsc tx s blocks)
    (hr : tclRefillXcvb s = some s') : Sending fsc tx s' (blocks ++ [(tclSend l2 s').tx]) := by
  have hfits := tclRefillXcvb_fits hfsc h.frameSize hr
  obtain ⟨hlt, hth, hctx, -⟩ := tclRefillXcvb_eq hr
  have hlen := s.length_chunk
  have hmax : 0 < maxNetTxFramesize s.th := by
    have hprlg := tclPrlgLen_le s.th
    rw [maxNetTxFramesize, h.frameSize, u32Sub_of_le (by omega)]
    omega
  have hnext : s'.ctx.nextTxByte = s.ctx.nextTxByte + s.chunk.length := by rw [hctx]
  have hchains := refill_chains l2 hr
  have hnum := refill_number l2 hr
  rw [h.request] at hlt hlen hchains
  refine ⟨hfits.1, by rw [hctx]; exact h.request, ?_, number_snoc (refill_isI l2 hr).2 hnum hth⟩
  refine h.fragments.block (refill_isI l2 hr).1 (by omega) ?_ hchains ⟨?_, ?_⟩ (h.alternates hnum)
  · rw [refill_inf l2 hr hfits.2.2, hnext, ← h.request]
    exact s.take_append_chunk
  · rw [tclSend, Mem.length_load]
    exact hfits.2.1
  · rw [refill_inf l2 hr hfits.2.2, ← List.length_pos_iff_ne_nil]
    omega

theorem acknowledge (h : Sending fsc tx s blocks) :
    Sending fsc tx s.acknowledge (blocks ++ [(tclSend l2 s.acknowledge).tx]) where
  frameSize := by
    rw [TclXcv.acknowledge_th]
    exact h.frameSize
  request := h.request
  fragments := h.fragments.other (acknowledge_class s).1 (h.alternates (acknowledge_number s))
  number := number_snoc (acknowledge_class s).2 (acknowledge_number s) (TclXcv.acknowledge_th s)

theorem extend (h : Sending fsc tx s blocks) (inf : UInt8) :
    Sending fsc tx (s.extend inf) (blocks ++ [(tclSend l2 (s.extend inf)).tx]) where
  frameSize := h.frameSize
  request := h.request
  fragments := h.fragments.other (extend_class s inf).1 fun hb => by
    rw [(extend_class s inf).2] at hb
    cases hb
  number := by
    rw [List.filter_append, List.filter_singleton, (extend_class s inf).2, cond_false,
      List.append_nil]
    exact h.number

theorem take (h : Sending fsc tx s blocks) (r : L2Reply) : Sending fsc tx (s.take r) blocks :=
  ⟨h.frameSize, h.request, h.fragments, h.number⟩

theorem next (hfsc : 16 ≤ fsc ∧ fsc ≤ 256) (h : Sending fsc tx s blocks) {r : L2Reply}
    (hr : tclNext s r = .inl s') : Sending fsc tx s' (blocks ++ [(tclSend l2 s').tx]) := by
  rw [tclNext_eq] at hr
  cases hv : verdict s.th r <;> simp only [hv] at hr
  case ack =>
    cases hf : tclRefillXcvb s with
    | none => simp [hf] at hr
    | some s'' =>
      simp only [hf, Sum.inl.injEq] at hr
      subst hr
      exact h.refill hfsc hf
  case wtx inf =>
    cases hr
    exact h.extend inf
  case chained =>
    cases hr
    exact (h.take r).acknowledge
  all_goals cases hr

theorem start (th : TclHandle) (stack : Mem UInt8) (tx : List UInt8) (rxLen : Nat) :
    Sending th.fsc tx (tclLocals th stack tx rxLen) [] :=
  ⟨rfl, rfl, .nil tx, fun _ h => absurd h (by simp)⟩

end Sending

/-- At every moment of a call, and when it has returned. -/
theorem tclTransceive_fragments (l2 : Layer2Id) (srv : Layer2 σ) {th : TclHandle}
    (hfsc : 16 ≤ th.fsc ∧ th.fsc ≤ 256) (stack : Mem UInt8) (tx : List UInt8) (rxLen : Nat) (w : σ) :
    (∀ s₀ s w' log, tclRefillXcvb (tclLocals th stack tx rxLen) = some s₀ →
      Client.Reaches (tclClient l2) srv s₀ w log s w' →
      Fragments RawBlock.isNumbered th.fsc tx s.ctx.nextTxByte (built l2 s log)) ∧
    ∀ fuel res w', tclTransceive l2 srv fuel th stack tx rxLen w = some (res, w') →
      ∃ next, Fragments RawBlock.isNumbered th.fsc tx next (res.history.map fun x => x.1.tx) := by
  have hwaiting : ∀ s₀ s w' log, tclRefillXcvb (tclLocals th stack tx rxLen) = some s₀ →
      Client.Reaches (tclClient l2) srv s₀ w log s w' →
      Sending th.fsc tx s (built l2 s log) := by
    intro s₀ s w' log hf hreach
    let inv (s : TclXcv) (log : History) : Prop := Sending th.fsc tx s (built l2 s log)
    have h₀ : inv s₀ [] := (Sending.start th stack tx rxLen).refill hfsc hf
    have hstep : ∀ s log r s', inv s log → tclNext s r = .inl s' →
        inv s' (log ++ [(tclSend l2 s, r)]) := by
      intro s log r s' h hr
      change Sending th.fsc tx s' (built l2 s' _)
      rw [built_snoc]
      exact h.next hfsc hr
    exact hreach.invariant [] h₀ hstep
  refine ⟨fun s₀ s w' log hf hreach => (hwaiting s₀ s w' log hf hreach).fragments, ?_⟩
  intro fuel res w' hres
  rcases tclTransceive_cases hres with hnil | ⟨s₀, s, log, w₁, r, o, hf, hreach, -, rfl⟩
  · rw [hnil]
    exact ⟨0, .nil tx⟩
  · refine ⟨s.ctx.nextTxByte, ?_⟩
    rw [TclResult.ofOut, List.map_append, List.map_singleton]
    exact (hwaiting s₀ s w₁ log hf hreach).fragments

def eagerCard : List L2Reply :=
  [⟨0, 2, Mem.ofList (fun _ => 0) [0x12, 0x00]⟩, ⟨0, 1, Mem.ofList (fun _ => 0) [0xa3]⟩]

theorem tclTransceive_fragments_eager :
    (16 ≤ (plainHandle 16).fsc ∧ (plainHandle 16).fsc ≤ 256) ∧
    ∃ res rest, tclTransceive .iso14443a (Server.scripted silence) 3 (plainHandle 16) (fun _ => 0)
        (List.replicate 20 0x55) 256 eagerCard = some (res, rest) ∧ res.history.length = 3 ∧
      ∃ next, Fragments RawBlock.isNumbered 16 (List.replicate 20 0x55) next
        (res.history.map fun x => x.1.tx) :=
  have hfsc : 16 ≤ (plainHandle 16).fsc ∧ (plainHandle 16).fsc ≤ 256 := by decide
  ⟨hfsc, _, _, rfl, rfl, (tclTransceive_fragments .iso14443a (Server.scripted silence) hfsc
    (fun _ => 0) (List.replicate 20 0x55) 256 eagerCard).2 3 _ _ rfl⟩

/-- Both I-blocks have number 0: the R(ACK) between them has number 1. -/
theorem eagerCard_repeats :
    ∃ res rest, tclTransceive .iso14443a (Server.scripted silence) 3 (plainHandle 16) (fun _ => 0)
        (List.replicate 20 0x55) 256 eagerCard = some (res, rest) ∧
      ((res.history.map fun x => x.1.tx).filter RawBlock.isI).map RawBlock.number = [0, 0] ∧
      ∀ next, ¬ Fragments RawBlock.isI 16 (List.replicate 20 0x55) next
        (res.history.map fun x => x.1.tx) := by
  refine ⟨_, _, rfl, by decide, fun next h => ?_⟩
  exact absurd h.numbers (by decide)

end Librfid.Tcl
