import Librfid.Tcl.Station

namespace Librfid.Tcl

open Exec Layer2

section Serving

variable {σ τ : Type} {l2 : TclLayer2 σ} {srv : Layer2 τ} {R : τ → σ → Prop} {G : L2Call → Prop}
  {K : TclXcv → Prop}

def Serves (l2 : TclLayer2 σ) (srv : Layer2 τ) (R : τ → σ → Prop) (G : L2Call → Prop) : Prop :=
  ∀ call rx n w s, G call → R w s →
    ∃ s', l2.transceive call rx n s = (.ok (srv call w).1, s') ∧ R (srv call w).2 s'

theorem tclExchange_of_run (h : Serves l2 srv R G)
    (hK : ∀ x r x', K x → tclNext x r = .inl x' → K x') (hG : ∀ x, K x → G (tclSend l2.id x))
    {fuel : Nat} {x : TclXcv} {w w' : τ} {s : σ} {log : History} {o : TclOut} (rx : Mem UInt8)
    (hx : K x) (hs : R w s) (hrun : (tclClient l2.id).run srv fuel x w = some (log, o, w')) :
    ∃ s', R w' s' ∧ ∀ fuel' ≥ fuel, tclExchange l2 fuel' x rx s = (.ok o, s') := by
  induction fuel generalizing x w s log rx with
  | zero => simp [Client.run] at hrun
  | succ fuel ih =>
    obtain ⟨s₁, hcall, hs₁⟩ := h (tclSend l2.id x) rx 256 w s (hG x hx) hs
    have hstep : ∀ fuel, tclExchange l2 (fuel + 1) x rx s =
        Sum.elim (fun x' => tclExchange l2 fuel x' (srv (tclSend l2.id x) w).1.data) pure
          (tclNext x (srv (tclSend l2.id x) w).1) s₁ := fun fuel => by
      rw [tclExchange, bind_ok hcall]
      cases tclNext x (srv (tclSend l2.id x) w).1 <;> rfl
    cases hnext : tclNext x (srv (tclSend l2.id x) w).1 with
    | inl x' =>
      rw [Client.run_inl (A := tclClient l2.id) rfl hnext] at hrun
      obtain ⟨⟨log', o', w''⟩, hrun', heq⟩ := Option.map_eq_some_iff.mp hrun
      cases heq
      obtain ⟨s', hs', hall⟩ := ih (srv (tclSend l2.id x) w).1.data (hK x _ x' hx hnext) hs₁ hrun'
      refine ⟨s', hs', fun fuel' hfuel => ?_⟩
      obtain ⟨k, rfl⟩ : ∃ k, fuel' = k + 1 := ⟨fuel' - 1, by omega⟩
      rw [hstep, hnext]
      exact hall k (Nat.le_of_succ_le_succ hfuel)
    | inr o' =>
      rw [Client.run_inr (A := tclClient l2.id) rfl hnext] at hrun
      cases hrun
      refine ⟨s₁, hs₁, fun fuel' hfuel => ?_⟩
      obtain ⟨k, rfl⟩ : ∃ k, fuel' = k + 1 := ⟨fuel' - 1, by omega⟩
      rw [hstep, hnext]
      rfl

end Serving

structure Speaks (id : Layer2Id) (x : TclXcv) : Prop where
  plain : x.th.Plain
  fsc : 2 ≤ x.th.fsc ∧ x.th.fsc ≤ 256
  number : ∃ bn : Bool, x.th.toggle = bn.toNat
  block : ∃ b : Block, (tclSend id x).tx = b.frame

section Speaking

variable {id : Layer2Id} {x x' : TclXcv} {r : L2Reply}

theorem Speaks.refill (hp : x.th.Plain) (hfsc : 2 ≤ x.th.fsc ∧ x.th.fsc ≤ 256)
    (hbn : ∃ bn : Bool, x.th.toggle = bn.toNat) (h : tclRefillXcvb x = some x') : Speaks id x' := by
  obtain ⟨bn, hbn⟩ := hbn
  obtain ⟨-, hth, -⟩ := tclRefillXcvb_eq h
  exact ⟨hth ▸ hp.flip, hth ▸ hfsc, ⟨!bn, hth ▸ flip_toggle_toNat hbn⟩, _,
    send_refill id hp hfsc hbn h⟩

theorem Speaks.next (hx : Speaks id x) (h : tclNext x r = .inl x') : Speaks id x' := by
  obtain ⟨bn, hbn⟩ := hx.number
  rw [tclNext_eq] at h
  cases hv : verdict x.th r with
  | ack =>
    simp only [hv] at h
    cases hf : tclRefillXcvb x with
    | none => simp [hf] at h
    | some x₁ =>
      simp only [hf] at h
      cases h
      exact .refill hx.plain hx.fsc hx.number hf
  | wtx inf =>
    simp only [hv] at h
    cases h
    exact ⟨hx.plain, hx.fsc, hx.number, _, send_extend id hx.plain inf⟩
  | chained =>
    simp only [hv] at h
    cases h
    have hack : (tclSend id (x.take r).acknowledge).tx = _ :=
      send_acknowledge id (s := x.take r) hx.plain hbn
    refine ⟨?_, ?_, ⟨!bn, ?_⟩, _, hack⟩
    · rw [TclXcv.acknowledge_th]
      exact hx.plain.flip
    · rw [TclXcv.acknowledge_th]
      exact hx.fsc
    · rw [TclXcv.acknowledge_th]
      exact flip_toggle_toNat hbn
  | _ => simp [hv] at h

end Speaking

namespace Link

structure Connected (s : Link) (th : TclHandle) : Prop where
  isOpen : s.Open
  tuned : s.Tuned
  step : InStep th s.picc

def Shows (w : Picc × Nat) (s : Link) : Prop := w = (s.picc, s.exchanges) ∧ s.Open ∧ s.Tuned

end Link

section Card

variable (card : CardA) (air : Air) (speed : Nat)

def IsBlockCall (c : L2Call) : Prop :=
  c.frametype = .iso14443aFrameRegular ∧ ∃ b : Block, c.tx = b.frame

theorem CardA.answer_block {s : Link} {call : L2Call} (hcall : IsBlockCall call) (hopen : s.Open)
    (htuned : s.Tuned) :
    card.answer air call s = ((picc card.plan air call (s.picc, s.exchanges)).1,
      { s with
        phase := .exchanging
        picc := (picc card.plan air call (s.picc, s.exchanges)).2.1
        exchanges := s.exchanges + 1 }) := by
  obtain ⟨htype, b, hb⟩ := hcall
  have hhear := card.hear_frame hopen b
  rw [← hb] at hhear
  cases hreact : s.picc.react card.plan b with
  | mk c reply =>
    rw [hreact] at hhear
    cases reply with
    | some b' =>
      rw [card.answer_some air htype htuned hhear, picc_deliver s.exchanges hb hreact]
    | none =>
      rw [card.answer_none air htype htuned hhear]
      simp only [picc, hb, Block.ofFrame_frame, hreact]

theorem picc_exchanges (p : PiccPlan) (call : L2Call) (w : Picc × Nat) :
    (picc p air call w).2.2 = w.2 + 1 := by
  unfold picc
  cases Block.ofFrame call.tx with
  | none => rfl
  | some b =>
    dsimp only
    rcases w.1.react p b with ⟨c, _ | b'⟩ <;> rfl

theorem CardA.serves :
    Serves (card.layer2 air speed) (picc card.plan air) Link.Shows IsBlockCall := by
  rintro call rx n _ s hcall ⟨rfl, hopen, htuned⟩
  have hanswer := card.answer_block air hcall hopen htuned
  refine ⟨(card.answer air call s).2, ?_⟩
  rw [card.transceive_eq, hanswer]
  exact ⟨rfl, Prod.ext rfl (picc_exchanges air card.plan call (s.picc, s.exchanges)), .inr rfl,
    ⟨htuned.tx, htuned.rx⟩⟩

structure Returned (p : PiccPlan) (requests : List (List UInt8)) (o : TclOut) : Prop where
  ret : 0 ≤ o.ret
  rx : o.s.ctx.rx = p.response requests
  rxLen : o.s.ctx.rx.length % 2 ^ 32 = (p.response requests).length

theorem CardA.transceive_served {s : Link} {th : TclHandle} (h : s.Connected th) {args : XcvArgs}
    (htx : args.tx ≠ []) (hlt : args.rxLen < 2 ^ 32)
    (hcap : (card.plan.response (s.picc.done ++ [args.tx])).length ≤ args.rxLen) :
    ∃ n o s', (∀ fuel ≥ n,
        tclTransceiveL2 (card.layer2 air speed) fuel args (s, th) = (.ok o, (s', o.s.th))) ∧
      s'.Connected o.s.th ∧ s'.picc.done = s.picc.done ++ [args.tx] ∧
      Returned card.plan (s.picc.done ++ [args.tx]) o := by
  obtain ⟨n, res, w', hrun, hserved, hstep⟩ :=
    tclTransceive_served .iso14443a card.plan air s.exchanges h.step args.stack htx hcap hlt
  have hxcv := hrun n (Nat.le_refl n)
  obtain ⟨x, hf⟩ := exists_tclRefillXcvb_tclLocals th args.stack args.rxLen htx
  simp only [tclTransceive, hf] at hxcv
  obtain ⟨⟨log, o, w''⟩, hlog, hres⟩ := Option.map_eq_some_iff.mp hxcv
  cases hres
  have hspeaks : Speaks .iso14443a x :=
    .refill (x := tclLocals th args.stack args.tx args.rxLen) h.step.plain
      ⟨Nat.le_trans (by decide) h.step.fsc.1, h.step.fsc.2⟩ ⟨s.picc.bn, h.step.number⟩ hf
  obtain ⟨s', ⟨hshows, hopen, htuned⟩, hexch⟩ :=
    tclExchange_of_run (card.serves air speed) (K := Speaks .iso14443a)
      (fun _ _ _ hx hnext => hx.next hnext) (fun _ hx => ⟨rfl, hx.block⟩) args.rx hspeaks
      ⟨rfl, h.isOpen, h.tuned⟩ hlog
  subst hshows
  refine ⟨n, o, s', fun fuel hfuel => ?_, ⟨hopen, htuned, hstep⟩, hserved.done, hserved.ret,
    hserved.rxData, hserved.rxLen⟩
  rw [tclTransceiveL2_of_some _ hf, bind_run, lift, hexch fuel hfuel]
  rfl

end Card

section Calls

variable {σ : Type} (l2 : TclLayer2 σ) (past fuel : Nat)

def tclCalls : List XcvArgs → TclM σ (List TclOut)
  | [] => pure []
  | args :: calls => do
    let o ← tclTransceiveL2 l2 fuel args
    let os ← tclCalls calls
    pure (o :: os)

def tclConnection (stack : Mem UInt8) (calls : List XcvArgs) (frame rx : Mem UInt8) :
    TclM σ (List TclOut) := do
  tclConnect l2 past stack
  let os ← tclCalls l2 fuel calls
  tclDeselect l2 frame rx
  pure os

end Calls

section Served

variable (card : CardA) (air : Air) (speed : Nat)

def sent (calls : List XcvArgs) (k : Nat) : List (List UInt8) :=
  (calls.take (k + 1)).map XcvArgs.tx

theorem CardA.calls_served {s : Link} {th : TclHandle} (h : s.Connected th) (calls : List XcvArgs)
    (htx : ∀ args ∈ calls, args.tx ≠ [] ∧ args.rxLen < 2 ^ 32)
    (hcap : ∀ k (hk : k < calls.length),
      (card.plan.response (s.picc.done ++ sent calls k)).length ≤ calls[k].rxLen) :
    ∃ n os s' th',
      (∀ fuel ≥ n, tclCalls (card.layer2 air speed) fuel calls (s, th) = (.ok os, (s', th'))) ∧
      s'.Connected th' ∧ s'.picc.done = s.picc.done ++ calls.map XcvArgs.tx ∧
      os.length = calls.length ∧
      ∀ k (hk : k < os.length), Returned card.plan (s.picc.done ++ sent calls k) os[k] := by
  induction calls generalizing s th with
  | nil => exact ⟨0, [], s, th, fun _ _ => rfl, h, by simp, rfl, by simp⟩
  | cons args calls ih =>
    obtain ⟨hne, hlt⟩ := htx args List.mem_cons_self
    obtain ⟨n, o, s₁, hrun, hconn, hdone, hret⟩ :=
      card.transceive_served air speed h hne hlt (hcap 0 (by simp))
    have hsent : ∀ k, s₁.picc.done ++ sent calls k = s.picc.done ++ sent (args :: calls) (k + 1) := by
      intro k
      rw [hdone]
      simp [sent]
    obtain ⟨n', os, s', th', hrest, hconn', hdone', hlen, hall⟩ :=
      ih hconn (fun args' hargs => htx args' (List.mem_cons_of_mem args hargs))
        fun k hk => hsent k ▸ hcap (k + 1) (by simpa using hk)
    refine ⟨max n n', o :: os, s', th', fun fuel hfuel => ?_, hconn', ?_, by simp [hlen], ?_⟩
    · rw [tclCalls, bind_ok (hrun fuel (by omega)), bind_ok (hrest fuel (by omega))]
      rfl
    · rw [hdone', hdone]
      simp
    · intro k hk
      cases k with
      | zero => exact hret
      | succ k => exact hsent k ▸ hall k (by simpa using hk)

end Served

section Activation

variable (card : CardA) (past : Nat)

theorem CardA.ats_apply (stale : Mem UInt8) {i : Nat} (h : i < card.ats.length) :
    Mem.ofList stale card.ats i = card.ats.getD i 0 := by
  have hstore := Mem.store_add stale 0 card.ats i h
  rw [zero_add] at hstore
  rw [Mem.ofList, hstore, List.getD_eq_getElem _ _ h]

theorem CardA.wellFormed_of (stale : Mem UInt8) :
    WellFormedAts (Mem.ofList stale card.ats) card.ats.length := by
  have h := card.wellFormed
  have h0 : Mem.ofList stale card.ats 0 = Mem.ofList (fun _ => 0) card.ats 0 :=
    (card.ats_apply stale (i := 0) h.pos).trans (card.ats_apply _ (i := 0) h.pos).symm
  have h1 : 2 ≤ card.ats.length →
      Mem.ofList stale card.ats 1 = Mem.ofList (fun _ => 0) card.ats 1 := fun hlong =>
    (card.ats_apply stale (i := 1) hlong).trans (card.ats_apply _ (i := 1) hlong).symm
  refine ⟨h0 ▸ h.length, h.pos, fun hlong => ?_, fun hlong => ?_⟩
  · rw [atsFsci, h1 hlong]
    exact h.fsci hlong
  · rw [h1 hlong]
    exact h.room hlong

structure Parsed (card : CardA) (th : TclHandle) : Prop where
  state : th.state = .atsRcvd
  cid : th.cid = 0
  ta : th.ta = card.ta ∨ th.ta &&& 0x77 = 0 ∧ card.ta = 0
  step : InStep th Picc.fresh

theorem plain_of_flags {th : TclHandle} (p q : Prop) [Decidable p] [Decidable q]
    (h : th.flags = (0 : UInt32) ||| (if p then handleFNadSupported else 0) |||
      (if q then handleFCidSupported else 0)) : th.Plain := by
  constructor
  · rw [TclHandle.cidUsed, h]
    split_ifs <;> decide
  · rw [TclHandle.nadUsed, h]
    split_ifs <;> decide

theorem plain_of_flags_zero {th : TclHandle} (h : th.flags = 0) : th.Plain :=
  plain_of_flags False False (by rw [h]; rfl)

theorem CardA.ta_eq (stale : Mem UInt8) (hlong : 2 ≤ card.ats.length) :
    card.ta = if Mem.ofList stale card.ats 1 &&& 0x10 ≠ 0 then Mem.ofList stale card.ats 2 else 0 := by
  have h1 : Mem.ofList stale card.ats 1 = card.ats.getD 1 0 := card.ats_apply stale (i := 1) hlong
  rw [CardA.ta, h1]
  by_cases hta : card.ats.getD 1 0 &&& 0x10 ≠ 0
  · have hroom := (card.wellFormed_of stale).room hlong
    have hbyte : atsByte (Mem.ofList stale card.ats 1) 0x10 = 1 := by
      rw [atsByte, h1, if_pos hta]
    rw [interfaceBytes, hbyte] at hroom
    rw [if_pos ⟨hlong, hta⟩, if_pos hta]
    exact (card.ats_apply stale (i := 2) (by omega)).symm
  · rw [if_neg fun h => hta h.2, if_neg hta]

theorem CardA.ta_eq_zero (h : card.ats.length = 1) : card.ta = 0 :=
  if_neg fun hta => absurd hta.1 (by omega)

theorem parse_fsc {ats : Mem UInt8} {size : Nat} (h : WellFormedAts ats size) :
    16 ≤ (tclParseAts .iso14443a rc632Open past (freshHandle ats size) ats size).2.fsc ∧
      (tclParseAts .iso14443a rc632Open past (freshHandle ats size) ats size).2.fsc ≤ 256 := by
  have hlen := h.length
  have hpos := h.pos
  rw [tclParseAts_fsc, hlen, Nat.min_self, if_neg (by omega)]
  split_ifs with h1
  · decide
  · have hlt : atsFsci ats < fsdiTable.length := Nat.lt_succ_of_le (h.fsci (by omega))
    have hv := fsdiTable_bounds _ (List.getElem_mem hlt)
    have hmtu : rc632Open.mtu = 64 := rfl
    rw [iso14443FsdiToFsd_of_lt past hlt, Option.getD_some, hmtu]
    omega

theorem CardA.parse (stale : Mem UInt8) :
    let data := Mem.ofList stale card.ats
    let x := tclParseAts .iso14443a rc632Open past (freshHandle data card.ats.length) data
      card.ats.length
    x.1 = 0 ∧ Parsed card x.2 := by
  intro data x
  have hwf : WellFormedAts data card.ats.length := card.wellFormed_of stale
  have hlen := hwf.length
  have hpos := hwf.pos
  have hend : atsEnd data card.ats.length = card.ats.length := by
    rw [atsEnd, hlen, Nat.min_self]
  have hsame : SameLink (freshHandle data card.ats.length) x.2 := tclParseAts_same _ _ _ _ _ _
  have hret : x.1 = 0 := (tclParseAts_ret _ _ _ _ _ _).trans (if_neg (by omega))
  have hx : x = _ := tclParseAts_eq .iso14443a rc632Open past (freshHandle data card.ats.length) data
    card.ats.length
  rw [hend, if_neg (by omega)] at hx
  have hrest : (x.2.ta = card.ta ∨ x.2.ta &&& 0x77 = 0 ∧ card.ta = 0) ∧ x.2.Plain := by
    by_cases h1 : card.ats.length = 1
    · rw [if_pos h1] at hx
      rw [hx]
      have hta : (0x80 : UInt8) &&& 0x77 = 0 := by decide
      exact ⟨.inr ⟨hta, card.ta_eq_zero h1⟩, plain_of_flags_zero rfl⟩
    · rw [if_neg h1] at hx
      dsimp only at hx
      obtain ⟨hta, -, hflags⟩ := setFsc_keeps rc632Open past (data 1 &&& 0x0f)
        { freshHandle data card.ats.length with ta := 0 }
      rw [hx]
      refine ⟨.inl ?_, ?_⟩
      · dsimp only
        rw [atsInterface_ta, hta, card.ta_eq stale (by omega)]
        rfl
      · have hall := atsInterface_flags
          (setFsc rc632Open past (data 1 &&& 0x0f) { freshHandle data card.ats.length with ta := 0 })
          data (data 1)
        rw [hflags] at hall
        by_cases htc : data 1 &&& 0x40 ≠ 0
        · rw [if_pos htc] at hall
          exact plain_of_flags _ _ hall
        · rw [if_neg htc] at hall
          exact plain_of_flags_zero hall
  exact ⟨hret, hsame.state, hsame.cid, hrest.1, hrest.2, parse_fsc past hwf, hsame.toggle, rfl, rfl⟩

theorem highestCommon_iff (ta : UInt8) (speed : Nat) :
    HighestCommon ta speed ↔
      (dToDi speed (ppsDr ta)).toNat = 0 ∨ DsAnnounced ta (dToDi speed (ppsDr ta)).toNat := by
  rcases dToDi_highest ta speed with ⟨h0, hnone⟩ | ⟨hdi, hoff, hhigh⟩
  · refine iff_of_true (fun di hle hdr hsup => absurd ⟨hdr, hsup⟩ (hnone di hle)) (.inl ?_)
    rw [h0]
    rfl
  · constructor
    · exact fun h => .inr (h _ hdi hoff.1 hoff.2 hhigh)
    · intro h di hle hdr hsup hmax
      have hsame : (dToDi speed (ppsDr ta)).toNat = di := by
        refine Nat.le_antisymm (Nat.not_lt.mp fun hlt => hmax _ hdi hlt hoff) ?_
        exact Nat.not_lt.mp fun hlt => hhigh di hle hlt ⟨hdr, hsup⟩
      rw [hsame] at h
      exact h.resolve_left hdr.1

theorem takes_iff_highestCommon (ta : UInt8) (speed : Nat) :
    CardA.Takes ta (ppsByte (dToDi speed (ppsDr ta))) ↔ HighestCommon ta speed := by
  obtain ⟨hdri, hdsi⟩ := ppsByte_fields (dToDi_le ta speed)
  rw [CardA.takes_iff, hdri, hdsi, highestCommon_iff]
  refine ⟨fun h => h.2.1, fun h => ⟨?_, h, fun _ => rfl⟩⟩
  exact (dToDi_highest ta speed).imp (fun h => by rw [h.1]; rfl) fun h => h.2.1.1

theorem highestCommon_of_none {ta : UInt8} (h : ta &&& 0x77 = 0) (speed : Nat) :
    HighestCommon ta speed := by
  intro di hle hdr
  have hbit := Bits.eq_zero_iff.mp h (di - 1) (by omega)
  have hmask : ∀ di ≤ 3, di ≠ 0 → Bits.bit 0x77 (di - 1) = true := by decide
  rw [Bits.bit_and, hmask di hle hdr.1, Bool.and_true] at hbit
  exact absurd hdr.2 (by simp [hbit])

variable (air : Air) (speed : Nat)

structure Link.Activated (s : Link) : Prop where
  phase : s.phase = .activated
  tuned : s.Tuned
  picc : s.picc = .fresh

theorem ppss_of_cid {th : TclHandle} (h : th.cid = 0) : ppss th = 0xd0 := by
  rw [ppss, h]
  rfl

section Pps

variable {s : Link} {th : TclHandle} (stack : Mem UInt8)

theorem CardA.doPps_run (hth : Parsed card th) {r : L2Reply} {s' : Link}
    (hr : card.answer air (ppsCall speed th) s = (r, s')) :
    tclDoPps (card.layer2 air speed) stack (s, th) =
      (do
        check r.ret
        when (r.data 0 ≠ 0xd0) (fail (-1))
        let speed := diToSpeed (dToDi speed (ppsDr th.ta))
        lift ((card.layer2 air speed).setSpeed false speed)
        lift ((card.layer2 air speed).setSpeed true speed) : TclM Link Unit) (s', th) := by
  have hsame : ¬ (ppsDr th.ta ≠ ppsDs th.ta ∧ th.ta &&& 0x80 = 0) := fun h =>
    h.1 (ppsDs_eq_ppsDr th.ta).symm
  have hcall : lift ((card.layer2 air speed).transceive (ppsCall speed th) stack 1) (s, th) =
      (.ok r, (s', th)) :=
    lift_run (by rw [card.transceive_eq, hr])
  rw [tclDoPps, bind_ok (show Exec.get (s, th) = (.ok th, (s, th)) from rfl),
    when_of_not (not_not.mpr hth.state), bind_ok (pure_run () (s, th)), when_of_not hsame,
    bind_ok (pure_run () (s, th)), ← ppss_of_cid hth.cid]
  exact bind_ok hcall

theorem CardA.pps_tx (hth : Parsed card th) (hta : th.ta = card.ta) :
    (ppsCall speed th).tx = [0xd0, 0x11, ppsByte (dToDi speed (ppsDr card.ta))] := by
  rw [ppsCall_tx, ppss_of_cid hth.cid, hta]

theorem CardA.pps_taken (hs : s.Activated) (hth : Parsed card th) (hta : th.ta = card.ta)
    (hcommon : HighestCommon card.ta speed) :
    ∃ s', tclDoPps (card.layer2 air speed) stack (s, th) = (.ok (), (s', th)) ∧ s'.Open ∧
      s'.Tuned ∧ s'.picc = .fresh := by
  have htakes := (takes_iff_highestCommon card.ta speed).mpr hcommon
  obtain ⟨hdri, hdsi⟩ := ppsByte_fields (dToDi_le card.ta speed)
  have htx := card.pps_tx speed hth hta
  have hhear : card.hear s (ppsCall speed th).tx =
      ({ s with
          phase := .exchanging
          dr := ppsByte (dToDi speed (ppsDr card.ta)) &&& 0x03
          ds := ppsByte (dToDi speed (ppsDr card.ta)) >>> 2 &&& 0x03 }, some [0xd0]) := by
    rw [htx, CardA.hear, hs.phase]
    exact if_pos ⟨⟨rfl, rfl⟩, htakes⟩
  have hret : 0 ≤ (air.deliver s.exchanges [0xd0]).ret := Int.natCast_nonneg _
  rw [card.doPps_run air speed stack hth (card.answer_some air rfl hs.tuned hhear), hta,
    check_of_nonneg hret, bind_ok (pure_run () _),
    when_of_not (not_not.mpr (Air.deliver_pcb 0xd0 [])), bind_ok (pure_run () _)]
  refine ⟨_, rfl, .inr rfl, ⟨?_, ?_⟩, hs.picc⟩
  · exact congrArg diToSpeed (UInt8.toNat_inj.mp hdri).symm
  · exact congrArg diToSpeed (UInt8.toNat_inj.mp hdsi).symm

theorem CardA.pps_refused (hs : s.Activated) (hth : Parsed card th) (hta : th.ta = card.ta)
    (hcommon : ¬ HighestCommon card.ta speed) :
    ∃ s', tclDoPps (card.layer2 air speed) stack (s, th) = (.fail (-eTimedOut), (s', th)) := by
  have htakes := fun h => hcommon ((takes_iff_highestCommon card.ta speed).mp h)
  have htx := card.pps_tx speed hth hta
  have hpps : IsPps [0xd0, 0x11, ppsByte (dToDi speed (ppsDr card.ta))] := ⟨rfl, rfl⟩
  have hhear : card.hear s (ppsCall speed th).tx = (s, none) := by
    have hne : [0xd0, 0x11, ppsByte (dToDi speed (ppsDr card.ta))] ≠ deselect := fun h =>
      absurd (congrArg List.length h) (by simp [deselect])
    rw [htx, CardA.hear, hs.phase]
    refine (if_neg fun h => htakes h.2).trans ?_
    rw [CardA.block, if_neg hne, ofFrame_pps hpps]
  rw [card.doPps_run air speed stack hth (card.answer_none air rfl hs.tuned hhear)]
  have hmute : (air.mute s.exchanges).ret < 0 := by
    change -eTimedOut < 0
    decide
  rw [check_of_neg hmute]
  exact ⟨_, rfl⟩

end Pps

theorem CardA.connect_run {s : Link} (hs : s.Idle) (stack : Mem UInt8) :
    ∃ s₁ th₁, s₁.Activated ∧ Parsed card th₁ ∧
      tclConnect (card.layer2 air speed) past stack (s, tclInit rc632Open) =
        (when (th₁.ta &&& 0x77 ≠ 0) (tclDoPps (card.layer2 air speed) stack) >>= fun _ =>
          setTcl fun th => { th with state := .established }) (s₁, th₁) := by
  obtain ⟨fsdi, hfsdi⟩ := iso14443FsdToFsdi_of_mem (iso14443FsdApprox_mem rc632Open.mru)
  have hhear : card.hear s (ratsCall rc632Open (tclInit rc632Open) fsdi).tx =
      ({ s with phase := .activated, picc := .fresh }, some card.ats) := by
    rw [CardA.hear, hs.phase]
    exact if_pos ⟨rfl, rfl⟩
  have hrats : (card.layer2 air speed).transceive (ratsCall rc632Open (tclInit rc632Open) fsdi)
      (tclInit rc632Open).ats (tclInit rc632Open).atsLen s = _ :=
    (card.transceive_eq air speed _ _).trans
      (by rw [card.answer_some air rfl hs.tuned hhear])
  obtain ⟨hparse, hparsed⟩ := card.parse past (air.stale s.exchanges)
  have hret : 0 ≤ (air.deliver s.exchanges card.ats).ret := Int.natCast_nonneg _
  refine ⟨{ s with phase := .activated, picc := .fresh, exchanges := s.exchanges + 1 }, _,
    ⟨rfl, ⟨hs.tuned.tx, hs.tuned.rx⟩, rfl⟩, hparsed, ?_⟩
  refine (tclConnect_typeA_run stack rfl rfl hfsdi hrats hret).trans ?_
  let data := Mem.ofList (air.stale s.exchanges) card.ats
  change (check (tclParseAts .iso14443a rc632Open past (freshHandle data card.ats.length) data
    card.ats.length).1 >>= _) _ = _
  rw [hparse, check_of_nonneg (Int.le_refl 0)]
  rfl

theorem CardA.connect_spec {s : Link} (hs : s.Idle) (stack : Mem UInt8) :
    (HighestCommon card.ta speed → ∃ s' th',
      tclConnect (card.layer2 air speed) past stack (s, tclInit rc632Open) = (.ok (), (s', th')) ∧
      s'.Connected th' ∧ s'.picc.done = []) ∧
    (¬ HighestCommon card.ta speed → ∃ s' th',
      tclConnect (card.layer2 air speed) past stack (s, tclInit rc632Open) =
        (.fail (-eTimedOut), (s', th'))) := by
  obtain ⟨s₁, th₁, hs₁, hth₁, hrun⟩ := card.connect_run past air speed hs stack
  rw [hrun]
  have hstep : ∀ {c : Picc}, c = .fresh →
      InStep ({ th₁ with state := .established } : TclHandle) c := by
    rintro c rfl
    exact ⟨⟨hth₁.step.plain.cid, hth₁.step.plain.nad⟩, hth₁.step.fsc, hth₁.step.number, rfl, rfl⟩
  by_cases hpps : th₁.ta &&& 0x77 ≠ 0
  · have hta : th₁.ta = card.ta := hth₁.ta.resolve_right fun h => hpps h.1
    rw [when_of hpps]
    refine ⟨fun hcommon => ?_, fun hcommon => ?_⟩
    · obtain ⟨s', hdo, hopen, htuned, hpicc⟩ := card.pps_taken air speed stack hs₁ hth₁ hta hcommon
      rw [bind_ok hdo]
      exact ⟨s', _, rfl, ⟨hopen, htuned, hstep hpicc⟩, by rw [hpicc]; rfl⟩
    · obtain ⟨s', hdo⟩ := card.pps_refused air speed stack hs₁ hth₁ hta hcommon
      rw [bind_fail hdo]
      exact ⟨s', th₁, rfl⟩
  · rw [when_of_not hpps, bind_ok (pure_run () _)]
    have hnone : card.ta &&& 0x77 = 0 := by
      rcases hth₁.ta with h | h
      · exact h ▸ not_not.mp hpps
      · rw [h.2]
        decide
    refine ⟨fun _ => ⟨s₁, _, rfl, ⟨.inl hs₁.phase, hs₁.tuned, hstep hs₁.picc⟩, ?_⟩,
      fun h => absurd (highestCommon_of_none hnone speed) h⟩
    rw [hs₁.picc]
    rfl

theorem CardA.deselect_spec {s : Link} {th : TclHandle} (h : s.Connected th) (frame rx : Mem UInt8) :
    ∃ s', tclDeselect (card.layer2 air speed) frame rx (s, th) =
        (.ok (), (s', { th with state := .deselected })) ∧
      s'.phase = .halted ∧ s'.picc = s.picc := by
  have hs : isSBlock 0xc2 = true := by decide
  have htx : (deselectCall rc632Open th frame).tx = deselect := by
    rw [deselectCall_tx, tclBuildPrologueS, tclBuildPrologue2_plain h.step.plain.cid h.step.plain.nad,
      hs]
    simp [deselect]
  have hhear : card.hear s (deselectCall rc632Open th frame).tx =
      ({ s with phase := .halted, dr := 0, ds := 0 }, some deselect) := by
    rw [htx, card.hear_deselect h.isOpen]
  have hret : 0 ≤ (air.deliver s.exchanges deselect).ret := Int.natCast_nonneg _
  have hcall : lift ((card.layer2 air speed).transceive (deselectCall rc632Open th frame) rx 3)
      (s, th) = (.ok (air.deliver s.exchanges deselect),
        ({ s with phase := .halted, dr := 0, ds := 0, exchanges := s.exchanges + 1 }, th)) := by
    rw [lift, card.transceive_eq, card.answer_some air rfl h.tuned hhear]
  refine ⟨{ s with phase := .halted, dr := 0, ds := 0, exchanges := s.exchanges + 1 }, ?_, rfl, rfl⟩
  rw [tclDeselect, bind_ok (show Exec.get (s, th) = (.ok th, (s, th)) from rfl)]
  refine (bind_ok hcall).trans ?_
  rw [check_of_nonneg hret]
  rfl

end Activation

section Whole

variable (card : CardA) (air : Air) (speed past : Nat)

/-- What a connection comes to: every request has reached the card, in order, every call has its
response, and neither side will have any more. -/
structure Completed (card : CardA) (calls : List XcvArgs) (os : List TclOut) (s : Link)
    (th : TclHandle) : Prop where
  done : s.picc.done = calls.map XcvArgs.tx
  length : os.length = calls.length
  returned : ∀ k (hk : k < os.length), Returned card.plan (sent calls k) os[k]
  halted : s.phase = .halted
  state : th.state = .deselected

/-- A connection is established exactly when the card sends at the rate that is proposed to it;
then all that is asked of it is done, and it cannot be opened again. -/
theorem tclConnection_completed {s : Link} (hs : s.Idle) (stack frame rx : Mem UInt8)
    (calls : List XcvArgs) (htx : ∀ args ∈ calls, args.tx ≠ [] ∧ args.rxLen < 2 ^ 32)
    (hcap : ∀ k (hk : k < calls.length),
      (card.plan.response (sent calls k)).length ≤ calls[k].rxLen) :
    (HighestCommon card.ta speed → ∃ n os s' th',
      (∀ fuel ≥ n, tclConnection (card.layer2 air speed) past fuel stack calls frame rx
        (s, tclInit rc632Open) = (.ok os, (s', th'))) ∧
      Completed card calls os s' th' ∧
      ∀ past' stack', tclConnect (card.layer2 air speed) past' stack' (s', th') =
        (.fail (-1), (s', th'))) ∧
    (¬ HighestCommon card.ta speed → ∃ s' th', ∀ fuel,
      tclConnection (card.layer2 air speed) past fuel stack calls frame rx (s, tclInit rc632Open) =
        (.fail (-eTimedOut), (s', th'))) := by
  obtain ⟨htaken, hrefused⟩ := card.connect_spec past air speed hs stack
  refine ⟨fun hcommon => ?_, fun hcommon => ?_⟩
  · obtain ⟨s₁, th₁, hconnect, hconn, hdone⟩ := htaken hcommon
    obtain ⟨n, os, s₂, th₂, hcalls, hconn', hdone', hlen, hall⟩ :=
      card.calls_served air speed hconn calls htx (by rw [hdone]; exact hcap)
    rw [hdone] at hdone' hall
    obtain ⟨s₃, hdesel, hhalted, hpicc⟩ := card.deselect_spec air speed hconn' frame rx
    have hclosed : ({ th₂ with state := .deselected } : TclHandle).state = .deselected := rfl
    refine ⟨n, os, s₃, { th₂ with state := .deselected }, fun fuel hfuel => ?_,
      ⟨by rw [hpicc]; exact hdone', hlen, hall, hhalted, rfl⟩, fun past' stack' =>
        tclConnect_deselected past' stack' rfl s₃ hclosed⟩
    rw [tclConnection, bind_ok hconnect, bind_ok (hcalls fuel hfuel), bind_ok hdesel]
    rfl
  · obtain ⟨s', th', hconnect⟩ := hrefused hcommon
    exact ⟨s', th', fun fuel => bind_fail hconnect⟩

end Whole

def doubleCard : CardA where
  ats := [0x03, 0x15, 0x11]
  wellFormed := ⟨by decide, by decide, by decide, by decide⟩
  plan := twoBlockPlan

theorem tclConnection_completed_doubleCard :
    let air : Air := ⟨fun _ => 0, fun _ _ => 0⟩
    let s : Link := ⟨.ready, .fresh, 0, 0, rfid14443aSpeed106k, rfid14443aSpeed106k, 0⟩
    let calls : List XcvArgs :=
      [⟨List.replicate 100 0xa4, 64, fun _ => 0, fun _ => 0⟩, ⟨[0xb0], 3, fun _ => 0, fun _ => 0⟩]
    ∃ n os s' th', (∀ fuel ≥ n, tclConnection (doubleCard.layer2 air 0x0f) 0 fuel (fun _ => 0) calls
        (fun _ => 0) (fun _ => 0) (s, tclInit rc632Open) = (.ok os, (s', th'))) ∧
      Completed doubleCard calls os s' th' ∧
      ∀ past' stack', tclConnect (doubleCard.layer2 air 0x0f) past' stack' (s', th') =
        (.fail (-1), (s', th')) := by
  intro air s calls
  have hcommon : HighestCommon doubleCard.ta 0x0f := (highestCommon_iff _ _).mpr (by decide)
  have hidle : s.Idle := ⟨rfl, rfl, rfl, rfl, rfl⟩
  refine (tclConnection_completed doubleCard air 0x0f 0 hidle (fun _ => 0) (fun _ => 0) (fun _ => 0)
    calls (by decide) fun k hk => ?_).1 hcommon
  have hresp : ∀ d, (doubleCard.plan.response d).length = 3 := fun _ => rfl
  rw [hresp]
  match k with
  | 0 => exact (by decide : 3 ≤ 64)
  | 1 => exact Nat.le_refl 3

end Librfid.Tcl
