import Librfid.Tcl.Reactivation

namespace Librfid.Tcl

open Exec Layer2

section Frames

variable {fsc : Nat}

def Fits (fsc : Nat) (s : TclXcv) : Prop :=
  s.th.fsc = fsc ∧ s.xcvb.tx.frameLen ≤ fsc ∧ s.xcvb.tx.frameLen ≤ 256

theorem tclBuildPrologue2_len_le (th : TclHandle) (prlg : Mem UInt8) (pcb : UInt8) :
    (tclBuildPrologue2 th prlg pcb).2.2 ≤ 3 := by
  simp only [tclBuildPrologue2]
  split_ifs <;> simp

theorem fits_of_le (hfsc : 16 ≤ fsc) {s : TclXcv} (hs : s.th.fsc = fsc)
    (hlen : s.xcvb.tx.frameLen ≤ 4) : Fits fsc s := ⟨hs, by omega, by omega⟩

theorem tclRefillXcvb_fits (hfsc : 16 ≤ fsc ∧ fsc ≤ 256) {s s' : TclXcv} (hs : s.th.fsc = fsc)
    (h : tclRefillXcvb s = some s') : Fits fsc s' := by
  obtain ⟨-, hth, -⟩ := tclRefillXcvb_eq h
  have hprlg := tclPrlgLen_le s.th
  have hlen := tclRefillXcvb_frameLen_le (by omega) h
  exact ⟨by rw [hth]; exact hs, by omega, by omega⟩

theorem tclNext_fits (hfsc : 16 ≤ fsc ∧ fsc ≤ 256) {s s' : TclXcv} {r : L2Reply} (hs : Fits fsc s)
    (h : tclNext s r = .inl s') : Fits fsc s' := by
  rw [tclNext_eq] at h
  cases hv : verdict s.th r with
  | ack =>
    simp only [hv] at h
    cases hf : tclRefillXcvb s with
    | none => simp [hf] at h
    | some s₁ =>
      simp only [hf] at h
      cases h
      exact tclRefillXcvb_fits hfsc hs.1 hf
  | wtx inf =>
    simp only [hv] at h
    cases h
    have hlen := tclBuildPrologue2_len_le s.th s.xcvb.tx.data 0xc2
    exact fits_of_le hfsc.1 hs.1 (Nat.succ_le_succ hlen)
  | chained =>
    simp only [hv] at h
    cases h
    have hlen := tclBuildPrologue2_len_le (s.take r).th (s.take r).xcvb.tx.data 0xa2
    refine fits_of_le hfsc.1 ?_ (Nat.le_succ_of_le hlen)
    rw [TclXcv.acknowledge_th]
    exact hs.1
  | _ => simp [hv] at h

/-- A frame size the card and `fr_buff` can do with: no request leads to a longer frame. -/
structure LegalFsc (th : TclHandle) : Prop where
  range : 16 ≤ th.fsc ∧ th.fsc ≤ 256
  frames : ∀ {σ : Type} (l2 : TclLayer2 σ) (fuel : Nat) (args : XcvArgs) (s : σ),
    ∀ c ∈ (tclTransceiveL2 l2.logging fuel args ((s, []), th)).2.1.2,
      c.tx.length ≤ th.fsc ∧ c.tx.length ≤ 256

theorem legalFsc_iff {th : TclHandle} : LegalFsc th ↔ 16 ≤ th.fsc ∧ th.fsc ≤ 256 := by
  refine ⟨LegalFsc.range, fun hfsc => ⟨hfsc, fun {σ} l2 fuel args s => ?_⟩⟩
  let short (w : σ × List L2Call) : Prop := ∀ c ∈ w.2, c.tx.length ≤ th.fsc ∧ c.tx.length ≤ 256
  have hnil : short (s, []) := fun _ h => absurd h List.not_mem_nil
  cases hf : tclRefillXcvb (tclLocals th args.stack args.tx args.rxLen) with
  | none =>
    rw [tclTransceiveL2_of_none l2.logging hf]
    exact hnil
  | some x =>
    rw [tclTransceiveL2_of_some l2.logging hf]
    have hexch := tclExchange_keeps_of (I := short) (K := Fits th.fsc)
      (fun _ _ _ hs h => tclNext_fits hfsc hs h)
      (fun s hs => logging_keeps l2 (by
        rw [tclSend, Mem.length_load]
        exact hs.2)) fuel (tclRefillXcvb_fits hfsc rfl hf) args.rx
    exact Keeps.bind (.lift hexch) (fun o => .bind (keeps_setTcl (I := short) _) fun _ => .pure _)
      ((s, []), th) hnil

end Frames

section TypeA

def atsFsci (ats : Mem UInt8) : Nat := (ats 1 &&& 0x0f).toNat

variable {σ : Type} {l2 : TclLayer2 σ} {past : Nat}

theorem tclRequestAts_run {th : TclHandle} {fsdi : UInt8} {r : L2Reply} {s s' : σ}
    (hstate : th.state = .initial) (hfsdi : iso14443FsdToFsdi th.fsd = some fsdi)
    (hr : l2.transceive (ratsCall l2.ah th fsdi) th.ats th.atsLen s = (.ok r, s'))
    (hret : 0 ≤ r.ret) :
    tclRequestAts l2 past (s, th) =
      let th' := { th with ats := r.data, atsLen := r.frameLen, state := .atsRcvd }
      let p := tclParseAts l2.id l2.ah past th' r.data r.frameLen
      (check p.1 : TclM σ Unit) (s', p.2) := by
  simp [tclRequestAts, tclSendRats, bind_run, Exec.get, when, hstate, hfsdi, lift, hr, setTcl,
    Exec.modify, Int.not_lt.mpr hret]

def LegalAts (ats : Mem UInt8) (size : Nat) : Prop :=
  (ats 0).toNat = 0 ∨ size = 0 ∨ min (ats 0).toNat size = 1 ∨ atsFsci ats ≤ 8

def AnswersRats (l2 : TclLayer2 σ) (ats : Mem UInt8) (size : Nat) : Prop :=
  ∀ th fsdi rx n s, ∃ r s', l2.transceive (ratsCall l2.ah th fsdi) rx n s = (.ok r, s') ∧
    0 ≤ r.ret ∧ r.data = ats ∧ r.frameLen = size

theorem setFsc_congr (ah : AsicHandle) (past past' : Nat) {fsdi : UInt8} (h : fsdi.toNat ≠ 9)
    (th : TclHandle) : setFsc ah past fsdi th = setFsc ah past' fsdi th := by
  unfold setFsc
  rw [iso14443FsdiToFsd_congr past past' h]

theorem setFsc_fsc (ah : AsicHandle) (past : Nat) (fsdi : UInt8) (th : TclHandle) :
    (setFsc ah past fsdi th).fsc = min ((iso14443FsdiToFsd past fsdi.toNat).getD th.fsc) ah.mtu := by
  unfold setFsc
  cases iso14443FsdiToFsd past fsdi.toNat <;> dsimp only [Option.getD] <;> rw [Nat.min_def] <;>
    split_ifs <;> first | rfl | omega

theorem atsBytes_fsc (ah : AsicHandle) (ats : Mem UInt8) (t0 : UInt8) (th : TclHandle)
    (cur : Nat) :
    (atsTc t0 ats (atsTb ah t0 ats (atsTa t0 ats th cur).1 (atsTa t0 ats th cur).2).1
      (atsTb ah t0 ats (atsTa t0 ats th cur).1 (atsTa t0 ats th cur).2).2).1.fsc = th.fsc := by
  unfold atsTc atsTb atsTa
  dsimp only
  split_ifs <;> rfl

theorem atsLen_eq (len size : Nat) : (if size < len then size else len) = min len size := by
  rw [Nat.min_def]
  split_ifs <;> omega

theorem tclParseAts_fsc (id : Layer2Id) (ah : AsicHandle) (past : Nat) (th : TclHandle)
    (ats : Mem UInt8) (size : Nat) :
    (tclParseAts id ah past th ats size).2.fsc =
      if (ats 0).toNat = 0 ∨ size = 0 then th.fsc
      else if min (ats 0).toNat size = 1 then 32
      else min ((iso14443FsdiToFsd past (atsFsci ats)).getD th.fsc) ah.mtu := by
  unfold tclParseAts
  dsimp only
  rw [atsLen_eq]
  split_ifs
  · rfl
  · unfold atsDefaults
    dsimp only
    split_ifs <;> rfl
  · exact (atsBytes_fsc ah ats _ _ _).trans (setFsc_fsc ah past _ _)

theorem legalAts_code {ats : Mem UInt8} {size : Nat} (h : LegalAts ats size)
    (h0 : ¬ ((ats 0).toNat = 0 ∨ size = 0)) (h1 : ¬ min (ats 0).toNat size = 1) :
    atsFsci ats ≤ 8 := by
  rcases h with h | h | h | h
  · exact absurd (.inl h) h0
  · exact absurd (.inr h) h0
  · exact absurd h h1
  · exact h

theorem tclParseAts_congr {ats : Mem UInt8} {size : Nat} (h : LegalAts ats size) (id : Layer2Id)
    (ah : AsicHandle) (past past' : Nat) (th : TclHandle) :
    tclParseAts id ah past th ats size = tclParseAts id ah past' th ats size := by
  unfold tclParseAts
  dsimp only
  rw [atsLen_eq]
  by_cases h0 : (ats 0).toNat = 0 ∨ size = 0
  · rw [if_pos h0, if_pos h0]
  · rw [if_neg h0, if_neg h0]
    by_cases h1 : min (ats 0).toNat size = 1
    · rw [if_pos h1, if_pos h1]
    · have hcode : (ats 1 &&& 0x0f).toNat ≠ 9 :=
        Nat.ne_of_lt (Nat.lt_succ_of_le (legalAts_code h h0 h1))
      rw [if_neg h1, if_neg h1, setFsc_congr ah past past' hcode]

theorem tclConnect_typeA_run {th : TclHandle} {fsdi : UInt8} {r : L2Reply} {s s' : σ}
    (stack : Mem UInt8) (hid : l2.id = .iso14443a) (hstate : th.state = .initial)
    (hfsdi : iso14443FsdToFsdi th.fsd = some fsdi)
    (hr : l2.transceive (ratsCall l2.ah th fsdi) th.ats th.atsLen s = (.ok r, s'))
    (hret : 0 ≤ r.ret) :
    tclConnect l2 past stack (s, th) =
      let th' := { th with ats := r.data, atsLen := r.frameLen, state := .atsRcvd }
      let p := tclParseAts l2.id l2.ah past th' r.data r.frameLen
      (check p.1 >>= fun _ => (get >>= fun th => when (th.ta &&& 0x77 ≠ 0) (tclDoPps l2 stack)) >>=
        fun _ => setTcl fun th => { th with state := .established }) (s', p.2) := by
  have hadmits : ¬ ¬ th.state.Admits := not_not.mpr (.inr hstate)
  rw [tclConnect, bind_ok (show Exec.get (s, th) = (.ok th, (s, th)) from rfl),
    when_of_not hadmits, bind_ok (pure_run () (s, th)), tclActivate, hid]
  dsimp only
  rw [bind_run, bind_run, tclRequestAts_run hstate hfsdi hr hret, hid]
  dsimp only
  by_cases hneg : (tclParseAts .iso14443a l2.ah past
      { th with ats := r.data, atsLen := r.frameLen, state := .atsRcvd } r.data r.frameLen).1 < 0
  · rw [check_of_neg hneg]
    rfl
  · rw [check_of_nonneg (Int.not_lt.mp hneg)]
    rfl

theorem tclConnect_typeA_fsc {th th' : TclHandle} {fsdi : UInt8} {r : L2Reply} {s s' w : σ}
    {stack : Mem UInt8} (hid : l2.id = .iso14443a) (hstate : th.state = .initial)
    (hfsdi : iso14443FsdToFsdi th.fsd = some fsdi)
    (hr : l2.transceive (ratsCall l2.ah th fsdi) th.ats th.atsLen s = (.ok r, s'))
    (hret : 0 ≤ r.ret) (hok : tclConnect l2 past stack (s, th) = (.ok (), (w, th'))) :
    ¬ ((r.data 0).toNat = 0 ∨ r.frameLen = 0) ∧
      th'.fsc = if min (r.data 0).toNat r.frameLen = 1 then 32
        else min ((iso14443FsdiToFsd past (atsFsci r.data)).getD th.fsc) l2.ah.mtu := by
  rw [tclConnect_typeA_run stack hid hstate hfsdi hr hret] at hok
  dsimp only at hok
  rw [tclParseAts_ret] at hok
  by_cases h0 : (r.data 0).toNat = 0 ∨ r.frameLen = 0
  · rw [if_pos h0, check_of_neg (by decide)] at hok
    cases hok
  · rw [if_neg h0, check_of_nonneg (Int.le_refl 0), bind_ok (pure_run () _)] at hok
    have hkeep : ∀ v, Exec.Keeps (fun s : σ × TclHandle => s.2.fsc = v)
        ((get >>= fun th => when (th.ta &&& 0x77 ≠ 0) (tclDoPps l2 stack)) >>= fun _ =>
          setTcl fun th => { th with state := .established }) := fun v =>
      .bind (keeps_get_bind (J := fun th : TclHandle => th.fsc = v) fun _ _ => .when fun _ =>
        tclDoPps_handle (J := fun th => th.fsc = v) stack) fun _ =>
        keeps_modify_snd (J := fun th : TclHandle => th.fsc = v) fun _ => id
    have hfsc := hkeep _ (s', (tclParseAts l2.id l2.ah past
      { th with ats := r.data, atsLen := r.frameLen, state := .atsRcvd } r.data r.frameLen).2) rfl
    rw [hok] at hfsc
    refine ⟨h0, hfsc.trans ?_⟩
    rw [tclParseAts_fsc, if_neg h0]

end TypeA

/-- Whatever the card with this ATS and the memory behind the table are like. -/
def LegalTypeA (ats : Mem UInt8) (size : Nat) : Prop :=
  ∀ {σ : Type} (l2 : TclLayer2 σ) (stack : Mem UInt8) (s : σ), l2.id = .iso14443a →
    l2.ah = rc632Open → AnswersRats l2 ats size →
    (∀ past past', tclConnect l2 past stack (s, tclInit l2.ah) =
      tclConnect l2 past' stack (s, tclInit l2.ah)) ∧
    ∀ past s' th, tclConnect l2 past stack (s, tclInit l2.ah) = (.ok (), (s', th)) → LegalFsc th

theorem legalTypeA_of {ats : Mem UInt8} {size : Nat} (h : LegalAts ats size) :
    LegalTypeA ats size := by
  intro σ l2 stack s hid hah hans
  obtain ⟨fsdi, hfsdi⟩ := iso14443FsdToFsdi_of_mem (iso14443FsdApprox_mem l2.ah.mru)
  obtain ⟨r, s₁, hr, hret, rfl, rfl⟩ := hans (tclInit l2.ah) fsdi (tclInit l2.ah).ats
    (tclInit l2.ah).atsLen s
  refine ⟨fun past past' => ?_, fun past s' th hok => ?_⟩
  · rw [tclConnect_typeA_run stack hid rfl hfsdi hr hret,
      tclConnect_typeA_run stack hid rfl hfsdi hr hret]
    dsimp only
    rw [tclParseAts_congr h l2.id l2.ah past past']
  · obtain ⟨h0, hfsc⟩ := tclConnect_typeA_fsc hid rfl hfsdi hr hret hok
    have hmtu : l2.ah.mtu = 64 := by rw [hah]; rfl
    rw [legalFsc_iff, hfsc]
    split_ifs with h1
    · decide
    · have hlt : atsFsci r.data < fsdiTable.length := Nat.lt_succ_of_le (legalAts_code h h0 h1)
      have hv := fsdiTable_bounds _ (List.getElem_mem hlt)
      rw [iso14443FsdiToFsd_of_lt past hlt, Option.getD_some, hmtu]
      omega

def atsCard (ats : Mem UInt8) (size : Nat) : TclLayer2 Unit where
  id := .iso14443a
  transceive call _ _ := pure (if call.tx.length = 2 then ⟨0, size, ats⟩ else replyOf call.tx)
  setSpeed _ _ := pure ()
  iso14443b _ := blankHandleB
  speed := rfid14443aSpeed106k
  ah := rc632Open

theorem atsCard_cooperates {ats : Mem UInt8} {size : Nat} (h0 : ¬ ((ats 0).toNat = 0 ∨ size = 0)) :
    Cooperates (atsCard ats size) where
  ats _ _ _ _ s := ⟨⟨0, size, ats⟩, s, rfl, Int.le_refl 0,
    fun h => h0 (.inl (congrArg UInt8.toNat h)), fun h => h0 (.inr h)⟩
  pps th _ _ s := by
    have hlen : (ppsCall (atsCard ats size).speed th).tx.length ≠ 2 := by simp [ppsCall]
    refine ⟨replyOf (ppsCall (atsCard ats size).speed th).tx, s, ?_, Int.le_refl 0, rfl⟩
    exact congrArg (fun r => (Outcome.ok r, s)) (if_neg hlen)
  deselect th frame _ _ s := by
    refine ⟨_, s, rfl, ?_⟩
    split_ifs <;> exact Int.le_refl 0
  speed _ _ s := ⟨s, rfl⟩

theorem legalAts_of {ats : Mem UInt8} {size : Nat} (h : LegalTypeA ats size) : LegalAts ats size := by
  by_contra hbad
  simp only [LegalAts, not_or] at hbad
  obtain ⟨hlen, hsize, h1, hcode⟩ := hbad
  have h0 : ¬ ((ats 0).toNat = 0 ∨ size = 0) := not_or.mpr ⟨hlen, hsize⟩
  have hans : AnswersRats (atsCard ats size) ats size :=
    fun _ _ _ _ s => ⟨⟨0, size, ats⟩, s, rfl, Int.le_refl 0, rfl, rfl⟩
  obtain ⟨hpast, hlegal⟩ := h (atsCard ats size) (fun _ => 0) () rfl rfl hans
  obtain ⟨fsdi, hfsdi⟩ := iso14443FsdToFsdi_of_mem (iso14443FsdApprox_mem rc632Open.mru)
  have hfsc : ∀ past, ∃ s th, tclConnect (atsCard ats size) past (fun _ => 0)
      ((), tclInit rc632Open) = (.ok (), (s, th)) ∧
      th.fsc = min ((iso14443FsdiToFsd past (atsFsci ats)).getD 0) 64 := by
    intro past
    obtain ⟨⟨⟩, ⟨s, th⟩, hrun, -⟩ := (atsCard_cooperates h0).connect past (fun _ => 0) (.inl rfl)
      ((), tclInit rc632Open) ⟨.inr rfl, fun _ => ⟨rfl, iso14443FsdApprox_mem rc632Open.mru⟩⟩
    have hrats : (atsCard ats size).transceive (ratsCall rc632Open (tclInit rc632Open) fsdi)
        (tclInit rc632Open).ats (tclInit rc632Open).atsLen () = (.ok ⟨0, size, ats⟩, ()) := rfl
    have hth := (tclConnect_typeA_fsc rfl rfl hfsdi hrats (Int.le_refl 0) hrun).2
    rw [if_neg h1] at hth
    exact ⟨s, th, hrun, hth⟩
  by_cases h9 : atsFsci ats = 9
  · obtain ⟨_, th, hrun, hth⟩ := hfsc 16
    obtain ⟨_, th', hrun', hth'⟩ := hfsc 32
    have heq := hrun.symm.trans ((hpast 16 32).trans hrun')
    rw [h9] at hth hth'
    simp only [Prod.mk.injEq] at heq
    rw [heq.2.2] at hth
    exact absurd (hth.symm.trans hth') (by decide)
  · obtain ⟨_, th, hrun, hth⟩ := hfsc 0
    have hrange := (hlegal 0 _ th hrun).range.1
    rw [hth, iso14443FsdiToFsd_of_ge 0 (by omega)] at hrange
    exact absurd hrange (by decide)

section TypeB

def LooksUp (atqb : Mem UInt8) : Prop := atqb 0 = 0x50 ∧ (atqbFwi atqb).toNat ≤ 14

instance (atqb : Mem UInt8) : Decidable (LooksUp atqb) := inferInstanceAs (Decidable (_ ∧ _))

/-- The size is looked up with a code that is not RFU, or what the handle holds is legal and
stays. -/
def LegalAtqb (fsc : Nat) (atqb : Mem UInt8) : Prop :=
  LooksUp atqb ∧ (atqbMaxFrameSize atqb).toNat ≤ 8 ∨
    (LooksUp atqb → 10 ≤ (atqbMaxFrameSize atqb).toNat) ∧ 16 ≤ fsc ∧ fsc ≤ 256

def LegalTypeB (h : Iso14443bHandle) (atqb : Mem UInt8) : Prop :=
  (∀ past past', parseAtqb rc632Open past h atqb = parseAtqb rc632Open past' h atqb) ∧
    ∀ {σ : Type} (l2 : TclLayer2 σ) (past : Nat) (stack : Mem UInt8) (s s' : σ) (th : TclHandle),
      l2.id = .iso14443b → l2.iso14443b s = (parseAtqb rc632Open past h atqb).2 →
      tclConnect l2 past stack (s, tclInit l2.ah) = (.ok (), (s', th)) → LegalFsc th

theorem looksUp_iff (atqb : Mem UInt8) :
    LooksUp atqb ↔ atqb 0 = 0x50 ∧ 0 ≤ Layer2.fwiToFwt rc632Open.fc (atqbFwi atqb).toNat := by
  refine and_congr_right fun _ => ?_
  by_cases hfwi : (atqbFwi atqb).toNat ≤ 14
  · have hall : ∀ fwi ≤ 14, 0 ≤ Layer2.fwiToFwt rc632Open.fc fwi := by decide
    exact iff_of_true hfwi (hall _ hfwi)
  · rw [Layer2.fwiToFwt, if_pos (Nat.not_le.mp hfwi)]
    exact iff_of_false hfwi (by decide)

theorem parseAtqb_fsc (past : Nat) (h : Iso14443bHandle) (atqb : Mem UInt8) :
    (parseAtqb rc632Open past h atqb).2.fsc =
      if LooksUp atqb then (iso14443FsdiToFsd past (atqbMaxFrameSize atqb).toNat).getD h.fsc
      else h.fsc := by
  rw [parseAtqb_eq, atqbFrameSize_eq, atqbProtocol_eq, atqbOptions_eq]
  simp only [← looksUp_iff]
  split_ifs <;> rfl

theorem parseAtqb_ret (past : Nat) (h : Iso14443bHandle) (atqb : Mem UInt8) :
    0 ≤ (parseAtqb rc632Open past h atqb).1 ↔ LooksUp atqb :=
  (parseAtqb_accepts_iff past atqb h rc632Open).trans (looksUp_iff atqb).symm

theorem parseAtqb_congr {atqb : Mem UInt8} (hcode : LooksUp atqb → (atqbMaxFrameSize atqb).toNat ≠ 9)
    (past past' : Nat) (h : Iso14443bHandle) :
    parseAtqb rc632Open past h atqb = parseAtqb rc632Open past' h atqb := by
  rw [parseAtqb_eq, parseAtqb_eq]
  simp only [← looksUp_iff]
  split_ifs with hl
  · rw [atqbFrameSize, iso14443FsdiToFsd_congr past past' (hcode hl), atqbFrameSize]
  · rfl
  · rfl

theorem tclConnectB_fsc (h : Iso14443bHandle) (th : TclHandle) : (tclConnectB h th).fsc = h.fsc := by
  unfold tclConnectB
  dsimp only
  split_ifs <;> cases h.state <;> rfl

theorem tclConnect_typeB_run {σ : Type} {l2 : TclLayer2 σ} {th : TclHandle} (hid : l2.id = .iso14443b)
    (hstate : th.state.Admits) (past : Nat) (stack : Mem UInt8) (s : σ) :
    tclConnect l2 past stack (s, th) =
      (.ok (), (s, { tclConnectB (l2.iso14443b s) th with state := .established })) := by
  rw [tclConnect, bind_ok (show Exec.get (s, th) = (.ok th, (s, th)) from rfl),
    when_of_not (not_not.mpr hstate), bind_ok (pure_run () (s, th)), tclActivate, hid]
  rfl

def layer2B (h : Iso14443bHandle) : TclLayer2 Unit :=
  { plainLayer2 .iso14443b with iso14443b := fun _ => h }

theorem legalTypeB_iff (h : Iso14443bHandle) (atqb : Mem UInt8) :
    LegalTypeB h atqb ↔ LegalAtqb h.fsc atqb := by
  have hlegal : ∀ {σ : Type} {l2 : TclLayer2 σ} {past : Nat} {stack : Mem UInt8} {s s' : σ}
      {th : TclHandle}, l2.id = .iso14443b → l2.iso14443b s = (parseAtqb rc632Open past h atqb).2 →
      tclConnect l2 past stack (s, tclInit l2.ah) = (.ok (), (s', th)) →
      (LegalFsc th ↔ 16 ≤ (parseAtqb rc632Open past h atqb).2.fsc ∧
        (parseAtqb rc632Open past h atqb).2.fsc ≤ 256) := by
    intro σ l2 past stack s s' th hid hh hok
    rw [tclConnect_typeB_run hid (.inr rfl), hh] at hok
    cases hok
    rw [legalFsc_iff, ← tclConnectB_fsc]
  constructor
  · rintro ⟨hpast, hconnect⟩
    have hrange : ∀ past, 16 ≤ (parseAtqb rc632Open past h atqb).2.fsc ∧
        (parseAtqb rc632Open past h atqb).2.fsc ≤ 256 := fun past =>
      (hlegal (show (layer2B (parseAtqb rc632Open past h atqb).2).id = .iso14443b from rfl) rfl
        (tclConnect_typeB_run rfl (.inr rfl) past (fun _ => 0) ())).mp
          (hconnect _ past _ _ _ _ rfl rfl (tclConnect_typeB_run rfl (.inr rfl) past (fun _ => 0) ()))
    have hsize := fun past => parseAtqb_fsc past h atqb
    by_cases hl : LooksUp atqb
    · simp only [if_pos hl] at hsize
      rcases Nat.lt_trichotomy (atqbMaxFrameSize atqb).toNat 9 with hlt | h9 | hgt
      · exact .inl ⟨hl, Nat.le_of_lt_succ hlt⟩
      · have heq := congrArg (fun x => x.2.fsc) (hpast 16 32)
        rw [hsize, hsize, h9] at heq
        exact absurd (show 16 = 32 from heq) (by decide)
      · have hold := hrange 0
        rw [hsize, iso14443FsdiToFsd_of_ge 0 hgt] at hold
        exact .inr ⟨fun _ => hgt, hold⟩
    · have hold := hrange 0
      rw [hsize, if_neg hl] at hold
      exact .inr ⟨fun h => absurd h hl, hold⟩
  · intro hcond
    have hcode : LooksUp atqb → (atqbMaxFrameSize atqb).toNat ≠ 9 := by
      rcases hcond with hcond | hcond
      · exact fun _ => Nat.ne_of_lt (Nat.lt_succ_of_le hcond.2)
      · exact fun hl => Nat.ne_of_gt (hcond.1 hl)
    refine ⟨fun past past' => parseAtqb_congr hcode past past' h,
      fun l2 past stack s s' th hid hh hok => (hlegal hid hh hok).mpr ?_⟩
    rw [parseAtqb_fsc]
    split_ifs with hl
    · rcases hcond with hcond | hcond
      · have hlt : (atqbMaxFrameSize atqb).toNat < fsdiTable.length := Nat.lt_succ_of_le hcond.2
        rw [iso14443FsdiToFsd_of_lt past hlt]
        exact fsdiTable_bounds _ (List.getElem_mem hlt)
      · rw [iso14443FsdiToFsd_of_ge past (hcond.1 hl)]
        exact hcond.2
    · exact (hcond.resolve_left fun h => hl h.1).2

end TypeB

/-- The frame size is a legal one exactly for these ATS, and for these ATQB. -/
theorem frameSize_legal_iff (ats : Mem UInt8) (size : Nat) (h : Iso14443bHandle) (atqb : Mem UInt8) :
    (LegalTypeA ats size ↔ LegalAts ats size) ∧ (LegalTypeB h atqb ↔ LegalAtqb h.fsc atqb) :=
  ⟨⟨legalAts_of, legalTypeA_of⟩, legalTypeB_iff h atqb⟩

/-- With a frame size of 0, `fsc - hdr_len` wraps around and nothing is chained. -/
theorem tclTransceiveL2_unchained {σ : Type} (l2 : TclLayer2 σ) {fuel : Nat} (s : σ)
    {th : TclHandle} (args : XcvArgs) (hfuel : 0 < fuel) (hfsc : th.fsc = 0) (hprlg : tclPrlgLen th = 1)
    (hpos : args.tx ≠ []) (hlt : args.tx.length < 2 ^ 32 - 1) :
    ∃ c ∈ (tclTransceiveL2 l2.logging fuel args ((s, []), th)).2.1.2,
      c.tx.length = args.tx.length + 1 := by
  obtain ⟨fuel, rfl⟩ := Nat.exists_eq_add_one_of_ne_zero (Nat.ne_of_gt hfuel)
  have hnext : (tclLocals th args.stack args.tx args.rxLen).ctx.nextTxByte = 0 := rfl
  have htx : (tclLocals th args.stack args.tx args.rxLen).ctx.tx = args.tx := rfl
  have hth : (tclLocals th args.stack args.tx args.rxLen).th = th := rfl
  obtain ⟨x, hfill⟩ := exists_tclRefillXcvb_tclLocals th args.stack args.rxLen hpos
  have hpos : 0 < args.tx.length := List.length_pos_iff.mpr hpos
  have hmax : maxNetTxFramesize th = 2 ^ 32 - 1 := by rw [maxNetTxFramesize, hfsc, hprlg]; rfl
  obtain ⟨-, -, -, -, -, hlen, -⟩ := tclRefillXcvb_eq hfill
  have hchunk := (tclLocals th args.stack args.tx args.rxLen).length_chunk
  rw [hth, hmax, hnext, htx] at hchunk
  rw [hth, hprlg] at hlen
  refine ⟨tclSend l2.id x, List.mem_of_mem_head? (tclTransceiveL2_head l2 fuel s th hfill), ?_⟩
  refine (Mem.length_load _ _ _).trans ?_
  omega

def rfuAts : Mem UInt8 := Mem.ofList (fun _ => 0) [0x02, 0x0f]

/-- A card with the frame size code 15: a request of 300 bytes goes out in one frame. -/
theorem frameSize_rfu :
    ¬ LegalTypeA rfuAts 2 ∧ ∃ th,
      tclConnect (atsCard rfuAts 2) 0 (fun _ => 0) ((), tclInit rc632Open) = (.ok (), ((), th)) ∧
      th.state = .established ∧ th.fsc = 0 ∧
      ∃ c ∈ (tclTransceiveL2 (atsCard rfuAts 2).logging 1
          ⟨List.replicate 300 0, 256, fun _ => 0, fun _ => 0⟩ (((), []), th)).2.1.2,
        c.tx.length = 301 := by
  refine ⟨fun h => ?_, _, rfl, rfl, rfl, ?_⟩
  · rcases legalAts_of h with h | h | h | h <;> exact absurd h (by decide)
  · have hlen : (List.replicate 300 (0 : UInt8)).length < 2 ^ 32 - 1 := by
      rw [List.length_replicate]
      decide
    refine (tclTransceiveL2_unchained _ () ⟨List.replicate 300 0, 256, fun _ => 0, fun _ => 0⟩
      Nat.one_pos rfl (tclPrlgLen_of_unused rfl rfl) (List.cons_ne_nil _ _) hlen).imp
      fun c hc => ⟨hc.1, ?_⟩
    rw [hc.2, List.length_replicate]

end Librfid.Tcl
