import Librfid.Layer2.Api
import Librfid.Layer2.Activation
import Librfid.Layer2.Wakeup
import Librfid.Tcl.BitRate

namespace Librfid.Layer2

open Rc632 Exec

def SameBytes (n : Nat) (m m' : Mem UInt8) : Prop := ∀ i : Nat, i < n → m i = m' i

theorem SameBytes.load {n k : Nat} {m m' : Mem UInt8} (h : SameBytes n m m') (hk : k ≤ n) :
    m.load 0 k = m'.load 0 k := by
  refine Mem.load_congr fun q hq hlt => ?_
  have hbyte := h q.toNat (by omega)
  rwa [Int.toNat_of_nonneg hq] at hbyte

theorem SameBytes.store {n : Nat} {m m' : Mem UInt8} (h : SameBytes n m m') (l : List UInt8) :
    SameBytes (max n l.length) (m.store 0 l) (m'.store 0 l) := by
  intro i hi
  rcases Nat.lt_or_ge i l.length with hlt | hge
  · have hbyte := fun m : Mem UInt8 => Mem.store_add m 0 l i hlt
    simp only [Int.zero_add] at hbyte
    rw [hbyte m, hbyte m']
  · rw [Mem.store_of_ge _ _ (by omega), Mem.store_of_ge _ _ (by omega)]
    exact h i (by omega)

/-- What two handles are to have in common besides what every `init` sets. -/
structure SameUid (k : Assigned) (uid uid' : Mem UInt8) (uidLen uidLen' : Nat) : Prop where
  bytes : SameBytes k.uid uid uid'
  len : ∀ n, k.uidLen = some n → uidLen = n ∧ uidLen' = n ∧ n ≤ k.uid

namespace SameUid

variable {k : Assigned} {uid uid' : Mem UInt8} {uidLen uidLen' : Nat}

theorem setUid (h : SameUid k uid uid' uidLen uidLen') (l : List UInt8) :
    SameUid (k.setUid l.length) (uid.store 0 l) (uid'.store 0 l) l.length l.length where
  bytes := h.bytes.store l
  len := by
    rintro n ⟨⟩
    exact ⟨rfl, rfl, Nat.le_max_right _ _⟩

theorem getopt (h : SameUid k uid uid' uidLen uidLen') {optname : Int} {optlen : Nat}
    (hreads : optname = optLayer2Uid → k.uidLen.isSome ∨ optlen = 0) {priv priv' : GetoptResult}
    (hpriv : optname >>> 16 ≠ 0 → priv = priv') :
    rfidLayer2Getopt uid uidLen priv optname optlen =
      rfidLayer2Getopt uid' uidLen' priv' optname optlen := by
  by_cases hglobal : optname >>> 16 = 0
  · rw [rfidLayer2Getopt, rfidLayer2Getopt, if_pos hglobal, if_pos hglobal]
    by_cases huid : optname = optLayer2Uid
    · have hlen : (if uidLen < optlen then uidLen else optlen) ≤ k.uid ∧
          (if uidLen' < optlen then uidLen' else optlen) =
            if uidLen < optlen then uidLen else optlen := by
        rcases hreads huid with hknown | rfl
        · obtain ⟨n, hn⟩ := Option.isSome_iff_exists.mp hknown
          obtain ⟨rfl, rfl, hle⟩ := h.len n hn
          exact ⟨by split_ifs <;> omega, rfl⟩
        · simp
      simp only [if_pos huid, hlen.2, h.bytes.load hlen.1]
    · rw [if_neg huid, if_neg huid]
  · rw [rfidLayer2Getopt, rfidLayer2Getopt, if_neg hglobal, if_neg hglobal]
    exact hpriv hglobal

theorem setopt {H : Type} {agree : Assigned → H → H → Prop} {a a' stored stored' : H}
    {priv priv' : Int × H} {optname : Int} {optlen : Nat} (h : SameUid k uid uid' uidLen uidLen')
    (hreads : optname = optLayer2Uid → k.uidLen.isSome ∨ 10 < optlen) (hsame : agree k a a')
    (hstored : agree (k.setUid optlen) stored stored')
    (hpriv : priv.1 = priv'.1 ∧ agree k priv.2 priv'.2) :
    let x := rfidLayer2Setopt a stored uidLen priv optname optlen
    let x' := rfidLayer2Setopt a' stored' uidLen' priv' optname optlen
    x.1 = x'.1 ∧ agree (if optname = optLayer2Uid ∧ x.1 = 0 then k.setUid optlen else k) x.2 x'.2 := by
  unfold rfidLayer2Setopt
  dsimp only
  by_cases hglobal : optname >>> 16 = 0
  · rw [if_pos hglobal, if_pos hglobal]
    by_cases huid : optname = optLayer2Uid
    · have hguard : (uidLen < 10 ∧ optlen ≤ 10) = (uidLen' < 10 ∧ optlen ≤ 10) := by
        rcases hreads huid with hknown | hlong
        · obtain ⟨n, hn⟩ := Option.isSome_iff_exists.mp hknown
          obtain ⟨hlen, hlen', -⟩ := h.len n hn
          rw [hlen, hlen']
        · exact propext (iff_of_false (by omega) (by omega))
      simp only [if_pos huid, hguard]
      split_ifs with hroom hzero hzero
      · exact ⟨rfl, hstored⟩
      · exact absurd ⟨huid, rfl⟩ hzero
      · exact absurd hzero.2 (show ¬ -eInval = 0 by decide)
      · exact ⟨rfl, hsame⟩
    · rw [if_neg huid, if_neg huid, if_neg fun hzero => huid hzero.1]
      exact ⟨rfl, hsame⟩
  · have huid : optname ≠ optLayer2Uid := fun h => hglobal (by rw [h]; rfl)
    rw [if_neg hglobal, if_neg hglobal, if_neg fun hzero => huid hzero.1]
    exact hpriv

end SameUid

section Iso14443a

variable {σ ρ : Type} (r : Reader σ) (randomBit : ρ → Bool × ρ) (hasSetSpeed : Bool) (ah : AsicHandle)
  (past rounds : Nat) (m : Scan.Masks)

def recordingA : Reader (σ × List Sent) where
  transceive frametype tx txLen rx rxLen timeout :=
    record (r.transceive frametype tx txLen rx rxLen timeout) fun x log =>
      log ++ [⟨tx.load 0 txLen, timeout, x.rx⟩]
  init := lift r.init
  transceiveSf cmd atqa :=
    record (r.transceiveSf cmd atqa) fun x log => log ++ [⟨[cmd], iso14443aFdtAnticolLast1, x.atqa⟩]
  transceiveAcf acf :=
    record (r.transceiveAcf acf) fun x log =>
      log ++ [⟨acf.load 0 (acfTxBytesTotal acf).toNat, 0x32, x.acf⟩]
  speed := r.speed
  setSpeed tx speed := lift (r.setSpeed tx speed)

def allocateA (heap : Handle) (rand : ρ) : Exec σ (Vars ρ) := fun s =>
  match Tcl.iso14443aInit r randomBit (s, ⟨heap, rand⟩) with
  | (.ok (), (s, v)) => (.ok v, s)
  | (.fail code, (s, _)) => (.fail code, s)
  | (.hang, (s, _)) => (.hang, s)

def getoptA (h : Handle) (optname : Int) (optlen : Nat) : GetoptResult :=
  match Opt.iso14443aGetopt h optname with
  | (ret, some bytes) => ⟨ret, bytes, some bytes.length⟩
  | (ret, none) => ⟨ret, [], some optlen⟩

def mfulInit (h : Handle) : Bool := h.atqa 0 = 0x44 ∧ h.atqa 1 = 0x00 ∧ h.uidLen = 7

def mfclInit (h : Handle) : Bool := h.uidLen = 4

def tclOpenA (stack : Mem UInt8) : Exec (σ × List Sent) Int := fun s =>
  match Tcl.tclConnect (Tcl.iso14443aLayer2 (recordingA r) ah) past stack (s, Tcl.tclInit ah) with
  | (.ok (), (s, _)) => (.ok 0, s)
  | (.fail code, (s, _)) => (.ok code, s)
  | (.hang, (s, _)) => (.hang, s)

def protocolScanA (stack : Mem UInt8) : Iso14443aM (σ × List Sent) ρ CallResult := do
  let v ← get
  let answers (tclRet : Int) := protocolAnswers tclRet (mfulInit v.handle) (mfclInit v.handle) false
    v.handle.protoSupported
  let sup := Scan.protoSup (answers 0) m (.layer2 .iso14443a)
  let tclRet ← lift (if !sup 0 && sup 1 then tclOpenA r ah past stack else pure 0)
  protocolScan (answers tclRet) m .iso14443a

def iso14443aApi : ApiCall Unit → Iso14443aM (σ × List Sent) ρ CallResult
  | .open _ => do
    match ← attempt (iso14443aAnticol (recordingA r) randomBit rounds) with
    | .ok () => pure (.ret 0)
    | .error ret => pure (.ret ret)
  | .close _ => do
    let ret ← iso14443aHlta (recordingA r)
    pure (.ret ret)
  | .getopt optname optlen => do
    let v ← get
    pure (.opt (rfidLayer2Getopt v.handle.uid v.handle.uidLen (getoptA v.handle optname optlen) optname
      optlen))
  | .setopt optname optval optlen _ => do
    if optname >>> 16 = 0 then
      let v ← get
      let stored :=
        { v.handle with uidLen := optlen, uid := v.handle.uid.store 0 (optval.load 0 optlen) }
      let x := rfidLayer2Setopt v.handle stored v.handle.uidLen (0, v.handle) optname optlen
      setHandle fun _ => x.2
      pure (.ret x.1)
    else
      let optval := UInt32.ofNat (fromLe (optval.load 0 4))
      let ret ← Opt.iso14443aSetopt (recordingA r) hasSetSpeed optname (some optval)
      pure (.ret ret)
  | .scan stack => protocolScanA r ah past m stack

def apiRunA (heap : Handle) (rand : ρ) (calls : List (ApiCall Unit)) (s : σ) :
    Outcome Unit × List (ApiEvent Unit) :=
  apiRun (iso14443aApi r randomBit hasSetSpeed ah past rounds m) (allocateA r randomBit heap rand) calls s

section

variable {r randomBit}

theorem drawBits_twice (n : Nat) :
    Twice (σ := σ) (fun _ v v' => v.rand = v'.rand) (Tcl.drawBits randomBit n)
      (Tcl.drawBits randomBit n) fun _ _ v v' => v.rand = v'.rand := by
  induction n with
  | zero => exact .pure fun _ _ _ => id
  | succ n ih =>
    have hdraw : Twice (σ := σ) (fun _ v v' => v.rand = v'.rand) (drawBit randomBit)
        (drawBit randomBit) fun _ _ v v' => v.rand = v'.rand := by
      intro s ⟨h, rand⟩ ⟨h', rand'⟩ hrand
      obtain rfl : rand = rand' := hrand
      exact ⟨_, _, _, _, rfl, rfl, rfl⟩
    exact .bind hdraw (fun _ => ih) (fun _ _ _ _ => id) fun _ _ _ => id

theorem iso14443aInit_twice :
    Twice (fun _ v v' => v.rand = v'.rand) (Tcl.iso14443aInit r randomBit)
      (Tcl.iso14443aInit r randomBit) fun o _ v v' => ∀ x, o = .ok x → v = v' := by
  have hinit : Twice (fun _ v v' => v.rand = v'.rand) (lift r.init : Iso14443aM σ ρ Unit) (lift r.init)
      fun _ _ v v' => v.rand = v'.rand := .lift fun _ _ _ => id
  have hclear : Twice (σ := σ) (fun _ v v' => v.rand = v'.rand)
      (setHandle fun _ => initHandle : Iso14443aM σ ρ Unit) (setHandle fun _ => initHandle)
      fun o _ v v' => ∀ x, o = .ok x → v = v' := by
    refine .modify fun _ _ _ hrand _ _ => ?_
    rw [hrand]
  refine .bind (drawBits_twice 23) (fun _ => .bind hinit (fun _ => hclear) ?_ ?_) ?_ ?_
  · exact fun _ _ _ _ _ _ ho => by cases ho
  · exact fun _ _ _ _ _ ho => by cases ho
  · exact fun _ _ _ _ _ _ ho => by cases ho
  · exact fun _ _ _ _ _ ho => by cases ho

theorem allocateA_eq (heap heap' : Handle) (rand : ρ) :
    allocateA r randomBit heap rand = allocateA r randomBit heap' rand := by
  funext s
  obtain ⟨o, s₁, v, v', hrun, hrun', hsame⟩ := iso14443aInit_twice s ⟨heap, rand⟩ ⟨heap', rand⟩ rfl
  rw [allocateA, allocateA, hrun, hrun']
  cases o with
  | ok => rw [hsame _ rfl]
  | fail code => rfl
  | hang => rfl

end

end Iso14443a

section Iso14443b

variable {σ : Type} (r : Iso14443bReader σ) (past : Nat) (m : Scan.Masks)

def Iso14443bReader.recording : Iso14443bReader (σ × List Sent) where
  transceive frametype tx txLen rx rxLen timeout :=
    record (r.transceive frametype tx txLen rx rxLen timeout) fun x log =>
      log ++ [⟨tx.load 0 txLen, timeout, x.rx⟩]
  init := lift r.init
  ah := r.ah

def getoptB (h : Iso14443bHandle) (optname : Int) (optlen : Nat) : GetoptResult :=
  match iso14443bGetopt h optname with
  | some v => ⟨0, toLe 4 v, some optlen⟩
  | none => ⟨-eInval, [], some optlen⟩

def setoptB (h : Iso14443bHandle) (optname : Int) (optval : Mem UInt8) (optlen : Nat) :
    Int × Iso14443bHandle :=
  rfidLayer2Setopt h { h with uidLen := optlen, uid := h.uid.store 0 (optval.load 0 optlen) } h.uidLen
    (iso14443bSetopt h optname (fromLe (optval.load 0 4))) optname optlen

def iso14443bApi : ApiCall AnticolLocals → Iso14443bM (σ × List Sent) CallResult
  | .open loc => do
    let ret ← iso14443bAnticol r.recording past loc
    pure (.ret ret)
  | .close stack => do
    let ret ← iso14443bHltb r.recording stack
    pure (.ret ret)
  | .getopt optname optlen => do
    let h ← get
    pure (.opt (rfidLayer2Getopt h.uid h.uidLen (getoptB h optname optlen) optname optlen))
  | .setopt optname optval optlen _ => do
    let h ← get
    modify fun _ => (setoptB h optname optval optlen).2
    pure (.ret (setoptB h optname optval optlen).1)
  | .scan _ => do
    let h ← get
    let tclRet := tclOpenRet .iso14443b h r.ah
    protocolScan (protocolAnswers tclRet false false false h.protoSupported) m .iso14443b

def Assigned.atqb (k : Assigned) (atqb : Mem UInt8) : Assigned where
  uid := max k.uid 4
  uidLen := some 4
  proto := k.proto || atqbProtocolType atqb = 0x1
  fsc := k.fsc || (iso14443FsdiToFsd past (atqbMaxFrameSize atqb).toNat).isSome

/-- An open that has accepted an ATQB, the last answer, ends with `-EINVAL`. -/
def iso14443bAfter (k : Assigned) :
    ApiCall AnticolLocals → Outcome CallResult → List Sent → Assigned
  | .open _, .ok (.ret ret), frames =>
    if ret = -eInval then
      match frames.getLast? with
      | some f => k.atqb past f.answer
      | none => k
    else k
  | .setopt optname _ optlen _, .ok (.ret ret), _ =>
    if optname = optLayer2Uid ∧ ret = 0 then k.setUid optlen else k
  | _, _, _ => k

/-- `fwt` is never assigned. -/
def iso14443bReads (k : Assigned) : ApiCall AnticolLocals → Iso14443bHandle → Prop
  | .open _, _ => True
  | .close _, _ => False
  | .getopt optname optlen, _ =>
    (optname = optLayer2Uid → k.uidLen.isSome ∨ optlen = 0) ∧
      (optname = opt14443bFsc → k.fsc) ∧ optname ≠ opt14443bFwt
  | .setopt optname _ optlen _, _ => optname = optLayer2Uid → k.uidLen.isSome ∨ 10 < optlen
  | .scan _, _ => k.proto ∨ ScanSettled 0 false m

structure SameB (k : Assigned) (h h' : Iso14443bHandle) : Prop where
  uid : SameUid k h.uid h'.uid h.uidLen h'.uidLen
  proto : k.proto = true → h.protoSupported = h'.protoSupported
  fsc : k.fsc = true → h.fsc = h'.fsc
  cid : h.cid = h'.cid
  fsd : h.fsd = h'.fsd
  tr0 : h.tr0 = h'.tr0
  tr1 : h.tr1 = h'.tr1

section

variable {r past m} {k : Assigned} {h h' : Iso14443bHandle}

theorem SameB.flags (hs : SameB k h h') (flags flags' : UInt32) :
    SameB k { h with flags := flags } { h' with flags := flags' } :=
  ⟨hs.uid, hs.proto, hs.fsc, hs.cid, hs.fsd, hs.tr0, hs.tr1⟩

theorem SameB.state (hs : SameB k h h') (state state' : Iso14443bState) :
    SameB k { h with state := state } { h' with state := state' } :=
  ⟨hs.uid, hs.proto, hs.fsc, hs.cid, hs.fsd, hs.tr0, hs.tr1⟩

theorem SameB.protocol (hs : SameB k h h') (atqb : Mem UInt8) :
    SameB { k with proto := k.proto || atqbProtocolType atqb = 0x1 } (atqbProtocol atqb h)
      (atqbProtocol atqb h') := by
  unfold atqbProtocol
  split_ifs with htype
  · exact ⟨⟨hs.uid.bytes, hs.uid.len⟩, fun _ => rfl, hs.fsc, hs.cid, hs.fsd, hs.tr0, hs.tr1⟩
  · rw [decide_eq_false htype, Bool.or_false]
    exact ⟨hs.uid, hs.proto, hs.fsc, hs.cid, hs.fsd, hs.tr0, hs.tr1⟩

theorem SameB.frameSize (hs : SameB k h h') (atqb : Mem UInt8) :
    SameB { k with fsc := k.fsc || (iso14443FsdiToFsd past (atqbMaxFrameSize atqb).toNat).isSome }
      (atqbFrameSize past atqb h) (atqbFrameSize past atqb h') := by
  unfold atqbFrameSize
  cases iso14443FsdiToFsd past (atqbMaxFrameSize atqb).toNat with
  | some fsc =>
    exact ⟨⟨hs.uid.bytes, hs.uid.len⟩, hs.proto, fun _ => rfl, hs.cid, hs.fsd, hs.tr0, hs.tr1⟩
  | none =>
    rw [Option.isSome_none, Bool.or_false]
    exact hs

theorem SameB.setUid (hs : SameB k h h') (l : List UInt8) :
    SameB (k.setUid l.length) { h with uid := h.uid.store 0 l, uidLen := l.length }
      { h' with uid := h'.uid.store 0 l, uidLen := l.length } :=
  ⟨hs.uid.setUid l, hs.proto, hs.fsc, hs.cid, hs.fsd, hs.tr0, hs.tr1⟩

variable (past) in
theorem parseAtqb_same (hs : SameB k h h') (ah : AsicHandle) (atqb : Mem UInt8) :
    (parseAtqb ah past h atqb).1 = (parseAtqb ah past h' atqb).1 ∧
      if 0 ≤ (parseAtqb ah past h atqb).1 then
        SameB (k.atqb past atqb) (parseAtqb ah past h atqb).2 (parseAtqb ah past h' atqb).2
      else SameB k (parseAtqb ah past h atqb).2 (parseAtqb ah past h' atqb).2 := by
  have hoptions : SameB k (atqbOptions atqb h) (atqbOptions atqb h') := by
    rw [atqbOptions_eq, atqbOptions_eq]
    exact hs.flags _ _
  simp only [parseAtqb_accepts_iff]
  rw [parseAtqb_eq, parseAtqb_eq]
  split_ifs
  · exact ⟨rfl, ((hoptions.protocol atqb).frameSize atqb).setUid (atqb.load 1 4)⟩
  · exact ⟨rfl, hoptions⟩
  · exact ⟨rfl, hs⟩

def Requested (past : Nat) (k : Assigned) (o : Outcome Int) (s : σ × List Sent)
    (h h' : Iso14443bHandle) : Prop :=
  ∀ ret, o = .ok ret →
    ret = 0 ∧ (∃ f, s.2.getLast? = some f ∧ SameB (k.atqb past f.answer) h h') ∨
      ret = -1 ∧ SameB k h h'

theorem sendReqbSlots_twice (afi : UInt8) (isWup : Bool) (slots : List Nat) (atqb : Mem UInt8)
    (atqbLen : Nat) :
    Twice (fun _ h h' => SameB k h h')
      (sendReqbSlots r.recording past afi isWup slots atqb atqbLen)
      (sendReqbSlots r.recording past afi isWup slots atqb atqbLen) (Requested past k) := by
  induction slots generalizing atqb atqbLen with
  | nil => exact .pure fun _ _ _ hs ret hret => .inr ⟨by cases hret; rfl, hs⟩
  | cons slot slots ih =>
    have hframe : ∀ tx, Twice (fun _ h h' => SameB k h h')
        (lift (r.recording.transceive .iso14443bFrameRegular tx 3 atqb atqbLen 1))
        (lift (r.recording.transceive .iso14443bFrameRegular tx 3 atqb atqbLen 1))
        fun o s h h' => SameB k h h' ∧
          ∀ x, o = .ok x → ∃ f, s.2.getLast? = some f ∧ f.answer = x.rx := by
      refine fun tx => .lift fun s h h' hs => ⟨hs, fun x hx => ?_⟩
      exact ⟨_, (congrArg List.getLast? (of_record_ok hx)).trans List.getLast?_concat, rfl⟩
    refine .bind (hframe _) (fun x => ?_) (fun _ _ _ _ _ _ ho => by cases ho)
      fun _ _ _ _ _ ho => by cases ho
    refine .modify_bind (J := fun s h h' => SameB k h h' ∧
      ∃ f, s.2.getLast? = some f ∧ f.answer = x.rx)
      (fun s h h' hs => ⟨hs.1.state _ _, hs.2 x rfl⟩) ?_
    refine .ite (fun _ => (ih _ _).pre fun _ _ _ hs => hs.1) fun _ =>
      .ite (fun _ => (ih _ _).pre fun _ _ _ hs => hs.1) fun _ => .get_bind fun h h' => ?_
    rcases hparse : parseAtqb r.recording.ah past h x.rx with ⟨ret, h₁⟩
    rcases hparse' : parseAtqb r.recording.ah past h' x.rx with ⟨ret', h₁'⟩
    intro s u u' hp
    obtain ⟨⟨hs, hlast⟩, rfl, rfl⟩ := hp
    -- both runs find the same in the answer
    have hboth := parseAtqb_same past hs r.recording.ah x.rx
    rw [hparse, hparse'] at hboth
    obtain ⟨rfl, hafter⟩ := hboth
    refine Twice.modify_bind (P := fun s _ _ => ∃ f, s.2.getLast? = some f ∧ f.answer = x.rx)
      (J := fun s v v' => (v = h₁ ∧ v' = h₁') ∧ ∃ f, s.2.getLast? = some f ∧ f.answer = x.rx)
      (fun _ _ _ hl => ⟨⟨rfl, rfl⟩, hl⟩) (.ite (fun hnn => ?_) fun hneg => ?_) s u u' hlast
    · rw [if_pos hnn] at hafter
      refine .modify_bind (J := fun s v v' => SameB (k.atqb past x.rx) v v' ∧
        ∃ f, s.2.getLast? = some f ∧ f.answer = x.rx) ?_ (.pure ?_)
      · rintro s _ _ ⟨⟨rfl, rfl⟩, hl⟩
        exact ⟨hafter.state _ _, hl⟩
      · rintro s v v' ⟨hv, f, hl, hanswer⟩ ret hret
        exact .inl ⟨by cases hret; rfl, f, hl, hanswer ▸ hv⟩
    · rw [if_neg hneg] at hafter
      refine (ih _ _).pre ?_
      rintro s _ _ ⟨⟨rfl, rfl⟩, -⟩
      exact hafter

@[simp] theorem tclOpenRet_iso14443b (h : Iso14443bHandle) (ah : AsicHandle) :
    tclOpenRet .iso14443b h ah = 0 := rfl

theorem getoptB_same (hs : SameB k h h') {optname : Int} (optlen : Nat)
    (hfsc : optname = opt14443bFsc → k.fsc = true) (hfwt : optname ≠ opt14443bFwt) :
    getoptB h optname optlen = getoptB h' optname optlen := by
  have heq : iso14443bGetopt h optname = iso14443bGetopt h' optname := by
    unfold iso14443bGetopt
    rw [hs.cid, hs.fsd, hs.tr0, hs.tr1, if_neg hfwt, if_neg hfwt]
    split_ifs with _ h1
    · rfl
    · rw [hs.fsc (hfsc h1)]
    · rfl
    · rfl
    · rfl
    · rfl
  rw [getoptB, getoptB, heq]

theorem iso14443bSetopt_same (hs : SameB k h h') (optname : Int) (optval : Nat) :
    (iso14443bSetopt h optname optval).1 = (iso14443bSetopt h' optname optval).1 ∧
      SameB k (iso14443bSetopt h optname optval).2 (iso14443bSetopt h' optname optval).2 := by
  unfold iso14443bSetopt
  split_ifs
  · exact ⟨rfl, hs.uid, hs.proto, hs.fsc, rfl, hs.fsd, hs.tr0, hs.tr1⟩
  · exact ⟨rfl, hs⟩

theorem setoptB_same (hs : SameB k h h') {optname : Int} (optval : Mem UInt8) {optlen : Nat}
    (hreads : optname = optLayer2Uid → k.uidLen.isSome ∨ 10 < optlen) :
    (setoptB h optname optval optlen).1 = (setoptB h' optname optval optlen).1 ∧
      SameB (if optname = optLayer2Uid ∧ (setoptB h optname optval optlen).1 = 0 then k.setUid optlen
        else k) (setoptB h optname optval optlen).2 (setoptB h' optname optval optlen).2 := by
  have hset := hs.setUid (optval.load 0 optlen)
  rw [Mem.length_load] at hset
  exact hs.uid.setopt hreads hs hset (iso14443bSetopt_same hs optname _)

theorem iso14443bApi_twice (k : Assigned) (c : ApiCall AnticolLocals) :
    Twice (fun s h h' => s.2 = [] ∧ SameB k h h' ∧ iso14443bReads m k c h)
      (iso14443bApi r past m c) (iso14443bApi r past m c)
      fun o s h h' => ∀ x, o = .ok x → SameB (iso14443bAfter past k c o s.2) h h' := by
  cases c with
  | «open» loc =>
    have hrequest : Twice (fun s h h' => s.2 = [] ∧ SameB k h h' ∧ iso14443bReads m k (.open loc) h)
        (sendReqb r.recording past loc.atqb 0 false 0) (sendReqb r.recording past loc.atqb 0 false 0)
        (Requested past k) := (sendReqbSlots_twice 0 false _ loc.atqb atqbSize).pre fun _ _ _ hp => hp.2.1
    have hopen : Twice (fun s h h' => s.2 = [] ∧ SameB k h h' ∧ iso14443bReads m k (.open loc) h)
        (iso14443bAnticol r.recording past loc) (iso14443bAnticol r.recording past loc)
        fun o s h h' => ∀ ret, o = .ok ret →
          SameB (iso14443bAfter past k (.open loc) (.ok (.ret ret)) s.2) h h' := by
      rw [iso14443bAnticol_eq]
      refine .bind hrequest (fun ret => .ite (fun hneg => .pure ?_) fun hneg => .pure ?_)
        (fun _ _ _ _ _ _ ho => by cases ho) fun _ _ _ _ _ ho => by cases ho
      · rintro s h h' hp _ ⟨⟩
        rcases hp ret rfl with ⟨rfl, -⟩ | ⟨rfl, hs⟩
        · exact absurd hneg (by decide)
        · exact hs
      · rintro s h h' hp _ ⟨⟩
        rcases hp ret rfl with ⟨-, f, hlast, hs⟩ | ⟨rfl, -⟩
        · simpa only [iso14443bAfter, if_true, hlast] using hs
        · exact absurd (by decide) hneg
    refine .bind hopen (fun ret => .pure ?_) (fun _ _ _ _ _ _ ho => by cases ho)
      fun _ _ _ _ _ ho => by cases ho
    rintro s h h' hp _ ⟨⟩
    exact hp ret rfl
  | close stack => exact fun s h h' hp => hp.2.2.elim
  | getopt optname optlen =>
    refine .get_bind fun h h' => ?_
    rintro s _ _ ⟨⟨-, hs, huid, hfsc, hfwt⟩, rfl, rfl⟩
    rw [hs.uid.getopt huid fun _ => getoptB_same hs optlen hfsc hfwt]
    exact ⟨_, _, _, _, rfl, rfl, fun _ _ => hs⟩
  | setopt optname optval optlen undef =>
    refine .get_bind fun h h' => ?_
    rintro s _ _ ⟨⟨-, hs, hreads⟩, rfl, rfl⟩
    obtain ⟨hret, hafter⟩ := setoptB_same hs optval hreads
    rw [hret] at hafter ⊢
    refine ⟨_, _, _, _, rfl, rfl, ?_⟩
    rintro _ ⟨⟩
    exact hafter
  | scan stack =>
    refine .get_bind fun h h' => ?_
    rintro s _ _ ⟨⟨-, hs, hreads⟩, rfl, rfl⟩
    simp only [tclOpenRet_iso14443b]
    rcases hreads with hproto | hsettled
    · rw [hs.proto hproto]
      exact protocolScan_twice (P := fun _ v v' => SameB k v v') _ m .iso14443b
        (fun _ _ _ _ hv _ _ => hv) s _ _ hs
    · rw [hsettled.scan, hsettled.scan]
      exact ⟨_, _, _, _, rfl, rfl, fun _ _ => hs⟩

theorem sameUid_nothing (uid uid' : Mem UInt8) (uidLen uidLen' : Nat) :
    SameUid .nothing uid uid' uidLen uidLen' where
  bytes i hi := absurd hi (Nat.not_lt_zero i)
  len n hn := by cases hn

end

def apiRunB (heap : Iso14443bHandle) (calls : List (ApiCall AnticolLocals)) (s : σ) :
    Outcome Unit × List (ApiEvent AnticolLocals) :=
  apiRun (iso14443bApi r past m) (iso14443bInit r heap) calls s

def RunReadsB (heap : Iso14443bHandle) (calls : List (ApiCall AnticolLocals)) (s : σ) : Prop :=
  ∀ h s', iso14443bInit r heap s = (.ok h, s') →
    ReadsAssigned (iso14443bApi r past m) (iso14443bReads m) (iso14443bAfter past) .nothing calls s' h

theorem apiRunB_eq {heap heap' : Iso14443bHandle} {calls : List (ApiCall AnticolLocals)} {s : σ}
    (hreads : RunReadsB r past m heap calls s) :
    apiRunB r past m heap calls s = apiRunB r past m heap' calls s := by
  refine apiRun_eq iso14443bApi_twice ?_ fun s' hinit => hreads _ s' (bind_ok hinit)
  exact ⟨sameUid_nothing _ _ _ _, fun hp => (by cases hp), fun hf => (by cases hf), rfl, rfl, rfl, rfl⟩

end Iso14443b

section Iso15693

variable {σ : Type} (r : Iso15693Reader σ) (init : Exec σ Unit) (fuel : Nat) (m : Scan.Masks)

def Iso15693Reader.recording : Iso15693Reader (σ × List Sent) where
  transceive frametype tx txLen rx rxLen timeout :=
    record (r.transceive frametype tx txLen rx rxLen timeout) fun x log =>
      log ++ [⟨tx.load 0 txLen, timeout, x.rx⟩]
  transceiveAc acf acfLen rxLen boc :=
    record (r.transceiveAc acf acfLen rxLen boc) fun x log =>
      log ++ [⟨acf.load 0 acfLen, iso15693TimingT1 (acf 0 &&& rfid15693FRateHigh ≠ 0),
        Mem.ofList (fun _ => 0) x.resp⟩]

/-- Of the six bytes those are read that `getopt` has stored. -/
def tagitInit (h : Iso15693Handle) : Bool :=
  let g := rfidLayer2Getopt h.uid h.uidLen ⟨-eInval, [], none⟩ optLayer2Uid 6
  let uid : Mem UInt8 := Mem.ofList (fun _ => 0) g.optval
  uid 5 = 0xe0 ∧ uid 4 = 0x07 ∧ h.uidLen = 6

def setopt15693 (h : Iso15693Handle) (optname : Int) (optval : Mem UInt8) (optlen undef : Nat) :
    Int × Iso15693Handle :=
  rfidLayer2Setopt h { h with uidLen := optlen, uid := h.uid.store 0 (optval.load 0 optlen) } h.uidLen
    (iso15693Setopt h optname (some optval) optlen undef) optname optlen

/-- `proto` is what `proto_supported` holds; nothing sets it. -/
def iso15693Api (proto : Nat) :
    ApiCall (Mem UInt8 × UInt8) → Iso15693M (σ × List Sent) CallResult
  | .open loc => do
    let ret ← iso15693Anticol r.recording loc.1 loc.2 fuel
    pure (.ret ret)
  | .close stack => do
    let ret ← iso15693StayQuiet r.recording stack
    pure (.ret ret)
  | .getopt optname optlen => do
    let h ← get
    pure (.opt (rfidLayer2Getopt h.uid h.uidLen (iso15693Getopt h optname true (some optlen)) optname
      optlen))
  | .setopt optname optval optlen undef => do
    let h ← get
    modify fun _ => (setopt15693 h optname optval optlen undef).2
    pure (.ret (setopt15693 h optname optval optlen undef).1)
  | .scan _ => do
    let h ← get
    let tclRet := tclOpenRet .iso15693 blankHandleB rc632Open
    protocolScan (protocolAnswers tclRet false false (tagitInit h) proto) m .iso15693

def iso15693After (k : Assigned) :
    ApiCall (Mem UInt8 × UInt8) → Outcome CallResult → List Sent → Assigned
  | .open _, .ok (.ret ret), _ => if ret = 1 then k.setUid uidLen15693 else k
  | .setopt optname _ optlen _, .ok (.ret ret), _ =>
    if optname = optLayer2Uid ∧ ret = 0 then k.setUid optlen else k
  | _, _, _ => k

/-- `proto_supported` is never assigned. -/
def iso15693Reads (k : Assigned) : ApiCall (Mem UInt8 × UInt8) → Iso15693Handle → Prop
  | .open _, _ => True
  | .close _, _ => uidLen15693 ≤ k.uid
  | .getopt optname optlen, _ => optname = optLayer2Uid → k.uidLen.isSome ∨ optlen = 0
  | .setopt optname _ optlen _, _ => optname = optLayer2Uid → k.uidLen.isSome ∨ 10 < optlen
  | .scan _, h => ScanSettled (-1) (k.uidLen.isNone || tagitInit h) m

structure SameV (k : Assigned) (h h' : Iso15693Handle) : Prop where
  uid : SameUid k h.uid h'.uid h.uidLen h'.uidLen
  rest : h' = { h with uid := h'.uid, uidLen := h'.uidLen }

section

variable {r init fuel m} {k : Assigned} {h h' : Iso15693Handle}

theorem SameV.setUid (hs : SameV k h h') {l : List UInt8} {n : Nat} (hl : l.length = n) :
    SameV (k.setUid n) { h with uid := h.uid.store 0 l, uidLen := n }
      { h' with uid := h'.uid.store 0 l, uidLen := n } := by
  subst hl
  refine ⟨hs.uid.setUid l, ?_⟩
  have hrest := hs.rest
  rw [hrest]

theorem iso15693AcLoop_uid (h : Iso15693Handle) (uid : Mem UInt8) (uidLen fuel : Nat) (acf : Mem UInt8)
    (txLen : Nat) (boc : UInt8) :
    iso15693AcLoop r { h with uid := uid, uidLen := uidLen } fuel acf txLen boc =
      iso15693AcLoop r h fuel acf txLen boc := by
  induction fuel generalizing acf txLen boc with
  | zero => rfl
  | succ fuel ih =>
    unfold iso15693AcLoop
    simp only [ih]
    rfl

def WholeUid (l : List Slot) : Prop := ∀ e, firstCollided l = some e → e.2.length = uidLen15693

theorem iso15693Slots_twice (acf : Mem UInt8) (txLen n : Nat) {l : List Slot} (hl : WholeUid l)
    (uuid : Mem UInt8) (boc : UInt8) :
    Twice (fun _ h h' => SameV k h h') (iso15693Slots r.recording acf txLen n l uuid boc)
      (iso15693Slots r.recording acf txLen n l uuid boc)
      fun o _ h h' => ∀ x, o = .ok x → match x with
        | .found => SameV (k.setUid uidLen15693) h h'
        | .slots l _ _ => SameV k h h' ∧ WholeUid l := by
  induction n generalizing l uuid boc with
  | zero =>
    refine .pure ?_
    rintro _ h h' hs _ ⟨⟩
    exact ⟨hs, hl⟩
  | succ n ih =>
    have hframe : Twice (fun _ h h' => SameV k h h')
        (lift (r.recording.transceiveAc acf txLen 10 boc))
        (lift (r.recording.transceiveAc acf txLen 10 boc)) fun _ _ h h' => SameV k h h' :=
      .lift fun _ _ _ hs => hs
    refine .bind hframe (fun x => .ite (fun _ => ih ?_ _ _) fun _ => .ite (fun _ => ih ?_ _ _)
      fun _ => ?_) (fun _ _ _ _ _ _ ho => by cases ho) fun _ _ _ _ _ ho => by cases ho
    · intro e he
      rw [firstCollided_append, firstCollided, firstCollided, Option.or_none] at he
      exact hl e he
    · intro e he
      rw [firstCollided_append] at he
      rcases Option.or_eq_some_iff.mp he with he | ⟨-, he⟩
      · exact hl e he
      · cases he
        exact Mem.length_load _ _ _
    · refine .modify_bind (J := fun _ h h' => SameV (k.setUid uidLen15693) h h')
        (fun _ _ _ hs => hs.setUid (Mem.length_load _ _ _)) (.pure ?_)
      rintro _ h h' hs _ ⟨⟩
      exact hs

theorem iso15693AcLoop_twice (v : Iso15693Handle) (acf : Mem UInt8) (txLen : Nat) (boc : UInt8) :
    Twice (fun _ h h' => SameV k h h') (iso15693AcLoop r.recording v fuel acf txLen boc)
      (iso15693AcLoop r.recording v fuel acf txLen boc)
      fun o _ h h' => ∀ ret, o = .ok ret →
        SameV (if ret = 1 then k.setUid uidLen15693 else k) h h' := by
  induction fuel generalizing acf txLen boc with
  | zero => exact .hang fun _ _ _ _ _ ho => by cases ho
  | succ fuel ih =>
    have hnil : WholeUid [] := fun _ he => by cases he
    refine .bind (iso15693Slots_twice acf txLen _ hnil _ boc) (fun x => ?_)
      (fun _ _ _ _ _ _ ho => by cases ho) fun _ _ _ _ _ ho => by cases ho
    cases x with
    | found =>
      refine .pure ?_
      rintro _ h h' hs _ ⟨⟩
      exact hs _ rfl
    | slots l uuid boc =>
      cases hl : firstCollided l with
      | none =>
        simp only [hl]
        refine .pure ?_
        rintro _ h h' hs _ ⟨⟩
        exact (hs _ rfl).1
      | some e =>
        simp only [hl]
        refine .ite (fun _ => (ih _ _ _).pre fun _ _ _ hs => (hs _ rfl).1) fun _ => ?_
        refine .modify_bind (J := fun _ h h' => SameV (k.setUid uidLen15693) h h')
          (fun _ _ _ hs => (hs _ rfl).1.setUid ((hs _ rfl).2 e hl)) (.pure ?_)
        rintro _ h h' hs _ ⟨⟩
        exact hs

def withUid (uid : Mem UInt8) (uidLen : Nat) (x : Int × Iso15693Handle) : Int × Iso15693Handle :=
  (x.1, { x.2 with uid := uid, uidLen := uidLen })

theorem setoptVal_uid (h : Iso15693Handle) (uid : Mem UInt8) (uidLen : Nat) (optname : Int)
    (val : Nat) :
    setoptVal { h with uid := uid, uidLen := uidLen } optname val =
      withUid uid uidLen (setoptVal h optname val) := by
  simp only [setoptVal, setoptSlots, apply_ite (withUid uid uidLen)]
  rfl

theorem setoptVal_same (hs : SameV k h h') (optname : Int) (val : Nat) :
    (setoptVal h optname val).1 = (setoptVal h' optname val).1 ∧
      SameV k (setoptVal h optname val).2 (setoptVal h' optname val).2 := by
  have hself := setoptVal_uid h h.uid h.uidLen optname val
  have hother := setoptVal_uid h h'.uid h'.uidLen optname val
  rw [← hs.rest] at hother
  rw [hother]
  refine ⟨rfl, ?_, rfl⟩
  rw [hself]
  exact hs.uid

theorem setopt15693_same (hs : SameV k h h') {optname : Int} (optval : Mem UInt8) {optlen : Nat}
    (undef : Nat) (hreads : optname = optLayer2Uid → k.uidLen.isSome ∨ 10 < optlen) :
    (setopt15693 h optname optval optlen undef).1 = (setopt15693 h' optname optval optlen undef).1 ∧
      SameV (if optname = optLayer2Uid ∧ (setopt15693 h optname optval optlen undef).1 = 0 then
          k.setUid optlen else k)
        (setopt15693 h optname optval optlen undef).2
        (setopt15693 h' optname optval optlen undef).2 := by
  have hpriv : (iso15693Setopt h optname (some optval) optlen undef).1 =
        (iso15693Setopt h' optname (some optval) optlen undef).1 ∧
      SameV k (iso15693Setopt h optname (some optval) optlen undef).2
        (iso15693Setopt h' optname (some optval) optlen undef).2 := by
    unfold iso15693Setopt
    split_ifs
    · exact ⟨rfl, hs⟩
    · exact setoptVal_same hs optname _
  exact hs.uid.setopt hreads hs (hs.setUid (Mem.length_load optval 0 optlen)) hpriv

theorem SameV.state (hs : SameV k h h') (state : Iso15693State) :
    SameV k { h with state := state } { h' with state := state } := by
  refine ⟨hs.uid, ?_⟩
  have hrest := hs.rest
  rw [hrest]

theorem iso15693Anticol_twice (stack : Mem UInt8) (boc : UInt8) :
    Twice (fun _ h h' => SameV k h h') (iso15693Anticol r.recording stack boc fuel)
      (iso15693Anticol r.recording stack boc fuel)
      fun o _ h h' => ∀ ret, o = .ok ret →
        SameV (if ret = 1 then k.setUid uidLen15693 else k) h h' := by
  refine .get_bind fun _ _ => ?_
  intro s h h' hp
  obtain ⟨hs, rfl, rfl⟩ := hp
  -- the requests are made from the options
  have hrest := hs.rest
  have hflags : iso15693AnticolFlags h' = iso15693AnticolFlags h := by
    rw [hrest]
    rfl
  have hafi : h'.afi = h.afi := by rw [hrest]
  have hloop : iso15693AcLoop r.recording h' fuel = iso15693AcLoop r.recording h fuel := by
    funext acf txLen boc
    rw [hrest]
    exact iso15693AcLoop_uid _ _ _ _ _ _ _
  rw [hflags, hafi, hloop]
  exact iso15693AcLoop_twice _ _ _ _ s _ _ hs

theorem iso15693StayQuiet_twice (stack : Mem UInt8) (huid : uidLen15693 ≤ k.uid) :
    Twice (fun _ h h' => SameV k h h') (iso15693StayQuiet r.recording stack)
      (iso15693StayQuiet r.recording stack) fun _ _ h h' => SameV k h h' := by
  refine .get_bind fun _ _ => ?_
  intro s h h' hp
  obtain ⟨hs, rfl, rfl⟩ := hp
  have hbytes : h'.uidBytes = h.uidBytes := (hs.uid.bytes.load huid).symm
  have htx : addressedRequest h' cmdStayQuiet = addressedRequest h cmdStayQuiet := by
    rw [addressedRequest, addressedRequest, hbytes, hs.rest]
    rfl
  rw [htx]
  refine Twice.bind (P := fun _ h h' => SameV k h h') (Q := fun _ _ h h' => SameV k h h')
    (.lift fun _ _ _ hs => hs) (fun _ => ?_) (fun _ _ _ _ hs => hs) (fun _ _ _ hs => hs) s _ _ hs
  exact .modify_bind (J := fun _ h h' => SameV k h h') (fun _ _ _ hs => hs.state _)
    (.pure fun _ _ _ hs => hs)

@[simp] theorem tclOpenRet_iso15693 (h : Iso14443bHandle) (ah : AsicHandle) :
    tclOpenRet .iso15693 h ah = -1 := rfl

theorem tagitInit_same (hs : SameV k h h') (hlen : k.uidLen.isSome) :
    tagitInit h = tagitInit h' := by
  obtain ⟨n, hn⟩ := Option.isSome_iff_exists.mp hlen
  obtain ⟨heq, heq', -⟩ := hs.uid.len n hn
  unfold tagitInit
  rw [hs.uid.getopt (fun _ => .inl hlen) fun _ => rfl, heq, heq']

theorem iso15693Api_twice (proto proto' : Nat) (k : Assigned) (c : ApiCall (Mem UInt8 × UInt8)) :
    Twice (fun s h h' => s.2 = [] ∧ SameV k h h' ∧ iso15693Reads m k c h)
      (iso15693Api r fuel m proto c) (iso15693Api r fuel m proto' c)
      fun o s h h' => ∀ x, o = .ok x → SameV (iso15693After k c o s.2) h h' := by
  cases c with
  | «open» loc =>
    refine .bind ((iso15693Anticol_twice (k := k) loc.1 loc.2).pre fun _ _ _ hp => hp.2.1)
      (fun ret => .pure ?_) (fun _ _ _ _ _ _ ho => by cases ho) fun _ _ _ _ _ ho => by cases ho
    rintro s h h' hp _ ⟨⟩
    exact hp ret rfl
  | close stack =>
    intro s h h' hp
    refine Twice.bind (R := fun o s h h' => ∀ x, o = .ok x → SameV
      (iso15693After k (.close stack) o s.2) h h') ((iso15693StayQuiet_twice stack hp.2.2))
      (fun ret => .pure ?_) (fun _ _ _ _ _ _ ho => by cases ho) (fun _ _ _ _ _ ho => by cases ho)
      s h h' hp.2.1
    rintro s h h' hs _ ⟨⟩
    exact hs
  | getopt optname optlen =>
    refine .get_bind fun _ _ => ?_
    intro s h h' hp
    obtain ⟨⟨-, hs, huid⟩, rfl, rfl⟩ := hp
    have hpriv : iso15693Getopt h optname true (some optlen) =
        iso15693Getopt h' optname true (some optlen) := by
      rw [hs.rest]
      rfl
    rw [hs.uid.getopt huid fun _ => hpriv]
    exact ⟨_, _, _, _, rfl, rfl, fun _ _ => hs⟩
  | setopt optname optval optlen undef =>
    refine .get_bind fun h h' => ?_
    rintro s _ _ ⟨⟨-, hs, hreads⟩, rfl, rfl⟩
    obtain ⟨hret, hafter⟩ := setopt15693_same hs optval undef hreads
    rw [hret] at hafter ⊢
    refine ⟨_, _, _, _, rfl, rfl, ?_⟩
    rintro _ ⟨⟩
    exact hafter
  | scan stack =>
    refine .get_bind fun _ _ => ?_
    intro s h h' hp
    obtain ⟨⟨-, hs, hsettled⟩, rfl, rfl⟩ := hp
    have hdecided : ScanSettled (-1) (tagitInit h) m ∧ ScanSettled (-1) (tagitInit h') m := by
      refine ⟨⟨hsettled.hole, hsettled.tcl, fun hsup => ?_⟩,
        ⟨hsettled.hole, hsettled.tcl, fun hsup => ?_⟩⟩
      · exact (Bool.or_eq_false_iff.mp (hsettled.tagit hsup)).2
      · obtain ⟨hnone, htagit⟩ := Bool.or_eq_false_iff.mp (hsettled.tagit hsup)
        rwa [← tagitInit_same hs (by simpa using hnone)]
    simp only [tclOpenRet_iso15693]
    rw [hdecided.1.scan, hdecided.2.scan]
    exact ⟨_, _, _, _, rfl, rfl, fun _ _ => hs⟩

end

def apiRunV (heap : Iso15693Handle) (proto : Nat) (calls : List (ApiCall (Mem UInt8 × UInt8))) (s : σ) :
    Outcome Unit × List (ApiEvent (Mem UInt8 × UInt8)) :=
  apiRun (iso15693Api r fuel m proto) (iso15693Init init heap) calls s

def RunReadsV (heap : Iso15693Handle) (proto : Nat) (calls : List (ApiCall (Mem UInt8 × UInt8)))
    (s : σ) : Prop :=
  ∀ h s', iso15693Init init heap s = (.ok h, s') →
    ReadsAssigned (iso15693Api r fuel m proto) (iso15693Reads m) iso15693After .nothing calls s' h

theorem apiRunV_eq {heap heap' : Iso15693Handle} {proto proto' : Nat}
    {calls : List (ApiCall (Mem UInt8 × UInt8))} {s : σ}
    (hreads : RunReadsV r init fuel m heap proto calls s) :
    apiRunV r init fuel m heap proto calls s = apiRunV r init fuel m heap' proto' calls s := by
  refine apiRun_eq (iso15693Api_twice proto proto') ?_ fun s' hinit => hreads _ s' (bind_ok hinit)
  exact ⟨sameUid_nothing _ _ _ _, rfl⟩

end Iso15693

/-- Every run of Type A, and of the others those that read nothing unassigned. -/
theorem layer2_heap_independent {σ ρ : Type} (r : Reader σ) (randomBit : ρ → Bool × ρ)
    (hasSetSpeed : Bool) (ah : AsicHandle) (rb : Iso14443bReader σ) (rv : Iso15693Reader σ)
    (init : Exec σ Unit) (past rounds : Nat) (m : Scan.Masks) (rand : ρ) (s : σ) :
    (∀ (heap heap' : Handle) (calls : List (ApiCall Unit)),
      apiRunA r randomBit hasSetSpeed ah past rounds m heap rand calls s =
        apiRunA r randomBit hasSetSpeed ah past rounds m heap' rand calls s) ∧
      (∀ (heap heap' : Iso14443bHandle) (calls : List (ApiCall AnticolLocals)),
        RunReadsB rb past m heap calls s →
          apiRunB rb past m heap calls s = apiRunB rb past m heap' calls s) ∧
      ∀ (heap heap' : Iso15693Handle) (proto proto' : Nat) (calls : List (ApiCall (Mem UInt8 × UInt8))),
        RunReadsV rv init rounds m heap proto calls s →
          apiRunV rv init rounds m heap proto calls s =
            apiRunV rv init rounds m heap' proto' calls s := by
  refine ⟨fun heap heap' calls => ?_, fun heap heap' calls => apiRunB_eq rb past m,
    fun heap heap' proto proto' calls => apiRunV_eq rv init rounds m⟩
  rw [apiRunA, apiRunA, allocateA_eq heap heap']

def noCardA : Reader Nat where
  transceive _ _ _ rx rxLen _ := fun n => (.ok ⟨-eTimedOut, rxLen, rx⟩, n + 1)
  init := pure ()
  transceiveSf _ atqa := fun n => (.ok ⟨-eTimedOut, atqa⟩, n + 1)
  transceiveAcf acf := fun n => (.ok ⟨-eTimedOut, acf, iso14443aBitOfColNone⟩, n + 1)
  speed := rfid14443aSpeed106k
  setSpeed _ _ := pure ()

def cardV (uid : List UInt8) : Iso15693Reader Nat where
  transceive _ _ _ rx _ _ := fun n => (.ok ⟨0, 1, rx.set 0 0⟩, n + 1)
  transceiveAc _ _ _ _ := fun n => (.ok ⟨0, 10, [0, 0] ++ uid, 0⟩, n + 1)

def usedHandleB : Iso14443bHandle := { blankHandleB with uid := fun _ => 7, uidLen := 3, fwt := 9 }

def usedHandle15693 : Iso15693Handle := { initHandle15693 with uid := fun _ => 7, uidLen := 3 }

def openScanB : List (ApiCall AnticolLocals) :=
  [.open ⟨fun _ => 0, fun _ => 0, fun _ => 0, 0x1000⟩, .getopt optLayer2Uid 4, .scan fun _ => 0]

def openClose15693 : List (ApiCall (Mem UInt8 × UInt8)) :=
  [.open (fun _ => 0, 0), .getopt optLayer2Uid 8, .close fun _ => 0]

def allMasks : Scan.Masks := ⟨0x2e, 0x2e⟩

theorem layer2_heap_independent_opened :
    apiRunA noCardA (fun b : Bool => (b, b)) true rc632Open 0 1 allMasks initHandle true
          [.open (), .close fun _ => 0] 0 =
        apiRunA noCardA (fun b : Bool => (b, b)) true rc632Open 0 1 allMasks
          { initHandle with flags := optLayer2Wup } true [.open (), .close fun _ => 0] 0 ∧
      apiRunB plainCardB 0 allMasks blankHandleB openScanB 0 =
        apiRunB plainCardB 0 allMasks usedHandleB openScanB 0 ∧
      apiRunV (cardV [1, 2, 3, 4, 5, 6, 7, 8]) (pure ()) 1 allMasks initHandle15693 0 openClose15693 0 =
        apiRunV (cardV [1, 2, 3, 4, 5, 6, 7, 8]) (pure ()) 1 allMasks usedHandle15693 5 openClose15693
          0 := by
  have hind := layer2_heap_independent noCardA (fun b : Bool => (b, b)) true rc632Open plainCardB
    (cardV [1, 2, 3, 4, 5, 6, 7, 8]) (pure ()) 0 1 allMasks true 0
  refine ⟨hind.1 _ _ _, hind.2.1 _ _ _ ?_, hind.2.2 _ _ _ _ _ ?_⟩
  · intro h s hinit
    cases hinit
    exact ⟨trivial, ⟨fun _ => .inl rfl, fun h => absurd h (by decide), by decide⟩, .inl rfl, trivial⟩
  · intro h s hinit
    cases hinit
    exact ⟨trivial, fun _ => .inl rfl, Nat.le_refl _, trivial⟩

/-- A close right after `init` takes its time-out, or the bytes it sends, from the heap. -/
theorem close_of_heap :
    apiRunB plainCardB 0 allMasks blankHandleB [.close fun _ => 0] 0 ≠
        apiRunB plainCardB 0 allMasks usedHandleB [.close fun _ => 0] 0 ∧
      apiRunV (cardV []) (pure ()) 1 allMasks initHandle15693 0 [.close fun _ => 0] 0 ≠
        apiRunV (cardV []) (pure ()) 1 allMasks usedHandle15693 0 [.close fun _ => 0] 0 := by
  constructor
  · intro h
    have htimeouts := congrArg (fun x => x.2.map fun e => e.frames.map Sent.timeout) h
    exact absurd htimeouts (by decide)
  · intro h
    have htx := congrArg (fun x => x.2.map fun e => e.frames.map Sent.tx) h
    exact absurd htx (by decide)

end Librfid.Layer2
