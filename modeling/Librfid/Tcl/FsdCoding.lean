import Librfid.Tcl.Reactivation
import Librfid.Layer2.Allocation

namespace Librfid.Tcl

open Exec Layer2

structure FsdCoding (past mru fsd : Nat) : Prop where
  mem : fsd ∈ fsdiTable
  greatest : 16 ≤ mru → IsGreatest {v | v ∈ fsdiTable ∧ v ≤ mru} fsd
  decodes : ∃ fsdi, iso14443FsdToFsdi fsd = some fsdi ∧
    iso14443FsdiToFsd past fsdi.toNat = some fsd

theorem fsdCoding_approx (past mru : Nat) : FsdCoding past mru (iso14443FsdApprox mru) where
  mem := iso14443FsdApprox_mem mru
  greatest := iso14443FsdApprox_greatest
  decodes := by
    obtain ⟨fsdi, hfsdi⟩ := iso14443FsdToFsdi_of_mem (iso14443FsdApprox_mem mru)
    exact ⟨fsdi, hfsdi, (iso14443FsdToFsdi_decodes past hfsdi).2⟩

/-- A code that a card is told stands for `fsd`, which is not more than the reader can take. -/
structure Tells (past mru fsd : Nat) (code : UInt8) : Prop where
  decodes : iso14443FsdiToFsd past code.toNat = some fsd
  le : 16 ≤ mru → fsd ≤ mru

section Rats

variable {σ : Type} (l2 : TclLayer2 σ) (past : Nat)

def SendsRats (fsd : Nat) (th : TclHandle) : Prop :=
  ∃ fsdi told, (∀ s, tclRequestAts l2 past (s, th) =
      (when (th.state ≠ .initial) (fail (-1)) >>= fun _ => tclSendRats l2 past th fsdi) (s, th)) ∧
    (ratsCall l2.ah th fsdi).tx = [0xe0, told] ∧ Tells past l2.ah.mru fsd (told >>> 4)

theorem rats_fsdi (cid : Nat) {fsdi : UInt8} (h : fsdi.toNat < fsdiTable.length) :
    (UInt8.ofNat (cid &&& 0x0f) ||| fsdi <<< 4 &&& 0xf0) >>> 4 = fsdi := by
  have hcodes : ∀ code < 9, ∀ low < 16,
      (UInt8.ofNat low ||| UInt8.ofNat code <<< 4 &&& 0xf0) >>> 4 = UInt8.ofNat code := by
    decide
  have hlow : cid &&& 0x0f < 16 := Nat.lt_of_le_of_lt Nat.and_le_right (by decide)
  have hfsdi := hcodes fsdi.toNat h (cid &&& 0x0f) hlow
  rwa [UInt8.ofNat_toNat] at hfsdi

theorem sendsRats_of_fsd {fsd : Nat} (hcoding : FsdCoding past l2.ah.mru fsd) {th : TclHandle}
    (hth : th.fsd = fsd) : SendsRats l2 past fsd th := by
  obtain ⟨fsdi, hfsdi, hfsd⟩ := hcoding.decodes
  refine ⟨fsdi, _, fun s => ?_, rfl, ?_, fun hmru => (hcoding.greatest hmru).1.2⟩
  · rw [tclRequestAts, bind_ok (show Exec.get (s, th) = (.ok th, (s, th)) from rfl)]
    simp only [hth, hfsdi]
  · rw [rats_fsdi _ (iso14443FsdToFsdi_decodes past hfsdi).1]
    exact hfsd

end Rats

section Attrib

variable {σ : Type} (r : Iso14443bReader σ) (past : Nat)

def SendsAttrib (fsd : Nat) (h : Iso14443bHandle) : Prop :=
  ∃ fsdi, (∀ stack inf rxData rxLen s, attribCode r stack inf rxData rxLen (s, h) =
      attribTransmit r stack inf rxData rxLen h fsdi (s, h)) ∧
    (∀ stack inf rxData rxLenPtr rxLen s, transceiveAttrib r stack inf rxData rxLenPtr rxLen (s, h) =
      if rxLenPtr ≥ rxLenPtr - 1 then (.ok ⟨-eInval, rxData, rxLen⟩, (s, h))
      else attribTransmit r stack inf rxData rxLen h fsdi (s, h)) ∧
    ∀ inf, ∃ told, (attribFrame h fsdi inf)[6]? = some told ∧
      Tells past r.ah.mru fsd (told &&& 0x0f)

theorem attrib_fsdi {fsdi : UInt8} (h : fsdi.toNat < fsdiTable.length) :
    fsdi &&& 0x0f &&& 0x0f = fsdi := by
  have hcodes : ∀ code < 9, UInt8.ofNat code &&& 0x0f &&& 0x0f = UInt8.ofNat code := by decide
  have hfsdi := hcodes fsdi.toNat h
  rwa [UInt8.ofNat_toNat] at hfsdi

theorem sendsAttrib_of_fsd {fsd : Nat} (hcoding : FsdCoding past r.ah.mru fsd)
    {h : Iso14443bHandle} (hh : h.fsd = fsd) : SendsAttrib r past fsd h := by
  obtain ⟨fsdi, hfsdi, hfsd⟩ := hcoding.decodes
  have hcode : ∀ stack inf rxData rxLen s, attribCode r stack inf rxData rxLen (s, h) =
      attribTransmit r stack inf rxData rxLen h fsdi (s, h) := fun stack inf rxData rxLen s => by
    rw [attribCode, bind_ok (show Exec.get (s, h) = (.ok h, (s, h)) from rfl)]
    simp only [hh, hfsdi]
  refine ⟨fsdi, hcode, fun stack inf rxData rxLenPtr rxLen s => ?_, fun inf => ⟨_, rfl, ?_,
    fun hmru => (hcoding.greatest hmru).1.2⟩⟩
  · rw [transceiveAttrib, ← hcode]
    split_ifs <;> rfl
  · rw [attrib_fsdi (iso14443FsdToFsdi_decodes past hfsdi).1]
    exact hfsd

end Attrib

section Runs

variable {σ : Type} (r : Iso14443bReader σ) (past : Nat) (m : Scan.Masks)

theorem parseAtqb_fsd (ah : AsicHandle) (h : Iso14443bHandle) (atqb : Mem UInt8) :
    (parseAtqb ah past h atqb).2.fsd = h.fsd := by
  rw [parseAtqb_eq, atqbFrameSize_eq, atqbProtocol_eq, atqbOptions_eq]
  split_ifs <;> rfl

theorem protocolScan_keeps {τ : Type} {I : τ → Prop} (a : Scan.Answers) (m : Scan.Masks)
    (id : Layer2Id) : Exec.Keeps I (protocolScan a m id) := by
  unfold protocolScan
  split
  · exact .pure _
  · exact .fail _
  · exact .hang

variable {J : Iso14443bHandle → Prop} (hJ : ∀ h h' : Iso14443bHandle, h'.fsd = h.fsd → J h → J h')
include hJ

theorem sendReqbSlots_fsd (afi : UInt8) (isWup : Bool) (slots : List Nat) (atqb : Mem UInt8)
    (atqbLen : Nat) :
    Exec.Keeps (fun s => J s.2) (sendReqbSlots r past afi isWup slots atqb atqbLen) := by
  induction slots generalizing atqb atqbLen with
  | nil => exact .pure _
  | cons slot slots ih =>
    have hstate : ∀ state, Exec.Keeps (fun s : σ × Iso14443bHandle => J s.2) (setStateB state) :=
      fun state => keeps_modify_snd fun h => hJ h _ rfl
    refine .bind keeps_lift_snd fun x => .bind (hstate _) fun _ => .ite (fun _ => ih _ _) fun _ =>
      .ite (fun _ => ih _ _) fun _ => keeps_get_bind fun h hh => ?_
    refine .bind (keeps_modify_snd fun _ _ => hJ h _ (parseAtqb_fsd past _ _ _) hh) fun _ => ?_
    exact .ite (fun _ => .bind (hstate _) fun _ => .pure _) fun _ => ih _ _

theorem iso14443bApi_fsd (c : ApiCall AnticolLocals) :
    Exec.Keeps (fun s => J s.2) (iso14443bApi r past m c) := by
  have hstate : ∀ state,
      Exec.Keeps (fun s : (σ × List Sent) × Iso14443bHandle => J s.2) (setStateB state) :=
    fun state => keeps_modify_snd fun h => hJ h _ rfl
  cases c with
  | «open» loc =>
    have hopen : Exec.Keeps (fun s => J s.2) (iso14443bAnticol r.recording past loc) := by
      rw [iso14443bAnticol_eq]
      exact .bind (sendReqbSlots_fsd r.recording past hJ 0 false _ loc.atqb atqbSize) fun _ =>
        .ite (fun _ => .pure _) fun _ => .pure _
    exact .bind hopen fun _ => .pure _
  | close stack =>
    refine .bind (keeps_get_bind fun h hh => .bind keeps_lift_snd fun x => .bind (hstate _) fun _ =>
      .ite (fun _ => .pure _) fun _ => .ite (fun _ => .pure _) fun _ => ?_) fun _ => .pure _
    exact .bind (hstate _) fun _ => .pure _
  | getopt optname optlen => exact keeps_get_bind fun _ _ => .pure _
  | setopt optname optval optlen undef =>
    refine keeps_get_bind fun h hh => .bind (keeps_modify_snd fun _ _ => hJ h _ ?_ hh) fun _ =>
      .pure _
    unfold setoptB rfidLayer2Setopt iso14443bSetopt
    split_ifs <;> rfl
  | scan stack =>
    exact keeps_get_bind fun _ _ => protocolScan_keeps _ m .iso14443b

end Runs

inductive ReachedB {σ : Type} (r : Iso14443bReader σ) (past : Nat) (m : Scan.Masks) :
    Iso14443bHandle → Prop
  | init {heap h : Iso14443bHandle} {s s' : σ} :
    iso14443bInit r heap s = (.ok h, s') → ReachedB r past m h
  | call {h : Iso14443bHandle} (c : ApiCall AnticolLocals) (s : σ × List Sent) :
    ReachedB r past m h → ReachedB r past m (iso14443bApi r past m c (s, h)).2.2
  | request {h : Iso14443bHandle} (stack : Mem UInt8) (afi : UInt8) (isWup : Bool) (slots : Nat)
    (s : σ) : ReachedB r past m h → ReachedB r past m (sendReqb r past stack afi isWup slots (s, h)).2.2

theorem ReachedB.fsd {σ : Type} {r : Iso14443bReader σ} {past : Nat} {m : Scan.Masks}
    {h : Iso14443bHandle} (hh : ReachedB r past m h) : h.fsd = iso14443FsdApprox r.ah.mru := by
  induction hh with
  | init hinit =>
    obtain ⟨_, _, -, hinit⟩ := of_bind_ok hinit
    cases hinit
    rfl
  | call c s _ ih =>
    exact iso14443bApi_fsd r past m (J := fun h => h.fsd = iso14443FsdApprox r.ah.mru)
      (fun _ _ hsame hh => hsame.trans hh) c (s, _) ih
  | request stack afi isWup slots s _ ih =>
    exact sendReqbSlots_fsd r past (J := fun h => h.fsd = iso14443FsdApprox r.ah.mru)
      (fun _ _ hsame hh => hsame.trans hh) afi isWup _ stack atqbSize (s, _) ih

/-- The size for an MRU always has a code, the handles keep it, and so RATS and ATTRIB always have
a code to tell the card, which is never one of more than the reader can take. -/
theorem fsd_encodable {σ : Type} (l2 : TclLayer2 σ) (r : Iso14443bReader σ) (past fuel : Nat)
    (m : Scan.Masks) :
    (∀ mru, FsdCoding past mru (iso14443FsdApprox mru)) ∧ Monotone iso14443FsdApprox ∧
      (l2.id = .iso14443a → ∀ ops s, ∀ e ∈ tclTrace l2 past fuel ops s (tclInit l2.ah),
        SendsRats l2 past (iso14443FsdApprox l2.ah.mru) e.before) ∧
      ∀ h, ReachedB r past m h → SendsAttrib r past (iso14443FsdApprox r.ah.mru) h := by
  refine ⟨fsdCoding_approx past, iso14443FsdApprox_monotone, fun hid ops s => ?_, fun h hh => ?_⟩
  · have hkeep : ∀ op, Exec.Keeps (fun s => s.2.fsd = iso14443FsdApprox l2.ah.mru)
        (TclOp.run l2.logging past fuel op) := by
      apply run_fsd past fuel (J := fun th => th.fsd = iso14443FsdApprox l2.ah.mru)
      exact fun _ _ hsame hth => (hsame hid).trans hth
    exact forall_mem_tclTrace l2 hkeep
      (fun _ _ _ hth => sendsRats_of_fsd l2 past (fsdCoding_approx past _) hth) ops s rfl
  · exact sendsAttrib_of_fsd r past (fsdCoding_approx past _) hh.fsd

end Librfid.Tcl
