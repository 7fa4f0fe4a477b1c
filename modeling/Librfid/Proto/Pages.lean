import Librfid.Lib.Store
import Librfid.Proto.MifareUl

namespace Librfid.Proto

open Rc632 Exec

structure Page where
  byte0 : UInt8
  byte1 : UInt8
  byte2 : UInt8
  byte3 : UInt8
  deriving DecidableEq

namespace Page

def blank : Page := ⟨0, 0, 0, 0⟩

def bytes (p : Page) : List UInt8 := [p.byte0, p.byte1, p.byte2, p.byte3]

def ofBytes (l : List UInt8) : Page := ⟨l.getD 0 0, l.getD 1 0, l.getD 2 0, l.getD 3 0⟩

def load (m : Mem UInt8) (p : Int) : Page := ⟨m p, m (p + 1), m (p + 2), m (p + 3)⟩

theorem load_bytes (m : Mem UInt8) : m.load 0 4 = (load m 0).bytes := rfl

theorem load_store {m src : Mem UInt8} {n i : Nat} (h : 4 * (i + 1) ≤ n) :
    load (m.store 0 (src.load 0 n)) (4 * i : Nat) = load src (4 * i : Nat) := by
  have hbyte : ∀ j : Nat, j < n → m.store 0 (src.load 0 n) j = src j := fun j hj => by
    have hlen : j < (src.load 0 n).length := (Mem.length_load src 0 n).symm ▸ hj
    have hstore := Mem.store_add m 0 (src.load 0 n) j hlen
    rwa [Mem.getElem_load, Int.zero_add] at hstore
  simp only [load, mk.injEq]
  exact ⟨hbyte (4 * i) (by omega), hbyte (4 * i + 1) (by omega), hbyte (4 * i + 2) (by omega),
    hbyte (4 * i + 3) (by omega)⟩

end Page

def lockBytes (m : Nat → Page) : LockBytes := ⟨(m mifareUlPageLock).byte2, (m mifareUlPageLock).byte3⟩

def Free (m : Nat → Page) (page : Nat) : Prop := 2 ≤ page ∧ ¬ (lockBytes m).Locked page

/-- What a tag makes of a write: the pages from 4 on have what was written, and a lock bit that was set
stays so. -/
structure TagRules where
  merge : Nat → Page → Page → Page
  plain : ∀ {page : Nat} (v old : Page), 4 ≤ page → merge page v old = v
  sticky : ∀ (v old : Page) (q : Nat), (⟨old.byte2, old.byte3⟩ : LockBytes).Locked q →
    (⟨(merge mifareUlPageLock v old).byte2, (merge mifareUlPageLock v old).byte3⟩ : LockBytes).Locked q

/-- A tag in the field.  It may miss a frame, and its answer may be missed. -/
structure UlTag {σ : Type} (r : Reader σ) (rules : TagRules) (pages : σ → Nat → Page) : Prop where
  read : ∀ {page timeout : Nat} {rx : Mem UInt8} {s s' : σ} {x : AbResult}, page ≤ mifareUlPageMax →
    r.transceive .iso14443aFrameRegular
      (Mem.ofList (fun _ => 0) [mifareUlCmdRead, UInt8.ofNat (page &&& 0xff)]) 2 rx 16 timeout s =
      (.ok x, s') →
    pages s' = pages s ∧ (0 ≤ x.ret → x.rxLen = 16 ∧
      ∀ i < 4, Page.load x.rx (4 * i : Nat) = pages s ((page + i) % 16))
  write : ∀ {page timeout : Nat} {txData : List UInt8} {rx : Mem UInt8} {s s' : σ} {x : AbResult},
    txData.length = 4 → page ≤ mifareUlPageMax →
    r.transceive .iso14443aFrameRegular (Mem.ofList (fun _ => 0) (mfulWriteFrame page txData)) 6 rx 10
      timeout s = (.ok x, s') →
    Store.Step rules.merge Free (pages s)
      (if 0 ≤ x.ret ∧ x.rx 0 = mifareUlRespAck then .wrote page (.ofBytes txData)
      else .unsure page (.ofBytes txData)) (pages s')

inductive MfulCall
  | read (page : Nat) (rxData : Mem UInt8) (rxLen : Nat)
  | write (page : Nat) (txData : List UInt8)
  | lockPage (page : Nat)

inductive MfulAnswer
  | read (x : MfulReadResult)
  | write (ret : Int)

section

variable {σ : Type} (r : Reader σ) (undef : UInt8) (stack : Mem UInt8)

def MfulCall.run : MfulCall → Exec σ MfulAnswer
  | .read page rxData rxLen => do
    let x ← mfulRead r stack page rxData rxLen
    pure (.read x)
  | .write page txData => do
    let ret ← mfulWrite r stack page txData
    pure (.write ret)
  | .lockPage page => do
    let ret ← rfidMfulLockPage r undef stack true page
    pure (.write ret)

def mfulCalls : List MfulCall → Exec σ (List MfulAnswer)
  | [] => pure []
  | c :: calls => do
    let x ← c.run r undef stack
    let xs ← mfulCalls calls
    pure (x :: xs)

def blankPages : List Nat → Exec σ Int
  | [] => pure 0
  | i :: pages => do
    let ret ← mfulWrite r stack i [0x00, 0x00, 0x00, 0x00]
    if ret < 0 then pure ret else blankPages pages

def mifareUlightBlank : Exec σ Int := blankPages r stack (List.range' 4 (mifareUlPageMax - 3))

def readPages : List Nat → Mem UInt8 → Nat → Exec (σ × List (Nat × List UInt8)) Int
  | [], _, _ => pure 0
  | i :: pages, buf, len => do
    let x ← lift (mfulRead r stack i buf len)
    if x.ret < 0 then pure x.ret
    else do
      modify fun out => out ++ [(i, x.rxData.load 0 4)]
      readPages pages x.rxData x.rxLen

def mifareUlightRead (buf : Mem UInt8) : Exec (σ × List (Nat × List UInt8)) Int :=
  readPages r stack (List.range (mifareUlPageMax + 1)) buf 20

end

def seenWrite (page : Nat) (txData : List UInt8) (ret : Int) : List (Store.Event Nat Page) :=
  if 0 ≤ ret then [.wrote page (.ofBytes txData)]
  else if txData.length ≠ 4 ∨ page > mifareUlPageMax then []
  else [.unsure page (.ofBytes txData)]

/-- A read gives the pages that fit in the caller's buffer, and page 0 comes behind page 15. -/
def MfulCall.seen (undef : UInt8) : MfulCall → MfulAnswer → List (Store.Event Nat Page)
  | .read page _ _, .read x =>
    if x.ret < 0 then []
    else (List.range (x.rxLen / 4)).map fun i =>
      .gave ((page + i) % 16) (.load x.rxData (4 * i : Nat))
  | .write page txData, .write ret => seenWrite page txData ret
  | .lockPage page, .write ret =>
    if page < 3 ∨ page > 15 then [] else seenWrite mifareUlPageLock (mfulLockBuf undef page) ret
  | _, _ => []

def seenBy (undef : UInt8) (calls : List MfulCall) (answers : List MfulAnswer) :
    List (Store.Event Nat Page) :=
  (List.zipWith (MfulCall.seen undef) calls answers).flatten

theorem TagRules.free_put (rules : TagRules) {m : Nat → Page} {j k : Nat} {v : Page}
    (h : ¬ Free m j) : ¬ Free (Store.put rules.merge k v m) j := by
  rintro ⟨hlow, hfree⟩
  refine h ⟨hlow, fun hlocked => hfree ?_⟩
  by_cases hk : k = mifareUlPageLock
  · subst hk
    have hsticky := rules.sticky v (m mifareUlPageLock) j hlocked
    simpa only [lockBytes, Store.put_self] using hsticky
  · simpa only [lockBytes, Store.put_of_ne (Ne.symm hk)] using hlocked

section

variable {σ : Type} {r : Reader σ} {rules : TagRules} {pages : σ → Nat → Page}
  (tag : UlTag r rules pages) {undef : UInt8} {stack : Mem UInt8}

include tag

theorem mfulRead_pages {page rxLen : Nat} {rxData : Mem UInt8} {x : MfulReadResult} {s s' : σ}
    (h : mfulRead r stack page rxData rxLen s = (.ok x, s')) :
    pages s' = pages s ∧ (0 ≤ x.ret → x.rxLen = min 16 rxLen ∧
      ∀ i, 4 * (i + 1) ≤ x.rxLen → Page.load x.rxData (4 * i : Nat) = pages s ((page + i) % 16)) := by
  rw [mfulRead] at h
  split_ifs at h with hpage
  · cases h
    exact ⟨rfl, fun hret => absurd hret (by decide : ¬ 0 ≤ -eInval)⟩
  obtain ⟨x₀, s₁, hx, h⟩ := of_bind_ok h
  obtain ⟨hsame, hgood⟩ := tag.read (Nat.not_lt.mp hpage) hx
  by_cases hneg : x₀.ret < 0
  · rw [if_pos hneg] at h
    cases h
    exact ⟨hsame, fun hret => absurd hneg (Int.not_lt.mpr hret)⟩
  · rw [if_neg hneg] at h
    cases h
    refine ⟨hsame, fun hret => ?_⟩
    obtain ⟨hlen, hpages⟩ := hgood hret
    have hmin : (if x₀.rxLen < rxLen then x₀.rxLen else rxLen) = min 16 rxLen := by
      rw [hlen]
      split_ifs <;> omega
    refine ⟨hmin, fun i hi => ?_⟩
    dsimp only at hi ⊢
    rw [Page.load_store hi, hpages i (by omega)]

theorem mfulWrite_history {page : Nat} {txData : List UInt8} {ret : Int} {s s' : σ}
    (h : mfulWrite r stack page txData s = (.ok ret, s')) :
    Store.History rules.merge Free (pages s) (seenWrite page txData ret) (pages s') := by
  rw [mfulWrite] at h
  split_ifs at h with hinval
  · cases h
    rw [seenWrite, if_neg (by decide), if_pos hinval]
    exact .nil _
  obtain ⟨hlen, hpage⟩ := not_or.mp hinval
  obtain ⟨x, s₁, hx, h⟩ := of_bind_ok h
  have hstep := tag.write (not_not.mp hlen) (Nat.not_lt.mp hpage) hx
  by_cases hneg : x.ret < 0
  · rw [if_pos hneg] at h
    cases h
    rw [seenWrite, if_neg (Int.not_le.mpr hneg), if_neg hinval]
    rw [if_neg fun hgood => absurd hneg (Int.not_lt.mpr hgood.1)] at hstep
    exact .single hstep
  rw [if_neg hneg] at h
  by_cases hack : x.rx 0 = mifareUlRespAck
  · rw [if_neg (not_not.mpr hack)] at h
    cases h
    rw [seenWrite, if_pos (Int.not_lt.mp hneg)]
    rw [if_pos ⟨Int.not_lt.mp hneg, hack⟩] at hstep
    exact .single hstep
  · rw [if_pos hack] at h
    cases h
    rw [seenWrite, if_neg (by decide), if_neg hinval]
    rw [if_neg fun hgood => absurd hgood.2 hack] at hstep
    exact .single hstep

theorem mfulCall_history {c : MfulCall} {x : MfulAnswer} {s s' : σ}
    (h : c.run r undef stack s = (.ok x, s')) :
    Store.History rules.merge Free (pages s) (c.seen undef x) (pages s') := by
  cases c with
  | read page rxData rxLen =>
    obtain ⟨y, s₁, hread, h⟩ := of_bind_ok h
    cases h
    obtain ⟨hsame, hgood⟩ := mfulRead_pages tag hread
    rw [MfulCall.seen, hsame]
    split_ifs with hneg
    · exact .nil _
    · obtain ⟨-, hpages⟩ := hgood (Int.not_lt.mp hneg)
      have hreads : Store.History rules.merge Free (pages s)
          (((List.range (y.rxLen / 4)).map fun i => (page + i) % 16).map fun p => .gave p (pages s p))
          (pages s) := .reads _ _
      rw [List.map_map] at hreads
      refine (congrArg (Store.History _ _ _ · _) (List.map_congr_left fun i hi => ?_)).mp hreads
      rw [List.mem_range] at hi
      rw [Function.comp_apply, hpages i (by omega)]
  | write page txData =>
    obtain ⟨ret, s₁, hwrite, h⟩ := of_bind_ok h
    cases h
    exact mfulWrite_history tag hwrite
  | lockPage page =>
    obtain ⟨ret, s₁, hlock, h⟩ := of_bind_ok h
    cases h
    rw [rfidMfulLockPage, if_neg (not_not.mpr rfl)] at hlock
    rw [MfulCall.seen]
    split_ifs at hlock ⊢
    · cases hlock
      exact .nil _
    · exact mfulWrite_history tag hlock

theorem mfulCalls_history {calls : List MfulCall} {answers : List MfulAnswer} {s s' : σ}
    (h : mfulCalls r undef stack calls s = (.ok answers, s')) :
    Store.History rules.merge Free (pages s) (seenBy undef calls answers) (pages s') := by
  induction calls generalizing s answers with
  | nil =>
    cases h
    exact .nil _
  | cons c calls ih =>
    obtain ⟨x, s₁, hcall, h⟩ := of_bind_ok h
    obtain ⟨xs, s₂, hcalls, h⟩ := of_bind_ok h
    cases h
    exact (mfulCall_history tag hcall).append (ih hcalls)

/-- Whatever is lost, the tag is a store: what a read gives at any point is allowed by the answers
before it, as is what the tag is left with, and a page that is locked keeps what it has. -/
theorem mfulCalls_store {calls : List MfulCall} {answers : List MfulAnswer} {s s' : σ}
    (h : mfulCalls r undef stack calls s = (.ok answers, s')) :
    (∀ es page v es', seenBy undef calls answers = es ++ .gave page v :: es' →
      v ∈ es.foldl (Store.learn rules.merge) (fun p => {pages s p}) page) ∧
    (∀ page, pages s' page ∈
      (seenBy undef calls answers).foldl (Store.learn rules.merge) (fun p => {pages s p}) page) ∧
    ∀ page, page < 2 ∨ (lockBytes (pages s)).Locked page → pages s' page = pages s page := by
  have hhist := mfulCalls_history tag h
  refine ⟨hhist.known.1, hhist.known.2, fun page hpage => ?_⟩
  refine hhist.frozen (fun _ => rules.free_put) fun hfree => ?_
  rcases hpage with hlow | hlocked
  · exact absurd hfree.1 (Nat.not_le.mpr hlow)
  · exact hfree.2 hlocked

theorem mfulWrite_blank {page : Nat} (hpage : 4 ≤ page) {ret : Int} {s s' : σ}
    (h : mfulWrite r stack page [0x00, 0x00, 0x00, 0x00] s = (.ok ret, s')) :
    pages s' = Function.update (pages s) page .blank ∨ ret < 0 ∧ pages s' = pages s := by
  have hput : Store.put rules.merge page .blank (pages s) = Function.update (pages s) page .blank := by
    rw [Store.put, rules.plain _ _ hpage]
  have hhist := mfulWrite_history tag h
  rw [seenWrite] at hhist
  split_ifs at hhist with hret
  · exact .inl (hhist.of_single.of_wrote.trans hput)
  · exact .inr ⟨Int.not_le.mp hret, hhist.of_nil⟩
  · rcases hhist.of_single.of_unsure with hnew | hsame
    · exact .inl (hnew.trans hput)
    · exact .inr ⟨Int.not_le.mp hret, hsame⟩

theorem blankPages_pages {n page : Nat} (hlow : 4 ≤ page) {ret : Int} {s s' : σ}
    (h : blankPages r stack (List.range' page n) s = (.ok ret, s')) :
    ret ≤ 0 ∧ ∃ k ≤ n, (ret = 0 → k = n) ∧
      pages s' = fun p => if page ≤ p ∧ p < page + k then .blank else pages s p := by
  induction n generalizing page s with
  | zero =>
    cases h
    refine ⟨Int.le_refl 0, 0, Nat.le_refl 0, fun _ => rfl, funext fun p => ?_⟩
    rw [if_neg (by omega)]
  | succ n ih =>
    obtain ⟨ret₁, s₁, hwrite, h⟩ := of_bind_ok h
    have hupdate : ∀ k p, (if page + 1 ≤ p ∧ p < page + 1 + k then Page.blank
        else Function.update (pages s) page .blank p) =
        if page ≤ p ∧ p < page + (k + 1) then .blank else pages s p := fun k p => by
      by_cases hp : p = page
      · subst hp
        rw [if_neg (by omega), Function.update_self, if_pos (by omega)]
      · rw [Function.update_of_ne hp]
        exact if_congr (by omega) rfl rfl
    rcases mfulWrite_blank tag hlow hwrite with hblank | ⟨hneg, hsame⟩
    · by_cases hneg : ret₁ < 0
      · rw [if_pos hneg] at h
        cases h
        refine ⟨Int.le_of_lt hneg, 1, by omega, fun hzero => by omega, funext fun p => ?_⟩
        rw [hblank, ← hupdate 0 p, if_neg (by omega)]
      · rw [if_neg hneg] at h
        obtain ⟨hret, k, hk, hall, hpages⟩ := ih (Nat.le_succ_of_le hlow) h
        refine ⟨hret, k + 1, Nat.succ_le_succ hk, fun hzero => congrArg _ (hall hzero),
          funext fun p => ?_⟩
        rw [hpages, hblank, ← hupdate k p]
    · rw [if_pos hneg] at h
      cases h
      refine ⟨Int.le_of_lt hneg, 0, Nat.zero_le _, fun hzero => by omega, funext fun p => ?_⟩
      rw [hsame, if_neg (by omega)]

theorem readPages_pages {n page : Nat} (hpage : page + n ≤ 16) {buf : Mem UInt8} {len : Nat}
    (hlen : 16 ≤ len) {ret : Int} {s s' : σ} {out out' : List (Nat × List UInt8)}
    (h : readPages r stack (List.range' page n) buf len (s, out) = (.ok ret, (s', out'))) :
    pages s' = pages s ∧ ret ≤ 0 ∧ ∃ k ≤ n, (ret = 0 → k = n) ∧
      out' = out ++ (List.range' page k).map fun p => (p, (pages s p).bytes) := by
  induction n generalizing page buf len s out with
  | zero =>
    cases h
    exact ⟨rfl, Int.le_refl 0, 0, Nat.le_refl 0, fun _ => rfl, (List.append_nil out').symm⟩
  | succ n ih =>
    obtain ⟨x, s₁, hlift, h⟩ := of_bind_ok h
    obtain ⟨s₁, hread, rfl⟩ := of_lift_ok hlift
    obtain ⟨hsame, hgood⟩ := mfulRead_pages tag hread
    by_cases hneg : x.ret < 0
    · rw [if_pos hneg] at h
      cases h
      exact ⟨hsame, Int.le_of_lt hneg, 0, Nat.zero_le _, fun hzero => by omega,
        (List.append_nil out').symm⟩
    · rw [if_neg hneg] at h
      obtain ⟨_, s₂, hmod, h⟩ := of_bind_ok h
      cases hmod
      obtain ⟨hxlen, hbytes⟩ := hgood (Int.not_lt.mp hneg)
      rw [Nat.min_eq_left hlen] at hxlen
      have hline : x.rxData.load 0 4 = (pages s page).bytes := by
        have hfirst := hbytes 0 (by omega)
        rw [Nat.mod_eq_of_lt (by omega), Nat.add_zero] at hfirst
        rw [Page.load_bytes]
        exact congrArg Page.bytes hfirst
      obtain ⟨hsame', hret, k, hk, hall, hout⟩ := ih (by omega) (Nat.le_of_eq hxlen.symm) h
      refine ⟨hsame'.trans hsame, hret, k + 1, Nat.succ_le_succ hk, fun hzero => congrArg _ (hall hzero),
        ?_⟩
      rw [hout, hline, hsame, List.append_assoc, List.range'_succ, List.map_cons, List.singleton_append]

/-- A tag is made blank and printed. -/
theorem blank_then_read {buf : Mem UInt8} {ret ret' : Int} {s s₁ s' : σ} {out : List (Nat × List UInt8)}
    (hblank : mifareUlightBlank r stack s = (.ok ret, s₁))
    (hread : mifareUlightRead r stack buf (s₁, []) = (.ok ret', (s', out))) :
    ret ≤ 0 ∧ ret' ≤ 0 ∧ ∃ k n, 4 ≤ k ∧ k ≤ 16 ∧ n ≤ 16 ∧ (ret = 0 → k = 16) ∧ (ret' = 0 → n = 16) ∧
      (pages s' = fun p => if 4 ≤ p ∧ p < k then .blank else pages s p) ∧
      out = (List.range n).map fun p => (p, (pages s' p).bytes) := by
  obtain ⟨hret, k, hk, hall, hpages⟩ := blankPages_pages tag (Nat.le_refl 4) hblank
  rw [mifareUlightRead, List.range_eq_range'] at hread
  obtain ⟨hsame, hret', n, hn, hall', hout⟩ :=
    readPages_pages tag (Nat.le_refl 16) (by decide) hread
  have hmax : mifareUlPageMax = 15 := rfl
  refine ⟨hret, hret', 4 + k, n, by omega, by omega, hn, fun hzero => by have := hall hzero; omega, hall',
    ?_, ?_⟩
  · rw [hsame, hpages]
  · rw [hout, List.nil_append, ← List.range_eq_range', hsame]

end

instance (l : LockBytes) (page : Nat) : Decidable (l.Locked page) := by
  unfold LockBytes.Locked
  infer_instance

instance (m : Nat → Page) (page : Nat) : Decidable (Free m page) := inferInstanceAs (Decidable (_ ∧ _))

def orMerge (page : Nat) (v old : Page) : Page :=
  if page = mifareUlPageLock then ⟨old.byte0, old.byte1, old.byte2 ||| v.byte2, old.byte3 ||| v.byte3⟩
  else if page = mifareUlPageOtp then
    ⟨old.byte0 ||| v.byte0, old.byte1 ||| v.byte1, old.byte2 ||| v.byte2, old.byte3 ||| v.byte3⟩
  else v

def orRules : TagRules where
  merge := orMerge
  plain v old hpage := by
    have hlock : mifareUlPageLock = 2 := rfl
    have hotp : mifareUlPageOtp = 3 := rfl
    rw [orMerge, if_neg (by omega), if_neg (by omega)]
  sticky v old q hlocked :=
    (LockBytes.locked_write ⟨old.byte2, old.byte3⟩ v.byte2 v.byte3 q).mpr (.inl hlocked)

inductive Fate
  | heard | unheard | lost

structure FieldTag where
  pages : Nat → Page
  plan : List Fate

namespace FieldTag

def hear (m : Nat → Page) (tx : Mem UInt8) : List UInt8 × (Nat → Page) :=
  let page := (tx 1).toNat
  if tx 0 = mifareUlCmdRead then ((List.range 4).flatMap fun i => (m ((page + i) % 16)).bytes, m)
  else if Free m page then
    ([mifareUlRespAck], Store.put orMerge page (.ofBytes (tx.load 2 4)) m)
  else ([0x00], m)

def reader : Reader FieldTag where
  transceive _ tx _ rx rxLen _ w :=
    match w.plan.headD .heard with
    | .heard =>
      (.ok ⟨0, (hear w.pages tx).1.length, rx.store 0 (hear w.pages tx).1⟩,
        ⟨(hear w.pages tx).2, w.plan.tail⟩)
    | .unheard => (.ok ⟨-eTimedOut, rxLen, rx⟩, ⟨(hear w.pages tx).2, w.plan.tail⟩)
    | .lost => (.ok ⟨-eTimedOut, rxLen, rx⟩, ⟨w.pages, w.plan.tail⟩)
  init := pure ()
  transceiveSf _ atqa := pure ⟨-eTimedOut, atqa⟩
  transceiveAcf acf := pure ⟨-eTimedOut, acf, iso14443aBitOfColNone⟩
  speed := rfid14443aSpeed106k
  setSpeed _ _ := pure ()

theorem toNat_page {page : Nat} (h : page ≤ mifareUlPageMax) :
    (UInt8.ofNat (page &&& 0xff)).toNat = page := by
  have hmax : mifareUlPageMax = 15 := rfl
  rw [Nat.and_two_pow_sub_one_eq_mod page 8, UInt8.toNat_ofNat', Nat.mod_mod]
  omega

theorem hear_read {page : Nat} (h : page ≤ mifareUlPageMax) (m : Nat → Page) :
    hear m (Mem.ofList (fun _ => 0) [mifareUlCmdRead, UInt8.ofNat (page &&& 0xff)]) =
      ((List.range 4).flatMap fun i => (m ((page + i) % 16)).bytes, m) := by
  have htx : Mem.ofList (fun _ => 0) [mifareUlCmdRead, UInt8.ofNat (page &&& 0xff)] 1 =
      UInt8.ofNat (page &&& 0xff) := rfl
  rw [hear, if_pos (by rfl), htx, toNat_page h]

theorem hear_write {page : Nat} {txData : List UInt8} (hlen : txData.length = 4)
    (h : page ≤ mifareUlPageMax) (m : Nat → Page) :
    hear m (Mem.ofList (fun _ => 0) (mfulWriteFrame page txData)) =
      if Free m page then ([mifareUlRespAck], Store.put orMerge page (.ofBytes txData) m)
      else ([0x00], m) := by
  have htx : Mem.ofList (fun _ => 0) (mfulWriteFrame page txData) 1 = UInt8.ofNat (page &&& 0xff) := rfl
  have hdata : (Mem.ofList (fun _ => 0) (mfulWriteFrame page txData)).load 2 4 = txData :=
    Mem.load_store_drop (fun _ => 0) 0 (mfulWriteFrame page txData) (k := 2) (n := 4)
      (congrArg (· + 2) hlen)
  have hcmd : ¬ Mem.ofList (fun _ => 0) (mfulWriteFrame page txData) 0 = mifareUlCmdRead :=
    (by decide : ¬ mifareUlCmdWrite = mifareUlCmdRead)
  rw [hear, if_neg hcmd, htx, toNat_page h, hdata]

theorem load_pages (m : Mem UInt8) (page : Nat → Page) {i : Nat} (hi : i < 4) :
    Page.load (m.store 0 ((List.range 4).flatMap fun i => (page i).bytes)) (4 * i : Nat) = page i := by
  obtain rfl | rfl | rfl | rfl : i = 0 ∨ i = 1 ∨ i = 2 ∨ i = 3 := by omega
  · rfl
  · rfl
  · rfl
  · rfl

theorem reader_tag : UlTag reader orRules pages where
  read {page timeout rx s s' x} hpage h := by
    cases hfate : s.plan.headD .heard with
    | heard =>
      simp only [reader, hfate, hear_read hpage] at h
      cases h
      exact ⟨rfl, fun _ => ⟨rfl, fun i hi => load_pages rx (fun i => s.pages ((page + i) % 16)) hi⟩⟩
    | unheard =>
      simp only [reader, hfate, hear_read hpage] at h
      cases h
      exact ⟨rfl, fun hret => absurd hret (by decide : ¬ 0 ≤ -eTimedOut)⟩
    | lost =>
      simp only [reader, hfate] at h
      cases h
      exact ⟨rfl, fun hret => absurd hret (by decide : ¬ 0 ≤ -eTimedOut)⟩
  write {page timeout txData rx s s' x} hlen hpage h := by
    have hneg : ¬ 0 ≤ -eTimedOut := by decide
    have hnak : ¬ (0x00 : UInt8) = mifareUlRespAck := by decide
    cases hfate : s.plan.headD .heard with
    | heard =>
      by_cases hfree : Free s.pages page
      · simp only [reader, hfate, hear_write hlen hpage, if_pos hfree] at h
        cases h
        rw [if_pos ⟨Int.le_refl 0, rfl⟩]
        exact .wrote _ hfree
      · simp only [reader, hfate, hear_write hlen hpage, if_neg hfree] at h
        cases h
        rw [if_neg fun hgood => hnak hgood.2]
        exact .lost _ _ _
    | unheard =>
      by_cases hfree : Free s.pages page
      · simp only [reader, hfate, hear_write hlen hpage, if_pos hfree] at h
        cases h
        rw [if_neg fun hgood => hneg hgood.1]
        exact .unheard _ hfree
      · simp only [reader, hfate, hear_write hlen hpage, if_neg hfree] at h
        cases h
        rw [if_neg fun hgood => hneg hgood.1]
        exact .lost _ _ _
    | lost =>
      simp only [reader, hfate] at h
      cases h
      rw [if_neg fun hgood => hneg hgood.1]
      exact .lost _ _ _

end FieldTag

def someCalls : List MfulCall :=
  [.write 4 [1, 2, 3, 4], .read 4 (fun _ => 0) 8, .lockPage 8, .write 8 [9, 9, 9, 9]]

theorem mfulCalls_store_some : ∃ answers s',
    mfulCalls FieldTag.reader 0 (fun _ => 0) someCalls ⟨fun _ => .blank, [.unheard]⟩ = (.ok answers, s') ∧
      seenBy 0 someCalls answers = [.unsure 4 ⟨1, 2, 3, 4⟩, .gave 4 ⟨1, 2, 3, 4⟩, .gave 5 .blank,
        .wrote 2 ⟨0, 0, 0, 1⟩, .unsure 8 ⟨9, 9, 9, 9⟩] ∧
      (∀ es page v es', seenBy 0 someCalls answers = es ++ .gave page v :: es' →
        v ∈ es.foldl (Store.learn orMerge) (fun _ => {.blank}) page) ∧
      (∀ page, s'.pages page ∈
        (seenBy 0 someCalls answers).foldl (Store.learn orMerge) (fun _ => {.blank}) page) ∧
      ∀ page, page < 2 ∨ (lockBytes fun _ => .blank).Locked page → s'.pages page = .blank := by
  obtain ⟨answers, s', hrun, hseen⟩ : ∃ answers s', mfulCalls FieldTag.reader 0 (fun _ => 0) someCalls
      ⟨fun _ => .blank, [.unheard]⟩ = (.ok answers, s') ∧ seenBy 0 someCalls answers =
        [.unsure 4 ⟨1, 2, 3, 4⟩, .gave 4 ⟨1, 2, 3, 4⟩, .gave 5 .blank, .wrote 2 ⟨0, 0, 0, 1⟩,
          .unsure 8 ⟨9, 9, 9, 9⟩] := ⟨_, _, rfl, rfl⟩
  exact ⟨answers, s', hrun, hseen, mfulCalls_store FieldTag.reader_tag hrun⟩

theorem blank_then_read_six : ∃ s₁ s' out,
    mifareUlightBlank FieldTag.reader (fun _ => 0)
        ⟨fun _ => ⟨7, 7, 7, 7⟩, [.heard, .heard, .unheard, .heard, .lost]⟩ = (.ok (-eTimedOut), s₁) ∧
      mifareUlightRead FieldTag.reader (fun _ => 0) (fun _ => 0) (s₁, []) =
        (.ok (-eTimedOut), (s', out)) ∧
      out = [(0, [7, 7, 7, 7])] ∧
      -eTimedOut ≤ 0 ∧ -eTimedOut ≤ 0 ∧ ∃ k n, 4 ≤ k ∧ k ≤ 16 ∧ n ≤ 16 ∧ (-eTimedOut = 0 → k = 16) ∧
        (-eTimedOut = 0 → n = 16) ∧
        (s'.pages = fun p => if 4 ≤ p ∧ p < k then .blank else ⟨7, 7, 7, 7⟩) ∧
        out = (List.range n).map fun p => (p, (s'.pages p).bytes) := by
  obtain ⟨s₁, s', out, hblank, hread, hout⟩ : ∃ s₁ s' out,
      mifareUlightBlank FieldTag.reader (fun _ => 0)
        ⟨fun _ => ⟨7, 7, 7, 7⟩, [.heard, .heard, .unheard, .heard, .lost]⟩ = (.ok (-eTimedOut), s₁) ∧
      mifareUlightRead FieldTag.reader (fun _ => 0) (fun _ => 0) (s₁, []) =
        (.ok (-eTimedOut), (s', out)) ∧ out = [(0, [7, 7, 7, 7])] := ⟨_, _, _, rfl, rfl, rfl⟩
  exact ⟨s₁, s', out, hblank, hread, hout, blank_then_read FieldTag.reader_tag hblank hread⟩

end Librfid.Proto
