import Librfid.Tcl.FrameSize

namespace Librfid.Tcl

open Layer2

def atsByte (t0 mask : UInt8) : Nat := if t0 &&& mask ≠ 0 then 1 else 0

def interfaceBytes (t0 : UInt8) : Nat := atsByte t0 0x10 + atsByte t0 0x20 + atsByte t0 0x40

theorem interfaceBytes_le (t0 : UInt8) : interfaceBytes t0 ≤ 3 := by
  have hbit : ∀ mask, atsByte t0 mask ≤ 1 := by
    intro mask
    unfold atsByte
    split_ifs <;> omega
  have hta := hbit 0x10
  have htb := hbit 0x20
  have htc := hbit 0x40
  unfold interfaceBytes
  omega

/-- `tcl_parse_ats` works with the smaller of TL and the size. -/
def atsEnd (ats : Mem UInt8) (size : Nat) : Nat := min (ats 0).toNat size

/-- Where the bytes are that are taken for T0 and the interface bytes. -/
def atsReads (ats : Mem UInt8) (size : Nat) : List Nat :=
  if atsEnd ats size ≤ 1 then [] else List.range' 1 (1 + interfaceBytes (ats 1))

def HistoricalBelow (th : TclHandle) (n : Nat) : Prop :=
  ∀ i, th.historicalBytes ≤ i → i < th.historicalBytes + th.historicalLen → i < n

section Bytes

variable (id : Layer2Id) (ah : AsicHandle) (past : Nat) (th : TclHandle) (ats : Mem UInt8) (size : Nat)

theorem atsEnd_eq_zero : atsEnd ats size = 0 ↔ (ats 0).toNat = 0 ∨ size = 0 := by
  unfold atsEnd
  omega

def atsInterface (t0 : UInt8) (th : TclHandle) : TclHandle × Nat :=
  let (th, cur) := atsTa t0 ats th 2
  let (th, cur) := atsTb ah t0 ats th cur
  atsTc t0 ats th cur

theorem tclParseAts_eq :
    tclParseAts id ah past th ats size =
      if atsEnd ats size = 0 then (-1, th)
      else if atsEnd ats size = 1 then (0, atsDefaults id ah { th with ta := 0 })
      else
        let x := atsInterface ah ats (ats 1) (setFsc ah past (ats 1 &&& 0x0f) { th with ta := 0 })
        (0, { x.1 with historicalLen := u32Sub (atsEnd ats size) x.2, historicalBytes := x.2 }) := by
  unfold tclParseAts
  simp only [atsLen_eq, ← atsEnd_eq_zero]
  rfl

theorem atsTa_cur (t0 : UInt8) (cur : Nat) : (atsTa t0 ats th cur).2 = cur + atsByte t0 0x10 := by
  unfold atsTa atsByte
  split_ifs <;> rfl

theorem atsTb_cur (t0 : UInt8) (cur : Nat) : (atsTb ah t0 ats th cur).2 = cur + atsByte t0 0x20 := by
  unfold atsTb atsByte
  split_ifs <;> rfl

theorem atsTc_cur (t0 : UInt8) (cur : Nat) : (atsTc t0 ats th cur).2 = cur + atsByte t0 0x40 := by
  unfold atsTc atsByte
  split_ifs <;> rfl

theorem atsInterface_cur (t0 : UInt8) : (atsInterface ah ats t0 th).2 = 2 + interfaceBytes t0 := by
  unfold atsInterface interfaceBytes
  dsimp only
  rw [atsTc_cur, atsTb_cur, atsTa_cur, Nat.add_assoc, Nat.add_assoc, Nat.add_assoc]

theorem atsTa_congr {ats ats' : Mem UInt8} {t0 : UInt8} {cur : Nat}
    (h : atsByte t0 0x10 = 1 → ats' cur = ats cur) : atsTa t0 ats' th cur = atsTa t0 ats th cur := by
  unfold atsTa
  by_cases hb : t0 &&& 0x10 ≠ 0
  · rw [h (if_pos hb)]
  · rw [if_neg hb, if_neg hb]

theorem atsTb_congr {ats ats' : Mem UInt8} {t0 : UInt8} {cur : Nat}
    (h : atsByte t0 0x20 = 1 → ats' cur = ats cur) :
    atsTb ah t0 ats' th cur = atsTb ah t0 ats th cur := by
  unfold atsTb
  by_cases hb : t0 &&& 0x20 ≠ 0
  · rw [h (if_pos hb)]
  · rw [if_neg hb, if_neg hb]

theorem atsTc_congr {ats ats' : Mem UInt8} {t0 : UInt8} {cur : Nat}
    (h : atsByte t0 0x40 = 1 → ats' cur = ats cur) : atsTc t0 ats' th cur = atsTc t0 ats th cur := by
  unfold atsTc
  by_cases hb : t0 &&& 0x40 ≠ 0
  · rw [h (if_pos hb)]
  · rw [if_neg hb, if_neg hb]

theorem atsInterface_congr {ats ats' : Mem UInt8} {t0 : UInt8}
    (h : ∀ i : Nat, 2 ≤ i → i < 2 + interfaceBytes t0 → ats' i = ats i) :
    atsInterface ah ats' t0 th = atsInterface ah ats t0 th := by
  unfold interfaceBytes at h
  unfold atsInterface
  dsimp only
  rw [atsTa_congr th fun hb => h 2 (by omega) (by omega)]
  rw [atsTb_congr ah _ fun hb => h _ (by rw [atsTa_cur]; omega) (by rw [atsTa_cur]; omega)]
  rw [atsTc_congr _ fun hb => h _ (by rw [atsTb_cur, atsTa_cur]; omega)
    (by rw [atsTb_cur, atsTa_cur]; omega)]

theorem tclParseAts_reads {ats ats' : Mem UInt8} (h0 : ats' 0 = ats 0)
    (h : ∀ i ∈ atsReads ats size, ats' i = ats i) :
    tclParseAts id ah past th ats' size = tclParseAts id ah past th ats size := by
  have hend : atsEnd ats' size = atsEnd ats size := by
    unfold atsEnd
    rw [h0]
  rw [tclParseAts_eq, tclParseAts_eq, hend]
  by_cases hshort : atsEnd ats size ≤ 1
  · split_ifs
    · rfl
    · rfl
    · omega
  · rw [atsReads, if_neg hshort] at h
    have hread : ∀ i : Nat, 1 ≤ i → i < 2 + interfaceBytes (ats 1) → ats' i = ats i := fun i hi hlt =>
      h i (List.mem_range'_1.mpr ⟨hi, by omega⟩)
    have h1 : ats' 1 = ats 1 := hread 1 (by omega) (by omega)
    rw [h1, atsInterface_congr ah _ fun i hi hlt => hread i (by omega) hlt]

end Bytes

/-- Nothing outside the ATS is taken for a part of it, and no ATS that is too short for its T0 is
accepted. -/
structure AtsInside (id : Layer2Id) (ah : AsicHandle) (past : Nat) (th : TclHandle) (ats : Mem UInt8)
    (size : Nat) : Prop where
  reads : ∀ i ∈ atsReads ats size, i < atsEnd ats size
  only : ∀ ats' : Mem UInt8, ats' 0 = ats 0 → (∀ i : Nat, i < atsEnd ats size → ats' i = ats i) →
    tclParseAts id ah past th ats' size = tclParseAts id ah past th ats size
  historical : (tclParseAts id ah past th ats size).1 = 0 →
    HistoricalBelow (tclParseAts id ah past th ats size).2 (atsEnd ats size)
  rejected : 2 ≤ atsEnd ats size → (ats 0).toNat < 2 + interfaceBytes (ats 1) →
    (tclParseAts id ah past th ats size).1 < 0

section Inside

variable {id : Layer2Id} {ah : AsicHandle} {past : Nat} {th : TclHandle} {ats : Mem UInt8} {size : Nat}

theorem atsReads_below {n : Nat} (h : 2 ≤ atsEnd ats size) :
    (∀ i ∈ atsReads ats size, i < n) ↔ 2 + interfaceBytes (ats 1) ≤ n := by
  rw [atsReads, if_neg (by omega)]
  simp only [List.mem_range'_1]
  constructor
  · intro hall
    have := hall (1 + interfaceBytes (ats 1)) ⟨by omega, by omega⟩
    omega
  · intro hle i hi
    omega

/-- The pointer difference of the source, as an `unsigned int`. -/
theorem historicalBelow_iff (th : TclHandle) {cur n : Nat} (hcur : cur < 2 ^ 32) :
    HistoricalBelow { th with historicalLen := u32Sub n cur, historicalBytes := cur } n ↔ cur ≤ n := by
  unfold HistoricalBelow
  dsimp only
  constructor
  · intro hall
    by_contra hlt
    rw [u32Sub_of_lt (Nat.not_le.mp hlt)] at hall
    have := hall cur (Nat.le_refl cur) (by omega)
    omega
  · intro hle i _ hi
    rw [u32Sub_of_le hle] at hi
    omega

theorem atsDefaults_historical {n : Nat} :
    HistoricalBelow (atsDefaults id ah { th with ta := 0 }) n ↔ HistoricalBelow th n := by
  have hsame : (atsDefaults id ah { th with ta := 0 }).historicalBytes = th.historicalBytes ∧
      (atsDefaults id ah { th with ta := 0 }).historicalLen = th.historicalLen := by
    unfold atsDefaults
    dsimp only
    split_ifs <;> exact ⟨rfl, rfl⟩
  unfold HistoricalBelow
  rw [hsame.1, hsame.2]

end Inside

/-- There is room for what T0 announces, or there is no T0: then the historical bytes are as they
were before. -/
theorem atsInside_iff (id : Layer2Id) (ah : AsicHandle) (past : Nat) (th : TclHandle) (ats : Mem UInt8)
    (size : Nat) :
    AtsInside id ah past th ats size ↔
      atsEnd ats size = 0 ∨ atsEnd ats size = 1 ∧ HistoricalBelow th 1 ∨
        2 + interfaceBytes (ats 1) ≤ atsEnd ats size := by
  have hparse := tclParseAts_eq id ah past th ats size
  have hcur := interfaceBytes_le (ats 1)
  have honly : (∀ i ∈ atsReads ats size, i < atsEnd ats size) → ∀ ats' : Mem UInt8, ats' 0 = ats 0 →
      (∀ i : Nat, i < atsEnd ats size → ats' i = ats i) →
      tclParseAts id ah past th ats' size = tclParseAts id ah past th ats size :=
    fun hreads ats' h0 h => tclParseAts_reads id ah past th size h0 fun i hi => h i (hreads i hi)
  rcases Nat.lt_or_ge (atsEnd ats size) 2 with hshort | hlong
  · have hreads : ∀ i ∈ atsReads ats size, i < atsEnd ats size := by
      rw [atsReads, if_pos (by omega)]
      exact fun i hi => absurd hi List.not_mem_nil
    by_cases hzero : atsEnd ats size = 0
    · rw [if_pos hzero] at hparse
      refine iff_of_true ⟨hreads, honly hreads, ?_, fun h => by omega⟩ (.inl hzero)
      rw [hparse]
      exact fun h => absurd (show (-1 : Int) = 0 from h) (by decide)
    · have hone : atsEnd ats size = 1 := by omega
      rw [if_neg hzero, if_pos hone] at hparse
      constructor
      · intro h
        have hhist := h.historical
        rw [hparse, hone] at hhist
        exact .inr (.inl ⟨hone, atsDefaults_historical.mp (hhist rfl)⟩)
      · rintro (h | ⟨-, h⟩ | h)
        · exact absurd h hzero
        · refine ⟨hreads, honly hreads, ?_, fun h => by omega⟩
          rw [hparse, hone]
          exact fun _ => atsDefaults_historical.mpr h
        · omega
  · rw [if_neg (by omega), if_neg (by omega)] at hparse
    dsimp only at hparse
    rw [atsInterface_cur] at hparse
    constructor
    · exact fun h => .inr (.inr ((atsReads_below hlong).mp h.reads))
    · rintro (h | ⟨h, -⟩ | hroom)
      · omega
      · omega
      have hreads := (atsReads_below hlong).mpr hroom
      refine ⟨hreads, honly hreads, ?_, fun _ hlt => ?_⟩
      · rw [hparse]
        exact fun _ => (historicalBelow_iff _ (by omega)).mpr hroom
      · have hle : atsEnd ats size ≤ (ats 0).toNat := Nat.min_le_left _ _
        omega

/-- TL 2, and a T0 that announces all three interface bytes. -/
theorem shortAts_overruns :
    (tclParseAts .iso14443a rc632Open 0 (tclInit rc632Open) (Mem.ofList (fun _ => 0) [2, 0x78]) 2).1 = 0 ∧
    (tclParseAts .iso14443a rc632Open 0 (tclInit rc632Open)
      (Mem.ofList (fun _ => 0) [2, 0x78]) 2).2.historicalLen = 2 ^ 32 - 3 ∧
    ¬ AtsInside .iso14443a rc632Open 0 (tclInit rc632Open) (Mem.ofList (fun _ => 0) [2, 0x78]) 2 :=
  ⟨by decide, by decide, fun h => absurd (h.reads 4 (by decide)) (by decide)⟩

section Decoding

structure WellFormedAts (ats : Mem UInt8) (size : Nat) : Prop where
  length : (ats 0).toNat = size
  pos : 1 ≤ size
  fsci : 2 ≤ size → atsFsci ats ≤ 8
  room : 2 ≤ size → 2 + interfaceBytes (ats 1) ≤ size

def freshHandle (ats : Mem UInt8) (size : Nat) : TclHandle :=
  { tclInit rc632Open with ats := ats, atsLen := size, state := .atsRcvd }

def atsTaPos : Nat := 2
def atsTbPos (t0 : UInt8) : Nat := 2 + atsByte t0 0x10
def atsTcPos (t0 : UInt8) : Nat := 2 + atsByte t0 0x10 + atsByte t0 0x20

/-- What ISO 14443-4 makes of an ATS, `ret` and `th` being what `tcl_parse_ats` returns and
leaves. -/
structure DecodesAts (ret : Int) (th : TclHandle) (ats : Mem UInt8) (size : Nat) : Prop where
  ret : ret = 0
  fsc : th.fsc = min (if size = 1 then 32 else fsdiTable.getD (atsFsci ats) 0) rc632Open.mtu
  ta : 2 ≤ size → th.ta = if ats 1 &&& 0x10 ≠ 0 then ats atsTaPos else 0
  fwt : th.fwt = 4096000000 / rc632Open.fc *
    2 ^ (if 2 ≤ size ∧ ats 1 &&& 0x20 ≠ 0 then (ats (atsTbPos (ats 1)) >>> 4).toNat else 4)
  sfgt : 2 ≤ size → ats 1 &&& 0x20 ≠ 0 →
    th.sfgt.toNat = sfgiToSfgt rc632Open (ats (atsTbPos (ats 1)) &&& 0x0f)
  nad : 2 ≤ size → ats 1 &&& 0x40 ≠ 0 →
    (th.flags &&& handleFNadSupported ≠ 0 ↔ ats (atsTcPos (ats 1)) &&& 0x01 ≠ 0)
  cid : 2 ≤ size → ats 1 &&& 0x40 ≠ 0 →
    (th.flags &&& handleFCidSupported ≠ 0 ↔ ats (atsTcPos (ats 1)) &&& 0x02 ≠ 0)
  historical : th.historicalLen = size - (if size = 1 then 1 else 2 + interfaceBytes (ats 1)) ∧
    (2 ≤ size → th.historicalBytes = 2 + interfaceBytes (ats 1))

section Fields

variable (th : TclHandle) (ats : Mem UInt8) (t0 : UInt8)

theorem atsInterface_ta :
    (atsInterface rc632Open ats t0 th).1.ta = if t0 &&& 0x10 ≠ 0 then ats atsTaPos else th.ta := by
  unfold atsInterface atsTc atsTb atsTa
  dsimp only
  split_ifs <;> rfl

theorem atsInterface_fwt :
    (atsInterface rc632Open ats t0 th).1.fwt =
      if t0 &&& 0x20 ≠ 0 then fwiToFwt rc632Open ((ats (atsTbPos t0) &&& 0xf0) >>> 4) else th.fwt := by
  unfold atsInterface atsTc atsTb
  dsimp only
  rw [atsTa_cur]
  unfold atsTa
  split_ifs <;> rfl

theorem atsInterface_flags :
    (atsInterface rc632Open ats t0 th).1.flags =
      if t0 &&& 0x40 ≠ 0 then
        th.flags ||| (if ats (atsTcPos t0) &&& 0x01 ≠ 0 then handleFNadSupported else 0) |||
          (if ats (atsTcPos t0) &&& 0x02 ≠ 0 then handleFCidSupported else 0)
      else th.flags := by
  unfold atsInterface atsTc
  dsimp only
  rw [atsTb_cur, atsTa_cur]
  unfold atsTb atsTa atsTcPos
  split_ifs <;> simp

theorem setFsc_keeps (ah : AsicHandle) (past : Nat) (fsdi : UInt8) (th : TclHandle) :
    (setFsc ah past fsdi th).ta = th.ta ∧ (setFsc ah past fsdi th).fwt = th.fwt ∧
      (setFsc ah past fsdi th).flags = th.flags := by
  unfold setFsc
  cases iso14443FsdiToFsd past fsdi.toNat <;> dsimp only <;> split_ifs <;> exact ⟨rfl, rfl, rfl⟩

theorem fwiToFwt_rc632 (fwi : UInt8) : fwiToFwt rc632Open fwi = 302 * 2 ^ min fwi.toNat 14 := by
  have hfc : 4096000000 / rc632Open.fc = 302 := by decide
  have hmin : (if fwi > 14 then 14 else fwi).toNat = min fwi.toNat 14 := by
    have hlt : fwi > 14 ↔ 14 < fwi.toNat := UInt8.lt_iff_toNat_lt
    split_ifs with h
    · rw [hlt] at h
      rw [Nat.min_eq_right h.le]
      rfl
    · rw [hlt] at h
      rw [Nat.min_eq_left (Nat.not_lt.mp h)]
  have hpow : 2 ^ min fwi.toNat 14 ≤ 2 ^ 14 :=
    Nat.pow_le_pow_right (by decide) (Nat.min_le_right _ _)
  unfold fwiToFwt
  dsimp only
  rw [hfc, hmin, Nat.mod_eq_of_lt (by omega)]

/-- The shortest of these times is longer than an `unsigned char` can tell. -/
theorem sfgiToSfgt_ge (sfgi : UInt8) : 302 ≤ sfgiToSfgt rc632Open sfgi := by
  have hsame : sfgiToSfgt rc632Open sfgi = fwiToFwt rc632Open sfgi := rfl
  rw [hsame, fwiToFwt_rc632]
  exact Nat.le_mul_of_pos_right 302 (Nat.pow_pos (by decide))

end Fields

/-- Only an ATS of the length byte alone sets the start-up frame guard time and the frame waiting
time: that of TB does not fit its field, and without TB there is no default. -/
theorem decodesAts_iff (past : Nat) {ats : Mem UInt8} {size : Nat} (h : WellFormedAts ats size) :
    DecodesAts (tclParseAts .iso14443a rc632Open past (freshHandle ats size) ats size).1
      (tclParseAts .iso14443a rc632Open past (freshHandle ats size) ats size).2 ats size ↔
      size = 1 := by
  have hend : atsEnd ats size = size := by
    rw [atsEnd, h.length, Nat.min_self]
  have hpos : ¬ size = 0 := by have := h.pos; omega
  have hparse := tclParseAts_eq .iso14443a rc632Open past (freshHandle ats size) ats size
  rw [hend, if_neg hpos] at hparse
  constructor
  · intro hdec
    by_contra hlong
    rw [if_neg hlong] at hparse
    have htwo : 2 ≤ size := by omega
    by_cases htb : ats 1 &&& 0x20 ≠ 0
    · have hsfgt := hdec.sfgt htwo htb
      have hlt := (tclParseAts .iso14443a rc632Open past (freshHandle ats size) ats size).2.sfgt.toNat_lt
      have hge := sfgiToSfgt_ge (ats (atsTbPos (ats 1)) &&& 0x0f)
      omega
    · have hfwt := hdec.fwt
      rw [hparse, if_neg fun h => htb h.2] at hfwt
      dsimp only at hfwt
      rw [atsInterface_fwt, if_neg htb, (setFsc_keeps _ _ _ _).2.1] at hfwt
      exact absurd (show 0 = 4096000000 / rc632Open.fc * 2 ^ 4 from hfwt) (by decide)
  · rintro rfl
    rw [if_pos rfl] at hparse
    rw [hparse]
    have hno : ¬ 2 ≤ 1 := by omega
    exact {
      ret := rfl
      fsc := by rw [if_pos rfl]; rfl
      ta := fun h => absurd h hno
      fwt := by rw [if_neg fun h => hno h.1]; rfl
      sfgt := fun h => absurd h hno
      nad := fun h => absurd h hno
      cid := fun h => absurd h hno
      historical := ⟨rfl, fun h => absurd h hno⟩ }

theorem shortestAts_decodes : WellFormedAts (Mem.ofList (fun _ => 0) [1]) 1 ∧
    DecodesAts (tclParseAts .iso14443a rc632Open 0 (freshHandle (Mem.ofList (fun _ => 0) [1]) 1)
        (Mem.ofList (fun _ => 0) [1]) 1).1
      (tclParseAts .iso14443a rc632Open 0 (freshHandle (Mem.ofList (fun _ => 0) [1]) 1)
        (Mem.ofList (fun _ => 0) [1]) 1).2 (Mem.ofList (fun _ => 0) [1]) 1 :=
  have h : WellFormedAts (Mem.ofList (fun _ => 0) [1]) 1 :=
    ⟨by decide, by decide, by decide, by decide⟩
  ⟨h, (decodesAts_iff 0 h).mpr rfl⟩

/-- TL, T0 with frame size code 8, and TB: 4 for the waiting time, 1 for the guard time. -/
theorem tbAts_misread :
    WellFormedAts (Mem.ofList (fun _ => 0) [3, 0x28, 0x41]) 3 ∧
    (tclParseAts .iso14443a rc632Open 0 (freshHandle (Mem.ofList (fun _ => 0) [3, 0x28, 0x41]) 3)
      (Mem.ofList (fun _ => 0) [3, 0x28, 0x41]) 3).2.sfgt = 0x5c ∧
    sfgiToSfgt rc632Open 1 = 604 ∧
    ¬ DecodesAts (tclParseAts .iso14443a rc632Open 0
        (freshHandle (Mem.ofList (fun _ => 0) [3, 0x28, 0x41]) 3)
        (Mem.ofList (fun _ => 0) [3, 0x28, 0x41]) 3).1
      (tclParseAts .iso14443a rc632Open 0 (freshHandle (Mem.ofList (fun _ => 0) [3, 0x28, 0x41]) 3)
        (Mem.ofList (fun _ => 0) [3, 0x28, 0x41]) 3).2 (Mem.ofList (fun _ => 0) [3, 0x28, 0x41]) 3 := by
  refine ⟨⟨by decide, by decide, by decide, by decide⟩, by decide, by decide, fun h => ?_⟩
  exact absurd (h.sfgt (by decide) (by decide)) (by decide)

end Decoding

end Librfid.Tcl
