import Librfid.Base
import Mathlib.Order.Bounds.Defs
import Mathlib.Order.Monotone.Defs

/-! `rfid_iso14443_common.c`, and what `rc632_open` puts into the ASIC handle. -/

namespace Librfid

def fsdiTable : List Nat := [16, 24, 32, 40, 48, 64, 96, 128, 256]

/-- `none` is the return value -1.  The index 9 passes the check: `past` is what lies behind
the table. -/
def iso14443FsdiToFsd (past fsdi : Nat) : Option Nat :=
  if fsdi > fsdiTable.length then none else some (fsdiTable.getD fsdi past)

def iso14443FsdToFsdi (fsd : Nat) : Option UInt8 :=
  (fsdiTable.findIdx? fun v => v = fsd).map UInt8.ofNat

def iso14443FsdApprox (fsd : Nat) : Nat :=
  (fsdiTable.reverse.find? fun v => v ≤ fsd).getD 16

structure AsicHandle where
  fc : Nat
  mtu : Nat
  mru : Nat

def rc632Open : AsicHandle where
  fc := 13560000
  mtu := 64
  mru := 64

theorem iso14443FsdApprox_mem (fsd : Nat) : iso14443FsdApprox fsd ∈ fsdiTable := by
  unfold iso14443FsdApprox
  cases h : fsdiTable.reverse.find? fun v => v ≤ fsd with
  | none => decide
  | some v => exact List.mem_reverse.mp (List.mem_of_find?_eq_some h)

theorem iso14443FsdToFsdi_of_mem {fsd : Nat} (h : fsd ∈ fsdiTable) :
    ∃ fsdi, iso14443FsdToFsdi fsd = some fsdi := by
  have hcodes : ∀ v ∈ fsdiTable, (iso14443FsdToFsdi v).isSome = true := by decide
  exact Option.isSome_iff_exists.mp (hcodes fsd h)

theorem fsdiTable_bounds : ∀ v ∈ fsdiTable, 16 ≤ v ∧ v ≤ 256 := by decide

theorem iso14443FsdiToFsd_of_lt (past : Nat) {fsdi : Nat} (h : fsdi < fsdiTable.length) :
    iso14443FsdiToFsd past fsdi = some fsdiTable[fsdi] := by
  rw [iso14443FsdiToFsd, if_neg (Nat.not_lt.mpr (Nat.le_of_lt h)),
    List.getD_eq_getElem?_getD, List.getElem?_eq_getElem h, Option.getD_some]

theorem isGreatest_of_find? {l : List Nat} (hl : l.Pairwise (· ≥ ·)) {x v : Nat}
    (h : l.find? (fun w => w ≤ x) = some v) : IsGreatest {w | w ∈ l ∧ w ≤ x} v := by
  obtain ⟨hv, before, after, rfl, hbefore⟩ := List.find?_eq_some_iff_append.mp h
  rw [List.pairwise_append, List.pairwise_cons] at hl
  refine ⟨⟨List.mem_append_right _ List.mem_cons_self, of_decide_eq_true hv⟩, ?_⟩
  rintro w ⟨hw, hle⟩
  rcases List.mem_append.mp hw with hw | hw
  · have hlarge := hbefore w hw
    rw [decide_eq_true hle] at hlarge
    cases hlarge
  · rcases List.mem_cons.mp hw with rfl | hw
    · exact Nat.le_refl w
    · exact hl.2.1.1 w hw

theorem iso14443FsdApprox_of_lt {fsd : Nat} (h : fsd < 16) : iso14443FsdApprox fsd = 16 := by
  have hbounds : ∀ v ∈ fsdiTable.reverse, 16 ≤ v := by decide
  have hnone : fsdiTable.reverse.find? (fun v => v ≤ fsd) = none := by
    apply List.find?_eq_none.mpr
    intro v hv
    have hlarge := hbounds v hv
    simp only [decide_eq_true_eq]
    omega
  rw [iso14443FsdApprox, hnone, Option.getD_none]

/-- From the smallest size on, it is the closest one that is not larger. -/
theorem iso14443FsdApprox_greatest {fsd : Nat} (h : 16 ≤ fsd) :
    IsGreatest {v | v ∈ fsdiTable ∧ v ≤ fsd} (iso14443FsdApprox fsd) := by
  unfold iso14443FsdApprox
  cases hfind : fsdiTable.reverse.find? fun v => v ≤ fsd with
  | none =>
    have hsmall := List.find?_eq_none.mp hfind 16 (by decide)
    exact absurd (decide_eq_true h) hsmall
  | some v =>
    have hgreatest := isGreatest_of_find? (by decide) hfind
    simp only [List.mem_reverse] at hgreatest
    exact hgreatest

theorem iso14443FsdApprox_monotone : Monotone iso14443FsdApprox := by
  intro fsd fsd' hle
  rcases Nat.lt_or_ge fsd 16 with hlt | hge
  · rw [iso14443FsdApprox_of_lt hlt]
    exact (fsdiTable_bounds _ (iso14443FsdApprox_mem fsd')).1
  · have hfsd := (iso14443FsdApprox_greatest hge).1
    exact (iso14443FsdApprox_greatest (Nat.le_trans hge hle)).2 ⟨hfsd.1, Nat.le_trans hfsd.2 hle⟩

theorem iso14443FsdToFsdi_decodes (past : Nat) {fsd : Nat} {fsdi : UInt8}
    (h : iso14443FsdToFsdi fsd = some fsdi) :
    fsdi.toNat < fsdiTable.length ∧ iso14443FsdiToFsd past fsdi.toNat = some fsd := by
  obtain ⟨i, hi, rfl⟩ := Option.map_eq_some_iff.mp h
  obtain ⟨hlt, hsize, -⟩ := List.findIdx?_eq_some_iff_getElem.mp hi
  have hnat : (UInt8.ofNat i).toNat = i :=
    UInt8.toNat_ofNat_of_lt' (Nat.lt_trans hlt (by decide))
  rw [hnat]
  exact ⟨hlt, (iso14443FsdiToFsd_of_lt past hlt).trans (congrArg some (of_decide_eq_true hsize))⟩

theorem iso14443FsdiToFsd_of_ge (past : Nat) {fsdi : Nat} (h : 10 ≤ fsdi) :
    iso14443FsdiToFsd past fsdi = none := if_pos h

/-- Only the index 9 reads behind the table. -/
theorem iso14443FsdiToFsd_congr (past past' : Nat) {fsdi : Nat} (h : fsdi ≠ 9) :
    iso14443FsdiToFsd past fsdi = iso14443FsdiToFsd past' fsdi := by
  rcases Nat.lt_or_gt_of_ne h with hlt | hgt
  · rw [iso14443FsdiToFsd_of_lt past hlt, iso14443FsdiToFsd_of_lt past' hlt]
  · rw [iso14443FsdiToFsd_of_ge _ hgt, iso14443FsdiToFsd_of_ge _ hgt]

end Librfid
