import Mathlib.Data.List.Nodup
import Librfid.Base
import Librfid.Lib.Exec

/-! Scanning for a transponder: `rfid_scan.c`, and the tables of drivers in `rfid_layer2.c` and
`rfid_protocol.c`. -/

namespace Librfid.Scan

open Exec

inductive Driver
  | layer2 (id : Layer2Id)
  | tcl | mful | mfcl | tagit
  deriving DecidableEq

def rfidLayer2s : List (Option Driver) :=
  [none, some (.layer2 .iso14443a), some (.layer2 .iso14443b), some (.layer2 .iso15693)]

def rfidProtocols : List (Option Driver) :=
  [none, some .tcl, some .mful, some .mfcl, none, some .tagit]

def rfidLayer2Max : Nat := 16
def rfidProtocolMax : Nat := 16

/-- The calls of a driver's functions.  Every driver gives at most one handle here, so the handle
goes by its driver. -/
inductive Call
  | init (d : Driver)
  | open (d : Driver)
  | fini (d : Driver)
  deriving DecidableEq

def Call.driver : Call → Driver
  | .init d => d
  | .open d => d
  | .fini d => d

structure Answers where
  init : Driver → Bool
  fnOpen : Driver → Option Int
  /-- `proto_supported` of the handle when it is open. -/
  protoSupported : Driver → UInt32

structure Masks where
  l2Supported : UInt32
  protoSupported : UInt32

def supported (mask : UInt32) (id : Nat) : Bool := mask.toNat &&& 1 <<< id ≠ 0

abbrev ScanM := Exec (List Call)

def call (c : Call) : ScanM Unit := step fun log => ((), log ++ [c])

section

variable (a : Answers)

def driverInit (table : List (Option Driver)) (id : Nat) : ScanM (Option Driver) :=
  match table[id]? with
  | none => pure none
  | some none => fail sigSegv
  | some (some d) => do
    call (.init d)
    pure (if a.init d then some d else none)

def rfidLayer2Init (id : Nat) : ScanM (Option Driver) := driverInit a rfidLayer2s id

def rfidProtocolInit (id : Nat) : ScanM (Option Driver) := driverInit a rfidProtocols id

def openRet (d : Driver) : Int := (a.fnOpen d).getD 0

def driverOpen (d : Driver) : ScanM Int := do
  call (.open d)
  pure (openRet a d)

/-- `rfid_layer2_scan1`, `rfid_protocol_scan1`: `sup` is the test of the masks. -/
def scan1 (sup : Nat → Bool) (table : List (Option Driver)) (id : Nat) : ScanM (Option Driver) :=
  if sup id then do
    match ← driverInit a table id with
    | none => pure none
    | some h => do
      let ret ← driverOpen a h
      if ret < 0 then do
        call (.fini h)
        pure none
      else pure (some h)
  else pure none

def scanFrom (sup : Nat → Bool) (table : List (Option Driver)) : Nat → Nat → ScanM (Option Driver)
  | 0, _ => pure none
  | rest + 1, i => do
    match ← scan1 a sup table i with
    | some h => pure (some h)
    | none => scanFrom sup table rest (i + 1)

variable (m : Masks)

def l2Sup (l2 : Nat) : Bool := supported m.l2Supported l2

def protoSup (l2h : Driver) (proto : Nat) : Bool :=
  supported m.protoSupported proto && supported (a.protoSupported l2h) proto

def rfidLayer2Scan : ScanM (Option Driver) := scanFrom a (l2Sup m) rfidLayer2s rfidLayer2Max 0

def rfidProtocolScan (l2h : Driver) : ScanM (Option Driver) :=
  scanFrom a (protoSup a m l2h) rfidProtocols rfidProtocolMax 0

/-- What is returned, `*l2h` and `*ph`; `past` is what `*ph` is before. -/
def rfidScan (past : Option Driver) : ScanM (Int × Option Driver × Option Driver) := do
  match ← rfidLayer2Scan a m with
  | none => pure (0, none, past)
  | some l2h => do
    let ph ← rfidProtocolScan a m l2h
    pure (if ph.isSome then 3 else 2, some l2h, ph)

end

section

variable {a : Answers} {sup : Nat → Bool} {table : List (Option Driver)}

structure Works (a : Answers) (sup : Nat → Bool) (table : List (Option Driver)) (id : Nat)
    (d : Driver) : Prop where
  sup : sup id
  slot : table[id]? = some (some d)
  init : a.init d
  opens : 0 ≤ openRet a d

structure Hole (sup : Nat → Bool) (table : List (Option Driver)) (id : Nat) : Prop where
  sup : sup id
  slot : table[id]? = some none

def Passes (a : Answers) (sup : Nat → Bool) (table : List (Option Driver)) (id : Nat) : Prop :=
  ¬ Hole sup table id ∧ ∀ d, ¬ Works a sup table id d

def failedCalls (a : Answers) (sup : Nat → Bool) (table : List (Option Driver)) (id : Nat) :
    List Call :=
  match table[id]? with
  | some (some d) => if sup id then .init d :: if a.init d then [.open d, .fini d] else [] else []
  | _ => []

theorem driverInit_slot {id : Nat} {d : Driver} (h : table[id]? = some (some d)) (log : List Call) :
    driverInit a table id log =
      (.ok (if a.init d then some d else none), log ++ [.init d]) := by
  unfold driverInit
  simp only [h]
  rfl

theorem driverInit_hole {id : Nat} (h : table[id]? = some none) (log : List Call) :
    driverInit a table id log = (.fail sigSegv, log) := by
  unfold driverInit
  simp only [h]
  rfl

theorem driverInit_none {id : Nat} (h : table[id]? = none) (log : List Call) :
    driverInit a table id log = (.ok none, log) := by
  unfold driverInit
  simp only [h]
  rfl

theorem driverOpen_run (d : Driver) (log : List Call) :
    driverOpen a d log = (.ok (openRet a d), log ++ [.open d]) := rfl

theorem scan1_works {id : Nat} {d : Driver} (h : Works a sup table id d) (log : List Call) :
    scan1 a sup table id log = (.ok (some d), log ++ [.init d, .open d]) := by
  rw [scan1, if_pos h.sup, bind_ok (driverInit_slot h.slot log), if_pos h.init]
  simp only [bind_ok (driverOpen_run d _), if_neg (Int.not_lt.mpr h.opens), pure_run,
    List.append_assoc, List.cons_append, List.nil_append]

theorem scan1_hole {id : Nat} (h : Hole sup table id) (log : List Call) :
    scan1 a sup table id log = (.fail sigSegv, log) := by
  rw [scan1, if_pos h.sup, bind_fail (driverInit_hole h.slot log)]

theorem scan1_passes {id : Nat} (h : Passes a sup table id) (log : List Call) :
    scan1 a sup table id log = (.ok none, log ++ failedCalls a sup table id) := by
  unfold scan1 failedCalls
  cases hsup : sup id with
  | false => rcases table[id]? with _ | _ | d <;> simp
  | true =>
    rw [if_pos rfl]
    rcases hslot : table[id]? with _ | _ | d
    · rw [bind_ok (driverInit_none hslot log)]
      simp
    · exact absurd ⟨hsup, hslot⟩ h.1
    · rw [bind_ok (driverInit_slot hslot log)]
      cases hinit : a.init d with
      | false => simp [hinit]
      | true =>
        have hneg : openRet a d < 0 := Int.not_le.mp fun hle => h.2 d ⟨hsup, hslot, hinit, hle⟩
        simp [bind_run, driverOpen_run, hinit, hneg, call]

/-- One of three: the first id that works is found, nothing is found, or the way there goes
through an empty slot. -/
theorem scanFrom_run (rest i : Nat) (log : List Call) :
    (∃ k d, i ≤ k ∧ k < i + rest ∧ (∀ j, i ≤ j → j < k → Passes a sup table j) ∧
        Works a sup table k d ∧ scanFrom a sup table rest i log =
          (.ok (some d), log ++ (List.range' i (k - i)).flatMap (failedCalls a sup table) ++
            [.init d, .open d])) ∨
      ((∀ j, i ≤ j → j < i + rest → Passes a sup table j) ∧ scanFrom a sup table rest i log =
        (.ok none, log ++ (List.range' i rest).flatMap (failedCalls a sup table))) ∨
      ∃ k, i ≤ k ∧ k < i + rest ∧ (∀ j, i ≤ j → j < k → Passes a sup table j) ∧
        Hole sup table k ∧ ∃ log', scanFrom a sup table rest i log = (.fail sigSegv, log') := by
  have hnone : ∀ {i} j, i ≤ j → j < i → Passes a sup table j := fun _ hle hlt =>
    absurd hlt (Nat.not_lt.mpr hle)
  induction rest generalizing i log with
  | zero =>
    refine .inr (.inl ⟨hnone, ?_⟩)
    simp [scanFrom]
  | succ rest ih =>
    by_cases hhole : Hole sup table i
    · refine .inr (.inr ⟨i, Nat.le_refl i, by omega, hnone, hhole, log, ?_⟩)
      rw [scanFrom, bind_fail (scan1_hole hhole log)]
    by_cases hworks : ∃ d, Works a sup table i d
    · obtain ⟨d, hd⟩ := hworks
      refine .inl ⟨i, d, Nat.le_refl i, by omega, hnone, hd, ?_⟩
      rw [scanFrom, bind_ok (scan1_works hd log)]
      simp
    have hpass : Passes a sup table i := ⟨hhole, not_exists.mp hworks⟩
    have hrun : scanFrom a sup table (rest + 1) i log =
        scanFrom a sup table rest (i + 1) (log ++ failedCalls a sup table i) := by
      rw [scanFrom, bind_ok (scan1_passes hpass log)]
    have hfirst : ∀ {k}, (∀ j, i + 1 ≤ j → j < k → Passes a sup table j) →
        ∀ j, i ≤ j → j < k → Passes a sup table j := fun hk j hle hlt => by
      rcases Nat.eq_or_lt_of_le hle with rfl | hlt'
      · exact hpass
      · exact hk j hlt' hlt
    rw [hrun]
    rcases ih (i + 1) (log ++ failedCalls a sup table i) with
      ⟨k, d, hle, hlt, hbefore, hd, hrest⟩ | ⟨hall, hrest⟩ | ⟨k, hle, hlt, hbefore, hk, hrest⟩
    · refine .inl ⟨k, d, by omega, by omega, hfirst hbefore, hd, ?_⟩
      have hlen : k - i = k - (i + 1) + 1 := by omega
      rw [hrest, hlen, List.range'_succ, List.flatMap_cons]
      simp only [List.append_assoc]
    · refine .inr (.inl ⟨hfirst fun j hj hlt => hall j hj (by omega), ?_⟩)
      rw [hrest, List.range'_succ, List.flatMap_cons, List.append_assoc]
    · exact .inr (.inr ⟨k, by omega, by omega, hfirst hbefore, hk, hrest⟩)

def Distinct (table : List (Option Driver)) : Prop :=
  ∀ (i j : Nat) (d : Driver), table[i]? = some (some d) → table[j]? = some (some d) → i = j

theorem mem_failedCalls {id : Nat} {c : Call} (h : c ∈ failedCalls a sup table id) :
    sup id ∧ table[id]? = some (some c.driver) ∧
      (c = .init c.driver ∨ a.init c.driver ∧ (c = .open c.driver ∨ c = .fini c.driver)) := by
  unfold failedCalls at h
  rcases hslot : table[id]? with _ | _ | d <;> rw [hslot] at h
  · cases h
  · cases h
  · cases hsup : sup id <;> cases hinit : a.init d <;> simp [hsup, hinit] at h
    · subst h
      exact ⟨rfl, rfl, .inl rfl⟩
    · rcases h with rfl | rfl | rfl
      · exact ⟨rfl, rfl, .inl rfl⟩
      · exact ⟨rfl, rfl, .inr ⟨hinit, .inl rfl⟩⟩
      · exact ⟨rfl, rfl, .inr ⟨hinit, .inr rfl⟩⟩

theorem nodup_failedCalls (id : Nat) : (failedCalls a sup table id).Nodup := by
  unfold failedCalls
  rcases table[id]? with _ | _ | d
  · exact List.nodup_nil
  · exact List.nodup_nil
  · cases sup id with
    | false => exact List.nodup_nil
    | true =>
      by_cases hinit : a.init d <;> simp [hinit]

/-- What is released, in a search that gives `h`. -/
structure Released (a : Answers) (table : List (Option Driver)) (h : Option Driver)
    (log : List Call) : Prop where
  nodup : log.Nodup
  slots : ∀ c ∈ log, ∃ i : Nat, table[i]? = some (some c.driver)
  failed : ∀ d, .open d ∈ log → openRet a d < 0 → .fini d ∈ log
  only : ∀ d, .fini d ∈ log → openRet a d < 0
  kept : ∀ d, h = some d → 0 ≤ openRet a d

theorem released_passes (hd : Distinct table) {ids : List Nat} (hids : ids.Nodup)
    (hpass : ∀ id ∈ ids, Passes a sup table id) :
    Released a table none (ids.flatMap (failedCalls a sup table)) where
  nodup := by
    refine List.nodup_flatMap.mpr ⟨fun id _ => nodup_failedCalls id, ?_⟩
    apply List.Pairwise.imp _ hids
    intro i j hne c hi hj
    exact hne (hd i j c.driver (mem_failedCalls hi).2.1 (mem_failedCalls hj).2.1)
  slots := by
    intro c hc
    obtain ⟨id, -, hc⟩ := List.mem_flatMap.mp hc
    exact ⟨id, (mem_failedCalls hc).2.1⟩
  failed := by
    intro d hc hneg
    obtain ⟨id, hid, hc⟩ := List.mem_flatMap.mp hc
    obtain ⟨hsup, hslot, hinit⟩ := mem_failedCalls hc
    have hinit : a.init d := by simpa [Call.driver] using hinit
    refine List.mem_flatMap.mpr ⟨id, hid, ?_⟩
    simp only [Call.driver] at hslot
    simp [failedCalls, hslot, hsup, hinit]
  only := by
    intro d hc
    obtain ⟨id, hid, hc⟩ := List.mem_flatMap.mp hc
    obtain ⟨hsup, hslot, hinit⟩ := mem_failedCalls hc
    have hinit : a.init d := by simpa [Call.driver] using hinit
    exact Int.not_le.mp fun hle => (hpass id hid).2 d ⟨hsup, hslot, hinit, hle⟩
  kept := by
    intro d h
    cases h

theorem Released.found {log : List Call} (h : Released a table none log) {d : Driver} {k : Nat}
    (hd : Works a sup table k d) (hnew : ∀ c ∈ log, c.driver ≠ d) :
    Released a table (some d) (log ++ [.init d, .open d]) where
  nodup := by
    refine List.Nodup.append h.nodup (by simp) fun c hc hmem => hnew c hc ?_
    rcases List.mem_cons.mp hmem with rfl | hmem
    · rfl
    · rw [List.mem_singleton.mp hmem]
      rfl
  slots := by
    intro c hc
    rcases List.mem_append.mp hc with hc | hc
    · exact h.slots c hc
    · have hdriver : c.driver = d := by
        rcases List.mem_cons.mp hc with rfl | hc
        · rfl
        · rw [List.mem_singleton.mp hc]
          rfl
      exact ⟨k, hdriver ▸ hd.slot⟩
  failed := by
    intro d' hc hneg
    rcases List.mem_append.mp hc with hc | hc
    · exact List.mem_append_left _ (h.failed d' hc hneg)
    · obtain rfl : d' = d := by simpa using hc
      exact absurd hneg (Int.not_lt.mpr hd.opens)
  only := by
    intro d' hc
    rcases List.mem_append.mp hc with hc | hc
    · exact h.only d' hc
    · simp at hc
  kept := by
    rintro d' ⟨⟩
    exact hd.opens

def First (a : Answers) (sup : Nat → Bool) (table : List (Option Driver)) (max : Nat) :
    Option Driver → Prop
  | none => ∀ i < max, Passes a sup table i
  | some d => ∃ k < max, Works a sup table k d ∧ ∀ j < k, Passes a sup table j

def Clear (a : Answers) (sup : Nat → Bool) (table : List (Option Driver)) (max : Nat) : Prop :=
  ∀ i < max, Hole sup table i → ∃ k < i, ∃ d, Works a sup table k d

theorem scanFrom_zero (hd : Distinct table) (max : Nat) (log : List Call) :
    (Clear a sup table max ∧ ∃ h calls, scanFrom a sup table max 0 log = (.ok h, log ++ calls) ∧
        First a sup table max h ∧ Released a table h calls) ∨
      ¬ Clear a sup table max ∧ ∃ log', scanFrom a sup table max 0 log = (.fail sigSegv, log') := by
  have hrow : ∀ {k}, (∀ j, 0 ≤ j → j < k → Passes a sup table j) →
      Released a table none ((List.range' 0 k).flatMap (failedCalls a sup table)) := fun hk =>
    released_passes hd (List.nodup_range') fun id hid =>
      hk id (Nat.zero_le id) (by simpa using (List.mem_range'_1.mp hid).2)
  rcases scanFrom_run max 0 log with
    ⟨k, d, -, hlt, hbefore, hk, hrun⟩ | ⟨hall, hrun⟩ | ⟨k, -, hlt, hbefore, hk, hrun⟩
  · refine .inl ⟨fun i hi hhole => ?_, some d, _, ?_, ⟨k, by omega, hk, fun j hj =>
      hbefore j (Nat.zero_le j) hj⟩, (hrow hbefore).found hk ?_⟩
    · refine ⟨k, Nat.lt_of_not_le fun hle => ?_, d, hk⟩
      rcases Nat.eq_or_lt_of_le hle with rfl | hlt
      · exact absurd (hk.slot.symm.trans hhole.slot) (by simp)
      · exact (hbefore i (Nat.zero_le i) hlt).1 hhole
    · rw [hrun, List.append_assoc]
      rfl
    · intro c hc heq
      obtain ⟨j, hj, hc⟩ := List.mem_flatMap.mp hc
      have hslot := (mem_failedCalls hc).2.1
      rw [heq] at hslot
      have hjk : j = k := hd j k d hslot hk.slot
      have hlt := (List.mem_range'_1.mp hj).2
      omega
  · refine .inl ⟨fun i hi hhole => ?_, none, _, hrun, fun i hi => hall i (Nat.zero_le i) (by omega),
      hrow fun j h0 hj => hall j h0 (by omega)⟩
    exact absurd hhole (hall i (Nat.zero_le i) (by omega)).1
  · refine .inr ⟨fun hclear => ?_, hrun⟩
    obtain ⟨j, hj, d, hd⟩ := hclear k (by omega) hk
    exact (hbefore j (Nat.zero_le j) hj).2 d hd

theorem layer2s_hole (id : Nat) : rfidLayer2s[id]? = some none ↔ id = 0 := by
  rcases id with _ | _ | _ | _ | id <;> simp [rfidLayer2s]

theorem protocols_hole (id : Nat) : rfidProtocols[id]? = some none ↔ id = 0 ∨ id = 4 := by
  rcases id with _ | _ | _ | _ | _ | _ | id <;> simp [rfidProtocols]

theorem distinct_of {n : Nat} (hlen : table.length = n)
    (h : ∀ i < n, ∀ j < n, table[i]? = table[j]? → i = j ∨ table[i]? = some none) :
    Distinct table := by
  intro i j d hi hj
  have hlt : ∀ {i : Nat}, table[i]? = some (some d) → i < n := fun hi =>
    hlen ▸ (List.getElem?_eq_some_iff.mp hi).1
  rcases h i (hlt hi) j (hlt hj) (hi.trans hj.symm) with heq | hnone
  · exact heq
  · exact absurd (hi.symm.trans hnone) (by simp)

theorem distinct_layer2s : Distinct rfidLayer2s :=
  distinct_of rfl (by decide)

theorem distinct_protocols : Distinct rfidProtocols :=
  distinct_of rfl (by decide)

theorem layer2s_clear : Clear a sup rfidLayer2s rfidLayer2Max ↔ ¬ sup 0 := by
  constructor
  · intro hclear hsup
    obtain ⟨k, hk, -⟩ := hclear 0 (by decide) ⟨hsup, rfl⟩
    exact absurd hk (Nat.not_lt_zero k)
  · intro hsup i hi hhole
    obtain rfl := (layer2s_hole i).mp hhole.slot
    exact absurd hhole.sup hsup

theorem protocols_clear : Clear a sup rfidProtocols rfidProtocolMax ↔
    ¬ sup 0 ∧ (sup 4 → ∃ k < 4, ∃ d, Works a sup rfidProtocols k d) := by
  constructor
  · intro hclear
    refine ⟨fun hsup => ?_, fun hsup => hclear 4 (by decide) ⟨hsup, rfl⟩⟩
    obtain ⟨k, hk, -⟩ := hclear 0 (by decide) ⟨hsup, rfl⟩
    exact absurd hk (Nat.not_lt_zero k)
  · rintro ⟨hzero, hfour⟩ i hi hhole
    rcases (protocols_hole i).mp hhole.slot with rfl | rfl
    · exact absurd hhole.sup hzero
    · exact hfour hhole.sup

theorem First.of_least {max k : Nat} {h : Option Driver} {d : Driver}
    (hfirst : First a sup table max h) (hk : Works a sup table k d) (hlt : k < max)
    (hleast : ∀ j < k, ∀ d', ¬ Works a sup table j d') : h = some d := by
  cases h with
  | none => exact absurd hk ((hfirst k hlt).2 d)
  | some d' =>
    obtain ⟨k', -, hk', hbefore⟩ := hfirst
    rcases Nat.lt_trichotomy k k' with hlt | rfl | hlt
    · exact absurd hk ((hbefore k hlt).2 d)
    · have hslot := hk'.slot.symm.trans hk.slot
      simpa using hslot
    · exact absurd hk' (hleast k' hlt d')

theorem First.isSome_iff {max : Nat} {h : Option Driver} (hfirst : First a sup table max h) :
    h.isSome ↔ ∃ i < max, ∃ d, Works a sup table i d := by
  cases h with
  | none =>
    refine iff_of_false (by simp) ?_
    rintro ⟨i, hi, d, hd⟩
    exact (hfirst i hi).2 d hd
  | some d =>
    obtain ⟨k, hk, hd, -⟩ := hfirst
    exact iff_of_true rfl ⟨k, hk, d, hd⟩

end

structure Scanned (a : Answers) (m : Masks) (ret : Int) (l2h ph : Option Driver)
    (log : List Call) : Prop where
  values : ret = 0 ∨ ret = 2 ∨ ret = 3
  layer2 : 2 ≤ ret ↔ ∃ i < rfidLayer2Max, ∃ d, Works a (l2Sup m) rfidLayer2s i d
  layer2_least : ∀ i < rfidLayer2Max, ∀ d, Works a (l2Sup m) rfidLayer2s i d →
    (∀ j < i, ∀ d', ¬ Works a (l2Sup m) rfidLayer2s j d') → l2h = some d
  protocol : ret = 3 ↔ ∃ h, l2h = some h ∧
    ∃ i < rfidProtocolMax, ∃ d, Works a (protoSup a m h) rfidProtocols i d
  protocol_least : ∀ h, l2h = some h → ∀ i < rfidProtocolMax, ∀ d,
    Works a (protoSup a m h) rfidProtocols i d →
      (∀ j < i, ∀ d', ¬ Works a (protoSup a m h) rfidProtocols j d') → ph = some d
  failed : ∀ d, .open d ∈ log → openRet a d < 0 → log.count (.fini d) = 1
  kept : ∀ d, l2h = some d ∨ ret = 3 ∧ ph = some d → log.count (.fini d) = 0

section

variable (a : Answers) (m : Masks) (past : Option Driver)

theorem scanned_none {log : List Call} (hfirst : First a (l2Sup m) rfidLayer2s rfidLayer2Max none)
    (hlog : Released a rfidLayer2s none log) : Scanned a m 0 none past log where
  values := .inl rfl
  layer2 := by
    rw [← hfirst.isSome_iff]
    simp
  layer2_least := fun i hi d hd hleast => hfirst.of_least hd hi hleast
  protocol := by simp
  protocol_least := by simp
  failed := fun d hopen hneg => List.count_eq_one_of_mem hlog.nodup (hlog.failed d hopen hneg)
  kept := by simp

theorem scanned_some {h : Driver} {ph : Option Driver} {l2Calls protoCalls : List Call}
    (hl2 : First a (l2Sup m) rfidLayer2s rfidLayer2Max (some h))
    (hl2Calls : Released a rfidLayer2s (some h) l2Calls)
    (hproto : First a (protoSup a m h) rfidProtocols rfidProtocolMax ph)
    (hprotoCalls : Released a rfidProtocols ph protoCalls) :
    Scanned a m (if ph.isSome then 3 else 2) (some h) ph (l2Calls ++ protoCalls) where
  values := by cases ph <;> simp
  layer2 := by
    rw [← hl2.isSome_iff]
    cases ph <;> simp
  layer2_least := fun i hi d hd hleast => hl2.of_least hd hi hleast
  protocol := by
    have hsome : (∃ h', some h = some h' ∧
        ∃ i < rfidProtocolMax, ∃ d, Works a (protoSup a m h') rfidProtocols i d) ↔ ph.isSome := by
      rw [hproto.isSome_iff]
      simp
    rw [hsome]
    cases ph <;> simp
  protocol_least := by
    rintro h' ⟨⟩ i hi d hd hleast
    exact hproto.of_least hd hi hleast
  failed := by
    intro d hopen hneg
    have hnodup : (l2Calls ++ protoCalls).Nodup := by
      refine List.Nodup.append hl2Calls.nodup hprotoCalls.nodup fun c hl2 hproto => ?_
      obtain ⟨i, hi⟩ := hl2Calls.slots c hl2
      obtain ⟨j, hj⟩ := hprotoCalls.slots c hproto
      have hi := List.mem_of_getElem? hi
      have hj := List.mem_of_getElem? hj
      simp only [rfidLayer2s, rfidProtocols, List.mem_cons, List.not_mem_nil, Option.some.injEq] at hi hj
      grind
    apply List.count_eq_one_of_mem hnodup
    rcases List.mem_append.mp hopen with hopen | hopen
    · exact List.mem_append_left _ (hl2Calls.failed d hopen hneg)
    · exact List.mem_append_right _ (hprotoCalls.failed d hopen hneg)
  kept := by
    intro d hret
    have hopens : 0 ≤ openRet a d := by
      rcases hret with heq | ⟨-, heq⟩
      · exact hl2Calls.kept d heq
      · exact hprotoCalls.kept d heq
    apply List.count_eq_zero_of_not_mem
    intro hfini
    rcases List.mem_append.mp hfini with hfini | hfini
    · exact absurd (hl2Calls.only d hfini) (Int.not_lt.mpr hopens)
    · exact absurd (hprotoCalls.only d hfini) (Int.not_lt.mpr hopens)

theorem rfidLayer2Scan_run :
    (¬ l2Sup m 0 ∧ ∃ h calls, rfidLayer2Scan a m [] = (.ok h, calls) ∧
        First a (l2Sup m) rfidLayer2s rfidLayer2Max h ∧ Released a rfidLayer2s h calls) ∨
      ¬ ¬ l2Sup m 0 ∧ ∃ log, rfidLayer2Scan a m [] = (.fail sigSegv, log) := by
  rw [← layer2s_clear (a := a)]
  exact scanFrom_zero distinct_layer2s rfidLayer2Max []

theorem rfidProtocolScan_run (h : Driver) (log : List Call) :
    (Clear a (protoSup a m h) rfidProtocols rfidProtocolMax ∧
        ∃ ph calls, rfidProtocolScan a m h log = (.ok ph, log ++ calls) ∧
          First a (protoSup a m h) rfidProtocols rfidProtocolMax ph ∧ Released a rfidProtocols ph calls) ∨
      ¬ Clear a (protoSup a m h) rfidProtocols rfidProtocolMax ∧
        ∃ log', rfidProtocolScan a m h log = (.fail sigSegv, log') :=
  scanFrom_zero distinct_protocols rfidProtocolMax log

theorem rfidScan_run :
    (∃ ret l2h ph log, rfidScan a m past [] = (.ok (ret, l2h, ph), log) ∧
        Scanned a m ret l2h ph log) ↔
      ¬ l2Sup m 0 ∧ ∀ h, First a (l2Sup m) rfidLayer2s rfidLayer2Max (some h) →
        Clear a (protoSup a m h) rfidProtocols rfidProtocolMax := by
  have hcrash : ∀ {log}, rfidScan a m past [] = (.fail sigSegv, log) →
      ¬ ∃ ret l2h ph log, rfidScan a m past [] = (.ok (ret, l2h, ph), log) ∧
        Scanned a m ret l2h ph log := by
    rintro log hfail ⟨ret, l2h, ph, log', hok, -⟩
    rw [hfail] at hok
    cases hok
  rcases rfidLayer2Scan_run a m with ⟨hclear, h, l2Calls, hl2, hfirst, hreleased⟩ | ⟨hhole, log, hl2⟩
  · cases h with
    | none =>
      refine iff_of_true ⟨0, none, past, l2Calls, ?_, scanned_none a m past hfirst hreleased⟩
        ⟨hclear, fun h hsome => ?_⟩
      · rw [rfidScan, bind_ok hl2]
        rfl
      · obtain ⟨k, hk, hd, -⟩ := hsome
        exact absurd hd ((hfirst k hk).2 h)
    | some h =>
      have hunique : ∀ h', First a (l2Sup m) rfidLayer2s rfidLayer2Max (some h') → h' = h := by
        rintro h' ⟨k, hk, hd, hbefore⟩
        exact (Option.some.inj (hfirst.of_least hd hk fun j hj => (hbefore j hj).2)).symm
      rcases rfidProtocolScan_run a m h l2Calls with
        ⟨hproto, ph, calls, hscan, hph, hcalls⟩ | ⟨hproto, log', hscan⟩
      · refine iff_of_true ⟨_, _, _, _, ?_, scanned_some a m hfirst hreleased hph hcalls⟩
          ⟨hclear, fun h' hh' => (hunique h' hh').symm ▸ hproto⟩
        rw [rfidScan, bind_ok hl2]
        exact bind_ok hscan
      · apply iff_of_false
        · apply hcrash
          rw [rfidScan, bind_ok hl2]
          exact bind_fail hscan
        · exact fun hall => hproto (hall.2 h hfirst)
  · apply iff_of_false
    · apply hcrash
      rw [rfidScan, bind_fail hl2]
    · exact fun hall => hhole hall.1

theorem driverInit_ok_iff (table : List (Option Driver)) (id : Nat) (log : List Call) :
    (∃ h log', driverInit a table id log = (.ok h, log')) ↔ ¬ table[id]? = some none := by
  rcases hslot : table[id]? with _ | _ | d
  · exact iff_of_true ⟨_, _, driverInit_none hslot log⟩ (by simp)
  · refine iff_of_false ?_ (by simp)
    rintro ⟨h, log', hrun⟩
    rw [driverInit_hole hslot log] at hrun
    cases hrun
  · exact iff_of_true ⟨_, _, driverInit_slot hslot log⟩ (by simp)

/-- The slots of `RFID_LAYER2_NONE`, `RFID_PROTOCOL_UNKNOWN` and `RFID_PROTOCOL_ICODE_SLI` are
empty, and nothing checks for that: a scan is as it should be exactly when the masks do not ask for
one of them before something is found. -/
theorem rfidScan_exact_iff :
    ((∃ ret l2h ph log, rfidScan a m past [] = (.ok (ret, l2h, ph), log) ∧
        Scanned a m ret l2h ph log) ↔
      ¬ l2Sup m 0 ∧ ∀ h, First a (l2Sup m) rfidLayer2s rfidLayer2Max (some h) →
        ¬ protoSup a m h 0 ∧
          (protoSup a m h 4 → ∃ k < 4, ∃ d, Works a (protoSup a m h) rfidProtocols k d)) ∧
      ∀ id log, ((∃ h log', rfidLayer2Init a id log = (.ok h, log')) ↔ id ≠ 0) ∧
        ((∃ h log', rfidProtocolInit a id log = (.ok h, log')) ↔ id ≠ 0 ∧ id ≠ 4) := by
  refine ⟨?_, fun id log => ⟨?_, ?_⟩⟩
  · simp only [rfidScan_run, protocols_clear]
  · exact (driverInit_ok_iff a rfidLayer2s id log).trans (not_congr (layer2s_hole id))
  · refine (driverInit_ok_iff a rfidProtocols id log).trans ?_
    rw [protocols_hole, not_or]

end

def willing : Answers := ⟨fun _ => true, fun _ => none, fun _ => 0⟩

/-- `RFID_PROTOCOL_ICODE_SLI`, and a mask with `RFID_LAYER2_NONE` in it. -/
theorem rfidScan_hole :
    rfidProtocolInit willing 4 [] = (.fail sigSegv, []) ∧
      rfidScan willing ⟨1, 0⟩ none [] = (.fail sigSegv, []) := by
  refine ⟨rfl, ?_⟩
  rw [rfidScan]
  exact bind_fail (bind_fail rfl)

end Librfid.Scan
