import Librfid.Proto.Grants

namespace Librfid.Proto

open Rc632 Layer2 Exec

section

variable {σ : Type} (r : MifareReader σ) (hd : Handle)

def mifareClAuth (key : List UInt8) (page : Nat) : Exec σ Int := do
  let rc ← mfclSetKey r key
  if rc < 0 then pure rc
  else do
    let rc ← mfclAuth r hd rfidCmdMifareAuth1a (UInt8.ofNat page)
    if rc < 0 then pure rc else pure 0

/-- The loop of `-b`, with the keys it prints; `key` goes from one round to the next. -/
def bruteForce (page : Nat) : List Nat → List UInt8 → Exec (σ × List (List UInt8)) Unit
  | [], _ => pure ()
  | i :: rest, key => do
    let key := key.set 5 (UInt8.ofNat i)
    let rc ← lift (mifareClAuth r hd key page)
    when (0 ≤ rc) (modify fun out => out ++ [key])
    bruteForce page rest key

end

theorem bruteForce_mimics {γ : Type} (card : CryptoCard γ) (undef : UInt8) (fuel : Nat) (hd : Handle)
    (page : Nat) (is : List Nat) (key : List UInt8) :
    Mimics (Beside OnDesk) (bruteForce (cryptoReader card undef (fuel + 1)) hd page is key)
      (bruteForce (deskReader card undef) hd page is key) Eq := by
  induction is generalizing key with
  | nil => exact .pure rfl
  | cons i rest ih =>
    refine .bind_eq (.lift (.bind_eq (mfclSetKey_mimics card undef fuel _) fun rc => ?_)) fun rc => ?_
    · refine .ite (fun _ => .pure rfl) fun _ => ?_
      refine .bind_eq (mfclAuth_mimics card undef fuel hd _ _) fun rc => ?_
      exact .ite (fun _ => .pure rfl) fun _ => .pure rfl
    · exact .bind_eq (.when fun _ => .modify _) fun _ => ih _

namespace Vault

theorem challenge_selected (cmd block : UInt8) (uid : List UInt8) {g : Vault}
    (hg : g.phase = .selected) :
    (g.plan.headD .heard = .heard → challenge cmd block uid g =
      (true, ⟨g.blocks, .challenged cmd (standardSector block.toNat) uid, g.plan.tail⟩)) ∧
    (g.plan.headD .heard = .unheard → challenge cmd block uid g =
      (false, ⟨g.blocks, .asleep, g.plan.tail⟩)) ∧
    (g.plan.headD .heard = .lost → challenge cmd block uid g =
      (false, ⟨g.blocks, .selected, g.plan.tail⟩)) := by
  refine ⟨fun hfate => ?_, fun hfate => ?_, fun hfate => ?_⟩
  · simp only [challenge, fated, hfate, hg]
  · simp only [challenge, fated, hfate, hg, asleep]
  · simp only [challenge, fated, hfate, missed, hg]

/-- The right key, and both frames are heard. -/
def Opens (locks : Locks) (cmd : UInt8) (sector : Nat) (key uid : List UInt8) (plan : List Fate) :
    Prop :=
  plan.getD 0 .heard = .heard ∧ plan.getD 1 .heard = .heard ∧ key = locks.key cmd sector ∧ uid = locks.uid

theorem verify_challenged (locks : Locks) (key : List UInt8) {cmd : UInt8} {sector : Nat}
    {uid : List UInt8} {g : Vault} (hg : g.phase = .challenged cmd sector uid) :
    (g.plan.headD .heard = .heard ∧ key = locks.key cmd sector ∧ uid = locks.uid →
      (verify locks key g).1 = true) ∧
    (¬ (g.plan.headD .heard = .heard ∧ key = locks.key cmd sector ∧ uid = locks.uid) →
      (verify locks key g).1 = false ∧ (verify locks key g).2.phase = .asleep) := by
  refine ⟨fun hright => ?_, fun hwrong => ?_⟩
  · simp only [verify, fated, hright.1, hg, if_pos hright.2]
  · cases hfate : g.plan.headD .heard with
    | heard => simp only [verify, fated, hfate, hg, if_neg fun h => hwrong ⟨hfate, h⟩, asleep, and_self]
    | unheard => simp only [verify, fated, hfate, asleep, and_self]
    | lost => simp only [verify, fated, hfate, missed, hg, asleep, and_self]

end Vault

theorem getD_tail {α : Type} (l : List α) (n : Nat) (a : α) : l.tail.getD n a = l.getD (n + 1) a := by
  cases l with
  | nil => rfl
  | cons => rfl

section

variable {locks : Locks} {undef : UInt8} {hd : Handle} {w : Desk Vault}

theorem mifareClAuth_run {key : List UInt8} (hkey : key.length = 6) {page : Nat} {ret : Int}
    {w' : Desk Vault}
    (h : Desk.auth (vaultCard locks) rfidCmdMifareAuth1a (UInt8.ofNat page) (hd.uid.load 0 4)
      { w with key := key } = (.ok ret, w')) :
    mifareClAuth (deskReader (vaultCard locks) undef) hd key page w =
      (.ok (if ret < 0 then ret else 0), w') := by
  rw [mifareClAuth, bind_ok (deskSetKey _ undef hkey w), if_neg (Int.lt_irrefl 0)]
  change (mfclAuth (deskReader (vaultCard locks) undef) hd rfidCmdMifareAuth1a (UInt8.ofNat page))
    { w with key := key } = (.ok ret, w') at h
  rw [bind_ok h]
  split_ifs
  · rfl
  · rfl

theorem mifareClAuth_asleep {key : List UInt8} (hkey : key.length = 6) (page : Nat)
    (hw : w.card.phase = .asleep) :
    ∃ ret w', mifareClAuth (deskReader (vaultCard locks) undef) hd key page w = (.ok ret, w') ∧
      ret < 0 ∧ w'.card.phase = .asleep := by
  obtain ⟨hfalse, hphase⟩ :=
    Vault.challenge_asleep rfidCmdMifareAuth1a (UInt8.ofNat page) (hd.uid.load 0 4) hw
  exact ⟨_, _, mifareClAuth_run hkey (Desk.auth_unheard (by decide) hfalse), by decide, hphase⟩

theorem mifareClAuth_selected (undef : UInt8) (hd : Handle) {key : List UInt8} (hkey : key.length = 6)
    (page : Nat) (hw : w.card.phase = .selected) :
    ∃ ret w', mifareClAuth (deskReader (vaultCard locks) undef) hd key page w = (.ok ret, w') ∧
      (w.card.plan.getD 0 .heard = .lost →
        ret < 0 ∧ w'.card.phase = .selected ∧ w'.card.plan = w.card.plan.tail) ∧
      (w.card.plan.getD 0 .heard ≠ .lost →
        (0 ≤ ret ↔ Vault.Opens locks rfidCmdMifareAuth1a (standardSector (UInt8.ofNat page).toNat) key
          (hd.uid.load 0 4) w.card.plan) ∧
        (ret < 0 → w'.card.phase = .asleep)) := by
  have hcmd : ¬ (rfidCmdMifareAuth1a ≠ cmdMifareAuth1a ∧ rfidCmdMifareAuth1a ≠ cmdMifareAuth1b) := by
    decide
  obtain ⟨hheard, hunheard, hlost⟩ := Vault.challenge_selected rfidCmdMifareAuth1a (UInt8.ofNat page)
    (hd.uid.load 0 4) hw
  have hmissed : ∀ g', Vault.challenge rfidCmdMifareAuth1a (UInt8.ofNat page) (hd.uid.load 0 4) w.card =
      (false, g') → ∃ ret w',
        mifareClAuth (deskReader (vaultCard locks) undef) hd key page w = (.ok ret, w') ∧
        ret < 0 ∧ w'.card = g' := fun g' hg' =>
    ⟨_, _, mifareClAuth_run hkey (Desk.auth_unheard hcmd (congrArg Prod.fst hg')), by decide,
      congrArg Prod.snd hg'⟩
  rw [List.headD_eq_getD] at hheard hunheard hlost
  cases hfate : w.card.plan.getD 0 .heard with
  | heard =>
    obtain ⟨g₁, hg₁⟩ : ∃ g₁ : Vault, g₁ = ⟨w.card.blocks, .challenged rfidCmdMifareAuth1a
      (standardSector (UInt8.ofNat page).toNat) (hd.uid.load 0 4), w.card.plan.tail⟩ := ⟨_, rfl⟩
    have hfirst := (hheard hfate).trans (congrArg (Prod.mk true) hg₁.symm)
    have hdesk : (Desk.challenge (vaultCard locks) rfidCmdMifareAuth1a (UInt8.ofNat page)
        (hd.uid.load 0 4) { w with key := key }).2 = ⟨key, false, g₁⟩ :=
      congrArg (Desk.mk key false) (congrArg Prod.snd hfirst)
    have hauth : Desk.auth (vaultCard locks) rfidCmdMifareAuth1a (UInt8.ofNat page) (hd.uid.load 0 4)
        { w with key := key } = (.ok (if (Vault.verify locks key g₁).1 then 0 else -eAcces),
          (Desk.verify (vaultCard locks) ⟨key, false, g₁⟩).2) :=
      Desk.auth_heard hcmd (congrArg Prod.fst hfirst) hdesk
    obtain ⟨hright, hwrong⟩ := Vault.verify_challenged locks key (congrArg Vault.phase hg₁)
    have hplan : g₁.plan.headD .heard = w.card.plan.getD 1 .heard := by
      rw [hg₁, List.headD_eq_getD, getD_tail]
    rw [hplan] at hright hwrong
    refine ⟨_, _, mifareClAuth_run hkey hauth, nofun, fun _ => ?_⟩
    rw [Vault.Opens, hfate, eq_self, true_and]
    by_cases hopen : w.card.plan.getD 1 .heard = .heard ∧
        key = locks.key rfidCmdMifareAuth1a (standardSector (UInt8.ofNat page).toNat) ∧
        hd.uid.load 0 4 = locks.uid
    · rw [hright hopen]
      exact ⟨iff_of_true (by decide) hopen, fun hneg => absurd hneg (by decide)⟩
    · obtain ⟨hfalse, hasleep⟩ := hwrong hopen
      rw [hfalse]
      exact ⟨iff_of_false (by decide) hopen, fun _ => hasleep⟩
  | unheard =>
    obtain ⟨ret, w', hrun, hret, hcard⟩ := hmissed _ (hunheard hfate)
    refine ⟨ret, w', hrun, nofun, fun _ => ⟨?_, fun _ => congrArg Vault.phase hcard⟩⟩
    exact iff_of_false (Int.not_le.mpr hret) fun hopen => nomatch hfate.symm.trans hopen.1
  | lost =>
    obtain ⟨ret, w', hrun, hret, hcard⟩ := hmissed _ (hlost hfate)
    exact ⟨ret, w', hrun, fun _ => ⟨hret, congrArg Vault.phase hcard, congrArg Vault.plan hcard⟩,
      fun hne => absurd rfl hne⟩

end

theorem bruteForce_cons {σ : Type} {r : MifareReader σ} {hd : Handle} {key : List UInt8} {page i : Nat}
    {ret : Int} {w w' : σ} (h : mifareClAuth r hd (key.set 5 (UInt8.ofNat i)) page w = (.ok ret, w'))
    (rest : List Nat) (out : List (List UInt8)) :
    bruteForce r hd page (i :: rest) key (w, out) =
      bruteForce r hd page rest (key.set 5 (UInt8.ofNat i))
        (w', if 0 ≤ ret then out ++ [key.set 5 (UInt8.ofNat i)] else out) := by
  have hlift : lift (mifareClAuth r hd (key.set 5 (UInt8.ofNat i)) page) (w, out) =
      (.ok ret, (w', out)) := lift_run h
  rw [bruteForce, bind_ok hlift]
  split_ifs with hret
  · rw [when_of hret]
    rfl
  · rw [when_of_not hret]
    rfl

section

variable {locks : Locks} {undef : UInt8} {hd : Handle} {page : Nat}

theorem bruteForce_none {P : Desk Vault → Prop} {key : List UInt8} {is : List Nat}
    (h : ∀ i ∈ is, ∀ w, P w → ∃ ret w', mifareClAuth (deskReader (vaultCard locks) undef) hd
      (key.set 5 (UInt8.ofNat i)) page w = (.ok ret, w') ∧ ret < 0 ∧ P w')
    (out : List (List UInt8)) {w : Desk Vault} (hw : P w) :
    ∃ w', bruteForce (deskReader (vaultCard locks) undef) hd page is key (w, out) =
      (.ok (), (w', out)) := by
  induction is generalizing w key with
  | nil => exact ⟨w, rfl⟩
  | cons i rest ih =>
    obtain ⟨hfirst, hrest⟩ := List.forall_mem_cons.mp h
    obtain ⟨ret, w₁, hrun, hneg, hw₁⟩ := hfirst w hw
    rw [bruteForce_cons hrun, if_neg (Int.not_le.mpr hneg)]
    refine ih (fun j hj => ?_) hw₁
    rw [List.set_set]
    exact hrest j hj

theorem mifareClAuth_wrong {key : List UInt8} (hkey : key.length = 6)
    (hwrong : key ≠ locks.key rfidCmdMifareAuth1a (standardSector (UInt8.ofNat page).toNat))
    (w : Desk Vault) :
    ∃ ret w', mifareClAuth (deskReader (vaultCard locks) undef) hd key page w = (.ok ret, w') ∧
      ret < 0 := by
  obtain ⟨ret, w₁, hauth, -⟩ := deskAuth_total (vaultCard locks) undef hd rfidCmdMifareAuth1a
    (UInt8.ofNat page) { w with key := key } trivial
  refine ⟨_, w₁, mifareClAuth_run hkey hauth, ?_⟩
  obtain ⟨-, -, ⟨rfl, -⟩ | ⟨hfailed, -⟩ | ⟨-, hright, -⟩⟩ := mfclAuth_vault hauth
  · decide
  · rw [if_pos hfailed.1]
    exact hfailed.1
  · exact absurd hright hwrong

theorem set_last_inj {key : List UInt8} (hkey : key.length = 6) {i j : Nat} (hi : i < 256) (hj : j < 256)
    (h : key.set 5 (UInt8.ofNat i) = key.set 5 (UInt8.ofNat j)) : i = j := by
  have hlast := congrArg (·[5]?) h
  have hlen : 5 < key.length := hkey ▸ (by decide)
  simp only [List.getElem?_set_self hlen, Option.some.injEq] at hlast
  have hnat := congrArg UInt8.toNat hlast
  rwa [UInt8.toNat_ofNat_of_lt' hi, UInt8.toNat_ofNat_of_lt' hj] at hnat

theorem bruteForce_selected (locks : Locks) (undef : UInt8) (hd : Handle) (page : Nat) {m i : Nat}
    (hi : i + m ≤ 256) {key : List UInt8} (hkey : key.length = 6) (out : List (List UInt8))
    {w : Desk Vault} (hw : w.card.phase = .selected) :
    ∃ w' found, bruteForce (deskReader (vaultCard locks) undef) hd page (List.range' i m) key (w, out) =
        (.ok (), (w', out ++ found)) ∧ found.length ≤ 1 ∧
      ∀ k, k ∈ found ↔ ∃ n < m, k = key.set 5 (UInt8.ofNat (i + n)) ∧
        (∀ j < n, w.card.plan.getD j .heard = .lost) ∧ Vault.Opens locks rfidCmdMifareAuth1a
          (standardSector (UInt8.ofNat page).toNat) k (hd.uid.load 0 4) (w.card.plan.drop n) := by
  have hset : ∀ {key : List UInt8}, key.length = 6 → ∀ n, (key.set 5 (UInt8.ofNat n)).length = 6 :=
    fun hkey n => List.length_set.trans hkey
  induction m generalizing i key out w with
  | zero => exact ⟨w, [], by rw [List.append_nil]; rfl, Nat.zero_le 1, fun k => by simp⟩
  | succ m ih =>
    rw [List.range'_succ]
    obtain ⟨ret, w₁, hrun, hlost, hheard⟩ := mifareClAuth_selected undef hd (hset hkey i) page hw
    rw [bruteForce_cons hrun]
    by_cases hfate : w.card.plan.getD 0 .heard = .lost
    · obtain ⟨hneg, hphase, hplan⟩ := hlost hfate
      rw [if_neg (Int.not_le.mpr hneg)]
      obtain ⟨w', found, hrest, hlen, hfound⟩ :=
        ih (by omega : i + 1 + m ≤ 256) (hset hkey i) out hphase
      refine ⟨w', found, hrest, hlen, fun k => (hfound k).trans ?_⟩
      simp only [hplan, getD_tail, List.set_set, List.drop_tail]
      constructor
      · rintro ⟨n, hn, hk, hbefore, hopen⟩
        refine ⟨n + 1, Nat.succ_lt_succ hn, hk.trans (by rw [Nat.add_right_comm, Nat.add_assoc]),
          fun j hj => ?_, hopen⟩
        cases j with
        | zero => exact hfate
        | succ j => exact hbefore j (Nat.lt_of_succ_lt_succ hj)
      · rintro ⟨n, hn, hk, hbefore, hopen⟩
        cases n with
        | zero => exact nomatch hfate.symm.trans hopen.1
        | succ n =>
          exact ⟨n, Nat.lt_of_succ_lt_succ hn, hk.trans (by rw [Nat.add_right_comm, Nat.add_assoc]),
            fun j hj => hbefore (j + 1) (Nat.succ_lt_succ hj), hopen⟩
    · obtain ⟨hiff, hasleep⟩ := hheard hfate
      have hzero : ∀ n, (∀ j < n, w.card.plan.getD j .heard = .lost) → n = 0 := fun n hn => by
        by_contra hne
        exact hfate (hn 0 (Nat.pos_of_ne_zero hne))
      by_cases hret : 0 ≤ ret
      · have hopen := hiff.mp hret
        obtain ⟨w', hrest⟩ : ∃ w', bruteForce (deskReader (vaultCard locks) undef) hd page
            (List.range' (i + 1) m) (key.set 5 (UInt8.ofNat i)) (w₁, out ++ [key.set 5 (UInt8.ofNat i)]) =
            (.ok (), (w', out ++ [key.set 5 (UInt8.ofNat i)])) := by
          refine bruteForce_none (P := fun _ => True) (fun j hj w _ => ?_) _ trivial
          obtain ⟨hlow, hhigh⟩ := List.mem_range'_1.mp hj
          have hwrong : (key.set 5 (UInt8.ofNat i)).set 5 (UInt8.ofNat j) ≠
              locks.key rfidCmdMifareAuth1a (standardSector (UInt8.ofNat page).toNat) := fun heq => by
            rw [List.set_set, ← hopen.2.2.1] at heq
            exact absurd (set_last_inj hkey (by omega) (by omega) heq) (by omega)
          obtain ⟨ret, w', hrun, hneg⟩ := mifareClAuth_wrong (hset (hset hkey i) j) hwrong w
          exact ⟨ret, w', hrun, hneg, trivial⟩
        rw [if_pos hret]
        refine ⟨w', [key.set 5 (UInt8.ofNat i)], hrest, Nat.le_refl 1, fun k => ?_⟩
        rw [List.mem_singleton]
        constructor
        · rintro rfl
          exact ⟨0, Nat.succ_pos m, rfl, nofun, hopen⟩
        · rintro ⟨n, -, hk, hbefore, -⟩
          obtain rfl := hzero n hbefore
          exact hk
      · obtain ⟨w', hrest⟩ : ∃ w', bruteForce (deskReader (vaultCard locks) undef) hd page
            (List.range' (i + 1) m) (key.set 5 (UInt8.ofNat i)) (w₁, out) = (.ok (), (w', out)) :=
          bruteForce_none (P := fun w => w.card.phase = .asleep)
            (fun j _ w hw => mifareClAuth_asleep (hset (hset hkey i) j) page hw) out
            (hasleep (Int.not_le.mp hret))
        rw [if_neg hret]
        refine ⟨w', [], by rwa [List.append_nil], Nat.zero_le 1, fun k => ?_⟩
        refine iff_of_false List.not_mem_nil ?_
        rintro ⟨n, -, rfl, hbefore, hopen⟩
        obtain rfl := hzero n hbefore
        exact hret (hiff.mpr hopen)

end

/-- The search of a key's last byte, on the chip: it prints at most one key, and only with the byte that
it tries when the card first hears it.  Where no frame is lost that byte is 0. -/
theorem bruteForce_finds (locks : Locks) (undef : UInt8) (fuel : Nat) (hd : Handle) (page : Nat)
    {key : List UInt8} (hkey : key.length = 6) {c : CryptoChip Vault} {w : Desk Vault} (hc : OnDesk c w)
    (hw : w.card.phase = .selected) :
    ∃ c' w' found, bruteForce (cryptoReader (vaultCard locks) undef (fuel + 1)) hd page (List.range 256)
        key (c, []) = (.ok (), (c', found)) ∧ OnDesk c' w' ∧ found.length ≤ 1 ∧
      ∀ k, k ∈ found ↔ ∃ n < 256, k = key.set 5 (UInt8.ofNat n) ∧
        (∀ j < n, w.card.plan.getD j .heard = .lost) ∧ Vault.Opens locks rfidCmdMifareAuth1a
          (standardSector (UInt8.ofNat page).toNat) k (hd.uid.load 0 4) (w.card.plan.drop n) := by
  obtain ⟨w', found, hrun, hlen, hfound⟩ :=
    bruteForce_selected locks undef hd page (Nat.le_refl (0 + 256)) hkey [] hw
  rw [← List.range_eq_range'] at hrun
  obtain ⟨halike, hdesk, hout⟩ :=
    bruteForce_mimics (vaultCard locks) undef fuel hd page (List.range 256) key (c, []) (w, []) ⟨hc, rfl⟩
  rw [hrun] at halike hdesk hout
  refine ⟨_, w', found, Prod.ext halike.eq (Prod.ext rfl hout), hdesk, hlen, fun k => ?_⟩
  simpa only [Nat.zero_add] using hfound k

theorem bruteForce_finds_two : ∃ c' w' found,
    bruteForce (cryptoReader (vaultCard plainLocks) 0 1) (cardHandle 0x04 0x08) 4 (List.range 256)
        [1, 2, 3, 4, 5, 6] (plainChip [.lost, .lost], []) = (.ok (), (c', found)) ∧ OnDesk c' w' ∧
      found.length ≤ 1 ∧ [1, 2, 3, 4, 5, 2] ∈ found := by
  have hkey : ([1, 2, 3, 4, 5, 6] : List UInt8).length = 6 := rfl
  obtain ⟨c', w', found, hrun, hdesk, hlen, hfound⟩ := bruteForce_finds plainLocks 0 0
    (cardHandle 0x04 0x08) 4 hkey (plainChip_onDesk [.lost, .lost]) rfl
  refine ⟨c', w', found, hrun, hdesk, hlen, (hfound _).mpr ⟨2, by decide, rfl, fun j hj => ?_, ?_⟩⟩
  · obtain rfl | rfl : j = 0 ∨ j = 1 := by omega
    · rfl
    · rfl
  · exact ⟨rfl, rfl, rfl, rfl⟩

end Librfid.Proto
