import Librfid.Proto.Vault

namespace Librfid.Proto

open Rc632 Layer2 Exec

def Failed (ret : Int) : Prop := ret < 0 ∧ ret ≠ -eInval

theorem failed_timedOut : Failed (-eTimedOut) := ⟨by decide, by decide⟩

theorem failed_perm : Failed (-ePerm) := ⟨by decide, by decide⟩

theorem failed_acces : Failed (-eAcces) := ⟨by decide, by decide⟩

theorem Block.load_copied (m stack : Mem UInt8) (block : Block) {n : Nat} (hle : n ≤ mifareClPageSize)
    (hge : mifareClPageSize ≤ n) :
    Block.load (m.store 0 ((stack.store 0 block.bytes).load 0 n)) = block := by
  obtain rfl := Nat.le_antisymm hle hge
  have hlen : mifareClPageSize ≤ block.bytes.length := Nat.le_of_eq block.length.symm
  have hbytes : (m.store 0 ((stack.store 0 block.bytes).load 0 mifareClPageSize)).load 0
      mifareClPageSize = block.bytes := by
    rw [Mem.load_store_take _ _ _ (Nat.le_of_eq (Mem.length_load _ _ _).symm),
      Mem.load_store_take _ _ _ hlen, List.take_take, Nat.min_self,
      List.take_of_length_le (Nat.le_of_eq block.length)]
  exact Block.ext hbytes

section

variable {locks : Locks} {undef : UInt8} {stack : Mem UInt8} {hd : Handle} {w w' : Desk Vault}

theorem deskTransceive_vault {frame : List UInt8} {rx : Mem UInt8} {rxLen : Nat} {x : AbResult}
    (h : Desk.transceive (vaultCard locks) frame rx rxLen w = (.ok x, w')) :
    ∃ r, Vault.hear w.crypto frame w.card = r ∧ w' = { w with card := r.2 } ∧
      x = r.1.elim ⟨-eTimedOut, rxLen, rx.store 0 (List.replicate rxLen 0)⟩ fun bytes =>
        ⟨0, bytes.length, (rx.store 0 (List.replicate rxLen 0)).store 0 bytes⟩ := by
  rw [Desk.transceive_run] at h
  cases h
  exact ⟨_, rfl, rfl, rfl⟩

theorem mfclRead_vault {page rxLen : Nat} {rxData : Mem UInt8} {x : MfclReadResult}
    (h : mfclRead (deskReader (vaultCard locks) undef) stack page rxData rxLen w = (.ok x, w')) :
    w'.key = w.key ∧ w'.card.blocks = w.card.blocks ∧
      (x.ret = -eInval ∧ w' = w ∧ page > mifareClPageMax ∨
        Failed x.ret ∧ w'.card.phase.Shut ∨
        0 ≤ x.ret ∧ w.card.phase = .opened (standardSector page) ∧ w'.card.phase = w.card.phase ∧
          x.rxLen = min mifareClPageSize rxLen ∧
          (mifareClPageSize ≤ x.rxLen → Block.load x.rxData = w.card.blocks page)) := by
  rw [mfclRead] at h
  split_ifs at h with hpage
  · cases h
    exact ⟨rfl, rfl, .inl ⟨rfl, rfl, hpage⟩⟩
  obtain ⟨x₀, w₁, hx, h⟩ := of_bind_ok h
  obtain ⟨r, hr, rfl, hx₀⟩ := deskTransceive_vault hx
  rcases Vault.hear_command (Nat.not_lt.mp hpage) hr with
    ⟨hnone | hnak, hshut, hblocks⟩ | ⟨hphase, ⟨-, rfl⟩ | ⟨hcmd, -⟩⟩
  · rw [hnone, Option.elim_none] at hx₀
    subst hx₀
    rw [if_pos failed_timedOut.1] at h
    cases h
    exact ⟨rfl, hblocks, .inr (.inl ⟨failed_timedOut, hshut⟩)⟩
  · rw [hnak, Option.elim_some] at hx₀
    subst hx₀
    rw [if_neg (Int.lt_irrefl 0), if_pos ⟨rfl, rfl⟩] at h
    cases h
    exact ⟨rfl, hblocks, .inr (.inl ⟨failed_perm, hshut⟩)⟩
  · have hlen : (w.card.blocks page).bytes.length = mifareClPageSize := (w.card.blocks page).length
    rw [Option.elim_some] at hx₀
    subst hx₀
    rw [if_neg (Int.lt_irrefl 0), if_neg fun hone => absurd (hlen.symm.trans hone.1) (by decide)] at h
    dsimp only at h
    rw [hlen] at h
    cases h
    have hmin : (if mifareClPageSize < rxLen then mifareClPageSize else rxLen) =
        min mifareClPageSize rxLen := by
      split_ifs <;> omega
    refine ⟨rfl, rfl, .inr (.inr ⟨Int.le_refl 0, hphase, rfl, hmin, ?_⟩)⟩
    exact Block.load_copied _ _ _ (hmin ▸ Nat.min_le_left _ _)
  · exact absurd hcmd (by decide : ¬ mifareClCmdRead = mifareClCmdWrite16)

theorem mfclWrite_data (page : Nat) {txData : List UInt8} (hlen : txData.length = mifareClPageSize)
    {rx : Mem UInt8} {rxLen : Nat} {ret : Int}
    (h : (do
      let x ← (deskReader (vaultCard locks) undef).transceive .mifareFrame
        (Mem.ofList (fun _ => 0) txData) txData.length rx rxLen mifareClWriteFwt
      if x.ret < 0 then pure x.ret
      else if x.rx 0 ≠ mifareUlRespAck then pure (- eIO)
      else pure x.ret) w = (.ok ret, w')) :
    w'.key = w.key ∧
      (w.card.phase.Shut → Failed ret ∧ w'.card.phase.Shut ∧ w'.card.blocks = w.card.blocks) ∧
      (w.card.phase = .writing page →
        0 ≤ ret ∧ w'.card.phase = .opened (standardSector page) ∧
            w'.card.blocks = Function.update w.card.blocks page ⟨txData, hlen⟩ ∨
          Failed ret ∧ w'.card.phase.Shut ∧ (w'.card.blocks = w.card.blocks ∨
            w'.card.blocks = Function.update w.card.blocks page ⟨txData, hlen⟩)) := by
  obtain ⟨x, w₁, hx, h⟩ := of_bind_ok h
  obtain ⟨r, hr, rfl, hx₀⟩ := deskTransceive_vault hx
  replace hr := (congrArg (Vault.hear w.crypto · w.card) (Mem.load_ofList _ txData)).symm.trans hr
  have hsilent : r.1 = none → Failed ret ∧ w' = { w with card := r.2 } := by
    intro hnone
    rw [hnone, Option.elim_none] at hx₀
    subst hx₀
    rw [if_pos failed_timedOut.1] at h
    cases h
    exact ⟨failed_timedOut, rfl⟩
  have hacked : r.1 = some [mifareClRespAck] → 0 ≤ ret ∧ w' = { w with card := r.2 } := by
    intro hack
    rw [hack, Option.elim_some] at hx₀
    subst hx₀
    rw [if_neg (Int.lt_irrefl 0), if_neg fun hne => hne rfl] at h
    cases h
    exact ⟨Int.le_refl 0, rfl⟩
  have hkey : w'.key = w.key := by
    split_ifs at h
    · cases h
      rfl
    · cases h
      rfl
    · cases h
      rfl
  refine ⟨hkey, fun hshut => ?_, fun hwriting => ?_⟩
  · obtain ⟨hnone, hshut', hblocks⟩ := Vault.hear_data_shut hshut hr
    obtain ⟨hfailed, rfl⟩ := hsilent hnone
    exact ⟨hfailed, hshut', hblocks⟩
  · rcases Vault.hear_data hlen hwriting hr with ⟨hack, hphase, hblocks⟩ | ⟨hnone, hshut, hblocks⟩
    · obtain ⟨hret, rfl⟩ := hacked hack
      exact .inl ⟨hret, hphase, hblocks⟩
    · obtain ⟨hfailed, rfl⟩ := hsilent hnone
      exact .inr ⟨hfailed, hshut, hblocks⟩

theorem mfclWrite_vault {page : Nat} {txData : List UInt8} {ret : Int}
    (h : mfclWrite (deskReader (vaultCard locks) undef) stack page txData w = (.ok ret, w')) :
    w'.key = w.key ∧
      (ret = -eInval ∧ w' = w ∧ (page > mifareClPageMax ∨ txData.length ≠ mifareClPageSize) ∨
        ∃ hlen : txData.length = mifareClPageSize, page ≤ mifareClPageMax ∧
          (Failed ret ∧ w'.card.phase.Shut ∧ (w'.card.blocks = w.card.blocks ∨ ¬ Trailer page ∧
              w'.card.blocks = Function.update w.card.blocks page ⟨txData, hlen⟩) ∨
            0 ≤ ret ∧ ¬ Trailer page ∧ w.card.phase = .opened (standardSector page) ∧
              w'.card.phase = w.card.phase ∧
              w'.card.blocks = Function.update w.card.blocks page ⟨txData, hlen⟩)) := by
  rw [mfclWrite] at h
  split_ifs at h with hpage hlen
  · cases h
    exact ⟨rfl, .inl ⟨rfl, rfl, .inl hpage⟩⟩
  · cases h
    exact ⟨rfl, .inl ⟨rfl, rfl, .inr hlen⟩⟩
  have hle := Nat.not_lt.mp hpage
  rw [not_not] at hlen
  obtain ⟨x, w₁, hx, h⟩ := of_bind_ok h
  obtain ⟨r, hr, rfl, hx₀⟩ := deskTransceive_vault hx
  rcases Vault.hear_command hle hr with
    ⟨hnone | hnak, hshut, hblocks⟩ | ⟨hphase, ⟨hcmd, -⟩ | ⟨-, hfree, rfl⟩⟩
  · rw [hnone, Option.elim_none] at hx₀
    subst hx₀
    rw [if_pos failed_timedOut.1] at h
    cases h
    exact ⟨rfl, .inr ⟨hlen, hle, .inl ⟨failed_timedOut, hshut, .inl hblocks⟩⟩⟩
  · rw [hnak, Option.elim_some] at hx₀
    subst hx₀
    rw [if_neg (Int.lt_irrefl 0)] at h
    obtain ⟨hkey, hdata, -⟩ := mfclWrite_data page hlen h
    obtain ⟨hfailed, hshut', hblocks'⟩ := hdata hshut
    exact ⟨hkey, .inr ⟨hlen, hle, .inl ⟨hfailed, hshut', .inl (hblocks'.trans hblocks)⟩⟩⟩
  · exact absurd hcmd (by decide : ¬ mifareClCmdWrite16 = mifareClCmdRead)
  · rw [Option.elim_some] at hx₀
    subst hx₀
    rw [if_neg (Int.lt_irrefl 0)] at h
    obtain ⟨hkey, -, hdata⟩ := mfclWrite_data page hlen h
    refine ⟨hkey, .inr ⟨hlen, hle, ?_⟩⟩
    rcases hdata rfl with ⟨hret, hopened, hblocks⟩ | ⟨hfailed, hshut, hblocks⟩
    · exact .inr ⟨hret, hfree, hphase, hopened.trans hphase.symm, hblocks⟩
    · exact .inl ⟨hfailed, hshut, hblocks.imp_right fun hnew => ⟨hfree, hnew⟩⟩

theorem mfclAuth_vault {cmd block : UInt8} {ret : Int}
    (h : mfclAuth (deskReader (vaultCard locks) undef) hd cmd block w = (.ok ret, w')) :
    w'.key = w.key ∧ w'.card.blocks = w.card.blocks ∧
      (ret = -eInval ∧ w' = w ∨ Failed ret ∧ w'.card.phase.Shut ∨
        0 ≤ ret ∧ w.key = locks.key cmd (standardSector block.toNat) ∧ hd.uid.load 0 4 = locks.uid ∧
          w'.card.phase = .opened (standardSector block.toNat)) := by
  change Desk.auth (vaultCard locks) cmd block (hd.uid.load 0 4) w = (.ok ret, w') at h
  by_cases hcmd : cmd ≠ cmdMifareAuth1a ∧ cmd ≠ cmdMifareAuth1b
  · rw [Desk.auth, if_pos hcmd] at h
    cases h
    exact ⟨rfl, rfl, .inl ⟨rfl, rfl⟩⟩
  obtain ⟨r, hr⟩ : ∃ r, Vault.challenge cmd block (hd.uid.load 0 4) w.card = r := ⟨_, rfl⟩
  have hw₁ : (Desk.challenge (vaultCard locks) cmd block (hd.uid.load 0 4) w).2 =
      { w with crypto := false, card := r.2 } := by
    rw [← hr]
    rfl
  obtain ⟨hblocks, ⟨hmissed, hshut⟩ | ⟨hheard, hphase⟩⟩ := Vault.challenge_phase hr
  · rw [Desk.auth_unheard hcmd ((congrArg Prod.fst hr).trans hmissed), hw₁] at h
    cases h
    exact ⟨rfl, hblocks, .inr (.inl ⟨failed_timedOut, hshut⟩)⟩
  rw [Desk.auth_heard hcmd ((congrArg Prod.fst hr).trans hheard) hw₁] at h
  obtain ⟨r', hr'⟩ : ∃ r', Vault.verify locks w.key r.2 = r' := ⟨_, rfl⟩
  have hw₂ : Desk.verify (vaultCard locks) { w with crypto := false, card := r.2 } =
      (.ok r'.1, { w with crypto := r'.1, card := r'.2 }) := by
    rw [← hr']
    rfl
  replace h : (Outcome.ok (if r'.1 then 0 else -eAcces),
      ({ w with crypto := r'.1, card := r'.2 } : Desk Vault)) = (.ok ret, w') := by
    rw [← h, hw₂, ← hr']
    rfl
  obtain ⟨hblocks', ⟨hwrong, hshut⟩ | ⟨hright, hkey, huid, hopened⟩⟩ := Vault.verify_phase hphase hr'
  · rw [hwrong] at h
    cases h
    exact ⟨rfl, hblocks'.trans hblocks, .inr (.inl ⟨failed_acces, hshut⟩)⟩
  · rw [hright] at h
    cases h
    exact ⟨rfl, hblocks'.trans hblocks, .inr (.inr ⟨Int.le_refl 0, hkey, huid, hopened⟩)⟩

end

/-- What a program has: the key that it loaded, and the sector that it opened. -/
structure Grant where
  key : List UInt8
  sector : Option Nat

namespace Grant

def after (g : Grant) (ret : Int) : Grant :=
  if 0 ≤ ret ∨ ret = -eInval then g else { g with sector := none }

def step (undef : UInt8) (g : Grant) : MfclCall → MfclAnswer → Grant
  | .setKey key, .ret _ => { g with key := (Mem.ofList (fun _ => undef) key).load 0 6 }
  | .auth _ block, .ret ret =>
    if 0 ≤ ret then { g with sector := some (standardSector block.toNat) } else g.after ret
  | .read _ _ _, .read x => g.after x.ret
  | .write _ _, .ret ret => g.after ret
  | _, _ => g

/-- No sector is opened but with its key, no block is read or written but in the open sector. -/
def Allows (locks : Locks) (uid : List UInt8) (g : Grant) : MfclCall → MfclAnswer → Prop
  | .auth cmd block, .ret ret =>
    0 ≤ ret → g.key = locks.key cmd (standardSector block.toNat) ∧ uid = locks.uid
  | .read page _ _, .read x => 0 ≤ x.ret → g.sector = some (standardSector page)
  | .write page _, .ret ret => 0 ≤ ret → g.sector = some (standardSector page)
  | _, _ => True

def AllowsAll (locks : Locks) (uid : List UInt8) (undef : UInt8) :
    Grant → List MfclCall → List MfclAnswer → Prop
  | g, c :: calls, x :: answers =>
    g.Allows locks uid c x ∧ (g.step undef c x).AllowsAll locks uid undef calls answers
  | _, _, _ => True

def Holds (g : Grant) (w : Desk Vault) : Prop :=
  w.key = g.key ∧
    (w.card.phase.Shut ∨ ∃ sector, w.card.phase = .opened sector ∧ g.sector = some sector)

theorem after_of_nonneg (g : Grant) {ret : Int} (h : 0 ≤ ret) : g.after ret = g := if_pos (.inl h)

theorem after_inval (g : Grant) : g.after (-eInval) = g := if_pos (.inr rfl)

theorem key_after (g : Grant) (ret : Int) : (g.after ret).key = g.key := by
  rw [after]
  split_ifs
  · rfl
  · rfl

variable {g : Grant} {w w' : Desk Vault}

theorem Holds.shut (hg : g.Holds w) (hkey : w'.key = w.key) (hshut : w'.card.phase.Shut) (ret : Int) :
    (g.after ret).Holds w' :=
  ⟨hkey.trans (hg.1.trans (g.key_after ret).symm), .inl hshut⟩

theorem Holds.open (hg : g.Holds w) {sector : Nat} (hphase : w.card.phase = .opened sector) :
    g.sector = some sector := by
  rcases hg.2 with hshut | ⟨sector', hphase', hsector⟩
  · rw [hphase] at hshut
    cases hshut
  · rw [hphase] at hphase'
    cases hphase'
    exact hsector

end Grant

def MfclCall.seen : MfclCall → MfclAnswer → List (Store.Event Nat Block)
  | .read page _ _, .read x =>
    if 0 ≤ x.ret ∧ mifareClPageSize ≤ x.rxLen then [.gave page (.load x.rxData)] else []
  | .write page txData, .ret ret =>
    if h : txData.length = mifareClPageSize then
      if 0 ≤ ret then [.wrote page ⟨txData, h⟩]
      else if page > mifareClPageMax then []
      else [.unsure page ⟨txData, h⟩]
    else []
  | _, _ => []

def blocksSeen (calls : List MfclCall) (answers : List MfclAnswer) : List (Store.Event Nat Block) :=
  (List.zipWith MfclCall.seen calls answers).flatten

abbrev BlockHistory : (Nat → Block) → List (Store.Event Nat Block) → (Nat → Block) → Prop :=
  Store.History (fun _ v _ => v) fun _ b => ¬ Trailer b

section

variable {locks : Locks} {undef : UInt8} {stack : Mem UInt8} {hd : Handle} {g : Grant}
  {w w' : Desk Vault}

theorem MfclCall.run_vault {c : MfclCall} {x : MfclAnswer} (hg : g.Holds w)
    (h : c.run (deskReader (vaultCard locks) undef) stack hd w = (.ok x, w')) :
    g.Allows locks (hd.uid.load 0 4) c x ∧ (g.step undef c x).Holds w' ∧
      BlockHistory w.card.blocks (c.seen x) w'.card.blocks := by
  cases c with
  | setKey key =>
    cases h
    exact ⟨trivial, ⟨rfl, hg.2⟩, .nil _⟩
  | auth cmd block =>
    obtain ⟨ret, w₁, hauth, h⟩ := of_bind_ok h
    cases h
    obtain ⟨hkey, hblocks, ⟨rfl, rfl⟩ | ⟨hfailed, hshut⟩ | ⟨hret, hright, huid, hphase⟩⟩ :=
      mfclAuth_vault hauth
    · refine ⟨fun hret => absurd hret (by decide : ¬ 0 ≤ -eInval), ?_, .nil _⟩
      rw [Grant.step, if_neg (by decide), g.after_inval]
      exact hg
    · refine ⟨fun hret => absurd hfailed.1 (Int.not_lt.mpr hret), ?_, hblocks ▸ .nil _⟩
      rw [Grant.step, if_neg (Int.not_le.mpr hfailed.1)]
      exact hg.shut hkey hshut ret
    · refine ⟨fun _ => ⟨hg.1.symm.trans hright, huid⟩, ?_, hblocks ▸ .nil _⟩
      rw [Grant.step, if_pos hret]
      exact ⟨hkey.trans hg.1, .inr ⟨_, hphase, rfl⟩⟩
  | read page rxData rxLen =>
    obtain ⟨y, w₁, hread, h⟩ := of_bind_ok h
    cases h
    obtain ⟨hkey, hblocks, hcases⟩ := mfclRead_vault hread
    have hnone : ¬ 0 ≤ y.ret → BlockHistory w.card.blocks
        ((MfclCall.read page rxData rxLen).seen (.read y)) w'.card.blocks := fun hneg => by
      rw [MfclCall.seen, if_neg fun h => hneg h.1, hblocks]
      exact .nil _
    rcases hcases with ⟨hinval, rfl, -⟩ | ⟨hfailed, hshut⟩ | ⟨hret, hphase, hphase', -, hload⟩
    · have hneg : ¬ 0 ≤ y.ret := hinval ▸ (by decide : ¬ 0 ≤ -eInval)
      refine ⟨fun hret => absurd hret hneg, ?_, hnone hneg⟩
      rw [Grant.step, hinval, g.after_inval]
      exact hg
    · have hneg := Int.not_le.mpr hfailed.1
      exact ⟨fun hret => absurd hret hneg, hg.shut hkey hshut y.ret, hnone hneg⟩
    · refine ⟨fun _ => hg.open hphase, ?_, ?_⟩
      · rw [Grant.step, g.after_of_nonneg hret]
        exact ⟨hkey.trans hg.1, hphase' ▸ hg.2⟩
      · rw [MfclCall.seen, hblocks]
        split_ifs with hwhole
        · rw [hload hwhole.2]
          exact .single (.gave _ page)
        · exact .nil _
  | write page txData =>
    obtain ⟨ret, w₁, hwrite, h⟩ := of_bind_ok h
    cases h
    obtain ⟨hkey, ⟨rfl, rfl, hbad⟩ | ⟨hlen, hle, hcases⟩⟩ := mfclWrite_vault hwrite
    · refine ⟨fun hret => absurd hret (by decide : ¬ 0 ≤ -eInval), ?_, ?_⟩
      · rw [Grant.step, g.after_inval]
        exact hg
      · have hnone : (MfclCall.write page txData).seen (.ret (-eInval)) = [] := by
          rw [MfclCall.seen]
          split_ifs with hlen hret hpage
          · exact absurd hret (by decide)
          · rfl
          · exact absurd hbad (not_or.mpr ⟨hpage, not_not.mpr hlen⟩)
          · rfl
        rw [hnone]
        exact .nil _
    · rw [MfclCall.seen, dif_pos hlen]
      rcases hcases with ⟨hfailed, hshut, hblocks⟩ | ⟨hret, hfree, hphase, hphase', hblocks⟩
      · have hneg := Int.not_le.mpr hfailed.1
        refine ⟨fun hret => absurd hret hneg, hg.shut hkey hshut ret, ?_⟩
        rw [if_neg hneg, if_neg (Nat.not_lt.mpr hle)]
        rcases hblocks with hsame | ⟨hfree, hnew⟩
        · rw [hsame]
          exact .single (.lost _ _ _)
        · rw [hnew]
          exact .single (.unheard _ hfree)
      · refine ⟨fun _ => hg.open hphase, ?_, ?_⟩
        · rw [Grant.step, g.after_of_nonneg hret]
          exact ⟨hkey.trans hg.1, hphase' ▸ hg.2⟩
        · rw [if_pos hret, hblocks]
          exact .single (.wrote _ hfree)

theorem mfclCalls_vault {calls : List MfclCall} {answers : List MfclAnswer} (hg : g.Holds w)
    (h : mfclCalls (deskReader (vaultCard locks) undef) stack hd calls w = (.ok answers, w')) :
    g.AllowsAll locks (hd.uid.load 0 4) undef calls answers ∧
      BlockHistory w.card.blocks (blocksSeen calls answers) w'.card.blocks := by
  induction calls generalizing w g answers with
  | nil =>
    cases h
    exact ⟨trivial, .nil _⟩
  | cons c calls ih =>
    obtain ⟨x, w₁, hcall, h⟩ := of_bind_ok h
    obtain ⟨xs, w₂, hcalls, h⟩ := of_bind_ok h
    cases h
    obtain ⟨hallows, hholds, hfirst⟩ := c.run_vault hg hcall
    obtain ⟨hall, hrest⟩ := ih hholds hcalls
    exact ⟨⟨hallows, hall⟩, hfirst.append hrest⟩

end

section

variable {γ : Type} (card : CryptoCard γ) (undef : UInt8) (stack : Mem UInt8) (hd : Handle)

theorem deskTransceive_total (tx : Mem UInt8) (txLen : Nat) (rx : Mem UInt8) (rxLen timeout : Nat) :
    Total (fun _ => True) ((deskReader card undef).transceive .mifareFrame tx txLen rx rxLen timeout)
      fun _ _ => True :=
  fun w _ => ⟨_, _, Desk.transceive_run (tx.load 0 txLen) rx rxLen w, trivial⟩

theorem deskSetKey {key : List UInt8} (hkey : key.length = 6) (w : Desk γ) :
    mfclSetKey (deskReader card undef) key w = (.ok 0, { w with key := key }) := by
  have hload : (Mem.ofList (fun _ => undef) key).load 0 6 = key := hkey ▸ Mem.load_ofList _ key
  exact congrArg (fun key => (Outcome.ok 0, ({ w with key := key } : Desk γ))) hload

theorem deskRead_total (page : Nat) (rxData : Mem UInt8) (rxLen : Nat) :
    Total (fun _ => True) (mfclRead (deskReader card undef) stack page rxData rxLen)
      fun _ _ => True := by
  refine .ite (fun _ => .pure fun _ => id) fun _ => .bind (deskTransceive_total card undef _ _ _ _ _) ?_
  exact fun x => .ite (fun _ => .pure fun _ => id) fun _ => .ite (fun _ => .pure fun _ => id) fun _ =>
    .pure fun _ => id

theorem deskAuth_total (cmd block : UInt8) :
    Total (fun _ => True) (mfclAuth (deskReader card undef) hd cmd block) fun _ _ => True := by
  have hchallenge : Total (fun _ => True) (Desk.challenge card cmd block (hd.uid.load 0 4))
      fun _ _ => True := fun w _ => ⟨_, _, rfl, trivial⟩
  have hverify : Total (fun _ => True) (Desk.verify card) fun _ _ => True :=
    fun w _ => ⟨_, _, rfl, trivial⟩
  refine .ite (fun _ => .pure fun _ => id) fun _ => hchallenge.bind fun heard => ?_
  refine .ite (fun _ => hverify.bind fun verified => ?_) fun _ => .pure fun _ => id
  exact .ite (fun _ => .pure fun _ => id) fun _ => .pure fun _ => id

theorem deskWrite_total (page : Nat) (txData : List UInt8) :
    Total (fun _ => True) (mfclWrite (deskReader card undef) stack page txData) fun _ _ => True := by
  have htrans := deskTransceive_total card undef
  refine .ite (fun _ => .pure fun _ => id) fun _ => .ite (fun _ => .pure fun _ => id) fun _ => ?_
  refine .bind (htrans _ _ _ _ _) fun x => .ite (fun _ => .pure fun _ => id) fun _ => ?_
  refine .bind (htrans _ _ _ _ _) fun x => .ite (fun _ => .pure fun _ => id) fun _ => ?_
  exact .ite (fun _ => .pure fun _ => id) fun _ => .pure fun _ => id

theorem MfclCall.run_total (c : MfclCall) :
    Total (fun _ => True) (c.run (deskReader card undef) stack hd) fun _ _ => True := by
  cases c with
  | setKey key => exact fun w _ => ⟨_, _, rfl, trivial⟩
  | auth cmd block => exact .bind (deskAuth_total card undef hd cmd block) fun _ => .pure fun _ => id
  | read page rxData rxLen =>
    exact .bind (deskRead_total card undef stack page rxData rxLen) fun _ => .pure fun _ => id
  | write page txData =>
    exact .bind (deskWrite_total card undef stack page txData) fun _ => .pure fun _ => id

theorem mfclCalls_total (calls : List MfclCall) :
    Total (fun _ => True) (mfclCalls (deskReader card undef) stack hd calls)
      fun answers _ => answers.length = calls.length := by
  induction calls with
  | nil => exact .pure fun _ _ => rfl
  | cons c calls ih =>
    refine .bind (c.run_total card undef stack hd) fun x => .bind ih fun xs => .pure fun w hxs => ?_
    exact congrArg (· + 1) hxs

end

/-- Any calls, with any losses, through the driver and the chip: every one returns, a sector opens with
its key only, and the blocks are a store of which the last block of a sector keeps what it has. -/
theorem mfclCalls_granted (locks : Locks) (undef : UInt8) (fuel : Nat) (stack : Mem UInt8) (hd : Handle)
    (calls : List MfclCall) {c : CryptoChip Vault} {w : Desk Vault} (hc : OnDesk c w)
    (hw : w.card.phase.Shut) :
    ∃ answers c' w', mfclCalls (cryptoReader (vaultCard locks) undef (fuel + 1)) stack hd calls c =
        (.ok answers, c') ∧ OnDesk c' w' ∧ answers.length = calls.length ∧
      (⟨w.key, none⟩ : Grant).AllowsAll locks (hd.uid.load 0 4) undef calls answers ∧
      (∀ es b v es', blocksSeen calls answers = es ++ .gave b v :: es' →
        v ∈ es.foldl (Store.learn fun _ v _ => v) (fun b => {w.card.blocks b}) b) ∧
      (∀ b, w'.card.blocks b ∈ (blocksSeen calls answers).foldl (Store.learn fun _ v _ => v)
        (fun b => {w.card.blocks b}) b) ∧
      ∀ b, Trailer b → w'.card.blocks b = w.card.blocks b := by
  obtain ⟨answers, w', hrun, hlen⟩ := mfclCalls_total (vaultCard locks) undef stack hd calls w trivial
  obtain ⟨halike, hdesk⟩ := mfclCalls_mimics (vaultCard locks) undef fuel stack hd calls c w hc
  rw [hrun] at halike hdesk
  obtain ⟨hall, hhist⟩ := mfclCalls_vault (g := ⟨w.key, none⟩) ⟨rfl, .inl hw⟩ hrun
  refine ⟨answers, _, w', Prod.ext halike.eq rfl, hdesk, hlen, hall, hhist.known.1, hhist.known.2,
    fun b hb => ?_⟩
  exact hhist.frozen (fun _ hj => hj) fun hfree => hfree hb

def plainDesk (plan : List Fate) : Desk Vault := ⟨[], false, fun _ => .load fun _ => 0, .selected, plan⟩

def plainChip (plan : List Fate) : CryptoChip Vault := ⟨fun _ => 0, (plainDesk plan).unit false⟩

def plainLocks : Locks := ⟨fun _ _ => [1, 2, 3, 4, 5, 2], [0, 0, 0, 0]⟩

theorem plainChip_onDesk (plan : List Fate) : OnDesk (plainChip plan) (plainDesk plan) := ⟨false, rfl⟩

def plainCalls : List MfclCall :=
  [.setKey [1, 2, 3, 4, 5, 2], .auth 0x60 4, .write 5 (List.replicate 16 1), .read 5 (fun _ => 0) 16,
    .read 8 (fun _ => 0) 16]

theorem mfclCalls_granted_plain : ∃ answers c' w',
    mfclCalls (cryptoReader (vaultCard plainLocks) 0 1) (fun _ => 0) (cardHandle 0x04 0x08) plainCalls
        (plainChip []) = (.ok answers, c') ∧ OnDesk c' w' ∧ answers.length = 5 ∧
      (⟨[], none⟩ : Grant).AllowsAll plainLocks [0, 0, 0, 0] 0 plainCalls answers ∧
      (∀ es b v es', blocksSeen plainCalls answers = es ++ .gave b v :: es' →
        v ∈ es.foldl (Store.learn fun _ v _ => v) (fun _ => {.load fun _ => 0}) b) ∧
      (∀ b, w'.card.blocks b ∈ (blocksSeen plainCalls answers).foldl (Store.learn fun _ v _ => v)
        (fun _ => {.load fun _ => 0}) b) ∧
      ∀ b, Trailer b → w'.card.blocks b = .load fun _ => 0 :=
  mfclCalls_granted plainLocks 0 0 (fun _ => 0) (cardHandle 0x04 0x08) plainCalls (plainChip_onDesk [])
    .selected

end Librfid.Proto
