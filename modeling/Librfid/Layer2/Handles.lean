import Librfid.Layer2.Blocks
import Librfid.Layer2.Viccs

namespace Librfid.Layer2

open Rc632 Exec

namespace BlockCall

section

variable {σ : Type} (r : Iso15693Reader σ) (stack : Mem UInt8)

def answer : BlockCall → Iso15693M σ ReadResult
  | readBlock blocknr len blockSecOut => iso15693ReadBlock r stack blocknr len blockSecOut
  | writeBlock blocknr data => do
    let ret ← iso15693WriteBlock r stack blocknr data
    pure ⟨ret, []⟩
  | select => do
    let ret ← iso15693Select r stack
    pure ⟨ret, []⟩
  | stayQuiet => do
    let ret ← iso15693StayQuiet r stack
    pure ⟨ret, []⟩

end

def seen : BlockCall → ReadResult → List (Store.Event UInt8 ViccBlock)
  | readBlock blocknr _ _, x => if x.ret < 0 then [] else [.gave blocknr (.ofList x.data)]
  | writeBlock blocknr data, x =>
    if data.length > blockSizeMax then []
    else if x.ret < 0 then [.unsure blocknr (.ofList data)]
    else [.wrote blocknr (.ofList data)]
  | select, _ => []
  | stayQuiet, _ => []

end BlockCall

section

variable {t : Tag} {d : DecodedRequest} {b : UInt8} {sec : Option UInt8} {len : Nat} {rx : Mem UInt8}

theorem length_readBlock (hd : d.option = sec.isSome) (habsent : t.access b ≠ .absent) :
    (t.readBlock d b).length = readHeader sec + (t.blocks b).bytes.length := by
  rw [Tag.readBlock, if_neg habsent, List.length_append, List.length_cons, Tag.security, hd, readHeader]
  split_ifs <;> rfl

theorem not_refused_readBlock (hd : d.option = sec.isSome) (habsent : t.access b ≠ .absent)
    (hlen : blockSizeMax < len ∧ len + 1 < 2 ^ 32) :
    ¬ Refused len ⟨0, (t.readBlock d b).length, rx.store 0 (t.readBlock d b)⟩ := by
  have hfits := (t.blocks b).fits
  have hsize := length_readBlock hd habsent
  have htwo := (readHeader_le sec).2
  rintro (hneg | hlong | herror)
  · exact absurd hneg (Int.lt_irrefl 0)
  · change (len + 1) % 2 ^ 32 < (t.readBlock d b).length at hlong
    rw [Nat.mod_eq_of_lt hlen.2] at hlong
    omega
  · change rx.store 0 (t.readBlock d b) 0 &&& rfError ≠ 0 at herror
    rw [Tag.readBlock, if_neg habsent, List.cons_append, Mem.store_cons_self] at herror
    exact herror rfl

theorem exists_isSome (blockSecOut : Bool) : ∃ sec : Option UInt8, sec.isSome = blockSecOut := by
  cases blockSecOut with
  | false => exact ⟨none, rfl⟩
  | true => exact ⟨some 0, rfl⟩

theorem readReturn_block (hd : d.option = sec.isSome)
    (hrefused : ¬ Refused len ⟨0, (t.readBlock d b).length, rx.store 0 (t.readBlock d b)⟩) :
    t.access b ≠ .absent ∧
      readReturn len sec ⟨0, (t.readBlock d b).length, rx.store 0 (t.readBlock d b)⟩ =
        ⟨(t.blocks b).bytes.length, (t.blocks b).bytes⟩ := by
  have herror : ¬ rx.store 0 (t.readBlock d b) 0 &&& rfError ≠ 0 := fun h => hrefused (.inr (.inr h))
  have habsent : t.access b ≠ .absent := by
    intro habsent
    rw [Tag.readBlock, if_pos habsent, Mem.store_cons_self] at herror
    exact herror (by decide)
  refine ⟨habsent, ?_⟩
  have hlen := length_readBlock hd habsent
  have hdata := Mem.load_store_drop rx 0 (t.readBlock d b) hlen
  have hdrop : (t.readBlock d b).drop (readHeader sec) = (t.blocks b).bytes := by
    rw [Tag.readBlock, if_neg habsent, List.length_append] at hlen
    rw [Tag.readBlock, if_neg habsent, List.drop_left' (Nat.add_right_cancel hlen)]
  rw [Int.zero_add, hdrop] at hdata
  have hfits := (t.blocks b).fits
  have hmax : blockSizeMax = 32 := rfl
  have hbmod : ((t.blocks b).bytes.length : Int).bmod (2 ^ 32) = (t.blocks b).bytes.length :=
    Int.bmod_eq_of_le (by omega) (by omega)
  have hle : readHeader sec ≤ (t.readBlock d b).length := hlen ▸ Nat.le_add_right _ _
  rw [readReturn_of_accepted hrefused, u32Sub_of_le hle]
  dsimp only
  rw [hlen, Nat.add_sub_cancel_left, hbmod, hdata]

end

section

variable (h : Iso15693Handle)

theorem asked_read (b : UInt8) (len : Nat) (option : Bool) :
    ∃ d, (BlockCall.readBlock b len option).asked h = d ∧
      decodeRequest (blockRequest h cmdReadBlockSingle (if option then f4Custom else 0) b []) = some d ∧
      d.command = cmdReadBlockSingle ∧ d.option = option ∧ d.params = [b] :=
  ⟨_, rfl, (readsAs_block h cmdReadBlockSingle b option []).decoded, rfl, rfl, rfl⟩

theorem asked_write (b : UInt8) (data : List UInt8) :
    ∃ d, (BlockCall.writeBlock b data).asked h = d ∧
      decodeRequest (blockRequest h cmdWriteBlockSingle 0 b data) = some d ∧
      d.command = cmdWriteBlockSingle ∧ d.params = b :: data :=
  ⟨_, rfl, (readsAs_block h cmdWriteBlockSingle b false data).decoded, rfl, rfl⟩

theorem addressed_decoded (command : UInt8) :
    decodeRequest (addressedRequest h command) =
      some ⟨command, .addressed h.uidBytes, h.viccFast, h.viccTwoSubc, false, []⟩ := by
  rw [addressedRequest, ← List.append_nil (_ :: _)]
  exact (readsAs_addressed (flagsOf_addressed h)).decoded

theorem asked_mode (c : BlockCall) :
    (c.asked h).mode = .addressed h.uidBytes ∨ h.state = .selected ∧ (c.asked h).mode = .selected := by
  by_cases hstate : h.state = .selected
  · cases c with
    | readBlock => exact .inr ⟨hstate, if_pos hstate⟩
    | writeBlock => exact .inr ⟨hstate, if_pos hstate⟩
    | select => exact .inl rfl
    | stayQuiet => exact .inl rfl
  · cases c with
    | readBlock => exact .inl (if_neg hstate)
    | writeBlock => exact .inl (if_neg hstate)
    | select => exact .inl rfl
    | stayQuiet => exact .inl rfl

theorem asked_command {c : BlockCall} (hc : (c.asked h).command = cmdSelect) : c = .select := by
  cases c with
  | readBlock => exact absurd hc (by decide : cmdReadBlockSingle ≠ cmdSelect)
  | writeBlock => exact absurd hc (by decide : cmdWriteBlockSingle ≠ cmdSelect)
  | select => rfl
  | stayQuiet => exact absurd hc (by decide : cmdStayQuiet ≠ cmdSelect)

end

section

variable {n : Nat} {w : Viccs n} {i : Fin n} {h : Iso15693Handle}

/-- Another card makes nothing of a request with a UID, and of the others only if it is selected.  A
selected one hears of a select, too. -/
theorem Viccs.alone_of_asked {c : BlockCall} (huid : h.uidBytes = (w.tags i).uid)
    (hother : ∀ j, j ≠ i → (w.tags j).uid ≠ (w.tags i).uid)
    (hphase : h.state = .selected ∨ c = .select → ∀ j, j ≠ i → (w.tags j).phase ≠ .selected) :
    w.Alone i (c.asked h) := by
  intro j hj
  have hmeant : ¬ (w.tags j).Meant (c.asked h) := by
    rintro (haddressed | ⟨hselected, hsel⟩)
    · rcases asked_mode h c with hmode | ⟨-, hmode⟩
      · exact hother j hj ((RequestMode.addressed.inj (haddressed.symm.trans hmode)).trans huid)
      · cases hmode.symm.trans haddressed
    · rcases asked_mode h c with hmode | ⟨hstate, -⟩
      · cases hmode.symm.trans hselected
      · exact hphase (.inl hstate) j hj hsel
  rw [Tag.react, if_neg hmeant, if_neg fun hsel => hphase (.inr (asked_command h hsel.1)) j hj hsel.2]

variable (stack : Mem UInt8)

theorem iso15693ReadBlock_viccs (b : UInt8) (len : Nat) (blockSecOut : Bool)
    (hw : w.Alone i ((BlockCall.readBlock b len blockSecOut).asked h)) :
    ∃ x, iso15693ReadBlock Viccs.reader stack b len blockSecOut (w, h) =
        (.ok x, ({ w with plan := w.plan.tail }, h)) ∧
      (x.ret < 0 ∨ x = ⟨((w.tags i).blocks b).bytes.length, ((w.tags i).blocks b).bytes⟩ ∧
        (w.tags i).access b ≠ .absent) := by
  obtain ⟨sec, rfl⟩ := exists_isSome blockSecOut
  obtain ⟨d, hd, hframe, hcommand, hoption, hparams⟩ := asked_read h b len sec.isSome
  rw [hd] at hw
  obtain ⟨x, t, hx, hcase⟩ := Viccs.reader_cases hframe hw stack respSizeMax (iso15693TimingT4 h.viccFast)
  rw [Tag.react_read (w.tags i) hcommand, hparams, List.headD_cons] at hcase
  have ht : t = w.tags i := by
    rcases hcase with ⟨-, ht⟩ | ⟨answer, hreact, -⟩
    · exact ht.elim id id
    · exact (congrArg Prod.snd hreact).symm
  subst ht
  rw [Viccs.next_self] at hx
  refine ⟨readReturn len sec x, iso15693ReadBlock_run Viccs.reader hx, ?_⟩
  rcases hcase with ⟨hneg, -⟩ | ⟨answer, hreact, rfl⟩
  · exact .inl (readReturn_of_refused (.inl hneg)).1
  · have hanswer := congrArg Prod.fst hreact
    dsimp only at hanswer
    split_ifs at hanswer
    · cases hanswer
      by_cases hrefused : Refused len ⟨0, ((w.tags i).readBlock d b).length,
          stack.store 0 ((w.tags i).readBlock d b)⟩
      · exact .inl (readReturn_of_refused hrefused).1
      · exact .inr (readReturn_block hoption hrefused).symm

theorem iso15693WriteBlock_viccs (b : UInt8) {data : List UInt8} (hlen : data.length ≤ blockSizeMax)
    (hw : w.Alone i ((BlockCall.writeBlock b data).asked h)) :
    ∃ ret t, iso15693WriteBlock Viccs.reader stack b data (w, h) = (.ok ret, (w.next i t, h)) ∧
      (ret < 0 ∧ t = w.tags i ∨ (w.tags i).access b = .free ∧
        t = { w.tags i with blocks := Store.put overwrite b (.ofList data) (w.tags i).blocks }) := by
  obtain ⟨d, hd, hframe, hcommand, hparams⟩ := asked_write h b data
  rw [hd] at hw
  obtain ⟨x, t, hx, hcase⟩ := Viccs.reader_cases hframe hw stack respSizeMax
    (iso15693TimingT4Write h.viccFast)
  have hlift : iso15693Transceive Viccs.reader (blockRequest h cmdWriteBlockSingle 0 b data) stack
      respSizeMax (iso15693TimingT4Write h.viccFast) (w, h) = (.ok x, (w.next i t, h)) :=
    lift_run hx
  have hrun : iso15693WriteBlock Viccs.reader stack b data (w, h) =
      (.ok (if x.ret < 0 then x.ret else if x.rxLen > data.length + 1 then -1
        else if x.rx 0 &&& rfError ≠ 0 then -1 else 0), (w.next i t, h)) := by
    rw [iso15693WriteBlock, if_neg (Nat.not_lt.mpr hlen),
      bind_ok (show Exec.get (w, h) = (.ok h, (w, h)) from rfl)]
    refine (bind_ok hlift).trans ?_
    split_ifs <;> rfl
  refine ⟨_, t, hrun, ?_⟩
  rw [Tag.react_write (w.tags i) hcommand, hparams, List.headD_cons, List.tail_cons] at hcase
  obtain ⟨r, hr⟩ : ∃ r, (w.tags i).writeBlock b data = r := ⟨_, rfl⟩
  have hwrite := (w.tags i).writeBlock_cases b data
  rw [hr] at hcase hwrite
  rcases hcase with ⟨hneg, ht⟩ | ⟨answer, hreact, rfl⟩
  · rw [if_pos hneg]
    split_ifs at ht
    · rcases hwrite with ⟨code, rfl⟩ | ⟨hfree, rfl⟩
      · exact .inl ⟨hneg, ht.elim id id⟩
      · exact ht.imp (fun ht => ⟨hneg, ht⟩) fun ht => ⟨hfree, ht⟩
    · exact .inl ⟨hneg, ht.elim id id⟩
  · rw [if_neg (Int.lt_irrefl 0)]
    split_ifs at hreact
    · rcases hwrite with ⟨code, rfl⟩ | ⟨hfree, rfl⟩
      · cases hreact
        refine .inl ⟨?_, rfl⟩
        have herror : stack.store 0 [rfError, code] 0 &&& rfError ≠ 0 := by
          rw [Mem.store_cons_self]
          decide
        rw [if_pos herror]
        split_ifs <;> decide
      · cases hreact
        exact .inr ⟨hfree, rfl⟩
    · cases hreact

theorem iso15693Transceive_addressed {command : UInt8}
    (hw : w.Alone i ⟨command, .addressed h.uidBytes, h.viccFast, h.viccTwoSubc, false, []⟩)
    (rxLen timeout : Nat) :
    ∃ x t, iso15693Transceive Viccs.reader (addressedRequest h command) stack rxLen timeout (w, h) =
        (.ok x, (w.next i t, h)) ∧
      (t = w.tags i ∨
        t = ((w.tags i).react ⟨command, .addressed h.uidBytes, h.viccFast, h.viccTwoSubc, false, []⟩).2) := by
  obtain ⟨x, t, hx, hcase⟩ := Viccs.reader_cases (addressed_decoded h command) hw stack rxLen timeout
  refine ⟨x, t, lift_run hx, ?_⟩
  rcases hcase with ⟨-, ht⟩ | ⟨answer, hreact, -⟩
  · exact ht
  · exact .inr (congrArg Prod.snd hreact).symm

theorem iso15693Select_viccs (hw : w.Alone i (BlockCall.select.asked h)) :
    ∃ ret t h', iso15693Select Viccs.reader stack (w, h) = (.ok ret, (w.next i t, h')) ∧
      (t = w.tags i ∨ t = ((w.tags i).react (BlockCall.select.asked h)).2) ∧ h'.uidBytes = h.uidBytes := by
  obtain ⟨x, t, hx, ht⟩ := iso15693Transceive_addressed stack hw errRespSize (iso15693TimingT4 h.viccFast)
  have hrun : iso15693Select Viccs.reader stack (w, h) =
      if x.rx 0 &&& rfError ≠ 0 then (.ok (-1), (w.next i t, h))
      else (.ok 0, (w.next i t, { h with state := .selected })) := by
    rw [iso15693Select, bind_ok (show Exec.get (w, h) = (.ok h, (w, h)) from rfl)]
    refine (bind_ok hx).trans ?_
    split_ifs <;> rfl
  rw [hrun]
  split_ifs
  · exact ⟨-1, t, h, rfl, ht, rfl⟩
  · exact ⟨0, t, _, rfl, ht, rfl⟩

theorem iso15693StayQuiet_viccs (hw : w.Alone i (BlockCall.stayQuiet.asked h)) :
    ∃ t, iso15693StayQuiet Viccs.reader stack (w, h) =
        (.ok 0, (w.next i t, { h with state := .quiet })) ∧
      (t = w.tags i ∨ t = ((w.tags i).react (BlockCall.stayQuiet.asked h)).2) := by
  obtain ⟨x, t, hx, ht⟩ := iso15693Transceive_addressed stack hw errRespSize 30
  refine ⟨t, ?_, ht⟩
  rw [iso15693StayQuiet, bind_ok (show Exec.get (w, h) = (.ok h, (w, h)) from rfl)]
  exact bind_ok hx

def Tag.Free (t : Tag) (_ : UInt8 → ViccBlock) (b : UInt8) : Prop := t.access b = .free

structure CallDone (c : BlockCall) (x : ReadResult) (t t' : Tag) (h h' : Iso15693Handle) : Prop where
  uid : t'.uid = t.uid
  access : t'.access = t.access
  uidBytes : h'.uidBytes = h.uidBytes
  phase : c ≠ .select → t.phase ≠ .selected → t'.phase ≠ .selected
  state : c ≠ .select → h.state ≠ .selected → h'.state ≠ .selected
  history : Store.History overwrite t.Free t.blocks (c.seen x) t'.blocks

theorem CallDone.of_react {c : BlockCall} {t t' : Tag} {h h' : Iso15693Handle} {x : ReadResult}
    (hseen : c.seen x = []) (hcommand : (c.asked h).command ≠ cmdWriteBlockSingle)
    (ht : t' = t ∨ t' = (t.react (c.asked h)).2) (huid : h'.uidBytes = h.uidBytes)
    (hstate : c ≠ .select → h'.state ≠ .selected) : CallDone c x t t' h h' := by
  obtain ⟨huid', haccess, hblocks⟩ := t.react_kept hcommand
  rcases ht with rfl | rfl
  · exact ⟨rfl, rfl, huid, fun _ => id, fun hc _ => hstate hc, hseen ▸ .nil _⟩
  · refine ⟨huid', haccess, huid, fun hc => t.react_phase fun hsel => hc (asked_command h hsel),
      fun hc _ => hstate hc, ?_⟩
    rw [hseen, hblocks]
    exact .nil _

theorem blockCall_viccs (c : BlockCall) (hw : w.Alone i (c.asked h)) :
    ∃ x w' h', c.answer Viccs.reader stack (w, h) = (.ok x, (w', h')) ∧
      (∀ j, j ≠ i → w'.tags j = w.tags j) ∧ CallDone c x (w.tags i) (w'.tags i) h h' := by
  cases c with
  | readBlock b len blockSecOut =>
    obtain ⟨x, hx, hcase⟩ := iso15693ReadBlock_viccs stack b len blockSecOut hw
    refine ⟨x, _, h, hx, fun _ _ => rfl, rfl, rfl, rfl, fun _ => id, fun _ => id, ?_⟩
    rw [BlockCall.seen]
    rcases hcase with hneg | ⟨rfl, -⟩
    · rw [if_pos hneg]
      exact .nil _
    · have hblock : ViccBlock.ofList ((w.tags i).blocks b).bytes = (w.tags i).blocks b :=
        ViccBlock.ext (List.take_of_length_le ((w.tags i).blocks b).fits)
      rw [if_neg (Int.not_lt.mpr (Int.natCast_nonneg _)), hblock]
      exact .single (.gave _ b)
  | writeBlock b data =>
    by_cases hlen : data.length > blockSizeMax
    · have hrun : iso15693WriteBlock Viccs.reader stack b data (w, h) = (.ok (-1), (w, h)) := by
        rw [iso15693WriteBlock, if_pos hlen]
        rfl
      refine ⟨⟨-1, []⟩, w, h, by rw [BlockCall.answer, bind_ok hrun]; rfl, fun _ _ => rfl, rfl, rfl, rfl,
        fun _ => id, fun _ => id, ?_⟩
      rw [BlockCall.seen, if_pos hlen]
      exact .nil _
    · obtain ⟨ret, t, hrun, hcase⟩ := iso15693WriteBlock_viccs stack b (Nat.not_lt.mp hlen) hw
      refine ⟨⟨ret, []⟩, w.next i t, h, ?_, fun j hj => Viccs.next_of_ne t hj, ?_⟩
      · rw [BlockCall.answer, bind_ok hrun]
        rfl
      rw [Viccs.next_tags]
      rcases hcase with ⟨hneg, rfl⟩ | ⟨hfree, rfl⟩
      · refine ⟨rfl, rfl, rfl, fun _ => id, fun _ => id, ?_⟩
        rw [BlockCall.seen, if_neg hlen, if_pos hneg]
        exact .single (.lost _ _ _)
      · refine ⟨rfl, rfl, rfl, fun _ => id, fun _ => id, ?_⟩
        rw [BlockCall.seen, if_neg hlen]
        split_ifs
        · exact .single (.unheard _ hfree)
        · exact .single (.wrote _ hfree)
  | select =>
    obtain ⟨ret, t, h', hrun, ht, huid⟩ := iso15693Select_viccs stack hw
    refine ⟨⟨ret, []⟩, w.next i t, h', ?_, fun j hj => Viccs.next_of_ne t hj, ?_⟩
    · rw [BlockCall.answer, bind_ok hrun]
      rfl
    rw [Viccs.next_tags]
    exact .of_react rfl (by decide : cmdSelect ≠ cmdWriteBlockSingle) ht huid fun hc => absurd rfl hc
  | stayQuiet =>
    obtain ⟨t, hrun, ht⟩ := iso15693StayQuiet_viccs stack hw
    refine ⟨⟨0, []⟩, w.next i t, { h with state := .quiet }, by rw [BlockCall.answer, bind_ok hrun]; rfl,
      fun j hj => Viccs.next_of_ne t hj, ?_⟩
    rw [Viccs.next_tags]
    refine .of_react rfl (by decide : cmdStayQuiet ≠ cmdWriteBlockSingle) ht rfl fun _ hstate => ?_
    cases hstate

end

section Several

variable {n : Nat}

def onHandle {σ α : Type} (i : Fin n) (x : Iso15693M σ α) : Exec (σ × (Fin n → Iso15693Handle)) α :=
  fun s =>
    let r := x (s.1, s.2 i)
    (r.1, (r.2.1, Function.update s.2 i r.2.2))

def tagCalls {σ : Type} (r : Iso15693Reader σ) (stack : Mem UInt8) :
    List (Fin n × BlockCall) → Exec (σ × (Fin n → Iso15693Handle)) (List ReadResult)
  | [] => pure []
  | c :: calls => do
    let x ← onHandle c.1 (c.2.answer r stack)
    let xs ← tagCalls r stack calls
    pure (x :: xs)

def seenOf (i : Fin n) : List (Fin n × BlockCall) → List ReadResult → List (Store.Event UInt8 ViccBlock)
  | c :: calls, x :: xs => (if c.1 = i then c.2.seen x else []) ++ seenOf i calls xs
  | _, _ => []

structure Roles (a : Fin n) (w : Viccs n) (hs : Fin n → Iso15693Handle) : Prop where
  uid : ∀ i, (hs i).uidBytes = (w.tags i).uid
  apart : ∀ i j, j ≠ i → (w.tags j).uid ≠ (w.tags i).uid
  phase : ∀ j, j ≠ a → (w.tags j).phase ≠ .selected
  state : ∀ j, j ≠ a → (hs j).state ≠ .selected

variable {a : Fin n} {w : Viccs n} {hs : Fin n → Iso15693Handle}

theorem Roles.alone (hroles : Roles a w hs) {i : Fin n} {c : BlockCall} (hc : c = .select → i = a) :
    w.Alone i (c.asked (hs i)) := by
  refine Viccs.alone_of_asked (hroles.uid i) (hroles.apart i) fun hsel j hj => ?_
  have hi : i = a := by
    rcases hsel with hstate | hselect
    · exact not_not.mp fun hne => hroles.state i hne hstate
    · exact hc hselect
  exact hroles.phase j (hi ▸ hj)

theorem tagCall_roles (hroles : Roles a w hs) (stack : Mem UInt8) {c : Fin n × BlockCall}
    (hc : c.2 = .select → c.1 = a) :
    ∃ x w' hs', onHandle c.1 (c.2.answer Viccs.reader stack) (w, hs) = (.ok x, (w', hs')) ∧
      Roles a w' hs' ∧ ∀ i, (w'.tags i).access = (w.tags i).access ∧
        Store.History overwrite (w.tags i).Free (w.tags i).blocks (if c.1 = i then c.2.seen x else [])
          (w'.tags i).blocks := by
  obtain ⟨i, c⟩ := c
  obtain ⟨x, w', h', hrun, hother, hdone⟩ := blockCall_viccs stack c (hroles.alone hc)
  refine ⟨x, w', Function.update hs i h', by rw [onHandle]; simp only [hrun], ?_, ?_⟩
  · have huid : ∀ j, (w'.tags j).uid = (w.tags j).uid := by
      intro j
      by_cases hj : j = i
      · exact hj ▸ hdone.uid
      · rw [hother j hj]
    refine ⟨fun j => ?_, fun j k hk => ?_, fun j hj => ?_, fun j hj => ?_⟩
    · rw [huid]
      by_cases hji : j = i
      · subst hji
        rw [Function.update_self, hdone.uidBytes, hroles.uid]
      · rw [Function.update_of_ne hji, hroles.uid]
    · rw [huid, huid]
      exact hroles.apart j k hk
    · by_cases hji : j = i
      · subst hji
        exact hdone.phase (fun hselect => hj (hc hselect)) (hroles.phase j hj)
      · rw [hother j hji]
        exact hroles.phase j hj
    · by_cases hji : j = i
      · subst hji
        rw [Function.update_self]
        exact hdone.state (fun hselect => hj (hc hselect)) (hroles.state j hj)
      · rw [Function.update_of_ne hji]
        exact hroles.state j hj
  · intro j
    by_cases hj : i = j
    · subst hj
      rw [if_pos rfl]
      exact ⟨hdone.access, hdone.history⟩
    · rw [if_neg hj, hother j fun heq => hj heq.symm]
      exact ⟨rfl, .nil _⟩

theorem tagCalls_history (stack : Mem UInt8) {calls : List (Fin n × BlockCall)}
    (hcalls : ∀ c ∈ calls, c.2 = .select → c.1 = a) (hroles : Roles a w hs) :
    ∃ xs w' hs', tagCalls Viccs.reader stack calls (w, hs) = (.ok xs, (w', hs')) ∧
      ∀ i, Store.History overwrite (w.tags i).Free (w.tags i).blocks (seenOf i calls xs)
        (w'.tags i).blocks := by
  induction calls generalizing w hs with
  | nil => exact ⟨[], w, hs, rfl, fun i => .nil _⟩
  | cons c calls ih =>
    obtain ⟨hc, hcalls⟩ := List.forall_mem_cons.mp hcalls
    obtain ⟨x, w₁, hs₁, hcall, hroles₁, hhist⟩ := tagCall_roles hroles stack hc
    obtain ⟨xs, w', hs', hrest, hhist'⟩ := ih hcalls hroles₁
    refine ⟨x :: xs, w', hs', ?_, fun i => ?_⟩
    · rw [tagCalls, bind_ok hcall, bind_ok hrest]
      rfl
    · have hfree : (w₁.tags i).Free = (w.tags i).Free := by
        funext m b
        rw [Tag.Free, Tag.Free, (hhist i).1]
      exact (hhist i).2.append (hfree ▸ hhist' i)

/-- Calls on the handles of several cards, in any order and whatever is lost.  As long as one handle
only selects its card they all return, and each card is a store for the calls on its own handle: what
they give is allowed by the answers before, as is what the card is left with, and a block that is
locked keeps what it has. -/
theorem tagCalls_store (stack : Mem UInt8) {calls : List (Fin n × BlockCall)}
    (hcalls : ∀ c ∈ calls, c.2 = .select → c.1 = a) (hroles : Roles a w hs) :
    ∃ xs w' hs', tagCalls Viccs.reader stack calls (w, hs) = (.ok xs, (w', hs')) ∧
      ∀ i, (∀ es b v es', seenOf i calls xs = es ++ .gave b v :: es' →
          v ∈ es.foldl (Store.learn overwrite) (fun b => {(w.tags i).blocks b}) b) ∧
        (∀ b, (w'.tags i).blocks b ∈
          (seenOf i calls xs).foldl (Store.learn overwrite) (fun b => {(w.tags i).blocks b}) b) ∧
        ∀ b, (w.tags i).access b ≠ .free → (w'.tags i).blocks b = (w.tags i).blocks b := by
  obtain ⟨xs, w', hs', hrun, hhist⟩ := tagCalls_history stack hcalls hroles
  refine ⟨xs, w', hs', hrun, fun i => ⟨(hhist i).known.1, (hhist i).known.2, fun b hb => ?_⟩⟩
  exact (hhist i).frozen (fun _ h => h) hb

def twoTags (plan : List TagRound) : Viccs 2 where
  tags i := {
    uid := List.replicate 8 (UInt8.ofNat i)
    access := fun b => if b < 4 then .free else .absent
    blocks := fun _ => ⟨[1, 2, 3, 4], by decide⟩
    phase := .ready }
  plan := plan

def twoHandles (i : Fin 2) : Iso15693Handle := { initHandle15693 with uid := fun _ => UInt8.ofNat i }

def twoCalls : List (Fin 2 × BlockCall) :=
  [(0, .select), (1, .writeBlock 2 [9, 9, 9, 9]), (0, .readBlock 2 4 false), (1, .readBlock 2 4 false)]

def twoTagsMissed : Viccs 2 := twoTags [.clear, ⟨fun _ => true, fun _ => false, fun _ => 0⟩]

deriving instance DecidableEq for ReadResult

theorem tagCalls_store_two : ∃ xs w' hs',
    tagCalls Viccs.reader (fun _ => 0) twoCalls (twoTagsMissed, twoHandles) = (.ok xs, (w', hs')) ∧
    seenOf 0 twoCalls xs = [.gave 2 (.ofList [1, 2, 3, 4])] ∧
    seenOf 1 twoCalls xs = [.unsure 2 (.ofList [9, 9, 9, 9]), .gave 2 (.ofList [9, 9, 9, 9])] ∧
    ∀ i, (∀ es b v es', seenOf i twoCalls xs = es ++ .gave b v :: es' →
        v ∈ es.foldl (Store.learn overwrite) (fun b => {(twoTagsMissed.tags i).blocks b}) b) ∧
      (∀ b, (w'.tags i).blocks b ∈ (seenOf i twoCalls xs).foldl (Store.learn overwrite)
        (fun b => {(twoTagsMissed.tags i).blocks b}) b) ∧
      ∀ b, (twoTagsMissed.tags i).access b ≠ .free →
        (w'.tags i).blocks b = (twoTagsMissed.tags i).blocks b := by
  have hxs : (tagCalls Viccs.reader (fun _ => 0) twoCalls (twoTagsMissed, twoHandles)).1 =
      .ok [⟨0, []⟩, ⟨-eTimedOut, []⟩, ⟨4, [1, 2, 3, 4]⟩, ⟨4, [9, 9, 9, 9]⟩] := by
    decide +kernel
  have hroles : Roles 0 twoTagsMissed twoHandles :=
    ⟨by decide, by decide, by decide, by decide⟩
  obtain ⟨xs, w', hs', hrun, hstore⟩ := tagCalls_store (fun _ => 0)
    (by simp [twoCalls] : ∀ c ∈ twoCalls, c.2 = .select → c.1 = 0) hroles
  rw [hrun] at hxs
  cases hxs
  exact ⟨_, w', hs', hrun, by decide, by decide, hstore⟩

/-- Both handles select their cards, and the first card misses the second request: what is written
with its handle is written to both. -/
example :
    let s := (tagCalls Viccs.reader (fun _ => 0)
      [(0, .select), (1, .select), (0, .writeBlock 2 [9, 9, 9, 9])]
      (twoTags [.clear, ⟨fun uid => uid.headD 0 = 1, fun _ => true, fun _ => 0⟩], twoHandles)).2
    ((s.1.tags 1).blocks 2).bytes = [9, 9, 9, 9] := by
  decide +kernel

end Several

end Librfid.Layer2
