import Librfid.Layer2.Handles

namespace Librfid.Layer2

open Rc632 Exec

section

variable {σ : Type} (r : Iso15693Reader σ) (stack : Mem UInt8) (sector : Int)

def dumpBlocks : List Nat → Exec ((σ × Iso15693Handle) × List (Nat × ReadResult)) Unit
  | [] => pure ()
  | i :: rest => do
    let x ← lift (iso15693ReadBlock r stack (UInt8.ofNat i) 1024 true)
    modify fun out => out ++ [(i, x)]
    if 0 ≤ x.ret then dumpBlocks rest
    else if sector = -1 ∨ sector = -3 then pure ()
    else dumpBlocks rest

/-- `iso15693_dump` of all blocks, with the card found.  For a single one `iso15693_read_block` is
called without its last argument. -/
def iso15693Dump : Exec ((σ × Iso15693Handle) × List (Nat × ReadResult)) Unit := do
  when (sector ≤ -3) do
    let _ ← lift (iso15693Select r stack)
    pure ()
  dumpBlocks r stack sector (List.range 256)

end

def Tag.shown (t : Tag) (b : UInt8) : ReadResult :=
  if t.access b = .absent then ⟨-1, []⟩ else ⟨(t.blocks b).bytes.length, (t.blocks b).bytes⟩

theorem Tag.shown_congr {t t' : Tag} (haccess : t'.access = t.access) (hblocks : t'.blocks = t.blocks) :
    t'.shown = t.shown := by
  funext b
  rw [shown, shown, haccess, hblocks]

section

variable {t : Tag} {d : DecodedRequest} {b : UInt8} {sec : Option UInt8} {len : Nat} {rx : Mem UInt8}

theorem length_readBlock_le (hd : d.option = sec.isSome) : (t.readBlock d b).length ≤ respSizeMax := by
  by_cases habsent : t.access b = .absent
  · rw [Tag.readBlock, if_pos habsent]
    decide
  · have hfits : (t.blocks b).bytes.length ≤ 32 := (t.blocks b).fits
    have htwo := (readHeader_le sec).2
    rw [length_readBlock hd habsent]
    exact show _ ≤ 36 by omega

theorem readReturn_shown (hd : d.option = sec.isSome) (hlen : blockSizeMax < len ∧ len + 1 < 2 ^ 32) :
    readReturn len sec ⟨0, (t.readBlock d b).length, rx.store 0 (t.readBlock d b)⟩ = t.shown b := by
  by_cases habsent : t.access b = .absent
  · have herror : rx.store 0 (t.readBlock d b) 0 &&& rfError ≠ 0 := by
      rw [Tag.readBlock, if_pos habsent, Mem.store_cons_self]
      decide
    have hsize : ¬ (t.readBlock d b).length > (len + 1) % 2 ^ 32 := by
      have hmax : 32 < len := hlen.1
      rw [Tag.readBlock, if_pos habsent, Nat.mod_eq_of_lt hlen.2]
      exact show ¬ 2 > len + 1 by omega
    rw [readReturn, if_neg (Int.lt_irrefl 0), if_neg hsize, if_pos herror, Tag.shown, if_pos habsent]
  · rw [(readReturn_block hd (not_refused_readBlock hd habsent hlen)).2, Tag.shown, if_neg habsent]

end

section

variable {n : Nat} {w : Viccs n} {i : Fin n} {h : Iso15693Handle} (stack : Mem UInt8)

structure Viccs.Single (w : Viccs n) (i : Fin n) (h : Iso15693Handle) : Prop where
  uid : h.uidBytes = (w.tags i).uid
  apart : ∀ j, j ≠ i → (w.tags j).uid ≠ (w.tags i).uid
  phase : ∀ j, j ≠ i → (w.tags j).phase ≠ .selected

theorem Viccs.Single.alone (hw : w.Single i h) (c : BlockCall) : w.Alone i (c.asked h) :=
  Viccs.alone_of_asked hw.uid hw.apart fun _ => hw.phase

def Tag.Awake (t : Tag) (h : Iso15693Handle) : Prop := h.state = .selected → t.phase = .selected

theorem iso15693ReadBlock_clear (hw : w.Single i h) (hplan : w.plan = []) (hawake : (w.tags i).Awake h)
    (b : UInt8) {len : Nat} (hlen : blockSizeMax < len ∧ len + 1 < 2 ^ 32) (blockSecOut : Bool) :
    iso15693ReadBlock Viccs.reader stack b len blockSecOut (w, h) =
      (.ok ((w.tags i).shown b), ({ w with plan := w.plan.tail }, h)) := by
  obtain ⟨sec, rfl⟩ := exists_isSome blockSecOut
  obtain ⟨d, hd, hframe, hcommand, hoption, hparams⟩ := asked_read h b len sec.isSome
  have hmeant : (w.tags i).Meant d := by
    rw [← hd]
    rcases asked_mode h (.readBlock b len sec.isSome) with hmode | ⟨hstate, hmode⟩
    · exact .inl (hmode.trans (congrArg _ hw.uid))
    · exact .inr ⟨hmode, hawake hstate⟩
  have hreact : (w.tags i).react d = (some ((w.tags i).readBlock d b), (w.tags i)) := by
    rw [Tag.react_read (w.tags i) hcommand, if_pos hmeant, hparams, List.headD_cons]
  have hx := Viccs.reader_clear hframe (hd ▸ hw.alone _) hplan hreact stack (length_readBlock_le hoption)
    (iso15693TimingT4 h.viccFast)
  rw [Viccs.next_self] at hx
  rw [iso15693ReadBlock_run Viccs.reader hx, readReturn_shown hoption hlen]

theorem iso15693Select_clear (hw : w.Single i h) (hplan : w.plan = []) :
    iso15693Select Viccs.reader stack (w, h) =
      (.ok 0, (w.next i { w.tags i with phase := .selected }, { h with state := .selected })) := by
  have hmeant : (w.tags i).Meant (BlockCall.select.asked h) :=
    .inl (congrArg RequestMode.addressed hw.uid)
  have hreact : (w.tags i).react (BlockCall.select.asked h) =
      (some [0x00], { w.tags i with phase := .selected }) := by
    rw [Tag.react, if_pos hmeant]
    rfl
  have hx := Viccs.reader_clear (addressed_decoded h cmdSelect) (hw.alone .select) hplan hreact stack
    (by decide : [(0x00 : UInt8)].length ≤ errRespSize) (iso15693TimingT4 h.viccFast)
  have hlift : iso15693Transceive Viccs.reader (addressedRequest h cmdSelect) stack errRespSize
      (iso15693TimingT4 h.viccFast) (w, h) = (.ok ⟨0, 1, stack.store 0 [0x00]⟩,
        (w.next i { w.tags i with phase := .selected }, h)) := lift_run hx
  rw [iso15693Select, bind_ok (show Exec.get (w, h) = (.ok h, (w, h)) from rfl)]
  refine (bind_ok hlift).trans ?_
  have hgood : ¬ stack.store 0 [(0x00 : UInt8)] 0 &&& rfError ≠ 0 := by
    rw [Mem.store_cons_self]
    decide
  rw [if_neg hgood]
  rfl

/-- The lines of a run of blocks: those of all of them, or up to the first that cannot be read if the
caller wants no more then. -/
structure DumpLines (sector : Int) (t : Tag) (b k : Nat) (lines : List (Nat × ReadResult)) : Prop where
  extent : ∃ m ≤ k, lines.map Prod.fst = List.range' b m ∧
    (m < k → (sector = -1 ∨ sector = -3) ∧ ∃ init p, lines = init ++ [p] ∧ p.2.ret < 0)
  first : sector = -1 ∨ sector = -3 → ∀ p ∈ lines.dropLast, 0 ≤ p.2.ret
  shown : ∀ p ∈ lines, p.2.ret < 0 ∨ p.2 = t.shown (UInt8.ofNat p.1)

theorem DumpLines.cons {sector : Int} {t : Tag} {b k : Nat} {x : ReadResult}
    {lines : List (Nat × ReadResult)} (hx : x.ret < 0 ∨ x = t.shown (UInt8.ofNat b))
    (hgood : sector = -1 ∨ sector = -3 → 0 ≤ x.ret)
    (hlines : DumpLines sector t (b + 1) k lines) : DumpLines sector t b (k + 1) ((b, x) :: lines) := by
  obtain ⟨⟨m, hm, hfst, hend⟩, hfirst, hshown⟩ := hlines
  refine ⟨⟨m + 1, Nat.succ_le_succ hm, ?_, fun hlt => ?_⟩, fun hsector => ?_,
    List.forall_mem_cons.mpr ⟨hx, hshown⟩⟩
  · rw [List.map_cons, hfst, List.range'_succ]
  · obtain ⟨hsector, init, p, rfl, hneg⟩ := hend (Nat.lt_of_succ_lt_succ hlt)
    exact ⟨hsector, (b, x) :: init, p, rfl, hneg⟩
  · cases lines with
    | nil => exact List.forall_mem_nil _
    | cons p lines =>
      rw [List.dropLast_cons_cons]
      exact List.forall_mem_cons.mpr ⟨hgood hsector, hfirst hsector⟩

theorem dumpBlocks_viccs (sector : Int) (hw : w.Single i h) (k b : Nat) (out : List (Nat × ReadResult)) :
    ∃ w' lines, dumpBlocks Viccs.reader stack sector (List.range' b k) ((w, h), out) =
        (.ok (), ((w', h), out ++ lines)) ∧ w'.tags = w.tags ∧
      DumpLines sector (w.tags i) b k lines ∧
      (w.plan = [] → (w.tags i).Awake h → ∀ p ∈ lines, p.2 = (w.tags i).shown (UInt8.ofNat p.1)) := by
  induction k generalizing b w out with
  | zero =>
    refine ⟨w, [], by rw [List.append_nil]; rfl, rfl, ⟨⟨0, Nat.le_refl 0, rfl, ?_⟩, ?_, ?_⟩, ?_⟩
    · exact fun hlt => absurd hlt (Nat.lt_irrefl 0)
    · exact fun _ => List.forall_mem_nil _
    · exact List.forall_mem_nil _
    · exact fun _ _ => List.forall_mem_nil _
  | succ k ih =>
    obtain ⟨x, hx, hcase⟩ := iso15693ReadBlock_viccs stack (UInt8.ofNat b) 1024 true (hw.alone _)
    have hlift : lift (iso15693ReadBlock Viccs.reader stack (UInt8.ofNat b) 1024 true) ((w, h), out) =
        (.ok x, (({ w with plan := w.plan.tail }, h), out)) := lift_run hx
    have hmodify : modify (fun out => out ++ [(b, x)]) (({ w with plan := w.plan.tail }, h), out) =
        (.ok (), (({ w with plan := w.plan.tail }, h), out ++ [(b, x)])) := rfl
    have hshown : x.ret < 0 ∨ x = (w.tags i).shown (UInt8.ofNat b) := by
      refine hcase.imp_right fun hblock => ?_
      rw [Tag.shown, if_neg hblock.2]
      exact hblock.1
    have hlive : w.plan = [] → (w.tags i).Awake h → x = (w.tags i).shown (UInt8.ofNat b) := by
      intro hplan hawake
      have hclear := iso15693ReadBlock_clear stack hw hplan hawake (UInt8.ofNat b)
        (by decide : blockSizeMax < 1024 ∧ 1024 + 1 < 2 ^ 32) true
      exact Outcome.ok.inj (congrArg Prod.fst (hx.symm.trans hclear))
    rw [List.range'_succ, dumpBlocks, bind_ok hlift, bind_ok hmodify]
    by_cases hstop : x.ret < 0 ∧ (sector = -1 ∨ sector = -3)
    · rw [if_neg (Int.not_le.mpr hstop.1), if_pos hstop.2]
      refine ⟨_, [(b, x)], rfl, rfl, ⟨⟨1, Nat.succ_le_succ (Nat.zero_le k), rfl, ?_⟩, ?_, ?_⟩, ?_⟩
      · exact fun _ => ⟨hstop.2, [], (b, x), rfl, hstop.1⟩
      · exact fun _ => List.forall_mem_nil _
      · exact List.forall_mem_singleton.mpr hshown
      · exact fun hplan hawake => List.forall_mem_singleton.mpr (hlive hplan hawake)
    · obtain ⟨w', lines, hrun, htags, hlines, hclear⟩ :=
        ih (w := { w with plan := w.plan.tail }) ⟨hw.uid, hw.apart, hw.phase⟩ (b + 1) (out ++ [(b, x)])
      have hgood : sector = -1 ∨ sector = -3 → 0 ≤ x.ret := fun hsector =>
        Int.not_lt.mp fun hneg => hstop ⟨hneg, hsector⟩
      refine ⟨w', (b, x) :: lines, ?_, htags, hlines.cons hshown hgood, fun hplan hawake => ?_⟩
      · rw [List.append_assoc, List.singleton_append] at hrun
        split_ifs with hret hsector
        · exact hrun
        · exact absurd ⟨Int.not_le.mp hret, hsector⟩ hstop
        · exact hrun
      · exact List.forall_mem_cons.mpr ⟨hlive hplan hawake, hclear (by rw [hplan]; rfl) hawake⟩

theorem dumpSelect_viccs (sector : Int) (hw : w.Single i h) (out : List (Nat × ReadResult)) :
    ∃ w₁ h₁, (when (sector ≤ -3) do
        let _ ← lift (iso15693Select Viccs.reader stack)
        pure ()) ((w, h), out) = (.ok (), ((w₁, h₁), out)) ∧ w₁.Single i h₁ ∧
      (w₁.tags i).access = (w.tags i).access ∧ (∀ j, (w₁.tags j).blocks = (w.tags j).blocks) ∧
      (w.plan = [] → sector ≤ -3 ∨ (w.tags i).Awake h → w₁.plan = [] ∧ (w₁.tags i).Awake h₁) := by
  by_cases hsector : sector ≤ -3
  · obtain ⟨ret, t, h₁, hselect, ht, huid⟩ := iso15693Select_viccs stack (hw.alone .select)
    have hlift : lift (iso15693Select Viccs.reader stack) ((w, h), out) =
        (.ok ret, ((w.next i t, h₁), out)) := lift_run hselect
    have hkept : t.uid = (w.tags i).uid ∧ t.access = (w.tags i).access ∧ t.blocks = (w.tags i).blocks := by
      rcases ht with rfl | rfl
      · exact ⟨rfl, rfl, rfl⟩
      · exact (w.tags i).react_kept (by decide : cmdSelect ≠ cmdWriteBlockSingle)
    obtain ⟨huid', haccess, hblocks⟩ := hkept
    refine ⟨w.next i t, h₁, ?_, ⟨?_, fun j hj => ?_, fun j hj => ?_⟩, ?_, fun j => ?_, fun hplan _ => ?_⟩
    · rw [when, if_pos hsector, bind_ok hlift]
      rfl
    · rw [Viccs.next_tags, huid, hw.uid, huid']
    · rw [Viccs.next_tags, Viccs.next_of_ne t hj, huid']
      exact hw.apart j hj
    · rw [Viccs.next_of_ne t hj]
      exact hw.phase j hj
    · rw [Viccs.next_tags, haccess]
    · by_cases hj : j = i
      · subst hj
        rw [Viccs.next_tags, hblocks]
      · rw [Viccs.next_of_ne t hj]
    · -- the run is the one where nothing is lost
      have hclear := hselect.symm.trans (iso15693Select_clear stack hw hplan)
      have hnext : w.next i t = w.next i { w.tags i with phase := .selected } :=
        congrArg (fun r => r.2.1) hclear
      rw [hnext, Viccs.next_tags]
      refine ⟨?_, fun _ => rfl⟩
      rw [Viccs.next, hplan]
      rfl
  · refine ⟨w, h, ?_, hw, rfl, fun _ => rfl, fun hplan hawake => ⟨hplan, hawake.resolve_left hsector⟩⟩
    rw [when, if_neg hsector]
    rfl

/-- The dump of a card, with others in the field, whatever is lost: no card is written to, the lines
are in order, and what is shown of a block is what is in it.  If nothing is lost all blocks that
there are can be read. -/
theorem iso15693Dump_lists (sector : Int) (hw : w.Single i h) :
    ∃ w' h' lines, iso15693Dump Viccs.reader stack sector ((w, h), []) =
        (.ok (), ((w', h'), lines)) ∧ (∀ j, (w'.tags j).blocks = (w.tags j).blocks) ∧
      DumpLines sector (w.tags i) 0 256 lines ∧
      (w.plan = [] → sector ≤ -3 ∨ (w.tags i).Awake h →
        ∀ p ∈ lines, p.2 = (w.tags i).shown (UInt8.ofNat p.1)) := by
  obtain ⟨w₁, h₁, hselect, hsingle, haccess, hblocks, hawake⟩ := dumpSelect_viccs stack sector hw []
  obtain ⟨w', lines, hrun, htags, hlines, hlive⟩ := dumpBlocks_viccs stack sector hsingle 256 0 []
  rw [List.nil_append] at hrun
  have hshown := Tag.shown_congr haccess (hblocks i)
  refine ⟨w', h₁, lines, ?_, fun j => ?_, ⟨hlines.extent, hlines.first, hshown ▸ hlines.shown⟩,
    fun hplan hready => ?_⟩
  · rw [iso15693Dump, List.range_eq_range']
    exact (bind_ok hselect).trans hrun
  · rw [htags, hblocks]
  · obtain ⟨hplan₁, hawake₁⟩ := hawake hplan hready
    exact hshown ▸ hlive hplan₁ hawake₁

end

theorem iso15693Dump_lists_two : ∃ w' h' lines,
    iso15693Dump Viccs.reader (fun _ => 0) (-3) ((twoTags [], twoHandles 0), []) =
      (.ok (), ((w', h'), lines)) ∧
    lines = [(0, ⟨4, [1, 2, 3, 4]⟩), (1, ⟨4, [1, 2, 3, 4]⟩), (2, ⟨4, [1, 2, 3, 4]⟩),
      (3, ⟨4, [1, 2, 3, 4]⟩), (4, ⟨-1, []⟩)] ∧
    (∀ j, (w'.tags j).blocks = ((twoTags []).tags j).blocks) ∧
    DumpLines (-3) ((twoTags []).tags 0) 0 256 lines ∧
    ((twoTags []).plan = [] → (-3 : Int) ≤ -3 ∨ ((twoTags []).tags 0).Awake (twoHandles 0) →
      ∀ p ∈ lines, p.2 = ((twoTags []).tags 0).shown (UInt8.ofNat p.1)) := by
  have hlines : (iso15693Dump Viccs.reader (fun _ => 0) (-3) ((twoTags [], twoHandles 0), [])).2.2 =
      [(0, ⟨4, [1, 2, 3, 4]⟩), (1, ⟨4, [1, 2, 3, 4]⟩), (2, ⟨4, [1, 2, 3, 4]⟩),
        (3, ⟨4, [1, 2, 3, 4]⟩), (4, ⟨-1, []⟩)] := by
    decide +kernel
  have hsingle : (twoTags []).Single 0 (twoHandles 0) := ⟨by decide, by decide, by decide⟩
  obtain ⟨w', h', lines, hrun, hlists⟩ := iso15693Dump_lists (fun _ => 0) (-3) hsingle
  rw [hrun] at hlines
  exact ⟨w', h', lines, hrun, hlines, hlists⟩

end Librfid.Layer2
