import Librfid.Base
import Librfid.Lib.Bits
import Librfid.Lib.Exec
import Librfid.Lib.Mem

/-! Hex input of the tools: `hexread` of `utils/common.c`. -/

namespace Librfid.Utils

open Exec

/-- A byte from 0x80 on is a negative `char`, and 0 as any other byte that is no digit. -/
def parseHexdigit (hexdigit : UInt8) : UInt8 :=
  if hexdigit ≤ '9'.toUInt8 ∧ hexdigit ≥ '0'.toUInt8 then hexdigit - '0'.toUInt8
  else if hexdigit ≤ 'f'.toUInt8 ∧ hexdigit ≥ 'a'.toUInt8 then 10 + (hexdigit - 'a'.toUInt8)
  else if hexdigit ≤ 'F'.toUInt8 ∧ hexdigit ≥ 'A'.toUInt8 then 10 + (hexdigit - 'A'.toUInt8)
  else 0

def hexByte (dig1 dig2 : UInt8) : UInt8 := parseHexdigit dig1 <<< 4 ||| parseHexdigit dig2

def fetch (text : Mem UInt8) (i : Nat) : Exec (List Nat) UInt8 := fun reads =>
  (.ok (text i), reads ++ [i])

/-- `pos` is counted from `in`, `bound` is `len-2`, and `stored` are the bytes behind `result`. -/
def hexreadLoop (text : Mem UInt8) (bound pos : Nat) (stored : List UInt8) :
    Exec (List Nat) (List UInt8) :=
  if pos ≤ bound then do
    let c ← fetch text pos
    let pos' := if c = ':'.toUInt8 then pos + 1 else pos
    let dig1 ← fetch text pos'
    let dig2 ← fetch text (pos' + 1)
    hexreadLoop text bound (pos' + 2) (stored ++ [hexByte dig1 dig2])
  else pure stored
termination_by bound + 1 - pos
decreasing_by
  have hpos : pos ≤ pos' := by
    unfold pos'
    split_ifs <;> omega
  omega

structure HexreadResult where
  ret : Int
  stored : List UInt8

/-- The difference of pointers that is returned is cut to an `int`. -/
def hexread (text : Mem UInt8) (len : Nat) : Exec (List Nat) HexreadResult := do
  let stored ← hexreadLoop text (u32Sub len 2) 0 []
  pure ⟨Int.bmod stored.length (2 ^ 32), stored⟩

section

variable (text : Mem UInt8) {bound pos : Nat} (stored : List UInt8) (reads : List Nat)

theorem hexreadLoop_end (h : bound < pos) :
    hexreadLoop text bound pos stored reads = (.ok stored, reads) := by
  rw [hexreadLoop, if_neg (Nat.not_le.mpr h)]
  rfl

theorem hexreadLoop_colon (h : pos ≤ bound) (hcolon : text pos = ':'.toUInt8) :
    hexreadLoop text bound pos stored reads =
      hexreadLoop text bound (pos + 3) (stored ++ [hexByte (text (pos + 1)) (text (pos + 2))])
        (reads ++ [pos, pos + 1, pos + 2]) := by
  rw [hexreadLoop, if_pos h]
  simp [bind_run, fetch, hcolon, Int.add_assoc]

theorem hexreadLoop_digits (h : pos ≤ bound) (hcolon : text pos ≠ ':'.toUInt8) :
    hexreadLoop text bound pos stored reads =
      hexreadLoop text bound (pos + 2) (stored ++ [hexByte (text pos) (text (pos + 1))])
        (reads ++ [pos, pos, pos + 1]) := by
  rw [hexreadLoop, if_pos h]
  simp [bind_run, fetch, hcolon]

end

theorem hexreadLoop_round (text : Mem UInt8) {bound pos : Nat} (h : pos ≤ bound) :
    ∃ x pos' first, pos < pos' ∧ ∀ stored reads, hexreadLoop text bound pos stored reads =
      hexreadLoop text bound pos' (stored ++ [x]) (reads ++ first) := by
  by_cases hcolon : text pos = ':'.toUInt8
  · exact ⟨_, pos + 3, _, by omega, fun stored reads => hexreadLoop_colon text stored reads h hcolon⟩
  · exact ⟨_, pos + 2, _, by omega, fun stored reads => hexreadLoop_digits text stored reads h hcolon⟩

theorem hexreadLoop_total (text : Mem UInt8) (bound pos : Nat) (stored : List UInt8) (reads : List Nat) :
    ∃ more reads', hexreadLoop text bound pos stored reads = (.ok (stored ++ more), reads') := by
  induction hn : bound + 1 - pos using Nat.strong_induction_on generalizing pos stored reads with
  | _ n ih =>
    rcases Nat.lt_or_ge bound pos with hlt | hle
    · exact ⟨[], reads, by rw [List.append_nil, hexreadLoop_end text stored reads hlt]⟩
    · obtain ⟨x, pos', first, hpos, hround⟩ := hexreadLoop_round text hle
      obtain ⟨more, reads', hrun⟩ := ih (bound + 1 - pos') (by omega) pos' (stored ++ [x])
        (reads ++ first) rfl
      exact ⟨x :: more, reads', by rw [hround, hrun, List.append_assoc, List.singleton_append]⟩

/-- Whole groups of two characters, each with a colon before it or not, and then a colon with one
character behind it. -/
inductive Dangling : List UInt8 → Prop
  | colon (a : UInt8) : Dangling [':'.toUInt8, a]
  | digits {a : UInt8} (b : UInt8) {l : List UInt8} (h : a ≠ ':'.toUInt8) :
    Dangling l → Dangling (a :: b :: l)
  | group (a b : UInt8) {l : List UInt8} : Dangling l → Dangling (':'.toUInt8 :: a :: b :: l)

namespace Dangling

variable {a b : UInt8} {l : List UInt8}

theorem two_le (h : Dangling l) : 2 ≤ l.length := by
  cases h with
  | colon => exact Nat.le_refl 2
  | digits => simp
  | group => simp

theorem digits_iff (h : a ≠ ':'.toUInt8) : Dangling (a :: b :: l) ↔ Dangling l := by
  constructor
  · intro hd
    cases hd with
    | colon => exact absurd rfl h
    | digits _ _ hl => exact hl
    | group => exact absurd rfl h
  · exact .digits b h

theorem group_iff : Dangling (':'.toUInt8 :: a :: b :: l) ↔ Dangling l := by
  constructor
  · intro hd
    cases hd with
    | digits _ h _ => exact absurd rfl h
    | group _ _ hl => exact hl
  · exact .group a b

end Dangling

section

variable {text : Mem UInt8} {len : Nat}

def Within (text : Mem UInt8) (len pos n : Nat) : Prop :=
  ∀ stored reads, ∃ more new,
    hexreadLoop text (len - 2) pos stored reads = (.ok (stored ++ more), reads ++ new) ∧
      2 * more.length ≤ n ∧ ((∀ i ∈ new, i < len) ↔ ¬ Dangling (text.load pos n))

theorem Within.round {pos pos' n n' : Nat} {x : UInt8} {first : List Nat} (h : Within text len pos' n')
    (hround : ∀ stored reads, hexreadLoop text (len - 2) pos stored reads =
      hexreadLoop text (len - 2) pos' (stored ++ [x]) (reads ++ first))
    (hfirst : ∀ i ∈ first, i < len) (hn : n' + 2 ≤ n)
    (hdangling : Dangling (text.load pos n) ↔ Dangling (text.load pos' n')) :
    Within text len pos n := by
  intro stored reads
  obtain ⟨more, new, hrun, hmore, hnew⟩ := h (stored ++ [x]) (reads ++ first)
  refine ⟨x :: more, first ++ new, ?_, ?_, ?_⟩
  · rw [hround, hrun, List.append_assoc, List.append_assoc, List.singleton_append]
  · rw [List.length_cons]
    omega
  · rw [hdangling, ← hnew, List.forall_mem_append]
    exact and_iff_right hfirst

theorem within (text : Mem UInt8) (hlen : 2 ≤ len) (n : Nat) {pos : Nat} (hn : pos + n = len) :
    Within text len pos n := by
  induction n using Nat.strong_induction_on generalizing pos with
  | _ n ih =>
    rcases Nat.lt_or_ge n 2 with hlt | hge
    · intro stored reads
      refine ⟨[], [], ?_, Nat.zero_le n, iff_of_true (by simp) fun h => ?_⟩
      · rw [List.append_nil, List.append_nil]
        exact hexreadLoop_end text stored reads (by omega)
      · have htwo := h.two_le
        rw [Mem.length_load] at htwo
        omega
    obtain ⟨k, rfl⟩ : ∃ k, n = k + 2 := ⟨n - 2, by omega⟩
    have hle : pos ≤ len - 2 := by omega
    by_cases hcolon : text pos = ':'.toUInt8
    · cases k with
      | zero =>
        -- the colon is the last but one, and one character of its group is behind the end
        intro stored reads
        refine ⟨[hexByte (text (pos + 1)) (text (pos + 2))], [pos, pos + 1, pos + 2], ?_,
          Nat.le_refl 2, iff_of_false (fun h => ?_) (not_not.mpr ?_)⟩
        · rw [hexreadLoop_colon text stored reads hle hcolon]
          exact hexreadLoop_end text _ _ (by omega)
        · have hlast := h (pos + 2) (by simp)
          omega
        · rw [Mem.load_succ, hcolon]
          exact .colon _
      | succ k =>
        apply (ih k (by omega) (by omega : pos + 3 + k = len)).round
        · exact fun stored reads => hexreadLoop_colon text stored reads hle hcolon
        · simp
          omega
        · exact Nat.le_succ (k + 2)
        · rw [Mem.load_succ, Mem.load_succ, Mem.load_succ, hcolon, Dangling.group_iff]
          simp [Int.add_assoc]
    · apply (ih k (by omega) (by omega : pos + 2 + k = len)).round
      · exact fun stored reads => hexreadLoop_digits text stored reads hle hcolon
      · simp
        omega
      · exact Nat.le_refl (k + 2)
      · rw [Mem.load_succ, Mem.load_succ, Dangling.digits_iff hcolon]
        simp [Int.add_assoc]

end

def hexDigit (letter v : UInt8) : UInt8 :=
  if v < 10 then '0'.toUInt8 + v else letter + (v - 10)

def IsHexDigit (v c : UInt8) : Prop := c = hexDigit 'a'.toUInt8 v ∨ c = hexDigit 'A'.toUInt8 v

inductive HexText : List UInt8 → List UInt8 → Prop
  | nil : HexText [] []
  | together {x c d : UInt8} {b l : List UInt8} (hc : IsHexDigit (x >>> 4) c)
    (hd : IsHexDigit (x &&& 0xf) d) : HexText b l → HexText (x :: b) (c :: d :: l)
  | colon {x y c d : UInt8} {b l : List UInt8} (hc : IsHexDigit (x >>> 4) c)
    (hd : IsHexDigit (x &&& 0xf) d) :
    HexText (y :: b) l → HexText (x :: y :: b) (c :: d :: ':'.toUInt8 :: l)

theorem IsHexDigit.parse {v c : UInt8} (h : IsHexDigit v c) (hv : v.toNat < 16) :
    parseHexdigit c = v ∧ c ≠ ':'.toUInt8 := by
  have hlower : ∀ n < 16, parseHexdigit (hexDigit 'a'.toUInt8 (UInt8.ofNat n)) = UInt8.ofNat n ∧
      hexDigit 'a'.toUInt8 (UInt8.ofNat n) ≠ ':'.toUInt8 := by decide
  have hupper : ∀ n < 16, parseHexdigit (hexDigit 'A'.toUInt8 (UInt8.ofNat n)) = UInt8.ofNat n ∧
      hexDigit 'A'.toUInt8 (UInt8.ofNat n) ≠ ':'.toUInt8 := by decide
  rcases h with rfl | rfl
  · simpa only [UInt8.ofNat_toNat] using hlower v.toNat hv
  · simpa only [UInt8.ofNat_toNat] using hupper v.toNat hv

theorem hexByte_digits {x c d : UInt8} (hc : IsHexDigit (x >>> 4) c) (hd : IsHexDigit (x &&& 0xf) d) :
    hexByte c d = x ∧ c ≠ ':'.toUInt8 := by
  have hhigh : (x >>> 4).toNat < 16 := by
    have hx : x.toNat < 2 ^ 8 := x.toNat_lt
    have hdiv : (x >>> 4).toNat = x.toNat / 2 ^ 4 := by
      rw [UInt8.toNat_shiftRight, Nat.shiftRight_eq_div_pow]
      rfl
    omega
  have hlow : (x &&& 0xf).toNat < 16 := by
    rw [UInt8.toNat_and]
    exact Nat.lt_succ_of_le Nat.and_le_right
  obtain ⟨hparse, hne⟩ := hc.parse hhigh
  refine ⟨?_, hne⟩
  rw [hexByte, hparse, (hd.parse hlow).1, UInt8.or_comm]
  exact (Bits.nibbles (Bits.nibble_idem x) (Bits.nibble_shiftRight x)).mpr ⟨rfl, rfl⟩

section

variable {text : Mem UInt8} {x c d : UInt8} {l : List UInt8}

theorem hexreadLoop_group (hc : IsHexDigit (x >>> 4) c) (hd : IsHexDigit (x &&& 0xf) d) {sep : List UInt8}
    (hsep : sep = [] ∨ sep = [':'.toUInt8]) {pos bound : Nat} (hpos : pos + sep.length + l.length = bound)
    (hload : text.load pos (sep.length + (l.length + 2)) = sep ++ c :: d :: l) (stored : List UInt8)
    (reads : List Nat) :
    (∃ more, hexreadLoop text bound pos stored reads =
        hexreadLoop text bound (pos + sep.length + 2) (stored ++ [x]) (reads ++ more)) ∧
      text.load (pos + sep.length + 2 : Nat) l.length = l := by
  obtain ⟨hbyte, hne⟩ := hexByte_digits hc hd
  rcases hsep with rfl | rfl
  · simp only [List.length_nil, Nat.zero_add, List.nil_append, Mem.load_succ, List.cons.injEq] at hload
    obtain ⟨rfl, rfl, hrest⟩ := hload
    refine ⟨⟨[pos, pos, pos + 1], ?_⟩, ?_⟩
    · rw [hexreadLoop_digits text stored reads (by omega) hne, hbyte]
      rfl
    · rw [← hrest]
      simp [Int.add_assoc]
  · have hthree : [':'.toUInt8].length + (l.length + 2) = l.length + 3 := Nat.add_comm 1 _
    simp only [hthree, List.singleton_append, Mem.load_succ, List.cons.injEq, Int.add_assoc] at hload
    obtain ⟨hcolon, rfl, rfl, hrest⟩ := hload
    refine ⟨⟨[pos, pos + 1, pos + 2], ?_⟩, ?_⟩
    · rw [hexreadLoop_colon text stored reads (by omega) hcolon]
      simp only [Int.reduceAdd] at hbyte
      rw [hbyte]
      rfl
    · rw [← hrest]
      simp [Int.add_assoc]

end

theorem HexText.two_mul_le {b l : List UInt8} (h : HexText b l) : 2 * b.length ≤ l.length := by
  induction h with
  | nil => exact Nat.le_refl 0
  | together _ _ _ ih =>
    simp only [List.length_cons]
    omega
  | colon _ _ _ ih =>
    simp only [List.length_cons] at ih ⊢
    omega

theorem hexreadLoop_text {b l : List UInt8} (h : HexText b l) {text : Mem UInt8} {len : Nat}
    (hlen : 2 ≤ len) {sep : List UInt8} (hsep : sep = [] ∨ sep = [':'.toUInt8] ∧ b ≠ []) {pos : Nat}
    (hpos : pos + (sep.length + l.length) = len)
    (hload : text.load pos (sep.length + l.length) = sep ++ l) (stored : List UInt8) (reads : List Nat) :
    ∃ reads', hexreadLoop text (len - 2) pos stored reads = (.ok (stored ++ b), reads') := by
  induction h generalizing sep pos stored reads with
  | nil =>
    rcases hsep with rfl | ⟨-, hne⟩
    · rw [List.append_nil, hexreadLoop_end text stored reads (by simp at hpos; omega)]
      exact ⟨reads, rfl⟩
    · exact absurd rfl hne
  | @together x c d b l hc hd _ ih =>
    have hbound : pos + sep.length + l.length = len - 2 := by
      simp only [List.length_cons] at hpos
      omega
    obtain ⟨⟨more, hround⟩, hrest⟩ := hexreadLoop_group hc hd (hsep.imp_right And.left) hbound hload
      stored reads
    rw [hround, List.append_cons stored x b]
    refine ih (.inl rfl) ?_ ?_ _ _
    · rw [List.length_nil]
      omega
    · simpa using hrest
  | @colon x y c d b l hc hd _ ih =>
    have hbound : pos + sep.length + (':'.toUInt8 :: l).length = len - 2 := by
      simp only [List.length_cons] at hpos ⊢
      omega
    obtain ⟨⟨more, hround⟩, hrest⟩ := hexreadLoop_group hc hd (hsep.imp_right And.left) hbound hload
      stored reads
    rw [List.length_cons] at hbound hrest
    rw [hround, List.append_cons stored x (y :: b)]
    refine ih (.inr ⟨rfl, List.cons_ne_nil _ _⟩) ?_ ?_ _ _
    · rw [List.length_singleton]
      omega
    · rw [List.length_singleton, Nat.add_comm 1]
      exact hrest

theorem hexread_text {b l : List UInt8} (h : HexText b l) (hb : b ≠ []) (hlen : l.length < 2 ^ 32)
    (m : Mem UInt8) :
    ∃ reads, hexread (m.ofList l) l.length [] = (.ok ⟨b.length, b⟩, reads) := by
  have htwo := h.two_mul_le
  have hpos := List.length_pos_iff.mpr hb
  obtain ⟨reads, hrun⟩ : ∃ reads, hexreadLoop (m.ofList l) (l.length - 2) 0 [] [] = (.ok b, reads) := by
    apply hexreadLoop_text h (by omega) (.inl rfl)
    · simp
    · simp
  have hret : Int.bmod b.length (2 ^ 32) = b.length := by
    apply Int.bmod_eq_of_le <;> omega
  refine ⟨reads, ?_⟩
  rw [hexread, u32Sub_of_le (by omega), bind_ok hrun, hret]
  rfl

theorem hexread_stored (text : Mem UInt8) (len : Nat) :
    ∃ r reads, hexread text len [] = (.ok r, reads) ∧ r.stored ≠ [] := by
  obtain ⟨x, pos, first, -, hround⟩ := hexreadLoop_round text (Nat.zero_le (u32Sub len 2))
  obtain ⟨more, reads, hrun⟩ := hexreadLoop_total text (u32Sub len 2) pos [x] first
  refine ⟨⟨Int.bmod ([x] ++ more).length (2 ^ 32), [x] ++ more⟩, reads, ?_, List.cons_ne_nil x more⟩
  rw [hexread, bind_ok ((hround [] []).trans hrun)]
  rfl

theorem hexread_reads (text : Mem UInt8) {len : Nat} (hlen : 2 ≤ len) :
    ∃ r reads, hexread text len [] = (.ok r, reads) ∧ r.stored.length ≤ len / 2 ∧
      ((∀ i ∈ reads, i < len) ↔ ¬ Dangling (text.load 0 len)) := by
  obtain ⟨more, new, hrun, hmore, hnew⟩ := within text hlen len (Nat.zero_add len) [] []
  have hhalf : more.length ≤ len / 2 := by omega
  refine ⟨⟨Int.bmod more.length (2 ^ 32), more⟩, new, ?_, hhalf, hnew⟩
  rw [hexread, u32Sub_of_le hlen, bind_ok hrun]
  rfl

/-- Hex text is read back, but for the empty one, and the reads stay in the text and the stores in
half its length, but for fewer than two characters and for a colon as the last but one. -/
theorem hexread_exact_iff (m : Mem UInt8) :
    (∀ b l : List UInt8, HexText b l → l.length < 2 ^ 32 →
      ((∃ reads, hexread (m.ofList l) l.length [] = (.ok ⟨b.length, b⟩, reads)) ↔ b ≠ [])) ∧
      ∀ len < 2 ^ 32, ∃ r reads, hexread m len [] = (.ok r, reads) ∧
        ((∀ i ∈ reads, i < len) ∧ r.stored.length ≤ len / 2 ↔ 2 ≤ len ∧ ¬ Dangling (m.load 0 len)) := by
  constructor
  · refine fun b l h hlen => ⟨?_, fun hb => hexread_text h hb hlen m⟩
    rintro ⟨reads, hrun⟩ rfl
    obtain ⟨r, reads', hrun', hne⟩ := hexread_stored (m.ofList l) l.length
    rw [hrun] at hrun'
    cases hrun'
    exact hne rfl
  · intro len hlen
    rcases Nat.lt_or_ge len 2 with hlt | hge
    · obtain ⟨r, reads, hrun, hne⟩ := hexread_stored m len
      refine ⟨r, reads, hrun, iff_of_false (fun h => ?_) fun h => ?_⟩
      · have hpos := List.length_pos_iff.mpr hne
        omega
      · omega
    · obtain ⟨r, reads, hrun, hstored, hreads⟩ := hexread_reads m hge
      refine ⟨r, reads, hrun, ?_⟩
      rw [hreads, and_iff_left hstored, and_iff_right hge]

theorem hexread_exact_two :
    (∃ reads, hexread (Mem.ofList (fun _ => 0)
        ['A'.toUInt8, 'b'.toUInt8, ':'.toUInt8, '0'.toUInt8, 'C'.toUInt8]) 5 [] =
        (.ok ⟨2, [0xab, 0x0c]⟩, reads)) ∧
      ∃ r reads, hexread (Mem.ofList (fun _ => 0) ['7'.toUInt8, ':'.toUInt8]) 2 [] = (.ok r, reads) ∧
        (∀ i ∈ reads, i < 2) ∧ r.stored.length ≤ 1 := by
  have htext : HexText [0xab, 0x0c]
      ['A'.toUInt8, 'b'.toUInt8, ':'.toUInt8, '0'.toUInt8, 'C'.toUInt8] :=
    .colon (.inr rfl) (.inl rfl) (.together (.inl rfl) (.inr rfl) .nil)
  have hdigits : ¬ Dangling ['7'.toUInt8, ':'.toUInt8] := by
    rw [Dangling.digits_iff (by decide)]
    exact fun h => absurd h.two_le (by decide)
  constructor
  · exact ((hexread_exact_iff fun _ => 0).1 _ _ htext (by decide)).mpr (by decide)
  · obtain ⟨r, reads, hrun, hiff⟩ :=
      (hexread_exact_iff (Mem.ofList (fun _ => 0) ['7'.toUInt8, ':'.toUInt8])).2 2 (by decide)
    exact ⟨r, reads, hrun, hiff.mpr ⟨Nat.le_refl 2, hdigits⟩⟩

/-- Of the empty text something is stored, and behind the colon of `AA:B` the end is passed. -/
theorem hexread_past_end :
    (HexText [] [] ∧
      ¬ ∃ reads, hexread (Mem.ofList (fun _ => 0) []) 0 [] = (.ok ⟨0, []⟩, reads)) ∧
      ∃ r reads, hexread (Mem.ofList (fun _ => 0)
          ['A'.toUInt8, 'A'.toUInt8, ':'.toUInt8, 'B'.toUInt8]) 4 [] = (.ok r, reads) ∧
        ¬ ∀ i ∈ reads, i < 4 := by
  refine ⟨⟨.nil, ?_⟩, ?_⟩
  · rintro ⟨reads, hrun⟩
    obtain ⟨r, reads', hrun', hne⟩ := hexread_stored (Mem.ofList (fun _ => 0) []) 0
    rw [hrun] at hrun'
    cases hrun'
    exact hne rfl
  · obtain ⟨r, reads, hrun, -, hreads⟩ := hexread_reads
      (Mem.ofList (fun _ => 0) ['A'.toUInt8, 'A'.toUInt8, ':'.toUInt8, 'B'.toUInt8]) (by decide : 2 ≤ 4)
    refine ⟨r, reads, hrun, hreads.not.mpr (not_not.mpr ?_)⟩
    exact .digits _ (by decide) (.colon _)

end Librfid.Utils
