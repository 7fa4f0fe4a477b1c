import Mathlib.Tactic.Common

/-! Memory as seen from one pointer: every offset, also one before the pointer
or past the object it points to, holds a value.  Copies are `load` and `store`. -/

universe u

def Mem (α : Type u) := Int → α

namespace Mem

variable {α : Type u}

def set (m : Mem α) (p : Int) (a : α) : Mem α := fun q => if q = p then a else m q

def load (m : Mem α) : Int → Nat → List α
  | _, 0 => []
  | p, n + 1 => m p :: m.load (p + 1) n

def store (m : Mem α) : Int → List α → Mem α
  | _, [] => m
  | p, a :: l => (m.store (p + 1) l).set p a

def ofList (m : Mem α) (l : List α) : Mem α := m.store 0 l

@[simp] theorem set_self (m : Mem α) (p : Int) (a : α) : m.set p a p = a := by
  simp [set]

theorem set_ne (m : Mem α) {p q : Int} (a : α) (h : q ≠ p) : m.set p a q = m q := by
  simp [set, h]

@[simp] theorem set_set (m : Mem α) (p : Int) (a b : α) : (m.set p a).set p b = m.set p b := by
  funext q
  by_cases h : q = p <;> simp [set, h]

@[simp] theorem load_zero (m : Mem α) (p : Int) : m.load p 0 = [] := rfl

@[simp] theorem load_succ (m : Mem α) (p : Int) (n : Nat) :
    m.load p (n + 1) = m p :: m.load (p + 1) n := rfl

@[simp] theorem length_load (m : Mem α) (p : Int) (n : Nat) : (m.load p n).length = n := by
  induction n generalizing p with
  | zero => rfl
  | succ n ih => simp [ih]

theorem headD_load (m : Mem α) (p : Int) {n : Nat} (h : 0 < n) (a : α) :
    (m.load p n).headD a = m p := by
  cases n with
  | zero => exact absurd h (Nat.lt_irrefl 0)
  | succ n => rfl

theorem getElem_load (m : Mem α) (p : Int) {n i : Nat} (h : i < (m.load p n).length) :
    (m.load p n)[i] = m (p + i) := by
  induction n generalizing p i with
  | zero => exact absurd h (Nat.not_lt_zero i)
  | succ n ih =>
    cases i with
    | zero => simp
    | succ i =>
      simp only [load_succ, List.getElem_cons_succ, ih]
      congr 1
      omega

theorem load_add (m : Mem α) (p : Int) (n k : Nat) :
    m.load p (n + k) = m.load p n ++ m.load (p + n) k := by
  induction n generalizing p with
  | zero => simp
  | succ n ih =>
    rw [Nat.add_right_comm, load_succ, load_succ, ih, List.cons_append]
    congr 3
    push_cast
    omega

theorem load_congr {m m' : Mem α} {p : Int} {n : Nat}
    (h : ∀ q, p ≤ q → q < p + n → m q = m' q) : m.load p n = m'.load p n := by
  induction n generalizing p with
  | zero => rfl
  | succ n ih =>
    rw [load_succ, load_succ, h p (by omega) (by omega)]
    congr 1
    exact ih fun q hq hq' => h q (by omega) (by omega)

theorem load_set_of_lt (m : Mem α) {p q : Int} (n : Nat) (a : α) (h : q < p) :
    (m.set q a).load p n = m.load p n :=
  load_congr fun r hr _ => set_ne m a (by omega)

theorem store_cons_self (m : Mem α) (p : Int) (a : α) (l : List α) : m.store p (a :: l) p = a :=
  set_self _ _ _

theorem store_of_lt (m : Mem α) {p q : Int} (l : List α) (h : q < p) :
    m.store p l q = m q := by
  induction l generalizing p with
  | nil => rfl
  | cons a l ih => rw [store, set_ne _ _ (by omega), ih (by omega)]

theorem set_comm (m : Mem α) {p q : Int} (a b : α) (h : p ≠ q) :
    (m.set p a).set q b = (m.set q b).set p a := by
  funext r
  unfold set
  split_ifs with hq hp
  · exact absurd (hp.symm.trans hq) h
  · rfl
  · rfl
  · rfl

theorem store_of_ge (m : Mem α) {p q : Int} (l : List α) (h : p + l.length ≤ q) :
    m.store p l q = m q := by
  induction l generalizing p with
  | nil => rfl
  | cons a l ih =>
    rw [List.length_cons] at h
    rw [store, set_ne _ _ (by omega), ih (by omega)]

theorem store_add (m : Mem α) (p : Int) (l : List α) (i : Nat) (h : i < l.length) :
    m.store p l (p + i) = l[i] := by
  induction l generalizing p i with
  | nil => simp at h
  | cons a l ih =>
    cases i with
    | zero => simp [store]
    | succ i =>
      rw [store, set_ne _ _ (by omega)]
      have := ih (p + 1) i (by simpa using h)
      rw [show p + ((i + 1 : Nat) : Int) = p + 1 + i by omega, this, List.getElem_cons_succ]

@[simp] theorem load_store (m : Mem α) (p : Int) (l : List α) :
    (m.store p l).load p l.length = l := by
  induction l generalizing p with
  | nil => rfl
  | cons a l ih =>
    rw [List.length_cons, load_succ, store, set_self, load_set_of_lt _ _ _ (by omega), ih]

theorem load_set_of_ge (m : Mem α) {p q : Int} (n : Nat) (a : α) (h : p + n ≤ q) :
    (m.set q a).load p n = m.load p n :=
  load_congr fun r _ hr => set_ne m a (by omega)

theorem load_store_of_le (m : Mem α) {p q : Int} (n : Nat) (l : List α) (h : p + n ≤ q) :
    (m.store q l).load p n = m.load p n :=
  load_congr fun r _ hr => store_of_lt m l (by omega)

theorem load_store_take (m : Mem α) (p : Int) (l : List α) {n : Nat} (h : n ≤ l.length) :
    (m.store p l).load p n = l.take n := by
  have hsplit := load_add (m.store p l) p n (l.length - n)
  rw [Nat.add_sub_cancel' h, load_store] at hsplit
  conv_rhs => rw [hsplit]
  rw [List.take_left' (length_load _ _ _)]

theorem take_load (m : Mem α) (p : Int) {n k : Nat} (h : k ≤ n) :
    (m.load p n).take k = m.load p k := by
  have hsplit := load_add m p k (n - k)
  rw [Nat.add_sub_cancel' h] at hsplit
  rw [hsplit, List.take_left' (length_load _ _ _)]

theorem load_store_drop (m : Mem α) (p : Int) (l : List α) {k n : Nat} (h : l.length = k + n) :
    (m.store p l).load (p + k) n = l.drop k := by
  have hsplit := load_add (m.store p l) p k n
  rw [← h, load_store] at hsplit
  conv_rhs => rw [hsplit]
  rw [List.drop_left' (length_load _ _ _)]

theorem load_store_same (m src : Mem α) (p : Int) {n k : Nat}
    (h : src.load p (min n k) = m.load p (min n k)) :
    (m.store p (src.load p n)).load p k = m.load p k := by
  rcases Nat.le_total k n with hk | hk
  · rw [Nat.min_eq_right hk] at h
    rw [load_store_take m p _ (by rwa [length_load]), take_load src p hk, h]
  · rw [Nat.min_eq_left hk] at h
    have hfirst : (m.store p (src.load p n)).load p n = src.load p n := by
      rw [load_store_take m p _ (Nat.le_of_eq (length_load _ _ _).symm),
        take_load src p (Nat.le_refl n)]
    have hrest : (m.store p (src.load p n)).load (p + n) (k - n) = m.load (p + n) (k - n) :=
      load_congr fun q hq _ => store_of_ge m _ (by rwa [length_load])
    have hsplit := load_add (m.store p (src.load p n)) p n (k - n)
    have hsplit' := load_add m p n (k - n)
    rw [Nat.add_sub_cancel' hk] at hsplit hsplit'
    rw [hsplit, hsplit', hfirst, hrest, h]

theorem load_store_append (m : Mem α) (p : Int) {n k : Nat} {l : List α} (h : l.length = k) :
    (m.store (p + n) l).load p (n + k) = m.load p n ++ l := by
  have hfirst : (m.store (p + n) l).load p n = m.load p n :=
    load_congr fun q _ hq => store_of_lt m l hq
  rw [load_add, hfirst, ← h, load_store]

@[simp] theorem load_ofList (m : Mem α) (l : List α) : (m.ofList l).load 0 l.length = l :=
  load_store m 0 l

end Mem
