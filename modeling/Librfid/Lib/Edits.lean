import Mathlib.Logic.Function.Basic
import Mathlib.Data.List.Basic
import Librfid.Lib.Exec

structure Edit (κ ν : Type) where
  key : κ
  act : ν → ν

namespace Edit

variable {κ ν : Type} [DecidableEq κ]

def set (k : κ) (v : ν) : Edit κ ν := ⟨k, fun _ => v⟩

def apply (e : Edit κ ν) (m : κ → ν) : κ → ν := Function.update m e.key (e.act (m e.key))

def applyAll (es : List (Edit κ ν)) (m : κ → ν) : κ → ν := es.foldl (fun m e => e.apply m) m

@[simp] theorem applyAll_nil (m : κ → ν) : applyAll [] m = m := rfl

@[simp] theorem applyAll_cons (e : Edit κ ν) (es : List (Edit κ ν)) (m : κ → ν) :
    applyAll (e :: es) m = applyAll es (e.apply m) := rfl

theorem applyAll_append (es es' : List (Edit κ ν)) (m : κ → ν) :
    applyAll (es ++ es') m = applyAll es' (applyAll es m) :=
  List.foldl_append

theorem apply_self (e : Edit κ ν) (m : κ → ν) : e.apply m e.key = e.act (m e.key) :=
  Function.update_self ..

theorem apply_of_ne {e : Edit κ ν} {k : κ} (h : k ≠ e.key) (m : κ → ν) : e.apply m k = m k :=
  Function.update_of_ne h ..

theorem apply_congr {e : Edit κ ν} {m m' : κ → ν} {k : κ} (h : m k = m' k) :
    e.apply m k = e.apply m' k := by
  by_cases hk : k = e.key
  · subst hk
    rw [apply_self, apply_self, h]
  · rw [apply_of_ne hk, apply_of_ne hk, h]

theorem applyAll_congr {es : List (Edit κ ν)} {m m' : κ → ν} {k : κ} (h : m k = m' k) :
    applyAll es m k = applyAll es m' k := by
  induction es generalizing m m' with
  | nil => exact h
  | cons e es ih => exact ih (apply_congr h)

theorem applyAll_of_forall_ne {es : List (Edit κ ν)} {k : κ} (h : ∀ e ∈ es, e.key ≠ k) (m : κ → ν) :
    applyAll es m k = m k := by
  induction es generalizing m with
  | nil => rfl
  | cons e es ih =>
    obtain ⟨he, hes⟩ := List.forall_mem_cons.mp h
    rw [applyAll_cons, ih hes, apply_of_ne he.symm]

theorem applyAll_set {es es' : List (Edit κ ν)} {k : κ} (v : ν) (h : ∀ e ∈ es', e.key ≠ k)
    (m : κ → ν) : applyAll (es ++ set k v :: es') m k = v := by
  rw [applyAll_append, applyAll_cons, applyAll_of_forall_ne h]
  exact apply_self (set k v) _

theorem applyAll_keeps {es : List (Edit κ ν)} {k : κ} {p : ν → Prop}
    (h : ∀ e ∈ es, e.key = k → ∀ v, p v → p (e.act v)) {m : κ → ν} (hm : p (m k)) :
    p (applyAll es m k) := by
  induction es generalizing m with
  | nil => exact hm
  | cons e es ih =>
    obtain ⟨he, hes⟩ := List.forall_mem_cons.mp h
    have happly : p (e.apply m k) := by
      by_cases hk : e.key = k
      · subst hk
        rw [apply_self]
        exact he rfl _ hm
      · rwa [apply_of_ne fun h => hk h.symm]
    exact ih hes happly

theorem applyAll_of_mem {es : List (Edit κ ν)} {k : κ} {p : ν → Prop} (hex : ∃ e ∈ es, e.key = k)
    (h : ∀ e ∈ es, e.key = k → ∀ v, p (e.act v)) (m : κ → ν) : p (applyAll es m k) := by
  obtain ⟨e, he, rfl⟩ := hex
  obtain ⟨l, r, rfl⟩ := List.append_of_mem he
  rw [applyAll_append, applyAll_cons]
  refine applyAll_keeps (fun e' he' hk v _ => ?_) ?_
  · exact h e' (List.mem_append_right _ (List.mem_cons_of_mem _ he')) hk v
  · rw [apply_self]
    exact h e (List.mem_append_right _ List.mem_cons_self) rfl _

end Edit

namespace Exec

variable {σ α β κ ν : Type}

/-- On the keys `K` a prefix of `l` is made, and the whole of it when the value is one of `ok`. -/
def Edits [DecidableEq κ] (view : σ → κ → ν) (K : List κ) (l : List (Edit κ ν)) (ok : α → Prop)
    (x : Exec σ α) : Prop :=
  ∀ s, ∃ n, (∀ k ∈ K, view (x s).2 k = Edit.applyAll (l.take n) (view s) k) ∧
    ∀ a, (x s).1 = .ok a → ok a → l.length ≤ n

/-- The keys `K` stay, and the value is none of `ok`. -/
def Refuses (view : σ → κ → ν) (K : List κ) (ok : α → Prop) (x : Exec σ α) : Prop :=
  ∀ s, (∀ k ∈ K, view (x s).2 k = view s k) ∧ ∀ a, (x s).1 = .ok a → ¬ ok a

section

variable {view : σ → κ → ν} {K : List κ} {l r : List (Edit κ ν)} {ok : α → Prop} {ok' : β → Prop}
  {x : Exec σ α} {f : α → Exec σ β}

theorem Refuses.pure {a : α} (h : ¬ ok a) : Refuses view K ok (pure a : Exec σ α) := by
  intro s
  refine ⟨fun _ _ => rfl, ?_⟩
  rintro _ ⟨⟩
  exact h

theorem Refuses.fail (code : Int) : Refuses view K ok (fail code : Exec σ α) :=
  fun _ => ⟨fun _ _ => rfl, nofun⟩

variable [DecidableEq κ]

theorem Edits.of_keeps (h : ∀ k ∈ K, ∀ v, Keeps (fun s => view s k = v) x) : Edits view K [] ok x :=
  fun s => ⟨0, fun k hk => h k hk (view s k) s rfl, fun _ _ _ => Nat.le_refl _⟩

theorem Edits.pure (a : α) : Edits view K [] ok (pure a : Exec σ α) :=
  .of_keeps fun _ _ _ => .pure a

theorem Refuses.edits (h : Refuses view K ok x) (l : List (Edit κ ν)) : Edits view K l ok x :=
  fun s => ⟨0, (h s).1, fun a ha hok => absurd hok ((h s).2 a ha)⟩

theorem Edits.bind (hx : Edits view K l ok x) (hf : ∀ a, ok a → Edits view K r ok' (f a))
    (hno : ∀ s a, (x s).1 = .ok a → ¬ ok a → Refuses view K ok' (f a)) :
    Edits view K (l ++ r) ok' (x >>= f) := by
  intro s
  obtain ⟨n, hn, hlen⟩ := hx s
  have hrefuses := hno s
  have hprefix : ∀ k ∈ K, view (x s).2 k =
      Edit.applyAll ((l ++ r).take (min n l.length)) (view s) k := by
    intro k hk
    rw [List.take_append_of_le_length (Nat.min_le_right ..), ← List.take_eq_take_min]
    exact hn k hk
  rw [bind_run]
  rcases hr : x s with ⟨a | code | _, s'⟩ <;> rw [hr] at hn hlen hprefix hrefuses
  · by_cases hok : ok a
    · obtain ⟨n', hn', hlen'⟩ := hf a hok s'
      refine ⟨l.length + n', fun k hk => ?_, fun b hb hokb => ?_⟩
      · rw [hn' k hk, List.take_length_add_append, Edit.applyAll_append]
        apply Edit.applyAll_congr
        rw [hn k hk, List.take_of_length_le (hlen a rfl hok)]
      · rw [List.length_append]
        exact Nat.add_le_add_left (hlen' b hb hokb) _
    · refine ⟨min n l.length, fun k hk => ?_, fun b hb hokb => ?_⟩
      · rw [(hrefuses a rfl hok s').1 k hk]
        exact hprefix k hk
      · exact absurd hokb ((hrefuses a rfl hok s').2 b hb)
  · exact ⟨min n l.length, hprefix, nofun⟩
  · exact ⟨min n l.length, hprefix, nofun⟩

theorem Edits.seq (hx : Edits view K l (fun _ => True) x)
    (hf : ∀ a, Edits view K r ok' (f a)) : Edits view K (l ++ r) ok' (x >>= f) :=
  hx.bind (fun a _ => hf a) fun _ _ _ h => absurd trivial h

theorem Edits.after (hx : ∀ k ∈ K, ∀ v, Keeps (fun s => view s k = v) x)
    (hf : ∀ a, Edits view K r ok' (f a)) : Edits view K r ok' (x >>= f) :=
  (Edits.of_keeps hx).seq hf

theorem Edits.checked {x : Exec σ Int} {f : Unit → Exec σ β} (hx : Edits view K l (0 ≤ ·) x)
    (hf : Edits view K r ok' (f ())) :
    Edits view K (l ++ r) ok' (x >>= fun ret => Exec.check ret >>= f) := by
  refine hx.bind (fun ret hret => ?_) fun s ret _ hret => ?_
  · rw [check_of_nonneg hret]
    exact hf
  · rw [check_of_neg (Int.not_le.mp hret)]
    exact Refuses.fail ret

theorem Edits.check {x : Exec σ Int} (hx : Edits view K l (0 ≤ ·) x) :
    Edits view K l (fun _ => True) (x >>= Exec.check) := by
  have h : Edits view K (l ++ []) (fun _ => True) (x >>= Exec.check) := by
    refine hx.bind (fun ret hret => ?_) fun s ret _ hret => ?_
    · rw [check_of_nonneg hret]
      exact .pure ()
    · rw [check_of_neg (Int.not_le.mp hret)]
      exact Refuses.fail ret
  rwa [List.append_nil] at h

theorem Edits.attempt (hx : Edits view K l (fun _ => True) x) :
    Edits view K l (fun o => ∃ a, o = .ok a) (Exec.attempt x) := by
  intro s
  obtain ⟨n, hn, hlen⟩ := hx s
  unfold Exec.attempt
  rcases hr : x s with ⟨a | code | _, s'⟩ <;> rw [hr] at hn hlen
  · exact ⟨n, hn, fun _ _ _ => hlen a rfl trivial⟩
  · refine ⟨n, hn, ?_⟩
    rintro _ ⟨⟩ ⟨_, ⟨⟩⟩
  · exact ⟨n, hn, nofun⟩

theorem Edits.attempt_bind {f : Except Int α → Exec σ β} (hx : Edits view K l (fun _ => True) x)
    (he : Errs x) (hf : ∀ a, Edits view K r ok' (f (.ok a)))
    (hno : ∀ code < 0, Refuses view K ok' (f (.error code))) :
    Edits view K (l ++ r) ok' (Exec.attempt x >>= f) := by
  refine hx.attempt.bind ?_ fun s o ho hok => ?_
  · rintro _ ⟨a, rfl⟩
    exact hf a
  · cases o with
    | ok a => exact absurd ⟨a, rfl⟩ hok
    | error code => exact hno code (he s code (congrArg Prod.fst (of_attempt_error (Prod.ext ho rfl))))

theorem Edits.map {g : α → β} (hx : Edits view K l (fun a => ok' (g a)) x) :
    Edits view K l ok' (x >>= fun a => Pure.pure (g a)) := by
  have h : Edits view K (l ++ []) ok' (x >>= fun a => Pure.pure (g a)) :=
    hx.bind (fun _ _ => .pure _) fun _ _ _ => Refuses.pure
  rwa [List.append_nil] at h

theorem Edits.when {c : Prop} [Decidable c] {x : Exec σ Unit} {ok : Unit → Prop}
    (hx : Edits view K l ok x) :
    Edits view K (if c then l else []) ok (Exec.when c x) := by
  by_cases hc : c
  · rw [if_pos hc, when_of hc]
    exact hx
  · rw [if_neg hc, when_of_not hc]
    exact .pure ()

end

end Exec
