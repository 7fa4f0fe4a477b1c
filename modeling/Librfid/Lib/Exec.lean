import Mathlib.Tactic.Common

/-! Imperative code over a state: it ends with a value, is left early with an error
code, or is still in a loop when its fuel is used up.  Triples speak about all three. -/

inductive Outcome (α : Type)
  | ok (a : α)
  | fail (code : Int)
  | hang
  deriving DecidableEq

def Exec (σ α : Type) := σ → Outcome α × σ

namespace Exec

variable {σ τ α β : Type}

def bind (x : Exec σ α) (f : α → Exec σ β) : Exec σ β := fun s =>
  match x s with
  | (.ok a, s) => f a s
  | (.fail code, s) => (.fail code, s)
  | (.hang, s) => (.hang, s)

instance : Monad (Exec σ) where
  pure a s := (.ok a, s)
  bind := bind

def fail (code : Int) : Exec σ α := fun s => (.fail code, s)

def hang : Exec σ α := fun s => (.hang, s)

def step (f : σ → α × σ) : Exec σ α := fun s => (.ok (f s).1, (f s).2)

/-- Errors become values; a loop that has not ended has no value. -/
def attempt (x : Exec σ α) : Exec σ (Except Int α) := fun s =>
  match x s with
  | (.ok a, s) => (.ok (.ok a), s)
  | (.fail code, s) => (.ok (.error code), s)
  | (.hang, s) => (.hang, s)

def when (c : Prop) [Decidable c] (x : Exec σ Unit) : Exec σ Unit := if c then x else pure ()

def check (ret : Int) : Exec σ Unit := if ret < 0 then fail ret else pure ()

def lift (x : Exec σ α) : Exec (σ × τ) α := fun (s, t) =>
  match x s with
  | (o, s) => (o, (s, t))

def get : Exec (σ × τ) τ := fun s => (.ok s.2, s)

def modify (f : τ → τ) : Exec (σ × τ) Unit := fun s => (.ok (), (s.1, f s.2))

def record (x : Exec σ α) (f : α → τ → τ) : Exec (σ × τ) α := fun (s, t) =>
  match x s with
  | (.ok a, s) => (.ok a, (s, f a t))
  | (.fail code, s) => (.fail code, (s, t))
  | (.hang, s) => (.hang, (s, t))

section Run

variable {x : Exec σ α} {f : α → Exec σ β} {s s' : σ} {a : α} {code : Int}

@[simp] theorem pure_run (a : α) (s : σ) : (pure a : Exec σ α) s = (.ok a, s) := rfl

@[simp] theorem fail_run (code : Int) (s : σ) :
    (fail code : Exec σ α) s = (.fail code, s) := rfl

@[simp] theorem step_run (f : σ → α × σ) (s : σ) : step f s = (.ok (f s).1, (f s).2) := rfl

theorem record_run (x : Exec σ α) (f : α → τ → τ) (s : σ) (t : τ) :
    record x f (s, t) =
      match x s with
      | (.ok a, s) => (.ok a, (s, f a t))
      | (.fail code, s) => (.fail code, (s, t))
      | (.hang, s) => (.hang, (s, t)) := rfl

theorem of_record_ok {f : α → τ → τ} {s : σ × τ} (h : (record x f s).1 = .ok a) :
    (record x f s).2.2 = f a s.2 := by
  obtain ⟨s, t⟩ := s
  rw [record_run] at h ⊢
  rcases hx : x s with ⟨_ | _ | _, s'⟩ <;> rw [hx] at h
  · cases h
    rfl
  · cases h
  · cases h

theorem bind_run (x : Exec σ α) (f : α → Exec σ β) (s : σ) :
    (x >>= f) s =
      match x s with
      | (.ok a, s) => f a s
      | (.fail code, s) => (.fail code, s)
      | (.hang, s) => (.hang, s) := rfl

theorem bind_ok (h : x s = (.ok a, s')) : (x >>= f) s = f a s' := by
  rw [bind_run, h]

theorem bind_fail (h : x s = (.fail code, s')) : (x >>= f) s = (.fail code, s') := by
  rw [bind_run, h]

theorem bind_hang (h : x s = (.hang, s')) : (x >>= f) s = (.hang, s') := by
  rw [bind_run, h]

theorem lift_run {o : Outcome α} {t : τ} (h : x s = (o, s')) : lift x (s, t) = (o, (s', t)) := by
  rw [lift, h]

theorem bind_bind {γ : Type} (x : Exec σ α) (f : α → Exec σ β) (g : β → Exec σ γ) :
    (x >>= f) >>= g = x >>= fun a => f a >>= g := by
  funext s
  rw [bind_run, bind_run, bind_run]
  rcases x s with ⟨_ | _ | _, s'⟩ <;> rfl

theorem bind_unit (x : Exec σ Unit) : (x >>= fun _ => Pure.pure ()) = x := by
  funext s
  rw [bind_run]
  rcases x s with ⟨_ | _ | _, s'⟩ <;> rfl

theorem of_bind_ok {b : β} (h : (x >>= f) s = (.ok b, s')) :
    ∃ a s₁, x s = (.ok a, s₁) ∧ f a s₁ = (.ok b, s') := by
  rw [bind_run] at h
  rcases hx : x s with ⟨_ | _ | _, s₁⟩ <;> rw [hx] at h
  · exact ⟨_, s₁, rfl, h⟩
  · cases h
  · cases h

theorem of_check_ok {ret : Int} {u : Unit} (h : check ret s = (.ok u, s')) : 0 ≤ ret ∧ s = s' := by
  unfold check at h
  split_ifs at h with hneg
  · cases h
  · cases h
    exact ⟨Int.not_lt.mp hneg, rfl⟩

theorem attempt_ok (h : x s = (.ok a, s')) : attempt x s = (.ok (.ok a), s') := by
  rw [attempt, h]

theorem attempt_fail (h : x s = (.fail code, s')) : attempt x s = (.ok (.error code), s') := by
  rw [attempt, h]

theorem attempt_hang (h : x s = (.hang, s')) : attempt x s = (.hang, s') := by
  rw [attempt, h]

theorem of_attempt_ok (h : attempt x s = (.ok (.ok a), s')) : x s = (.ok a, s') := by
  unfold attempt at h
  split at h <;> simp_all

theorem of_attempt_error (h : attempt x s = (.ok (.error code), s')) :
    x s = (.fail code, s') := by
  unfold attempt at h
  split at h <;> simp_all

theorem when_of {c : Prop} [Decidable c] (h : c) (x : Exec σ Unit) : when c x = x := if_pos h

theorem when_of_not {c : Prop} [Decidable c] (h : ¬ c) (x : Exec σ Unit) :
    when c x = pure () := if_neg h

theorem of_guard_ok {c : Prop} [Decidable c] {x : Exec σ Unit} {g : Unit → Exec σ α}
    (h : (when c x >>= g) s = (.ok a, s')) (hx : ∀ s u s', x s ≠ (Outcome.ok u, s')) :
    ¬ c ∧ g () s = (.ok a, s') := by
  by_cases hc : c
  · rw [when_of hc] at h
    obtain ⟨u, s₁, hfail, -⟩ := of_bind_ok h
    exact absurd hfail (hx s u s₁)
  · rw [when_of_not hc] at h
    exact ⟨hc, h⟩

theorem of_lift_ok {t : τ} {s' : σ × τ} (h : lift x (s, t) = (.ok a, s')) :
    ∃ s₁, x s = (.ok a, s₁) ∧ s' = (s₁, t) := by
  have hrun : ((x s).1, ((x s).2, t)) = (.ok a, s') := h
  obtain ⟨ho, hs⟩ := Prod.mk.inj hrun
  exact ⟨(x s).2, Prod.ext ho rfl, hs.symm⟩

theorem check_of_nonneg {ret : Int} (h : 0 ≤ ret) : (check ret : Exec σ Unit) = pure () :=
  if_neg (Int.not_lt.mpr h)

theorem check_of_neg {ret : Int} (h : ret < 0) : (check ret : Exec σ Unit) = fail ret :=
  if_pos h

end Run

/-- From a state in `P` the code ends as `Q` says. -/
def Triple (P : σ → Prop) (x : Exec σ α) (Q : Outcome α → σ → Prop) : Prop :=
  ∀ s, P s → Q (x s).1 (x s).2

def Keeps (I : σ → Prop) (x : Exec σ α) : Prop := Triple I x fun _ => I

section Rules

variable {P P' : σ → Prop} {Q Q' : Outcome α → σ → Prop} {R : Outcome β → σ → Prop}
  {I : σ → Prop} {x : Exec σ α} {f : α → Exec σ β}

theorem Triple.conseq (h : Triple P x Q) (hP : ∀ s, P' s → P s) (hQ : ∀ o s, Q o s → Q' o s) :
    Triple P' x Q' := fun s hs => hQ _ _ (h s (hP s hs))

theorem Triple.pre (h : Triple P x Q) (hP : ∀ s, P' s → P s) : Triple P' x Q :=
  h.conseq hP fun _ _ => id

theorem Triple.post (h : Triple P x Q) (hQ : ∀ o s, Q o s → Q' o s) : Triple P x Q' :=
  h.conseq (fun _ => id) hQ

theorem Triple.assume {p : Prop} (h : p → Triple P x Q) : Triple (fun s => P s ∧ p) x Q :=
  fun s hs => h hs.2 s hs.1

theorem Triple.ite {c : Prop} [Decidable c] {x y : Exec σ α} (hx : c → Triple P x Q)
    (hy : ¬ c → Triple P y Q) : Triple P (if c then x else y) Q := by
  split_ifs with h
  · exact hx h
  · exact hy h

theorem Triple.bind (hx : Triple P x Q) (hf : ∀ a, Triple (Q (.ok a)) (f a) R)
    (hfail : ∀ code s, Q (.fail code) s → R (.fail code) s)
    (hhang : ∀ s, Q .hang s → R .hang s) : Triple P (x >>= f) R := by
  intro s hs
  have h := hx s hs
  rw [bind_run]
  rcases hr : x s with ⟨_ | _ | _, s'⟩ <;> rw [hr] at h
  · exact hf _ s' h
  · exact hfail _ s' h
  · exact hhang s' h

theorem Triple.attempt {R : Outcome (Except Int α) → σ → Prop}
    (hx : Triple P x fun o s => match o with
      | .ok a => R (.ok (.ok a)) s
      | .fail code => R (.ok (.error code)) s
      | .hang => R .hang s) : Triple P (attempt x) R := by
  intro s hs
  have h := hx s hs
  unfold Exec.attempt
  rcases hr : x s with ⟨_ | _ | _, s'⟩ <;> rw [hr] at h <;> exact h

theorem Triple.check_bind {ret : Int} {f : Unit → Exec σ β} {R : Outcome β → σ → Prop}
    (hneg : ret < 0 → ∀ s, P s → R (.fail ret) s) (hf : 0 ≤ ret → Triple P (f ()) R) :
    Triple P (Exec.check ret >>= f) R := by
  rcases Int.lt_or_le ret 0 with h | h
  · rw [check_of_neg h]
    exact hneg h
  · rw [check_of_nonneg h]
    exact hf h

theorem Triple.attempt_const {R : σ → Prop} (hx : Triple P x fun _ => R) :
    Triple P (Exec.attempt x) fun _ => R :=
  .attempt (hx.post fun o _ h => by cases o <;> exact h)

theorem Triple.and (h : Triple P x Q) (h' : Triple P' x Q') :
    Triple (fun s => P s ∧ P' s) x fun o s => Q o s ∧ Q' o s :=
  fun s hs => ⟨h s hs.1, h' s hs.2⟩

theorem Triple.lift {Q : Outcome α → σ → Prop} (h : Triple P x Q) :
    Triple (fun s : σ × τ => P s.1) (lift x) fun o s => Q o s.1 := fun s hs => h s.1 hs

theorem Keeps.lift (h : Keeps I x) : Keeps (fun s : σ × τ => I s.1) (lift x) := Triple.lift h

theorem Keeps.modify (f : τ → τ) : Keeps (fun s : σ × τ => I s.1) (modify f) := fun _ => id

theorem keeps_get : Keeps (fun s : σ × τ => I s.1) get := fun _ => id

theorem Keeps.pure (a : α) : Keeps I (pure a : Exec σ α) := fun _ => id

theorem Keeps.fail (code : Int) : Keeps I (fail code : Exec σ α) := fun _ => id

theorem Keeps.hang : Keeps I (hang : Exec σ α) := fun _ => id

theorem Keeps.bind (hx : Keeps I x) (hf : ∀ a, Keeps I (f a)) : Keeps I (x >>= f) :=
  Triple.bind hx hf (fun _ _ => id) fun _ => id

theorem Keeps.attempt (hx : Keeps I x) : Keeps I (attempt x) := Triple.attempt_const hx

theorem Keeps.check (ret : Int) : Keeps I (check ret : Exec σ Unit) := by
  unfold Exec.check
  split_ifs
  · exact .fail ret
  · exact .pure ()

theorem Keeps.ite {c : Prop} [Decidable c] {x y : Exec σ α} (hx : c → Keeps I x)
    (hy : ¬ c → Keeps I y) : Keeps I (if c then x else y) := Triple.ite hx hy

theorem Keeps.when {c : Prop} [Decidable c] {x : Exec σ Unit} (hx : c → Keeps I x) :
    Keeps I (when c x) := .ite hx fun _ => .pure ()

end Rules

section Second

variable {J : τ → Prop} {x : Exec σ α}

theorem keeps_lift_snd : Keeps (fun s : σ × τ => J s.2) (lift x) := fun _ => id

theorem keeps_modify_snd {f : τ → τ} (h : ∀ t, J t → J (f t)) :
    Keeps (fun s : σ × τ => J s.2) (modify f) := fun s => h s.2

theorem keeps_get_bind {f : τ → Exec (σ × τ) α} (h : ∀ t, J t → Keeps (fun s : σ × τ => J s.2) (f t)) :
    Keeps (fun s : σ × τ => J s.2) (get >>= f) := fun s hs => h s.2 hs s hs

theorem keeps_record_snd {f : α → τ → τ} (h : ∀ a t, J t → J (f a t)) :
    Keeps (fun s : σ × τ => J s.2) (record x f) := by
  rintro ⟨s, t⟩ ht
  rw [record_run]
  rcases x s with ⟨_ | _ | _, s'⟩
  · exact h _ t ht
  · exact ht
  · exact ht

end Second

def Ends (I : σ → Prop) (Q : α → σ → Prop) : Outcome α → σ → Prop :=
  fun o s => I s ∧ ∀ a, o = .ok a → Q a s

section EndsRules

variable {P P' I I' : σ → Prop} {Q Q' : α → σ → Prop} {R : β → σ → Prop} {x : Exec σ α}
  {f : α → Exec σ β}

theorem Ends.of_ok {a : α} {s : σ} (h : Ends I Q (.ok a) s) : I s ∧ Q a s := ⟨h.1, h.2 a rfl⟩

theorem Triple.ends_bind (hx : Triple P x (Ends I Q))
    (hf : ∀ a, Triple (fun s => I s ∧ Q a s) (f a) (Ends I R)) :
    Triple P (x >>= f) (Ends I R) :=
  .bind hx (fun a => (hf a).pre fun _ => Ends.of_ok) (fun _ _ h => ⟨h.1, nofun⟩)
    fun _ h => ⟨h.1, nofun⟩

theorem Triple.ends_bind_const (hx : Triple P x (Ends I Q)) (hI : ∀ s, I s → I' s)
    (hf : ∀ a, Triple (fun s => I s ∧ Q a s) (f a) fun _ => I') :
    Triple P (x >>= f) fun _ => I' :=
  .bind hx (fun a => (hf a).pre fun _ => Ends.of_ok) (fun _ _ h => hI _ h.1) fun _ h => hI _ h.1

theorem Triple.ends_post (h : Triple P x (Ends I Q)) (hQ : ∀ a s, I s → Q a s → Q' a s) :
    Triple P x (Ends I Q') :=
  h.post fun _ _ h => ⟨h.1, fun a ho => hQ a _ h.1 (h.2 a ho)⟩

theorem Triple.ends_pure {a : α} (h : ∀ s, P s → I s ∧ Q a s) :
    Triple P (Pure.pure a) (Ends I Q) :=
  fun s hs => ⟨(h s hs).1, by
    rintro _ ⟨⟩
    exact (h s hs).2⟩

theorem Triple.ends_fail {code : Int} (h : ∀ s, P s → I s) :
    Triple P (Exec.fail code) (Ends I Q) := fun s hs => ⟨h s hs, nofun⟩

theorem Triple.ends_hang (h : ∀ s, P s → I s) : Triple P (Exec.hang : Exec σ α) (Ends I Q) :=
  fun s hs => ⟨h s hs, nofun⟩

theorem Keeps.ends (h : Keeps I x) : Triple I x (Ends I fun _ _ => True) :=
  h.post fun _ _ h => ⟨h, fun _ _ => trivial⟩

theorem Keeps.ends_and {p : σ → Prop} (h : Keeps (fun s => I s ∧ p s) x) :
    Triple (fun s => I s ∧ p s) x (Ends I fun _ => p) :=
  h.post fun _ _ h => ⟨h.1, fun _ _ => h.2⟩

theorem Triple.ends_check {ret : Int} {p : σ → Prop} (h : ∀ s, P s → I s ∧ (0 ≤ ret → p s)) :
    Triple P (Exec.check ret) (Ends I fun _ => p) := by
  unfold Exec.check
  split_ifs with hneg
  · exact .ends_fail fun s hs => (h s hs).1
  · exact Triple.ends_pure (Q := fun _ => p) fun s hs =>
      ⟨(h s hs).1, (h s hs).2 (Int.not_lt.mp hneg)⟩

theorem Triple.ends_lift (h : Triple P x (Ends I Q)) :
    Triple (fun s : σ × τ => P s.1) (Exec.lift x) (Ends (fun s => I s.1) fun a s => Q a s.1) :=
  Triple.lift h

theorem Triple.ends_lift_snd {J : τ → Prop} {Q : α → Prop}
    (h : Triple (fun _ => True) x (Ends (fun _ => True) fun a _ => Q a)) :
    Triple (fun s : σ × τ => J s.2) (Exec.lift x) (Ends (fun s => J s.2) fun a _ => Q a) :=
  fun s hs => ⟨hs, (h s.1 trivial).2⟩

end EndsRules

def Errs (x : Exec σ α) : Prop := ∀ s code, (x s).1 = .fail code → code < 0

section ErrsRules

variable {x : Exec σ α} {f : α → Exec σ β}

theorem Errs.pure (a : α) : Errs (pure a : Exec σ α) := nofun

theorem Errs.step (f : σ → α × σ) : Errs (step f) := nofun

theorem Errs.check (ret : Int) : Errs (check ret : Exec σ Unit) := by
  intro s code h
  by_cases hret : ret < 0
  · rw [check_of_neg hret] at h
    cases h
    exact hret
  · rw [check_of_nonneg (Int.not_lt.mp hret)] at h
    cases h

theorem Errs.bind (hx : Errs x) (hf : ∀ a, Errs (f a)) : Errs (x >>= f) := by
  intro s code h
  rw [bind_run] at h
  rcases hr : x s with ⟨a | code' | _, s'⟩ <;> rw [hr] at h
  · exact hf a s' code h
  · cases h
    exact hx s code (by rw [hr])
  · cases h

theorem Errs.ite {c : Prop} [Decidable c] {x y : Exec σ α} (hx : Errs x) (hy : Errs y) :
    Errs (if c then x else y) := by
  split_ifs
  · exact hx
  · exact hy

theorem Errs.fail {code : Int} (h : code < 0) : Errs (fail code : Exec σ α) := by
  rintro s _ ⟨⟩
  exact h

theorem Errs.hang : Errs (hang : Exec σ α) := nofun

theorem Errs.get : Errs (get : Exec (σ × τ) τ) := nofun

theorem Errs.modify (f : τ → τ) : Errs (modify f : Exec (σ × τ) Unit) := nofun

theorem Errs.when {c : Prop} [Decidable c] {x : Exec σ Unit} (h : c → Errs x) :
    Errs (when c x) := by
  by_cases hc : c
  · rw [when_of hc]
    exact h hc
  · rw [when_of_not hc]
    exact .pure ()

theorem Errs.lift (h : Errs x) : Errs (lift x : Exec (σ × τ) α) := fun s => h s.1

theorem Triple.ends_attempt {P I : σ → Prop} {Q : α → σ → Prop} (h : Triple P x (Ends I Q))
    (he : Errs x) :
    Triple P (Exec.attempt x) (Ends I fun r s => match r with
      | .ok a => Q a s
      | .error code => code < 0) := by
  intro s hs
  have hQ := h s hs
  have hcode := he s
  unfold Exec.attempt
  rcases hr : x s with ⟨a | code | _, s'⟩ <;> rw [hr] at hQ hcode
  · refine ⟨hQ.1, ?_⟩
    rintro _ ⟨⟩
    exact hQ.2 a rfl
  · refine ⟨hQ.1, ?_⟩
    rintro _ ⟨⟩
    exact hcode code rfl
  · exact ⟨hQ.1, nofun⟩

end ErrsRules

def Stays (x : Exec σ α) : Prop := ∀ s code, (x s).1 ≠ .fail code

section StaysRules

variable {x : Exec σ α} {f : α → Exec σ β}

theorem Stays.errs (h : Stays x) : Errs x := fun s code hcode => absurd hcode (h s code)

theorem Stays.pure (a : α) : Stays (pure a : Exec σ α) := nofun

theorem Stays.step (f : σ → α × σ) : Stays (step f) := nofun

theorem Stays.modify (f : τ → τ) : Stays (modify f : Exec (σ × τ) Unit) := nofun

theorem Stays.lift (h : Stays x) : Stays (lift x : Exec (σ × τ) α) := fun s => h s.1

theorem Stays.attempt (x : Exec σ α) : Stays (attempt x) := by
  intro s code h
  unfold Exec.attempt at h
  split at h <;> cases h

theorem Stays.record (h : Stays x) (f : α → τ → τ) : Stays (record x f) := by
  rintro ⟨s, t⟩ code hcode
  have hs := h s code
  rw [record_run] at hcode
  rcases hx : x s with ⟨_ | _ | _, s'⟩ <;> rw [hx] at hcode hs
  · cases hcode
  · exact hs (by injection hcode with hcode; rw [hcode])
  · cases hcode

theorem Stays.bind (hx : Stays x) (hf : ∀ a, Stays (f a)) : Stays (x >>= f) := by
  intro s code h
  rw [bind_run] at h
  rcases hr : x s with ⟨a | code' | _, s'⟩ <;> rw [hr] at h
  · exact hf a s' code h
  · exact hx s code' (by rw [hr])
  · cases h

theorem Stays.ite {c : Prop} [Decidable c] {x y : Exec σ α} (hx : Stays x) (hy : Stays y) :
    Stays (if c then x else y) := by
  split_ifs
  · exact hx
  · exact hy

end StaysRules

def Total (P : σ → Prop) (x : Exec σ α) (Q : α → σ → Prop) : Prop :=
  ∀ s, P s → ∃ a s', x s = (.ok a, s') ∧ Q a s'

section TotalRules

variable {P P' : σ → Prop} {Q Q' : α → σ → Prop} {R : β → σ → Prop} {F : σ → Prop} {code : Int}
  {x : Exec σ α} {f : α → Exec σ β}

theorem Total.conseq (h : Total P x Q) (hP : ∀ s, P' s → P s) (hQ : ∀ a s, Q a s → Q' a s) :
    Total P' x Q' := fun s hs =>
  let ⟨a, s', hx, hq⟩ := h s (hP s hs)
  ⟨a, s', hx, hQ a s' hq⟩

theorem Total.pre (h : Total P x Q) (hP : ∀ s, P' s → P s) : Total P' x Q :=
  h.conseq hP fun _ _ => id

theorem Total.post (h : Total P x Q) (hQ : ∀ a s, Q a s → Q' a s) : Total P x Q' :=
  h.conseq (fun _ => id) hQ

theorem Total.pure {a : α} (h : ∀ s, P s → Q a s) : Total P (pure a) Q :=
  fun s hs => ⟨a, s, rfl, h s hs⟩

theorem Total.bind (hx : Total P x Q) (hf : ∀ a, Total (Q a) (f a) R) : Total P (x >>= f) R := by
  intro s hs
  obtain ⟨a, s', hr, hq⟩ := hx s hs
  rw [bind_ok hr]
  exact hf a s' hq

theorem Total.ite {c : Prop} [Decidable c] {x y : Exec σ α} (hx : c → Total P x Q)
    (hy : ¬ c → Total P y Q) : Total P (if c then x else y) Q := by
  split_ifs with h
  · exact hx h
  · exact hy h

theorem Total.attempt (h : Total P x Q) :
    Total P (attempt x) fun r s => ∃ a, r = .ok a ∧ Q a s := by
  intro s hs
  obtain ⟨a, s', hr, hq⟩ := h s hs
  exact ⟨.ok a, s', attempt_ok hr, a, rfl, hq⟩

theorem Total.check {ret : Int} (h : 0 ≤ ret) : Total P (check ret) fun _ => P := by
  rw [check_of_nonneg h]
  exact .pure fun _ => id

theorem Total.bind_triple {R : Outcome β → σ → Prop} (hx : Total P x Q)
    (hf : ∀ a, Triple (Q a) (f a) R) : Triple P (x >>= f) R := by
  intro s hs
  obtain ⟨a, s', hr, hq⟩ := hx s hs
  rw [bind_ok hr]
  exact hf a s' hq

theorem Total.bind_check {x : Exec σ Int} {f : Unit → Exec σ β} {Q : σ → Prop}
    (hx : Total P x fun ret s => 0 ≤ ret ∧ Q s) (hf : Total Q (f ()) R) :
    Total P (x >>= fun ret => Exec.check ret >>= f) R :=
  hx.bind fun ret s hs => by
    rw [check_of_nonneg hs.1]
    exact hf s hs.2

theorem Total.when {c : Prop} [Decidable c] {x : Exec σ Unit} {Q : σ → Prop}
    (h : c → Total P x fun _ => Q) (h' : ¬ c → ∀ s, P s → Q s) :
    Total P (when c x) fun _ => Q := .ite h fun hc => .pure (h' hc)

theorem Total.assume {p : Prop} (h : p → Total P x Q) : Total (fun s => p ∧ P s) x Q :=
  fun s hs => h hs.1 s hs.2

theorem Total.pure_bind {a : α} {f : α → Exec σ β} (h : Total P (f a) R) :
    Total P ((Pure.pure a : Exec σ α) >>= f) R := h

theorem Total.get_bind {J : τ → Prop} {f : τ → Exec (σ × τ) α} {R : α → σ × τ → Prop}
    (h : ∀ t, J t → Total (fun s => s.2 = t) (f t) R) :
    Total (fun s : σ × τ => J s.2) (get >>= f) R := fun s hs => h s.2 hs s rfl

theorem Total.modify_bind {t : τ} {g : τ → τ} {f : Unit → Exec (σ × τ) α}
    {R : α → σ × τ → Prop} (h : Total (fun s => s.2 = g t) (f ()) R) :
    Total (fun s : σ × τ => s.2 = t) (modify g >>= f) R := fun s hs => h (s.1, g s.2) (by rw [hs])

theorem Total.lift_snd {J : τ → Prop} {Q : α → Prop} (h : ∀ s, ∃ a s', x s = (.ok a, s') ∧ Q a) :
    Total (fun s : σ × τ => J s.2) (lift x) fun a s => Q a ∧ J s.2 := by
  rintro ⟨s, t⟩ ht
  obtain ⟨a, s', hx, hq⟩ := h s
  exact ⟨a, (s', t), lift_run hx, hq, ht⟩

end TotalRules

/-- With enough fuel the code ends with a value. -/
def Returns (P : σ → Prop) (x : Nat → Exec σ α) (Q : α → σ → Prop) : Prop :=
  ∃ n, ∀ fuel, n ≤ fuel → Total P (x fuel) Q

section ReturnsRules

variable {P : σ → Prop} {Q Q' : α → σ → Prop} {R : β → σ → Prop} {x : Nat → Exec σ α}
  {y : Exec σ α}

theorem Returns.conseq {P' : σ → Prop} (h : Returns P x Q) (hP : ∀ s, P' s → P s)
    (hQ : ∀ a s, Q a s → Q' a s) : Returns P' x Q' :=
  let ⟨n, h⟩ := h
  ⟨n, fun fuel hn => (h fuel hn).conseq hP hQ⟩

theorem Returns.of_total (h : Total P y Q) : Returns P (fun _ => y) Q := ⟨0, fun _ _ => h⟩

theorem Returns.unique (h : Returns P x Q) (h' : Returns P x Q') {s : σ} (hs : P s) :
    ∃ a s', Q a s' ∧ Q' a s' := by
  obtain ⟨n, h⟩ := h
  obtain ⟨m, h'⟩ := h'
  obtain ⟨a, s', hx, hq⟩ := h (n + m) (by omega) s hs
  obtain ⟨a', s'', hx', hq'⟩ := h' (n + m) (by omega) s hs
  rw [hx] at hx'
  cases hx'
  exact ⟨a, s', hq, hq'⟩

/-- The two ends exclude each other, so `p` is what decides. -/
theorem Returns.post_iff {p : Prop} {Q Q' : α → Prop}
    (h : Returns P x fun a _ => p ∧ Q a ∨ ¬ p ∧ Q' a) (hne : ∀ a, Q a → ¬ Q' a) {s : σ} (hs : P s) :
    Returns P x (fun a _ => Q a) ↔ p := by
  constructor
  · intro hQ
    obtain ⟨a, _, hp | hp, hq⟩ := h.unique hQ hs
    · exact hp.1
    · exact absurd hp.2 (hne a hq)
  · exact fun hp => h.conseq (fun _ => id) fun a _ h =>
      h.elim And.right fun h => absurd hp h.1

end ReturnsRules

end Exec
