import Mathlib.Tactic.Common

/-! A party that sends a request, waits for the reply, and then either sends the
next request or stops.  The other side is any deterministic server; a script of
replies, a peer with its own state and an oracle are all servers. -/

structure Client (C Q R O : Type) where
  send : C → Q
  recv : C → R → C ⊕ O

def Server (σ Q R : Type) := Q → σ → R × σ

def Server.scripted (r : R) : Server (List R) Q R
  | _, [] => (r, [])
  | _, r' :: rs => (r', rs)

namespace Client

variable {C Q R O σ : Type}

/-- At most `fuel` exchanges; `none` when the client is still waiting after them.
The log holds the exchanges in order. -/
def run (A : Client C Q R O) (srv : Server σ Q R) :
    Nat → C → σ → Option (List (Q × R) × O × σ)
  | 0, _, _ => none
  | fuel + 1, c, s =>
    let (r, s') := srv (A.send c) s
    match A.recv c r with
    | .inl c' => (A.run srv fuel c' s').map fun x => ((A.send c, r) :: x.1, x.2)
    | .inr o => some ([(A.send c, r)], o, s')

/-- The replies of a script the client listens to, each with the state it meets. -/
def script (A : Client C Q R O) : C → List R → List (C × R)
  | _, [] => []
  | c, r :: rs =>
    (c, r) ::
      match A.recv c r with
      | .inl c' => A.script c' rs
      | .inr _ => []

inductive Reaches (A : Client C Q R O) (srv : Server σ Q R) :
    C → σ → List (Q × R) → C → σ → Prop
  | refl (c : C) (s : σ) : Reaches A srv c s [] c s
  | step {c c' c'' : C} {s s' s'' : σ} {r : R} {log : List (Q × R)} :
      srv (A.send c) s = (r, s') → A.recv c r = .inl c' → Reaches A srv c' s' log c'' s'' →
      Reaches A srv c s ((A.send c, r) :: log) c'' s''

variable {A : Client C Q R O} {srv : Server σ Q R}

theorem run_inl {c c' : C} {s s' : σ} {r : R} {fuel : Nat}
    (hs : srv (A.send c) s = (r, s')) (hr : A.recv c r = .inl c') :
    A.run srv (fuel + 1) c s =
      (A.run srv fuel c' s').map fun x => ((A.send c, r) :: x.1, x.2) := by
  simp only [run, hs, hr]

theorem run_inr {c : C} {s s' : σ} {r : R} {o : O} {fuel : Nat}
    (hs : srv (A.send c) s = (r, s')) (hr : A.recv c r = .inr o) :
    A.run srv (fuel + 1) c s = some ([(A.send c, r)], o, s') := by
  simp only [run, hs, hr]

theorem Reaches.trans {c c' c'' : C} {s s' s'' : σ} {log log' : List (Q × R)}
    (h : Reaches A srv c s log c' s') (h' : Reaches A srv c' s' log' c'' s'') :
    Reaches A srv c s (log ++ log') c'' s'' := by
  induction h with
  | refl => exact h'
  | step hs hr _ ih => exact .step hs hr (ih h')

theorem Reaches.single {c c' : C} {s s' : σ} {r : R}
    (hs : srv (A.send c) s = (r, s')) (hr : A.recv c r = .inl c') :
    Reaches A srv c s [(A.send c, r)] c' s' := .step hs hr (.refl c' s')

theorem Reaches.run {c c' : C} {s s' t : σ} {log log' : List (Q × R)} {o : O} {fuel : Nat}
    (h : Reaches A srv c s log c' s') (h' : A.run srv fuel c' s' = some (log', o, t)) :
    A.run srv (log.length + fuel) c s = some (log ++ log', o, t) := by
  induction h with
  | refl => simpa using h'
  | step hs hr _ ih =>
    rw [List.length_cons, Nat.add_right_comm, run_inl hs hr, ih h']
    rfl

theorem run_mono {c : C} {s : σ} {fuel fuel' : Nat} {x : List (Q × R) × O × σ}
    (h : A.run srv fuel c s = some x) (hle : fuel ≤ fuel') : A.run srv fuel' c s = some x := by
  induction fuel generalizing c s fuel' x with
  | zero => simp [Client.run] at h
  | succ fuel ih =>
    obtain ⟨k, rfl⟩ : ∃ k, fuel' = k + 1 := ⟨fuel' - 1, by omega⟩
    rcases hs : srv (A.send c) s with ⟨r, s'⟩
    cases hr : A.recv c r with
    | inl c' =>
      rw [run_inl hs hr] at h ⊢
      obtain ⟨y, hy, rfl⟩ := Option.map_eq_some_iff.mp h
      rw [ih hy (by omega)]
      rfl
    | inr o =>
      rw [run_inr hs hr] at h ⊢
      exact h

theorem run_last {c : C} {s t : σ} {log : List (Q × R)} {o : O} {fuel : Nat}
    (h : A.run srv fuel c s = some (log, o, t)) :
    ∃ log' c' s' r, Reaches A srv c s log' c' s' ∧ srv (A.send c') s' = (r, t) ∧
      A.recv c' r = .inr o ∧ log = log' ++ [(A.send c', r)] := by
  induction fuel generalizing c s log with
  | zero => simp [Client.run] at h
  | succ fuel ih =>
    rcases hs : srv (A.send c) s with ⟨r, s'⟩
    cases hr : A.recv c r with
    | inl c' =>
      rw [run_inl hs hr] at h
      obtain ⟨⟨log', o', t'⟩, hy, heq⟩ := Option.map_eq_some_iff.mp h
      cases heq
      obtain ⟨log'', c'', s'', r', hreach, hs', hr', rfl⟩ := ih hy
      exact ⟨_, c'', s'', r', .step hs hr hreach, hs', hr', rfl⟩
    | inr o' =>
      rw [run_inr hs hr] at h
      cases h
      exact ⟨[], c, s, r, .refl c s, hs, hr, rfl⟩

theorem script_inl {c c' : C} {r : R} (hr : A.recv c r = .inl c') (rs : List R) :
    A.script c (r :: rs) = (c, r) :: A.script c' rs := by
  simp only [script, hr]

theorem script_inr {c : C} {r : R} {o : O} (hr : A.recv c r = .inr o) (rs : List R) :
    A.script c (r :: rs) = [(c, r)] := by
  simp only [script, hr]

/-- A client that stops at `r` stops on every script that ends in `r`, and either heard
the whole run of its script or ran out of it. -/
theorem run_scripted {r : R} (hstop : ∀ c, ∃ o, A.recv c r = .inr o) (c : C) (rs : List R) :
    ∃ log c' s' r' o rest pre,
      Reaches A (Server.scripted r) c rs log c' s' ∧ A.recv c' r' = .inr o ∧
      A.run (Server.scripted r) (rs.length + 1) c rs =
        some (log ++ [(A.send c', r')], o, rest) ∧
      (∀ x ∈ pre, ∃ c'', A.recv x.1 x.2 = .inl c'') ∧
      (A.script c rs = pre ++ [(c', r')] ∨ r' = r ∧ A.script c rs = pre) := by
  induction rs generalizing c with
  | nil =>
    obtain ⟨o, ho⟩ := hstop c
    exact ⟨[], c, [], r, o, [], [], .refl c [], ho, run_inr rfl ho, by simp, .inr ⟨rfl, rfl⟩⟩
  | cons r' rs ih =>
    have hs : Server.scripted r (A.send c) (r' :: rs) = (r', rs) := rfl
    cases hr : A.recv c r' with
    | inr o =>
      exact ⟨[], c, r' :: rs, r', o, rs, [], .refl c _, hr, run_inr hs hr, by simp,
        .inl (script_inr hr rs)⟩
    | inl d =>
      obtain ⟨log, c', s', r'', o, rest, pre, hreach, hlast, hrun, hpre, hscript⟩ := ih d
      refine ⟨(A.send c, r') :: log, c', s', r'', o, rest, (c, r') :: pre, .step hs hr hreach,
        hlast, ?_, ?_, ?_⟩
      · rw [List.length_cons, run_inl hs hr, hrun]
        rfl
      · intro x hx
        rcases List.mem_cons.mp hx with rfl | hx
        · exact ⟨d, hr⟩
        · exact hpre x hx
      · rw [script_inl hr]
        rcases hscript with h | ⟨rfl, h⟩ <;> simp [h]

/-- Invariant rule: what holds before the first exchange and is kept by every
reply the client goes on after holds wherever the client waits. -/
theorem Reaches.invariant {Inv : C → List (Q × R) → Prop} {c c' : C} {s s' : σ}
    {log : List (Q × R)} (h : Reaches A srv c s log c' s') (log₀ : List (Q × R))
    (h₀ : Inv c log₀)
    (hstep : ∀ c l r c', Inv c l → A.recv c r = .inl c' → Inv c' (l ++ [(A.send c, r)])) :
    Inv c' (log₀ ++ log) := by
  induction h generalizing log₀ with
  | refl => simpa using h₀
  | step hs hr _ ih =>
    have := ih (log₀ ++ [_]) (hstep _ _ _ _ h₀ hr)
    simpa using this

end Client
