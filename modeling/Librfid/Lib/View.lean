import Librfid.Lib.Mimic

namespace Exec

variable {σ τ δ α β : Type}

/-- From every state that looks like `k` the code ends with `o`, in a state that looks like `k'`. -/
def Runs (view : σ → τ) (x : Exec σ α) (k : τ) (o : Outcome α) (k' : τ) : Prop :=
  ∀ s, view s = k → ∃ s', x s = (o, s') ∧ view s' = k'

section

variable {view : σ → τ} {x : Exec σ α} {f : α → Exec σ β} {k k₁ k' : τ} {a : α} {o : Outcome β}
  {code : Int}

theorem Runs.pure (a : α) (k : τ) : Runs view (pure a) k (.ok a) k := fun s hs => ⟨s, rfl, hs⟩

theorem Runs.fail (code : Int) (k : τ) : Runs view (fail code : Exec σ α) k (.fail code) k :=
  fun s hs => ⟨s, rfl, hs⟩

theorem Runs.step {f : σ → α × σ} (h : ∀ s, view s = k → (f s).1 = a ∧ view (f s).2 = k') :
    Runs view (step f) k (.ok a) k' := by
  intro s hs
  obtain ⟨ha, hview⟩ := h s hs
  exact ⟨(f s).2, by rw [step_run, ha], hview⟩

theorem Runs.bind (hx : Runs view x k (.ok a) k₁) (hf : Runs view (f a) k₁ o k') :
    Runs view (x >>= f) k o k' := by
  intro s hs
  obtain ⟨s₁, hrun, hs₁⟩ := hx s hs
  rw [bind_ok hrun]
  exact hf s₁ hs₁

theorem Runs.skip {x : Exec σ Unit} {f : Unit → Exec σ β} (hx : Runs view x k (.ok ()) k)
    (hf : Runs view (f ()) k o k') : Runs view (x >>= f) k o k' :=
  hx.bind hf

theorem Runs.bind_fail (hx : Runs view x k (.fail code) k') :
    Runs view (x >>= f) k (.fail code) k' := by
  intro s hs
  obtain ⟨s', hrun, hs'⟩ := hx s hs
  exact ⟨s', Exec.bind_fail hrun, hs'⟩

theorem Runs.bind_any (hx : Total (fun s => view s = k) x fun _ s => view s = k₁)
    (hf : ∀ a, Runs view (f a) k₁ o k') : Runs view (x >>= f) k o k' := by
  intro s hs
  obtain ⟨a, s₁, hrun, hs₁⟩ := hx s hs
  rw [bind_ok hrun]
  exact hf a s₁ hs₁

theorem Runs.attempt_ok (hx : Runs view x k (.ok a) k') :
    Runs view (attempt x) k (.ok (.ok a)) k' := by
  intro s hs
  obtain ⟨s', hrun, hs'⟩ := hx s hs
  exact ⟨s', Exec.attempt_ok hrun, hs'⟩

theorem Runs.attempt_fail (hx : Runs view x k (.fail code) k') :
    Runs view (attempt x) k (.ok (.error code)) k' := by
  intro s hs
  obtain ⟨s', hrun, hs'⟩ := hx s hs
  exact ⟨s', Exec.attempt_fail hrun, hs'⟩

theorem Runs.bind_check {x : Exec σ Int} {ret : Int} {f : Unit → Exec σ β}
    (hx : Runs view x k (.ok ret) k₁) (hret : 0 ≤ ret) (hf : Runs view (f ()) k₁ o k') :
    Runs view (x >>= fun ret => Exec.check ret >>= f) k o k' :=
  hx.bind (by
    rw [check_of_nonneg hret]
    exact hf)

theorem Runs.when_not {c : Prop} [Decidable c] {x : Exec σ Unit} (h : ¬ c) (k : τ) :
    Runs view (Exec.when c x) k (.ok ()) k := by
  rw [when_of_not h]
  exact .pure () k

theorem Runs.mimics {ι : Type} {y : Exec δ α} {shown : δ → ι → τ}
    (h : ∀ d i, ∃ i', Runs view x (shown d i) (y d).1 (shown (y d).2 i')) :
    Mimics (fun s d => ∃ i, view s = shown d i) x y Eq := by
  rintro s d ⟨i, hs⟩
  obtain ⟨i', hruns⟩ := h d i
  obtain ⟨s', hrun, hs'⟩ := hruns s hs
  have halike : ∀ o : Outcome α, Alike Eq o o := fun o => by
    cases o with
    | ok a => exact .ok rfl
    | fail code => exact .fail code
    | hang => exact .hang
  rw [hrun]
  exact ⟨halike _, i', hs'⟩

end

end Exec
