import Librfid.Lib.Exec

namespace Exec

variable {σ τ α β γ δ : Type}

/-- Results that `Q` relates, the same error, or none at all. -/
inductive Alike (Q : α → β → Prop) : Outcome α → Outcome β → Prop
  | ok {a : α} {b : β} : Q a b → Alike Q (.ok a) (.ok b)
  | fail (code : Int) : Alike Q (.fail code) (.fail code)
  | hang : Alike Q .hang .hang

def Mimics (R : σ → τ → Prop) (x : Exec σ α) (y : Exec τ β) (Q : α → β → Prop) : Prop :=
  ∀ s t, R s t → Alike Q (x s).1 (y t).1 ∧ R (x s).2 (y t).2

def Fine (c c' : Int) : Prop := 0 ≤ c ∧ 0 ≤ c'

def SameVerdict (c c' : Int) : Prop := c = c' ∨ Fine c c'

theorem SameVerdict.neg_iff {c c' : Int} (h : SameVerdict c c') : c < 0 ↔ c' < 0 := by
  rcases h with rfl | ⟨hc, hc'⟩
  · exact Iff.rfl
  · exact iff_of_false (Int.not_lt.mpr hc) (Int.not_lt.mpr hc')

theorem SameVerdict.eq_of_neg {c c' : Int} (h : SameVerdict c c') (hneg : c < 0) : c = c' := by
  rcases h with rfl | ⟨hc, -⟩
  · rfl
  · exact absurd hneg (Int.not_lt.mpr hc)

section

variable {R : σ → τ → Prop} {x : Exec σ α} {y : Exec τ β} {Q Q' : α → β → Prop}
  {f : α → Exec σ γ} {g : β → Exec τ δ} {S : γ → δ → Prop}

theorem Alike.mono {o : Outcome α} {o' : Outcome β} (h : Alike Q o o') (hQ : ∀ a b, Q a b → Q' a b) :
    Alike Q' o o' := by
  cases h with
  | ok hq => exact .ok (hQ _ _ hq)
  | fail code => exact .fail code
  | hang => exact .hang

theorem Alike.eq {o o' : Outcome α} (h : Alike Eq o o') : o = o' := by
  cases h with
  | ok hq => rw [hq]
  | fail => rfl
  | hang => rfl

theorem Mimics.post (h : Mimics R x y Q) (hQ : ∀ a b, Q a b → Q' a b) : Mimics R x y Q' :=
  fun s t hr => ⟨(h s t hr).1.mono hQ, (h s t hr).2⟩

theorem Mimics.and_right {P : β → Prop} (h : Mimics R x y Q)
    (hP : ∀ s t b, R s t → (y t).1 = .ok b → P b) : Mimics R x y fun a b => Q a b ∧ P b := by
  intro s t hr
  obtain ⟨halike, hr'⟩ := h s t hr
  refine ⟨?_, hr'⟩
  have hb := fun b => hP s t b hr
  generalize (x s).1 = o at halike
  generalize (y t).1 = o' at halike hb
  cases halike with
  | ok hq => exact .ok ⟨hq, hb _ rfl⟩
  | fail code => exact .fail code
  | hang => exact .hang

theorem Mimics.pure {a : α} {b : β} (h : Q a b) : Mimics R (pure a) (pure b) Q :=
  fun _ _ hr => ⟨.ok h, hr⟩

theorem Mimics.fail (code : Int) : Mimics R (fail code) (fail code) Q := fun _ _ hr => ⟨.fail code, hr⟩

theorem Mimics.hang : Mimics R hang hang Q := fun _ _ hr => ⟨.hang, hr⟩

theorem Mimics.step {f : σ → α × σ} {g : τ → β × τ}
    (h : ∀ s t, R s t → Q (f s).1 (g t).1 ∧ R (f s).2 (g t).2) : Mimics R (step f) (step g) Q :=
  fun s t hr => ⟨.ok (h s t hr).1, (h s t hr).2⟩

theorem Mimics.bind (h : Mimics R x y Q) (hf : ∀ a b, Q a b → Mimics R (f a) (g b) S) :
    Mimics R (x >>= f) (y >>= g) S := by
  intro s t hr
  obtain ⟨halike, hr'⟩ := h s t hr
  rw [bind_run, bind_run]
  rcases hx : x s with ⟨o, s'⟩
  rcases hy : y t with ⟨o', t'⟩
  rw [hx, hy] at halike hr'
  cases halike with
  | ok hq => exact hf _ _ hq s' t' hr'
  | fail code => exact ⟨.fail code, hr'⟩
  | hang => exact ⟨.hang, hr'⟩

theorem Mimics.bind_eq {y : Exec τ α} {g : α → Exec τ δ} (h : Mimics R x y Eq)
    (hf : ∀ a, Mimics R (f a) (g a) S) : Mimics R (x >>= f) (y >>= g) S :=
  h.bind fun a _ hab => hab ▸ hf a

theorem Mimics.attempt (h : Mimics R x y Q) :
    Mimics R (attempt x) (attempt y) fun a b =>
      (∃ code, a = .error code ∧ b = .error code) ∨ ∃ a' b', a = .ok a' ∧ b = .ok b' ∧ Q a' b' := by
  intro s t hr
  obtain ⟨halike, hr'⟩ := h s t hr
  rcases hx : x s with ⟨o, s'⟩
  rcases hy : y t with ⟨o', t'⟩
  rw [hx, hy] at halike hr'
  cases halike with
  | ok hq =>
    rw [attempt_ok hx, attempt_ok hy]
    exact ⟨.ok (.inr ⟨_, _, rfl, rfl, hq⟩), hr'⟩
  | fail code =>
    rw [attempt_fail hx, attempt_fail hy]
    exact ⟨.ok (.inl ⟨code, rfl, rfl⟩), hr'⟩
  | hang =>
    rw [attempt_hang hx, attempt_hang hy]
    exact ⟨.hang, hr'⟩

theorem Mimics.attempt_eq {y : Exec τ α} (h : Mimics R x y Eq) :
    Mimics R (Exec.attempt x) (Exec.attempt y) Eq :=
  h.attempt.post fun a b hab => by
    rcases hab with ⟨code, rfl, rfl⟩ | ⟨a', b', rfl, rfl, rfl⟩
    · rfl
    · rfl

theorem Mimics.ite {c : Prop} [Decidable c] {x' : Exec σ α} {y' : Exec τ β}
    (hx : c → Mimics R x y Q) (hx' : ¬ c → Mimics R x' y' Q) :
    Mimics R (if c then x else x') (if c then y else y') Q := by
  split_ifs with hc
  · exact hx hc
  · exact hx' hc

theorem Mimics.when {c : Prop} [Decidable c] {x : Exec σ Unit} {y : Exec τ Unit}
    (h : c → Mimics R x y Eq) : Mimics R (Exec.when c x) (Exec.when c y) Eq :=
  .ite h fun _ => .pure rfl

theorem Mimics.check {c c' : Int} (h : SameVerdict c c') :
    Mimics R (Exec.check c) (Exec.check c') Eq := by
  by_cases hneg : c < 0
  · obtain rfl := h.eq_of_neg hneg
    rw [check_of_neg hneg, check_of_neg hneg]
    exact .fail c
  · rw [check_of_nonneg (Int.not_lt.mp hneg),
      check_of_nonneg (Int.not_lt.mp (mt h.neg_iff.mpr hneg))]
    exact .pure rfl

/-- Beside each run there is something that only the code around it sees. -/
def Beside {ω : Type} (R : σ → τ → Prop) (s : σ × ω) (t : τ × ω) : Prop := R s.1 t.1 ∧ s.2 = t.2

theorem Mimics.lift {ω : Type} (h : Mimics R x y Q) :
    Mimics (Beside R) (lift x : Exec (σ × ω) α) (lift y) Q :=
  fun _ _ hr => ⟨(h _ _ hr.1).1, (h _ _ hr.1).2, hr.2⟩

theorem Mimics.modify {ω : Type} (f : ω → ω) :
    Mimics (Beside R) (modify f) (modify f) Eq :=
  fun _ _ hr => ⟨.ok rfl, hr.1, congrArg f hr.2⟩

theorem Mimics.bind_check {x : Exec σ Int} {y : Exec τ Int} {f : Unit → Exec σ γ} {g : Unit → Exec τ δ}
    (h : Mimics R x y Fine) (hf : ∀ u, Mimics R (f u) (g u) S) :
    Mimics R (x >>= fun c => Exec.check c >>= f) (y >>= fun c => Exec.check c >>= g) S :=
  h.bind fun _ _ hc => .bind_eq (.check (.inr hc)) hf

end

def runOk (x : Exec σ α) (default : α) (s : σ) : α × σ :=
  match x s with
  | (.ok a, s) => (a, s)
  | (_, s) => (default, s)

theorem runOk_of_ok {x : Exec σ α} {default a : α} {s s' : σ} (h : x s = (.ok a, s')) :
    runOk x default s = (a, s') := by
  rw [runOk, h]

end Exec
