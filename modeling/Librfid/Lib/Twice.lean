import Librfid.Lib.Exec

namespace Exec

variable {σ τ α β : Type}

/-- From second parts that `P` relates, both runs end alike and as `Q` says. -/
def Twice (P : σ → τ → τ → Prop) (x y : Exec (σ × τ) α) (Q : Outcome α → σ → τ → τ → Prop) : Prop :=
  ∀ s t t', P s t t' → ∃ o s₁ t₁ t₁', x (s, t) = (o, (s₁, t₁)) ∧ y (s, t') = (o, (s₁, t₁')) ∧
    Q o s₁ t₁ t₁'

section

variable {P P' : σ → τ → τ → Prop} {x y : Exec (σ × τ) α} {Q Q' : Outcome α → σ → τ → τ → Prop}
  {R : Outcome β → σ → τ → τ → Prop} {f g : α → Exec (σ × τ) β}

theorem Twice.conseq (h : Twice P x y Q) (hP : ∀ s t t', P' s t t' → P s t t')
    (hQ : ∀ o s t t', Q o s t t' → Q' o s t t') : Twice P' x y Q' := by
  intro s t t' hp
  obtain ⟨o, s₁, t₁, t₁', hx, hy, hq⟩ := h s t t' (hP s t t' hp)
  exact ⟨o, s₁, t₁, t₁', hx, hy, hQ _ _ _ _ hq⟩

theorem Twice.pre (h : Twice P x y Q) (hP : ∀ s t t', P' s t t' → P s t t') : Twice P' x y Q :=
  h.conseq hP fun _ _ _ _ => id

theorem Twice.pure {a : α} (h : ∀ s t t', P s t t' → Q (.ok a) s t t') :
    Twice P (pure a) (pure a) Q :=
  fun s t t' hp => ⟨_, _, _, _, rfl, rfl, h s t t' hp⟩

theorem Twice.fail {code : Int} (h : ∀ s t t', P s t t' → Q (.fail code) s t t') :
    Twice P (fail code) (fail code) Q :=
  fun s t t' hp => ⟨_, _, _, _, rfl, rfl, h s t t' hp⟩

theorem Twice.hang (h : ∀ s t t', P s t t' → Q .hang s t t') : Twice P hang hang Q :=
  fun s t t' hp => ⟨_, _, _, _, rfl, rfl, h s t t' hp⟩

theorem Twice.bind (hx : Twice P x y Q) (hf : ∀ a, Twice (Q (.ok a)) (f a) (g a) R)
    (hfail : ∀ code s t t', Q (.fail code) s t t' → R (.fail code) s t t')
    (hhang : ∀ s t t', Q .hang s t t' → R .hang s t t') : Twice P (x >>= f) (y >>= g) R := by
  intro s t t' hp
  obtain ⟨o, s₁, t₁, t₁', hxr, hyr, hq⟩ := hx s t t' hp
  rw [bind_run, bind_run, hxr, hyr]
  cases o with
  | ok a => exact hf a s₁ t₁ t₁' hq
  | fail code => exact ⟨_, _, _, _, rfl, rfl, hfail code _ _ _ hq⟩
  | hang => exact ⟨_, _, _, _, rfl, rfl, hhang _ _ _ hq⟩

theorem Twice.lift {c : Exec σ α} (h : ∀ s t t', P s t t' → Q (c s).1 (c s).2 t t') :
    Twice P (lift c) (lift c) Q :=
  fun s t t' hp => ⟨_, _, _, _, rfl, rfl, h s t t' hp⟩

theorem Twice.get_bind {f g : τ → Exec (σ × τ) α}
    (h : ∀ t t', Twice (fun s u u' => P s u u' ∧ u = t ∧ u' = t') (f t) (g t') Q) :
    Twice P (get >>= f) (get >>= g) Q :=
  fun s t t' hp => h t t' s t t' ⟨hp, rfl, rfl⟩

theorem Twice.modify {f g : τ → τ} {Q : Outcome Unit → σ → τ → τ → Prop}
    (h : ∀ s t t', P s t t' → Q (.ok ()) s (f t) (g t')) :
    Twice P (modify f) (modify g) Q :=
  fun s t t' hp => ⟨_, _, _, _, rfl, rfl, h s t t' hp⟩

theorem Twice.modify_bind {f g : τ → τ} {k l : Unit → Exec (σ × τ) β}
    {J : σ → τ → τ → Prop} (h : ∀ s t t', P s t t' → J s (f t) (g t'))
    (hk : Twice J (k ()) (l ()) R) : Twice P (Exec.modify f >>= k) (Exec.modify g >>= l) R :=
  fun s t t' hp => hk s (f t) (g t') (h s t t' hp)

theorem Twice.ite {c : Prop} [Decidable c] {x x' y y' : Exec (σ × τ) α}
    (hx : c → Twice P x y Q) (hy : ¬ c → Twice P x' y' Q) :
    Twice P (if c then x else x') (if c then y else y') Q := by
  split_ifs with h
  · exact hx h
  · exact hy h

end

end Exec
