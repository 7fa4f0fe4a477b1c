import Mathlib.Data.Set.Image
import Mathlib.Logic.Function.Basic

namespace Store

variable {κ ν : Type} [DecidableEq κ]

/-- What the client makes of a request: it was given a value, its write was acknowledged, or it cannot
tell whether the write was made. -/
inductive Event (κ ν : Type)
  | gave (k : κ) (v : ν)
  | wrote (k : κ) (v : ν)
  | unsure (k : κ) (v : ν)
  deriving DecidableEq

def put (merge : κ → ν → ν → ν) (k : κ) (v : ν) (m : κ → ν) : κ → ν :=
  Function.update m k (merge k v (m k))

section

variable (merge : κ → ν → ν → ν) (free : (κ → ν) → κ → Prop)

/-- What goes on at the memory, which only writes places that are free. -/
inductive Step : (κ → ν) → Event κ ν → (κ → ν) → Prop
  | gave (m : κ → ν) (k : κ) : Step m (.gave k (m k)) m
  | wrote {m : κ → ν} {k : κ} (v : ν) : free m k → Step m (.wrote k v) (put merge k v m)
  | unheard {m : κ → ν} {k : κ} (v : ν) : free m k → Step m (.unsure k v) (put merge k v m)
  | lost (m : κ → ν) (k : κ) (v : ν) : Step m (.unsure k v) m

inductive History : (κ → ν) → List (Event κ ν) → (κ → ν) → Prop
  | nil (m : κ → ν) : History m [] m
  | cons {m m₁ m' : κ → ν} {e : Event κ ν} {es : List (Event κ ν)} :
    Step merge free m e m₁ → History m₁ es m' → History m (e :: es) m'

def learn (K : κ → Set ν) : Event κ ν → κ → Set ν
  | .gave k v => Function.update K k {v}
  | .wrote k v => Function.update K k (merge k v '' K k)
  | .unsure k v => Function.update K k (K k ∪ merge k v '' K k)

end

section

variable {merge : κ → ν → ν → ν} {free : (κ → ν) → κ → Prop}

theorem put_self (k : κ) (v : ν) (m : κ → ν) : put merge k v m k = merge k v (m k) :=
  Function.update_self ..

theorem put_of_ne {j k : κ} (h : j ≠ k) (v : ν) (m : κ → ν) : put merge k v m j = m j :=
  Function.update_of_ne h ..

theorem History.single {m m' : κ → ν} {e : Event κ ν} (h : Step merge free m e m') :
    History merge free m [e] m' :=
  .cons h (.nil m')

theorem History.of_nil {m m' : κ → ν} (h : History merge free m [] m') : m' = m := by
  cases h
  rfl

theorem History.of_single {m m' : κ → ν} {e : Event κ ν} (h : History merge free m [e] m') :
    Step merge free m e m' := by
  obtain _ | ⟨hstep, hnil⟩ := h
  exact hnil.of_nil ▸ hstep

theorem Step.of_wrote {m m' : κ → ν} {k : κ} {v : ν} (h : Step merge free m (.wrote k v) m') :
    m' = put merge k v m := by
  cases h
  rfl

theorem Step.of_unsure {m m' : κ → ν} {k : κ} {v : ν} (h : Step merge free m (.unsure k v) m') :
    m' = put merge k v m ∨ m' = m := by
  cases h with
  | unheard => exact .inl rfl
  | lost => exact .inr rfl

theorem History.append {m m₁ m' : κ → ν} {es es' : List (Event κ ν)}
    (h : History merge free m es m₁) (h' : History merge free m₁ es' m') :
    History merge free m (es ++ es') m' := by
  induction h with
  | nil => exact h'
  | cons hstep _ ih => exact .cons hstep (ih h')

/-- A client that is given the values of some places. -/
theorem History.reads (m : κ → ν) (ks : List κ) :
    History merge free m (ks.map fun k => .gave k (m k)) m := by
  induction ks with
  | nil => exact .nil m
  | cons k ks ih => exact .cons (.gave m k) ih

theorem Step.learn {m m' : κ → ν} {e : Event κ ν} (h : Step merge free m e m') {K : κ → Set ν}
    (hK : ∀ k, m k ∈ K k) : ∀ k, m' k ∈ learn merge K e k := by
  have hupdate : ∀ {k : κ} {S : Set ν}, m' k ∈ S → (∀ j, j ≠ k → m' j ∈ K j) →
      ∀ j, m' j ∈ Function.update K k S j := fun hself hother =>
    (Function.forall_update_iff K fun j S => m' j ∈ S).mpr ⟨hself, hother⟩
  cases h with
  | gave => exact hupdate rfl fun j _ => hK j
  | lost => exact hupdate (.inl (hK _)) fun j _ => hK j
  | wrote v =>
    refine hupdate ?_ fun j hj => (put_of_ne hj v m).symm ▸ hK j
    exact (put_self _ v m).symm ▸ Set.mem_image_of_mem _ (hK _)
  | unheard v =>
    refine hupdate ?_ fun j hj => (put_of_ne hj v m).symm ▸ hK j
    exact (put_self _ v m).symm ▸ .inr (Set.mem_image_of_mem _ (hK _))

theorem History.learn {m m' : κ → ν} {es : List (Event κ ν)} (h : History merge free m es m')
    {K : κ → Set ν} (hK : ∀ k, m k ∈ K k) (k : κ) : m' k ∈ es.foldl (learn merge) K k := by
  induction h generalizing K with
  | nil => exact hK k
  | cons hstep _ ih => exact ih (hstep.learn hK)

/-- What the client is given is one of the values it has to reckon with. -/
theorem History.gave_mem {m m' : κ → ν} {es es' : List (Event κ ν)} {k : κ} {v : ν}
    (h : History merge free m (es ++ .gave k v :: es') m') {K : κ → Set ν} (hK : ∀ k, m k ∈ K k) :
    v ∈ es.foldl (Store.learn merge) K k := by
  induction es generalizing m K with
  | nil =>
    cases h with
    | cons hstep _ =>
      cases hstep
      exact hK k
  | cons e es ih =>
    cases h with
    | cons hstep hrest => exact ih hrest (hstep.learn hK)

theorem History.known {m m' : κ → ν} {es : List (Event κ ν)} (h : History merge free m es m') :
    (∀ before k v behind, es = before ++ .gave k v :: behind →
      v ∈ before.foldl (Store.learn merge) (fun k => {m k}) k) ∧
    ∀ k, m' k ∈ es.foldl (Store.learn merge) (fun k => {m k}) k := by
  refine ⟨fun before k v behind heq => ?_, h.learn fun _ => Set.mem_singleton _⟩
  rw [heq] at h
  exact h.gave_mem fun _ => Set.mem_singleton _

theorem History.frozen {m m' : κ → ν} {es : List (Event κ ν)} (h : History merge free m es m')
    (hfree : ∀ {m : κ → ν} {j k : κ} {v : ν}, free m k → ¬ free m j → ¬ free (put merge k v m) j)
    {k : κ} (hk : ¬ free m k) : m' k = m k := by
  have hput : ∀ {m : κ → ν} {j : κ} {v : ν}, free m j → ¬ free m k → put merge j v m k = m k := by
    intro m j v hj hk
    apply put_of_ne
    rintro rfl
    exact hk hj
  induction h with
  | nil => rfl
  | cons hstep _ ih =>
    cases hstep with
    | gave => exact ih hk
    | wrote _ hj => exact (ih (hfree hj hk)).trans (hput hj hk)
    | unheard _ hj => exact (ih (hfree hj hk)).trans (hput hj hk)
    | lost => exact ih hk

end

end Store
