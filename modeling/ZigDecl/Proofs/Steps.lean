import Mathlib.Data.List.Forall2
import ZigDecl.Log

/-! # Steps over a list, and steps with a state

A step that succeeds on every item of a list succeeds on the list. A step that changes a state and
may stop leaves the state that it got to, also where it stops. -/

namespace ZigDecl

variable {ε α β γ : Type}

theorem map_ok (f : α → β) (a : α) : f <$> (Except.ok a : Except ε α) = .ok (f a) := rfl

/-- A failure has no result that a map could change. -/
theorem map_error_congr (f g : α → β) (e : ε) :
    f <$> (Except.error e : Except ε α) = g <$> (Except.error e : Except ε α) := rfl

theorem exists_of_map_eq_ok {f : α → β} {x : Except ε α} {b : β} (h : f <$> x = .ok b) :
    ∃ a, x = .ok a ∧ f a = b := by
  cases x with
  | error e => cases h
  | ok a => exact ⟨a, rfl, Except.ok.inj h⟩

/-- A result that passes a test is a result. -/
theorem exists_of_any {p : α → Bool} {x : Except ε α} (h : x.toOption.any p = true) :
    ∃ a, x = .ok a ∧ p a = true := by
  cases x with
  | error e => cases h
  | ok a => exact ⟨a, rfl, h⟩

theorem exists_of_isOk {x : Except ε α} (h : x.isOk = true) : ∃ a, x = .ok a := by
  cases x with
  | error e => cases h
  | ok a => exact ⟨a, rfl⟩

theorem mapM_map_ok {f : α → β} {body : β → Except ε γ} {h : α → γ} {xs : List α}
    (hbody : ∀ x ∈ xs, body (f x) = .ok (h x)) : (xs.map f).mapM body = .ok (xs.map h) := by
  induction xs with
  | nil => rfl
  | cons x xs ih =>
    rw [List.map_cons, List.mapM_cons, hbody x (by simp), ok_bind,
      ih fun y hy => hbody y (List.mem_cons_of_mem x hy)]
    rfl

/-- What depends on projections only is the same for steps whose projections are the same. -/
theorem map_congr_of_map {α' δ : Type} {p : α → β} {p' : α' → β} {f : α → δ} {f' : α' → δ}
    (hf : ∀ a b, p a = p' b → f a = f' b) {x : Except ε α} {y : Except ε α'}
    (h : p <$> x = p' <$> y) : f <$> x = f' <$> y := by
  cases x <;> cases y
  · cases h
    rfl
  · cases h
  · cases h
  · exact congrArg Except.ok (hf _ _ (Except.ok.inj h))

/-- Steps whose projections are the same have the same projections on a list. -/
theorem map_mapM_congr {β' δ : Type} {p : β → δ} {p' : β' → δ} {body : α → Except ε β}
    {body' : α → Except ε β'} {xs : List α} (h : ∀ x ∈ xs, p <$> body x = p' <$> body' x) :
    List.map p <$> xs.mapM body = List.map p' <$> xs.mapM body' := by
  induction xs with
  | nil => rfl
  | cons x xs ih =>
    have hx := h x (by simp)
    have ih := ih fun y hy => h y (List.mem_cons_of_mem x hy)
    rw [List.mapM_cons, List.mapM_cons]
    cases hy : body x <;> cases hy' : body' x <;> rw [hy, hy'] at hx
    · cases hx
      rfl
    · cases hx
    · cases hx
    · cases hys : xs.mapM body <;> cases hys' : xs.mapM body' <;> rw [hys, hys'] at ih
      · cases ih
        rfl
      · cases ih
      · cases ih
      · exact congrArg Except.ok (congrArg₂ List.cons (Except.ok.inj hx) (Except.ok.inj ih))

theorem exists_mapM {body : α → Except ε β} {P : α → β → Prop} {xs : List α}
    (h : ∀ x ∈ xs, ∃ y, body x = .ok y ∧ P x y) :
    ∃ ys, xs.mapM body = .ok ys ∧ List.Forall₂ P xs ys := by
  induction xs with
  | nil => exact ⟨[], rfl, .nil⟩
  | cons x xs ih =>
    obtain ⟨y, hy, hp⟩ := h x (by simp)
    obtain ⟨ys, hys, hps⟩ := ih fun z hz => h z (List.mem_cons_of_mem x hz)
    exact ⟨y :: ys, by rw [List.mapM_cons, hy, ok_bind, hys]; rfl, .cons hp hps⟩

theorem exists_mapM_ok {body : α → Except ε β} {xs : List α}
    (h : ∀ x ∈ xs, ∃ y, body x = .ok y) : ∃ ys, xs.mapM body = .ok ys := by
  obtain ⟨ys, hys, _⟩ := exists_mapM fun x hx => (h x hx).imp fun _ hy => And.intro hy trivial
  exact ⟨ys, hys⟩

theorem exists_forall₂ {P : α → β → Prop} {xs : List α} (h : ∀ x ∈ xs, ∃ y, P x y) :
    ∃ ys, List.Forall₂ P xs ys := by
  induction xs with
  | nil => exact ⟨[], .nil⟩
  | cons x xs ih =>
    obtain ⟨y, hp⟩ := h x (by simp)
    obtain ⟨ys, hps⟩ := ih fun z hz => h z (List.mem_cons_of_mem x hz)
    exact ⟨y :: ys, .cons hp hps⟩

theorem forall₂_of_mapM {body : α → Except ε β} {xs : List α} {ys : List β}
    (h : xs.mapM body = .ok ys) : List.Forall₂ (fun x y => body x = .ok y) xs ys := by
  induction xs generalizing ys with
  | nil => cases h; exact .nil
  | cons x xs ih =>
    rw [List.mapM_cons] at h
    obtain ⟨y, hy, h⟩ := exists_of_bind_eq_ok h
    obtain ⟨rest, hrest, h⟩ := exists_of_bind_eq_ok h
    cases h
    exact .cons hy (ih hrest)

/-- What every entry of a list has, every related one has. -/
theorem forall_mem_of_forall₂ {P : α → β → Prop} {xs : List α} {ys : List β}
    (h : List.Forall₂ P xs ys) : ∀ y ∈ ys, ∃ x ∈ xs, P x y := by
  induction h with
  | nil => simp
  | cons hp _ ih =>
    rintro z (_ | ⟨_, hz⟩)
    · exact ⟨_, List.mem_cons_self, hp⟩
    · obtain ⟨x, hx, hp⟩ := ih z hz
      exact ⟨x, List.mem_cons_of_mem _ hx, hp⟩

/-- Every entry of a list has a related one. -/
theorem exists_mem_of_forall₂ {P : α → β → Prop} {xs : List α} {ys : List β}
    (h : List.Forall₂ P xs ys) : ∀ x ∈ xs, ∃ y ∈ ys, P x y :=
  forall_mem_of_forall₂ (List.Forall₂.flip h : List.Forall₂ (flip P) ys xs)

theorem forall₂_trans {P : α → β → Prop} {Q : β → γ → Prop} {R : α → γ → Prop}
    (htrans : ∀ x y z, P x y → Q y z → R x z) {xs : List α} {ys : List β} {zs : List γ}
    (h : List.Forall₂ P xs ys) (h' : List.Forall₂ Q ys zs) : List.Forall₂ R xs zs := by
  induction h generalizing zs with
  | nil => cases h'; exact .nil
  | cons hp _ ih =>
    cases h' with
    | cons hq h' => exact .cons (htrans _ _ _ hp hq) (ih h')

/-- What is made of two entries together is related to what both are related to. -/
theorem forall₂_zip {δ : Type} {P : α → β → Prop} {Q : α → γ → Prop} {R : α → δ → Prop}
    {f : β × γ → δ} (hf : ∀ x y z, P x y → Q x z → R x (f (y, z))) {xs : List α} {ys : List β}
    {zs : List γ} (h : List.Forall₂ P xs ys) (h' : List.Forall₂ Q xs zs) :
    List.Forall₂ R xs ((ys.zip zs).map f) := by
  induction h generalizing zs with
  | nil => cases h'; exact .nil
  | cons hp _ ih =>
    cases h' with
    | cons hq h' => exact .cons (hf _ _ _ hp hq) (ih h')

/-! ## Steps with a state -/

variable {σ : Type}

theorem exceptT_bind_apply (x : ExceptT ε (StateM σ) α) (f : α → ExceptT ε (StateM σ) β) (s : σ) :
    (x >>= f) s = match x s with
      | (.ok a, s) => f a s
      | (.error e, s) => (.error e, s) := by
  show ExceptT.bindCont f (x s).1 (x s).2 = _
  rcases x s with ⟨_ | a, s⟩ <;> rfl

end ZigDecl
