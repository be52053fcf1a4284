import FlowCheck.LoadError
import Mathlib.Data.List.Forall2

/-!
# Results that may be errors

When a result that is built from others is a success. Each lemma is an equivalence, so that reading
a value can be taken apart and put together with the same lemma.
-/

namespace FlowCheck.Result

variable {ε ε' α β : Type}

/-- What follows a result succeeds when the result does and what follows it does. -/
theorem bind_eq_ok_iff {x : Except ε α} {f : α → Except ε β} {b : β} :
    x >>= f = .ok b ↔ ∃ a, x = .ok a ∧ f a = .ok b := by
  cases x <;> simp [bind, Except.bind]

/-- What follows a check succeeds when the check and what follows it do. -/
theorem check_bind_eq_ok_iff {x : Except ε Unit} {f : Unit → Except ε β} {b : β} :
    x >>= f = .ok b ↔ x = .ok () ∧ f () = .ok b := by
  cases x <;> simp [bind, Except.bind]

/-- What follows a result fails when the result does, or succeeds and what follows it fails. -/
theorem bind_eq_error_iff {x : Except ε α} {f : α → Except ε β} {e : ε} :
    x >>= f = .error e ↔ x = .error e ∨ ∃ a, x = .ok a ∧ f a = .error e := by
  cases x <;> simp [bind, Except.bind]

/-- A result fails when it does not succeed. -/
theorem exists_error_iff {x : Except ε α} : (∃ e, x = .error e) ↔ ¬ ∃ a, x = .ok a := by
  cases x <;> simp

/-- A value is a result that succeeds with it. -/
theorem pure_eq_ok_iff {a b : α} : (pure a : Except ε α) = .ok b ↔ a = b :=
  Except.ok.injEq a b ▸ Iff.rfl

/-- A function of a result succeeds when the result does. -/
theorem map_eq_ok_iff {f : α → β} {x : Except ε α} {b : β} :
    x.map f = .ok b ↔ ∃ a, x = .ok a ∧ f a = b := by
  cases x <;> simp [Except.map]

/-- A function of a result fails when the result does. -/
theorem map_eq_error_iff {f : α → β} {x : Except ε α} {e : ε} :
    x.map f = .error e ↔ x = .error e := by
  cases x <;> simp [Except.map]

/-- Giving errors another form changes no success. -/
theorem mapError_eq_ok_iff {f : ε → ε'} {x : Except ε α} {a : α} :
    x.mapError f = .ok a ↔ x = .ok a := by
  cases x <;> simp [Except.mapError]

/-- What follows a success is done with its value. -/
theorem ok_bind (a : α) (f : α → Except ε β) : Except.ok a >>= f = f a := rfl

/-- A function of a result can be written as what follows it. -/
theorem bind_pure_eq_map (x : Except ε α) (f : α → β) :
    (x >>= fun a => pure (f a)) = x.map f := by
  cases x <;> rfl

/-- What follows a result without failing fails when the result does. -/
theorem bind_pure_eq_error_iff {x : Except ε α} {f : α → β} {e : ε} :
    (x >>= fun a => pure (f a)) = .error e ↔ x = .error e := by
  rw [bind_pure_eq_map, map_eq_error_iff]

/-- What follows a result without failing has a value when the result has one. -/
theorem exists_bind_pure_iff {x : Except ε α} {f : α → β} :
    (∃ b, (x >>= fun a => pure (f a)) = .ok b) ↔ ∃ a, x = .ok a := by
  cases x <;> simp [bind, Except.bind, pure, Except.pure]

/-- What ends with something to report does not report nothing. -/
theorem bind_pure_some_ne_ok_none {x : Except ε α} {f : α → β} :
    (x >>= fun a => pure (some (f a))) ≠ .ok none := by
  rw [ne_eq, bind_eq_ok_iff]
  rintro ⟨a, -, h⟩
  cases pure_eq_ok_iff.1 h

/-- A list of results succeeds when each of them does. -/
theorem mapM_eq_ok_iff {f : α → Except ε β} {xs : List α} {ys : List β} :
    xs.mapM f = .ok ys ↔ List.Forall₂ (fun x y => f x = .ok y) xs ys := by
  induction xs generalizing ys with
  | nil =>
    rw [List.mapM_nil, pure_eq_ok_iff, List.forall₂_nil_left_iff]
    exact eq_comm
  | cons x xs ih =>
    simp only [List.mapM_cons, bind_eq_ok_iff, ih, pure_eq_ok_iff, List.forall₂_cons_left_iff]
    grind

/-- Of two lists that are related item by item, each item of the second has one in the first. -/
theorem exists_of_mem_forall₂ {R : α → β → Prop} {xs : List α} {ys : List β}
    (h : List.Forall₂ R xs ys) {y : β} (hy : y ∈ ys) : ∃ x ∈ xs, R x y := by
  induction h with
  | nil => cases hy
  | cons hfirst _ ih =>
    rcases List.mem_cons.1 hy with rfl | hmem
    · exact ⟨_, List.mem_cons_self, hfirst⟩
    · obtain ⟨x, hx, hrel⟩ := ih hmem
      exact ⟨x, List.mem_cons_of_mem _ hx, hrel⟩

/-- Of two lists that are related item by item, an item of the second has one in the first with the
same number. -/
theorem exists_getElem?_of_forall₂ {R : α → β → Prop} {xs : List α} {ys : List β}
    (h : List.Forall₂ R xs ys) {i : Nat} {y : β} (hy : ys[i]? = some y) :
    ∃ x, xs[i]? = some x ∧ R x y := by
  induction h generalizing i with
  | nil => simp at hy
  | cons hfirst _ ih =>
    cases i with
    | zero =>
      obtain rfl := Option.some.inj hy
      exact ⟨_, rfl, hfirst⟩
    | succ i => exact ih hy

/-- Of two lists that are related item by item, the items of the second have what the relation gives
them. -/
theorem forall_mem_of_forall₂ {R : α → β → Prop} {p : β → Prop} {xs : List α} {ys : List β}
    (h : List.Forall₂ R xs ys) (hp : ∀ x y, R x y → p y) : ∀ y ∈ ys, p y := by
  intro y hy
  obtain ⟨x, -, hrel⟩ := exists_of_mem_forall₂ h hy
  exact hp x y hrel

/-- Lists are related item by item when they have the same length and the items with the same number
are related. -/
theorem forall₂_iff_getElem? {R : α → β → Prop} {xs : List α} {ys : List β} :
    List.Forall₂ R xs ys ↔ xs.length = ys.length ∧
      ∀ (i : Nat) x y, xs[i]? = some x → ys[i]? = some y → R x y := by
  rw [List.forall₂_iff_get]
  refine and_congr_right fun _ => ⟨fun h i x y hx hy => ?_, fun h i hi hi' => ?_⟩
  · obtain ⟨hi, rfl⟩ := List.getElem?_eq_some_iff.1 hx
    obtain ⟨hi', rfl⟩ := List.getElem?_eq_some_iff.1 hy
    exact h i hi hi'
  · exact h i _ _ (List.getElem?_eq_getElem hi) (List.getElem?_eq_getElem hi')

/-- Relations can be followed one after the other. -/
theorem forall₂_trans {γ : Type} {R : α → β → Prop} {S : β → γ → Prop} {xs : List α} {ys : List β}
    {zs : List γ} (h : List.Forall₂ R xs ys) (h' : List.Forall₂ S ys zs) :
    List.Forall₂ (fun x z => ∃ y, R x y ∧ S y z) xs zs := by
  induction h generalizing zs with
  | nil =>
    cases h'
    exact .nil
  | cons hfirst _ ih =>
    cases h' with
    | cons hnext hrest => exact .cons ⟨_, hfirst, hnext⟩ (ih hrest)

/-- A list of results that may be missing is there when each of them is. -/
theorem mapM_eq_some_iff {f : α → Option β} {xs : List α} {ys : List β} :
    xs.mapM f = some ys ↔ List.Forall₂ (fun x y => f x = some y) xs ys := by
  induction xs generalizing ys with
  | nil =>
    rw [List.mapM_nil, List.forall₂_nil_left_iff]
    exact Option.some_inj.trans eq_comm
  | cons x xs ih =>
    rw [List.forall₂_cons_left_iff]
    simp only [List.mapM_cons, Option.bind_eq_bind, Option.bind_eq_some_iff, Option.pure_def,
      Option.some.injEq, ih]
    grind

/-- Relations that agree on the items of the first list relate the same lists. -/
theorem forall₂_congr_left {R S : α → β → Prop} {xs : List α} {ys : List β}
    (h : ∀ x ∈ xs, ∀ y, R x y ↔ S x y) : List.Forall₂ R xs ys ↔ List.Forall₂ S xs ys := by
  induction xs generalizing ys with
  | nil => rw [List.forall₂_nil_left_iff, List.forall₂_nil_left_iff]
  | cons x xs ih =>
    have hfirst := h x List.mem_cons_self
    have hrest (ys : List β) : List.Forall₂ R xs ys ↔ List.Forall₂ S xs ys :=
      ih fun x hx => h x (List.mem_cons_of_mem _ hx)
    simp only [List.forall₂_cons_left_iff, hfirst, hrest]

/-- There is a list of related items when there is a related item for each. -/
theorem exists_forall₂_iff {R : α → β → Prop} {xs : List α} :
    (∃ ys, List.Forall₂ R xs ys) ↔ ∀ x ∈ xs, ∃ y, R x y := by
  induction xs with
  | nil => simp
  | cons x xs ih =>
    simp only [List.forall₂_cons_left_iff, List.forall_mem_cons, ← ih]
    grind

/-- There is a list of results when each of them is there. -/
theorem exists_mapM_eq_ok_iff {f : α → Except ε β} {xs : List α} :
    (∃ ys, xs.mapM f = .ok ys) ↔ ∀ x ∈ xs, ∃ y, f x = .ok y := by
  simp only [mapM_eq_ok_iff, exists_forall₂_iff]

/-- Items can be taken up one after the other when each of them can, whatever was taken up before
it. -/
theorem exists_foldlM_eq_ok_iff {f : β → α → Except ε β} {p : α → Prop} {xs : List α}
    (h : ∀ b, ∀ x ∈ xs, (∃ next, f b x = .ok next) ↔ p x) (b : β) :
    (∃ last, xs.foldlM f b = .ok last) ↔ ∀ x ∈ xs, p x := by
  induction xs generalizing b with
  | nil => exact iff_of_true ⟨b, rfl⟩ (by simp)
  | cons x xs ih =>
    have hfirst := h b x List.mem_cons_self
    have hrest (b : β) := ih (fun b y hy => h b y (List.mem_cons_of_mem _ hy)) b
    simp only [List.foldlM_cons, bind_eq_ok_iff, List.forall_mem_cons, ← hfirst]
    constructor
    · rintro ⟨last, next, hnext, hlast⟩
      exact ⟨⟨next, hnext⟩, (hrest next).1 ⟨last, hlast⟩⟩
    · rintro ⟨⟨next, hnext⟩, hall⟩
      obtain ⟨last, hlast⟩ := (hrest next).2 hall
      exact ⟨last, next, hnext, hlast⟩

/-- What holds at the start and is kept whenever an item is taken up holds at the end. -/
theorem foldlM_induction {f : β → α → Except ε β} {p : β → Prop}
    (hstep : ∀ b x next, p b → f b x = .ok next → p next) {xs : List α} {b last : β} (hb : p b)
    (h : xs.foldlM f b = .ok last) : p last := by
  induction xs generalizing b with
  | nil => exact pure_eq_ok_iff.1 h ▸ hb
  | cons x xs ih =>
    rw [List.foldlM_cons, bind_eq_ok_iff] at h
    obtain ⟨next, hnext, hlast⟩ := h
    exact ih (hstep b x next hb hnext) hlast

/-- Checks that follow one another succeed when each of them does. -/
theorem forM_eq_ok_iff {f : α → Except ε Unit} {xs : List α} :
    xs.forM f = .ok () ↔ ∀ x ∈ xs, f x = .ok () := by
  induction xs with
  | nil => exact ⟨fun _ _ mem => absurd mem List.not_mem_nil, fun _ => rfl⟩
  | cons x xs ih =>
    -- the checks of the rest follow the first check
    change (f x >>= fun _ => xs.forM f) = .ok () ↔ _
    rw [check_bind_eq_ok_iff, List.forall_mem_cons, ih]

/-- A refusal is no success. -/
theorem refuse_ne_ok {reason : Rejection} {a : α} :
    (LoadError.refuse reason : Except LoadError α) ≠ .ok a := by
  simp [LoadError.refuse]

end FlowCheck.Result
