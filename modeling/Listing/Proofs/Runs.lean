import Listing.Binding
import Mathlib.Tactic.Lemma

/-! Runs of binding actions: how they compose, what they do to the list of values, and whether they fail.
An action is judged by three things apart: its result, the list that it leaves, and its verdict. -/
namespace Listing.Binding
variable {α β : Type}

lemma bind_of_ok {x : Binding α} {f : α → Binding β} {p q : Params} {a : α} (h : x p = .ok a q) :
    (x >>= f) p = f a q := by
  simp only [bind, EStateM.bind, h]

lemma bind_of_error {x : Binding α} {f : α → Binding β} {p q : Params} {e : Error}
    (h : x p = .error e q) : (x >>= f) p = .error e q := by
  simp only [bind, EStateM.bind, h]

/-- A composed run that succeeds is made of two that do. -/
lemma of_bind_eq_ok {x : Binding α} {f : α → Binding β} {p w : Params} {b : β}
    (h : (x >>= f) p = .ok b w) : ∃ a q, x p = .ok a q ∧ f a q = .ok b w := by
  cases hx : x p with
  | ok a q => exact ⟨a, q, rfl, by rwa [bind_of_ok hx] at h⟩
  | error e q =>
    rw [bind_of_error hx] at h
    cases h

@[simp] lemma pure_run (a : α) (p : Params) : (pure a : Binding α) p = .ok a p := rfl

@[simp] lemma throw_run (e : Error) (p : Params) : (throw e : Binding α) p = .error e p := rfl

@[simp] lemma ofState_run (x : StateM Params α) (p : Params) :
    ofState x p = .ok (x p).1 (x p).2 := rfl

@[simp] lemma place_run (v : Value) (p : Params) : place v p = .ok p.next (p.append [v]) := rfl

@[simp] lemma ofExcept_ok_run (a : α) (p : Params) : ofExcept (.ok a) p = .ok a p := rfl

lemma of_ofExcept_eq_ok {r : Except Error α} {p q : Params} {a : α} (h : ofExcept r p = .ok a q) :
    r = .ok a ∧ q = p := by
  cases r with
  | ok b =>
    cases h
    exact ⟨rfl, rfl⟩
  | error e => nomatch h

lemma of_restoring_eq_ok {x : Binding α} {p q : Params} {a : α} (h : restoring x p = .ok a q) :
    x p = .ok a q := by
  cases hx : x p with
  | ok b w => rwa [restoring_of_ok hx] at h
  | error e w =>
    rw [restoring_of_error hx] at h
    cases h

/-- The placeholders of `k` values that are bound after `n` others. -/
def placesFrom (n k : Nat) : List Placeholder := (List.range' (n + 1) k).map Placeholder.mk

lemma placesFrom_succ (n k : Nat) : placesFrom n (k + 1) = ⟨n + 1⟩ :: placesFrom (n + 1) k := rfl

/-- Values bound one after another get consecutive placeholders. -/
lemma mapM_place_run (f : α → Value) (as : List α) (p : Params) :
    (as.mapM fun a => place (f a)) p = .ok (placesFrom p.size as.length) (p.append (as.map f)) := by
  induction as generalizing p with
  | nil => simp [placesFrom]
  | cons a as ih =>
    have hr := ih (p.append [f a])
    rw [List.mapM_cons, bind_of_ok (place_run (f a) p), bind_of_ok hr]
    simp [Params.next, Params.append_append, placesFrom_succ]

/-! ### The list -/

/-- An action that cannot fail takes nothing away from the list, and changes nothing in it. -/
def Grows (x : StateM Params α) : Prop := ∀ p : Params, p.values <+: (x p).2.values

lemma grows_pure (a : α) : Grows (pure a) := fun _ => List.prefix_rfl

lemma grows_place (v : Value) : Grows (Params.place v) := fun p => List.prefix_append p.values [v]

lemma Grows.bind {x : StateM Params α} {f : α → StateM Params β} (hx : Grows x)
    (hf : ∀ a, Grows (f a)) : Grows (x >>= f) := fun p => (hx p).trans (hf (x p).1 (x p).2)

lemma Grows.mapM {f : α → StateM Params β} (hf : ∀ a, Grows (f a)) (as : List α) :
    Grows (as.mapM f) := by
  induction as with
  | nil => exact grows_pure []
  | cons a as ih =>
    rw [List.mapM_cons]
    exact (hf a).bind fun b => ih.bind fun bs => grows_pure (b :: bs)

/-- The list that a run leaves, whether it fails or not. -/
def left : EStateM.Result Error Params α → Params
  | .ok _ q => q
  | .error _ q => q

/-- Runs take nothing away from the list, and change nothing in it. -/
def Appends (x : Binding α) : Prop := ∀ p, p.values <+: (left (x p)).values

/-- A failing run leaves the list as it was; a successful one has only added values at its end. -/
structure Atomic (x : Binding α) : Prop where
  error {p q : Params} {e : Error} (h : x p = .error e q) : q = p
  ok {p q : Params} {a : α} (h : x p = .ok a q) : p.values <+: q.values

lemma Atomic.appends {x : Binding α} (h : x.Atomic) : Appends x := by
  intro p
  cases hx : x p with
  | ok a q => exact h.ok hx
  | error e q => exact h.error hx ▸ List.prefix_rfl

lemma atomic_pure (a : α) : Atomic (pure a) where
  error h := nomatch h
  ok h := by cases h; exact List.prefix_rfl

lemma atomic_throw (e : Error) : Atomic (throw e : Binding α) where
  error h := by cases h; rfl
  ok h := nomatch h

lemma atomic_ofExcept (r : Except Error α) : Atomic (ofExcept r) := by
  cases r with
  | ok a => exact atomic_pure a
  | error e => exact atomic_throw e

lemma Grows.atomic_ofState {x : StateM Params α} (h : Grows x) : Atomic (ofState x) where
  error h := nomatch h
  ok {p} _ _ hx := by cases hx; exact h p

lemma atomic_place (v : Value) : Atomic (place v) := (grows_place v).atomic_ofState

lemma Appends.bind {x : Binding α} {f : α → Binding β} (hx : Appends x) (hf : ∀ a, Appends (f a)) :
    Appends (x >>= f) := by
  intro p
  have h := hx p
  cases hr : x p with
  | ok a q =>
    rw [bind_of_ok hr]
    rw [hr] at h
    exact h.trans (hf a q)
  | error e q =>
    rw [bind_of_error hr]
    rwa [hr] at h

lemma Atomic.bind_pure {x : Binding α} (hx : x.Atomic) (f : α → β) :
    Atomic (x >>= fun a => pure (f a)) where
  error {p q e} h := by
    cases hr : x p with
    | ok a w =>
      rw [bind_of_ok hr] at h
      cases h
    | error e w =>
      rw [bind_of_error hr] at h
      cases h
      exact hx.error hr
  ok h := by
    obtain ⟨a, w, hr, hp⟩ := of_bind_eq_ok h
    cases hp
    exact hx.ok hr

lemma truncate_of_prefix {p q : Params} (h : p.values <+: q.values) : q.truncate p.size = p := by
  obtain ⟨vs, hv⟩ := h
  have hq : q = p.append vs := by
    cases q
    exact congrArg Params.mk hv.symm
  rw [hq, Params.truncate_append]

/-- Cutting the list back to its former length is enough, as no run ever disturbs what it held. -/
lemma Appends.restoring {x : Binding α} (hx : Appends x) : Atomic (restoring x) where
  error {p q e} h := by
    have hp := hx p
    cases hr : x p with
    | ok a w =>
      rw [restoring_of_ok hr] at h
      cases h
    | error d w =>
      rw [restoring_of_error hr] at h
      rw [hr] at hp
      cases h
      exact truncate_of_prefix hp
  ok {p q a} h := by
    have hp := hx p
    rwa [of_restoring_eq_ok h] at hp

/-! ### The verdict -/

/-- What a run says about success, without its result and its list. -/
def verdict (x : Binding α) (p : Params) : Except Error Unit :=
  match x p with
  | .ok _ _ => .ok ()
  | .error e _ => .error e

@[simp] lemma verdict_throw (e : Error) (p : Params) : verdict (throw e : Binding α) p = .error e := rfl

lemma verdict_ofExcept (r : Except Error Unit) (p : Params) : verdict (ofExcept r) p = r := by
  cases r <;> rfl

lemma verdict_eq_ok_iff {x : Binding α} {p : Params} : verdict x p = .ok () ↔ ∃ a q, x p = .ok a q := by
  unfold verdict
  cases x p <;> simp

lemma verdict_eq_error_iff {x : Binding α} {p : Params} {e : Error} :
    verdict x p = .error e ↔ ∃ q, x p = .error e q := by
  unfold verdict
  cases x p <;> simp

/-- If what follows fails or succeeds whatever it is given, then so does the whole. -/
lemma verdict_bind {x : Binding α} {f : α → Binding β} {r : Except Error Unit} {p : Params}
    (hf : ∀ a q, verdict (f a) q = r) : verdict (x >>= f) p = (verdict x p >>= fun _ => r) := by
  cases hx : x p with
  | ok a q =>
    have hv : verdict (x >>= f) p = verdict (f a) q := by simp only [verdict, bind_of_ok hx]
    rw [hv, hf]
    simp only [verdict, hx]
    rfl
  | error e q =>
    simp only [verdict, bind_of_error hx, hx]
    rfl

lemma verdict_bind_pure (x : Binding α) (f : α → β) (p : Params) :
    verdict (x >>= fun a => pure (f a)) p = verdict x p := by
  rw [verdict_bind (r := .ok ()) fun _ _ => rfl]
  cases verdict x p <;> rfl

lemma verdict_restoring (x : Binding α) (p : Params) : verdict (restoring x) p = verdict x p := by
  unfold verdict restoring
  cases x p <;> rfl

/-! ### Runs without state -/

/-- What an action binds, or why it fails, does not depend on the list, and its result depends on the list
by the number of its values only. If it fails, it leaves the list alone. -/
def Computes (x : Binding α) (values : Except Error (List Value)) (result : Nat → α) : Prop :=
  ∀ p, x p = match values with
    | .error e => .error e p
    | .ok vs => .ok (result p.size) (p.append vs)

/-- Two runs that fail alike, or that leave the same list and related results. -/
inductive Related (R : α → β → Prop) : EStateM.Result Error Params α → EStateM.Result Error Params β → Prop
  | ok {a : α} {b : β} (h : R a b) (q : Params) : Related R (.ok a q) (.ok b q)
  | error (e : Error) (q : Params) : Related R (.error e q) (.error e q)

lemma Related.of_ok {R : α → β → Prop} {a : α} {b : β} {p q : Params} (h : Related R (.ok a p) (.ok b q)) :
    R a b := by
  cases h with
  | ok h => exact h

section Computes
variable {x : Binding α} {f : α → Binding β} {r t : Except Error (List Value)} {g : Nat → α}

lemma Computes.of_eq_ok (h : Computes x r g) {p q : Params} {a : α} (hx : x p = .ok a q) :
    ∃ vs, r = .ok vs ∧ q = p.append vs ∧ a = g p.size := by
  have hp := h p
  rw [hx] at hp
  cases r with
  | error e => nomatch hp
  | ok vs =>
    cases hp
    exact ⟨vs, rfl, rfl, rfl⟩

lemma Computes.of_eq_error (h : Computes x r g) {p q : Params} {e : Error} (hx : x p = .error e q) :
    r = .error e ∧ q = p := by
  have hp := h p
  rw [hx] at hp
  cases r with
  | ok vs => nomatch hp
  | error d =>
    cases hp
    exact ⟨rfl, rfl⟩

lemma Computes.succeeds (h : Computes x r g) (hr : r.isOk = true) (p : Params) :
    ∃ a q, x p = .ok a q := by
  cases r with
  | error e => nomatch hr
  | ok vs => exact ⟨_, _, h p⟩

lemma Computes.verdict (h : Computes x r g) (p : Params) : x.verdict p = r.map fun _ => () := by
  rw [Binding.verdict, h p]
  cases r <;> rfl

lemma Computes.atomic (h : Computes x r g) : Atomic x where
  error hx := (h.of_eq_error hx).2
  ok {p} _ _ hx := by
    obtain ⟨vs, -, rfl, -⟩ := h.of_eq_ok hx
    exact List.prefix_append p.values vs

lemma Computes.related {R : α → β → Prop} {y : Binding β} {k : Nat → β} (hx : Computes x r g)
    (hy : Computes y r k) (h : ∀ n, R (g n) (k n)) (p : Params) : Related R (x p) (y p) := by
  rw [hx p, hy p]
  cases r with
  | error e => exact .error e p
  | ok vs => exact .ok (h p.size) (p.append vs)

lemma Computes.bind_pure (h : Computes x r g) (k : α → β) :
    Computes (x >>= fun a => pure (k a)) r fun n => k (g n) := by
  intro p
  have hp := h p
  cases r with
  | error e => exact bind_of_error hp
  | ok vs => exact bind_of_ok hp

/-- One action after another. If the second fails, the values of the first have to be taken back. -/
lemma Computes.restoring_bind {w : Nat} {k : α → Nat → β} (hx : Computes x r g)
    (hw : ∀ vs, r = .ok vs → vs.length = w) (hf : ∀ a, Computes (f a) t (k a)) :
    Computes (restoring (x >>= f)) (do let vs ← r; let ws ← t; return vs ++ ws)
      fun n => k (g n) (n + w) := by
  intro p
  have hp := hx p
  cases r with
  | error e =>
    rw [restoring_of_error (bind_of_error hp), truncate_of_prefix List.prefix_rfl]
    rfl
  | ok vs =>
    have hq := hf (g p.size) (p.append vs)
    cases t with
    | error e =>
      rw [restoring_of_error ((bind_of_ok hp).trans hq), Params.truncate_append]
      rfl
    | ok ws =>
      simp only [Params.append_append, Params.size_append, hw vs rfl] at hq
      exact restoring_of_ok ((bind_of_ok hp).trans hq)

end Computes

end Listing.Binding
