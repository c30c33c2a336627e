import DocLinks.Work

/-!
# Running work

What a computation on a workspace answers and leaves behind, one lemma for each elementary
computation. A sequence of computations is taken apart by `bind_ok_iff`: if the whole ends with an
answer, then so does the first part, and the rest goes on from what the first part left.
-/

namespace DocLinks.Work

variable {σ τ α β : Type}

/-! ## Sequences -/

theorem bind_run (x : Work σ α) (f : α → Work σ β) (w : Workspace σ) :
    (x >>= f) w = match x w with
      | (.ok a, v) => f a v
      | (.error e, v) => (.error e, v) := by
  show (x w >>= fun _ => _ : Id _) = _
  rcases h : x w with ⟨r, v⟩
  cases r with
  | error e =>
    simp [bind, ExceptT.bind, ExceptT.bindCont, StateT.bind, ExceptT.mk, h]
    rfl
  | ok a => simp [bind, ExceptT.bind, ExceptT.bindCont, StateT.bind, ExceptT.mk, h]

theorem bind_run_of_ok {x : Work σ α} {f : α → Work σ β} {w v : Workspace σ} {a : α}
    (h : x w = (.ok a, v)) : (x >>= f) w = f a v := by
  rw [bind_run, h]

/-- A run of which the answer is known. -/
theorem eq_of_fst {x : Work σ α} {w : Workspace σ} {r : Except Fault α} (h : (x w).1 = r) :
    x w = (r, (x w).2) :=
  Prod.ext h rfl

/-- An answer that is known as an option. -/
theorem eq_ok_of_toOption {ε : Type} {r : Except ε α} {a : α} (h : r.toOption = some a) :
    r = .ok a := by
  cases r with
  | error e => cases h
  | ok b => rw [Option.some.inj h]

/-- A run of which some view, of the answer and of what is left behind, is known to be one of an
answer. -/
theorem exists_of_view {γ : Type} {x : Work σ α} {w : Workspace σ} {f : α → Workspace σ → γ} {c : γ}
    (h : ((x w).1.map fun a => f a (x w).2).toOption = some c) :
    ∃ a v, x w = (.ok a, v) ∧ f a v = c := by
  rcases hx : x w with ⟨e | a, v⟩
  · rw [hx] at h
    cases h
  · rw [hx] at h
    exact ⟨a, v, rfl, Option.some.inj h⟩

/-- **A sequence that answers.** Both parts answer, the second from where the first ended. -/
theorem bind_ok_iff {x : Work σ α} {f : α → Work σ β} {w v : Workspace σ} {b : β} :
    (x >>= f) w = (.ok b, v) ↔ ∃ a u, x w = (.ok a, u) ∧ f a u = (.ok b, v) := by
  rw [bind_run]
  constructor
  · intro h
    rcases hx : x w with ⟨r, u⟩
    rw [hx] at h
    cases r with
    | error e => cases h
    | ok a => exact ⟨a, u, rfl, h⟩
  · rintro ⟨a, u, hx, hf⟩
    rw [hx]
    exact hf

/-! ## Elementary computations -/

@[simp] theorem pure_run (a : α) (w : Workspace σ) : (pure a : Work σ α) w = (.ok a, w) := rfl

@[simp] theorem tree_run (w : Workspace σ) : (tree : Work σ FileTree) w = (.ok w.tree, w) := rfl

@[simp] theorem scope_run (w : Workspace σ) : (scope : Work σ σ) w = (.ok w.scope, w) := rfl

@[simp] theorem report_run (r : LogRecord) (w : Workspace σ) :
    (report r : Work σ Unit) w = (.ok (), { w with log := w.log ++ [r] }) := rfl

@[simp] theorem modifyScope_run (f : σ → σ) (w : Workspace σ) :
    (modifyScope f : Work σ Unit) w = (.ok (), { w with scope := f w.scope }) := rfl

@[simp] theorem ofExcept_run (r : Except Fault α) (w : Workspace σ) :
    (ofExcept r : Work σ α) w = (r, w) := rfl

theorem bind_ofExcept_run {r : Except Fault α} {a : α} (h : r = .ok a) (f : α → Work σ β)
    (w : Workspace σ) : (ofExcept r >>= f) w = f a w :=
  bind_run_of_ok (by rw [ofExcept_run, h])

theorem write_run (w : Workspace σ) {p : FilePath} {text : String} {t : FileTree}
    (h : w.tree.write p text = (t, none)) :
    (write p text : Work σ _) w = (.ok (.ok ()), { w with tree := t }) := by
  unfold write
  rw [h]

theorem write_run_of_fault (w : Workspace σ) {p : FilePath} {text : String} {t : FileTree}
    {f : FileFault} (h : w.tree.write p text = (t, some f)) (hf : f ≠ .nullByte) :
    (write p text : Work σ _) w = (.ok (.error ⟨p.text, f⟩), { w with tree := t }) := by
  unfold write
  rw [h]
  cases f with
  | nullByte => exact absurd rfl hf
  | _ => rfl

@[simp] theorem map_run (f : α → β) (x : Work σ α) (w : Workspace σ) :
    (f <$> x) w = ((x w).1.map f, (x w).2) := by
  rw [map_eq_pure_bind, bind_run]
  rcases x w with ⟨r, v⟩
  cases r <;> rfl

/-- Reporting several records adds them to the log in order. -/
theorem forM_report_run (rs : List LogRecord) (w : Workspace σ) :
    (rs.forM (report : LogRecord → Work σ Unit)) w
      = (.ok (), { w with log := w.log ++ rs }) := by
  induction rs generalizing w with
  | nil => simp
  | cons r rs ih =>
    show (report r >>= fun _ => rs.forM report) w = _
    rw [bind_run_of_ok (report_run r w), ih]
    simp

/-! ## What is left behind -/

/-- What a computation leaves behind is in the relation `R` to what it started from, whether it ends
with an answer or with a fault. -/
def Sat (R : Workspace σ → Workspace σ → Prop) (x : Work σ α) : Prop := ∀ w, R w (x w).2

/-- A relation that holds from start to end if it holds of every step. -/
structure IsPreorder (R : Workspace σ → Workspace σ → Prop) : Prop where
  refl : ∀ w, R w w
  trans : ∀ {w u v}, R w u → R u v → R w v

variable {R : Workspace σ → Workspace σ → Prop}

theorem Sat.of_run {x : Work σ α} (h : Sat R x) {w v : Workspace σ} {r : Except Fault α}
    (hx : x w = (r, v)) : R w v := by
  have hw := h w
  rwa [hx] at hw

/-- A sequence of which both parts are in the relation, the second from where the first ended. -/
theorem IsPreorder.bind (hR : IsPreorder R) {x : Work σ α} {f : α → Work σ β} {w : Workspace σ}
    (hx : R w (x w).2) (hf : ∀ a u, x w = (.ok a, u) → R u (f a u).2) : R w ((x >>= f) w).2 := by
  rw [bind_run]
  rcases h : x w with ⟨_ | a, u⟩
  · rw [h] at hx
    exact hx
  · rw [h] at hx
    exact hR.trans hx (hf a u h)

theorem Sat.pure (hR : IsPreorder R) (a : α) : Sat R (Pure.pure a : Work σ α) := fun w => hR.refl w

theorem Sat.bind (hR : IsPreorder R) {x : Work σ α} {f : α → Work σ β} (hx : Sat R x)
    (hf : ∀ a, Sat R (f a)) : Sat R (x >>= f) := fun w =>
  hR.bind (hx w) fun a u _ => hf a u

theorem Sat.forM (hR : IsPreorder R) {f : α → Work σ PUnit} (hf : ∀ a, Sat R (f a)) (as : List α) :
    Sat R (as.forM f) := by
  induction as with
  | nil => exact Sat.pure hR _
  | cons a as ih => exact Sat.bind hR (hf a) fun _ => ih

/-! ## Two runs -/

/-- From workspaces in the relation `R` a computation gives the same answer, or ends with the same fault;
if it answers, it leaves workspaces in the relation `S` behind. -/
def Alike (R S : Workspace σ → Workspace σ → Prop) (x : Work σ α) : Prop :=
  ∀ w v, R w v → (x w).1 = (x v).1 ∧ ∀ a, (x w).1 = .ok a → S (x w).2 (x v).2

variable {S T : Workspace σ → Workspace σ → Prop}

theorem Alike.pure (a : α) : Alike R R (Pure.pure a : Work σ α) := fun _ _ h => ⟨rfl, fun _ _ => h⟩

theorem Alike.ofExcept (r : Except Fault α) : Alike R R (Work.ofExcept r : Work σ α) :=
  fun _ _ h => ⟨rfl, fun _ _ => h⟩

theorem Alike.fail (f : Fault) : Alike R S (Work.fail f : Work σ α) := fun _ _ _ => ⟨rfl, nofun⟩

theorem Alike.mono {x : Work σ α} (h : Alike R S x) (hS : ∀ w v, S w v → T w v) : Alike R T x := by
  intro w v hR
  obtain ⟨hfst, hsnd⟩ := h w v hR
  exact ⟨hfst, fun a ha => hS _ _ (hsnd a ha)⟩

/-- **A sequence**: what the first part leaves behind is what the second one starts from. -/
theorem Alike.bind {x : Work σ α} {f : α → Work σ β} (hx : Alike R S x) (hf : ∀ a, Alike S T (f a)) :
    Alike R T (x >>= f) := by
  intro w v h
  obtain ⟨hfst, hsnd⟩ := hx w v h
  rw [bind_run, bind_run]
  rcases hw : x w with ⟨r, w'⟩
  rcases hv : x v with ⟨r', v'⟩
  rw [hw, hv] at hfst hsnd
  obtain rfl : r = r' := hfst
  cases r with
  | error e => exact ⟨rfl, nofun⟩
  | ok a => exact hf a w' v' (hsnd a rfl)

/-- A computation that goes on from the scope may look at what related workspaces have in common. -/
theorem Alike.scope_bind {f : σ → Work σ α} (hsame : ∀ w v, R w v → f w.scope = f v.scope)
    (hf : ∀ s, Alike R S (f s)) : Alike R S (scope >>= f) := by
  intro w v h
  rw [bind_run_of_ok (scope_run w), bind_run_of_ok (scope_run v), hsame w v h]
  exact hf v.scope w v h

theorem Alike.tree_bind {f : FileTree → Work σ α} (htree : ∀ w v, R w v → w.tree = v.tree)
    (hf : ∀ t, Alike R S (f t)) : Alike R S (tree >>= f) := by
  intro w v h
  rw [bind_run_of_ok (tree_run w), bind_run_of_ok (tree_run v), htree w v h]
  exact hf v.tree w v h

theorem Alike.forM {f : α → Work σ PUnit} (hf : ∀ a, Alike R R (f a)) (as : List α) :
    Alike R R (as.forM f) := by
  induction as with
  | nil => exact Alike.pure _
  | cons a as ih => exact Alike.bind (hf a) fun _ => ih

end DocLinks.Work
