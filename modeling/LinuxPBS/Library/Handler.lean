import Mathlib.Order.Basic

/-!
# Event handlers

The code of a single-threaded program that serves events is a collection of
procedures on one global state.  A procedure may be left by an exception, which
keeps what has been done so far, so it is an `EStateM`: `after m s` is the state
in which `m` leaves `s`, by either way.

Two judgements are proved of a procedure by following its text.

* `Frames view m`: `m` leaves the part `view` of the state alone.
* `Leads P Q m`: started in a state with `P`, it is left in one with `Q`.

Both are classes, so that a procedure that only calls procedures with known
instances has its own by instance search; where a branch depends on what has just
been tested, the `after_…` equations execute the text step by step.

A run is the handling of a list of events, and `Leads.run` is its induction rule.
-/

namespace LinuxPBS

/-- A procedure that works on a state `σ` and may throw an `ε`. -/
abbrev Handler (ε σ α : Type) := EStateM ε σ α

namespace Handler

variable {ε σ α β τ ι : Type}

/-- The state in which a procedure is left, normally or by an exception. -/
def after (m : Handler ε σ α) (s : σ) : σ :=
  match m s with
  | .ok _ s' => s'
  | .error _ s' => s'

/-! ## Step by step -/

variable {m : Handler ε σ α} {k : α → Handler ε σ β} {s : σ}

theorem after_of_ok {a : α} {s' : σ} (hm : m s = .ok a s') : after m s = s' := by
  rw [after, hm]

theorem bind_of_ok {a : α} {s' : σ} (hm : m s = .ok a s') : (m >>= k) s = k a s' := by
  simp only [bind, EStateM.bind, hm]

theorem get_bind (k : σ → Handler ε σ β) (s : σ) : (get >>= k) s = k s s := rfl

theorem modify_bind (f : σ → σ) (k : PUnit → Handler ε σ β) (s : σ) :
    (modify f >>= k) s = k ⟨⟩ (f s) := rfl

@[simp] theorem after_pure (a : α) (s : σ) : after (pure a : Handler ε σ α) s = s := rfl

@[simp] theorem after_throw (e : ε) (s : σ) : after (throw e : Handler ε σ α) s = s := rfl

@[simp] theorem after_modify (f : σ → σ) (s : σ) :
    after (modify f : Handler ε σ PUnit) s = f s := rfl

theorem after_bind_of_ok {a : α} {s' : σ} (hm : m s = .ok a s') :
    after (m >>= k) s = after (k a) s' := by
  rw [after, bind_of_ok hm, after]

@[simp] theorem after_get_bind (k : σ → Handler ε σ β) (s : σ) :
    after (get >>= k) s = after (k s) s := rfl

@[simp] theorem after_modify_bind (f : σ → σ) (k : PUnit → Handler ε σ β) (s : σ) :
    after (modify f >>= k) s = after (k ⟨⟩) (f s) := rfl

@[simp] theorem after_pure_bind (a : α) (k : α → Handler ε σ β) (s : σ) :
    after (pure a >>= k) s = after (k a) s := rfl

/-- What comes after an exception is not reached. -/
theorem throw_bind (e : ε) (k : α → Handler ε σ β) :
    (throw e : Handler ε σ α) >>= k = throw e := rfl

@[simp] theorem after_ite (c : Prop) [Decidable c] (x y : Handler ε σ α) (s : σ) :
    after (if c then x else y) s = if c then after x s else after y s := by
  split <;> rfl

/-- After the first part, normally or not, the rest starts or nothing happens any more. -/
theorem after_bind (m : Handler ε σ α) (k : α → Handler ε σ β) (s : σ) :
    after (m >>= k) s = after m s ∨ ∃ a, after (m >>= k) s = after (k a) (after m s) := by
  cases hm : m s with
  | ok a s' =>
      right
      refine ⟨a, ?_⟩
      rw [after_bind_of_ok hm, after_of_ok hm]
  | error e s' =>
      left
      simp only [after, bind, EStateM.bind, hm]

/-! ## What a procedure leaves alone -/

/-- `m` leaves the part `view` of the state alone. -/
class Frames (view : σ → τ) (m : Handler ε σ α) : Prop where
  frames : ∀ s, view (after m s) = view s

/-- Two functions that are the same by definition. -/
class Same (f g : σ → τ) : Prop where
  same : f = g

instance (f : σ → τ) : Same f f := ⟨rfl⟩

namespace Frames

variable {view : σ → τ}

instance (a : α) : Frames view (pure a : Handler ε σ α) := ⟨fun _ => rfl⟩

instance : Frames view (get : Handler ε σ σ) := ⟨fun _ => rfl⟩

instance (e : ε) : Frames view (MonadExcept.throw e : Handler ε σ α) := ⟨fun _ => rfl⟩

instance (f : σ → σ) [hf : Same (fun s => view (f s)) view] :
    Frames view (modify f : Handler ε σ PUnit) := ⟨fun s => congrFun hf.same s⟩

instance (m : Handler ε σ α) (k : α → Handler ε σ β) [hm : Frames view m]
    [hk : ∀ a, Frames view (k a)] : Frames view (m >>= k) where
  frames s := by
    rcases after_bind m k s with hleft | ⟨a, hright⟩
    · rw [hleft, hm.frames]
    · rw [hright, (hk a).frames, hm.frames]

instance (c : Prop) [Decidable c] (x y : Handler ε σ α) [hx : Frames view x]
    [hy : Frames view y] : Frames view (if c then x else y) := by
  split
  · exact hx
  · exact hy

instance (m : Handler ε σ α) (handle : ε → Handler ε σ α) [hm : Frames view m]
    [hhandle : ∀ e, Frames view (handle e)] : Frames view (MonadExcept.tryCatch m handle) where
  frames s := by
    have hs := hm.frames s
    unfold after at hs ⊢
    simp only [MonadExcept.tryCatch, tryCatchThe, MonadExceptOf.tryCatch, EStateM.tryCatch]
    cases hms : m s with
    | ok a s' => simpa only [hms] using hs
    | error e s' =>
        have hrest := (hhandle e).frames s'
        unfold after at hrest
        simp only [hms] at hs
        rw [← hs, ← hrest]
        rfl

theorem after_eq (view : σ → τ) (m : Handler ε σ α) [hm : Frames view m] (s : σ) :
    view (after m s) = view s := hm.frames s

/-- A procedure that is left normally. -/
theorem of_ok {m : Handler ε σ α} [hm : Frames view m] {s s' : σ} {a : α} (hok : m s = .ok a s') :
    view s' = view s := by
  rw [← after_of_ok hok, hm.frames]

end Frames

/-! ## Procedures that throw nothing -/

/-- `m` is left normally. -/
class Returns (m : Handler ε σ α) : Prop where
  returns : ∀ s, ∃ a s', m s = .ok a s'

namespace Returns

instance (a : α) : Returns (pure a : Handler ε σ α) := ⟨fun s => ⟨a, s, rfl⟩⟩

instance : Returns (get : Handler ε σ σ) := ⟨fun s => ⟨s, s, rfl⟩⟩

instance (f : σ → σ) : Returns (modify f : Handler ε σ PUnit) := ⟨fun s => ⟨⟨⟩, f s, rfl⟩⟩

instance (m : Handler ε σ α) (k : α → Handler ε σ β) [hm : Returns m] [hk : ∀ a, Returns (k a)] :
    Returns (m >>= k) where
  returns s := by
    obtain ⟨a, s', hs'⟩ := hm.returns s
    rw [bind_of_ok hs']
    exact (hk a).returns s'

instance (c : Prop) [Decidable c] (x y : Handler ε σ α) [hx : Returns x] [hy : Returns y] :
    Returns (if c then x else y) := by
  split
  · exact hx
  · exact hy

/-- What comes behind a procedure that throws nothing is reached. -/
theorem after_bind {m : Handler ε σ α} [hm : Returns m] (k : α → Handler ε σ β) (s : σ) :
    ∃ a, after (m >>= k) s = after (k a) (after m s) := by
  obtain ⟨a, s', hs'⟩ := hm.returns s
  exact ⟨a, by rw [after_bind_of_ok hs', after_of_ok hs']⟩

end Returns

/-! ## What a procedure achieves -/

/-- Started in a state with `P`, `m` is left in one with `Q`. -/
class Leads (P Q : σ → Prop) (m : Handler ε σ α) : Prop where
  leads : ∀ s, P s → Q (after m s)

/-- What is kept by every state that `P` describes. -/
class Entails (P Q : σ → Prop) : Prop where
  entails : ∀ s, P s → Q s

instance (P : σ → Prop) : Entails P P := ⟨fun _ hP => hP⟩

namespace Leads

variable {P Q : σ → Prop}

instance [h : Entails P Q] (a : α) : Leads P Q (pure a : Handler ε σ α) :=
  ⟨h.entails⟩

instance [h : Entails P Q] : Leads P Q (get : Handler ε σ σ) := ⟨h.entails⟩

instance [h : Entails P Q] (e : ε) : Leads P Q (MonadExcept.throw e : Handler ε σ α) :=
  ⟨h.entails⟩

/-- Nothing is achieved before the rest begins. -/
instance (priority := 900) bind_right [h : Entails P Q] (m : Handler ε σ α)
    (k : α → Handler ε σ β) [hm : Leads P P m] [hk : ∀ a, Leads P Q (k a)] :
    Leads P Q (m >>= k) where
  leads s hs := by
    rcases Handler.after_bind m k s with hleft | ⟨a, hright⟩
    · rw [hleft]
      exact h.entails _ (hm.leads s hs)
    · rw [hright]
      exact (hk a).leads _ (hm.leads s hs)

/-- The rest keeps what has been achieved. -/
instance (priority := 800) bind_left (m : Handler ε σ α) (k : α → Handler ε σ β)
    [hm : Leads P Q m] [hk : ∀ a, Leads Q Q (k a)] : Leads P Q (m >>= k) where
  leads s hs := by
    rcases Handler.after_bind m k s with hleft | ⟨a, hright⟩
    · rw [hleft]
      exact hm.leads s hs
    · rw [hright]
      exact (hk a).leads _ (hm.leads s hs)

instance (c : Prop) [Decidable c] (x y : Handler ε σ α) [hx : Leads P Q x]
    [hy : Leads P Q y] : Leads P Q (if c then x else y) := by
  split
  · exact hx
  · exact hy

instance (m : Handler ε σ α) (handle : ε → Handler ε σ α) [hm : Leads P Q m]
    [hhandle : ∀ e, Leads Q Q (handle e)] : Leads P Q (MonadExcept.tryCatch m handle) where
  leads s hs := by
    have hQ := hm.leads s hs
    unfold after at hQ ⊢
    simp only [MonadExcept.tryCatch, tryCatchThe, MonadExceptOf.tryCatch, EStateM.tryCatch]
    cases hms : m s with
    | ok a s' => simpa only [hms] using hQ
    | error e s' =>
        simp only [hms] at hQ
        exact (hhandle e).leads s' hQ

/-- What the first part achieves in this state, the rest keeps. -/
theorem after_bind {m : Handler ε σ α} {k : α → Handler ε σ β} {s : σ} (hm : Q (after m s))
    (hk : ∀ a, Leads Q Q (k a)) : Q (after (m >>= k) s) := by
  rcases Handler.after_bind m k s with hleft | ⟨a, hright⟩
  · rw [hleft]
    exact hm
  · rw [hright]
    exact (hk a).leads _ hm

theorem weaken {P' Q' : σ → Prop} {m : Handler ε σ α} (hm : Leads P Q m)
    (hP : ∀ s, P' s → P s) (hQ : ∀ s, Q s → Q' s) : Leads P' Q' m :=
  ⟨fun s hs => hQ _ (hm.leads s (hP s hs))⟩

end Leads

/-! ## Runs -/

/-- Serve the events of a list; an exception ends the program. -/
def run (serve : ι → Handler ε σ Unit) : List ι → Handler ε σ Unit
  | [] => pure ()
  | event :: rest => do
      serve event
      run serve rest

/-- Every event of a run is allowed in the state in which it is served. -/
def Along (serve : ι → Handler ε σ Unit) (Allowed : σ → ι → Prop) : List ι → σ → Prop
  | [], _ => True
  | event :: rest, s =>
      Allowed s event ∧ match serve event s with
        | .ok _ s' => Along serve Allowed rest s'
        | .error _ _ => True

/-- What serving one allowed event keeps, a run of allowed events keeps. -/
theorem run_invariant {serve : ι → Handler ε σ Unit} {Allowed : σ → ι → Prop} {Inv : σ → Prop}
    (hstep : ∀ s event, Inv s → Allowed s event → Inv (after (serve event) s))
    (events : List ι) (s : σ) (hs : Inv s) (halong : Along serve Allowed events s) :
    Inv (after (run serve events) s) := by
  induction events generalizing s with
  | nil => exact hs
  | cons event rest ih =>
      obtain ⟨hallowed, hrest⟩ := halong
      have hserved := hstep s event hs hallowed
      cases hevent : serve event s with
      | ok a s' =>
          rw [hevent] at hrest
          rw [run, after_bind_of_ok hevent]
          rw [after_of_ok hevent] at hserved
          exact ih s' hserved hrest
      | error e s' =>
          rcases after_bind (serve event) (fun _ => run serve rest) s with hleft | ⟨a, -⟩
          · rw [run, hleft]
            exact hserved
          · simp only [run, after, bind, EStateM.bind, hevent] at hserved ⊢
            exact hserved

theorem Along.of_all {serve : ι → Handler ε σ Unit} {Allowed : σ → ι → Prop}
    (hall : ∀ s event, Allowed s event) (events : List ι) (s : σ) :
    Along serve Allowed events s := by
  induction events generalizing s with
  | nil => trivial
  | cons event rest ih =>
      refine ⟨hall s event, ?_⟩
      split
      · exact ih _
      · trivial

/-- What serving any event keeps, every run keeps. -/
theorem run_keeps {serve : ι → Handler ε σ Unit} {Inv : σ → Prop}
    (hstep : ∀ s event, Inv s → Inv (after (serve event) s)) (events : List ι) (s : σ)
    (hs : Inv s) : Inv (after (run serve events) s) :=
  run_invariant (fun s event hs (_ : True) => hstep s event hs) events s hs
    (Along.of_all (fun _ _ => trivial) events s)

end Handler

end LinuxPBS
