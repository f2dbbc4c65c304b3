import Mathlib.Data.List.Basic

/-!
# Machines driven by inputs

A machine is a total step function `σ → ι → σ`; whatever drives it, completions of
an operating system, expiries, calls, is an input, and an interleaving is a list of
inputs.  `run` goes through such a list and `Meets` says that every step on the way
meets a condition on the state in front of it and the input.

The rule of the library is `run_invariant`: an invariant that the allowed steps keep
holds in every state reached by allowed steps.  Where every other step breaks it for good,
as when something wrong is written to a log, `run_iff` gives the converse too; where it can be
made good later, `always_iff` does, for all the states on the way.
-/

namespace LinuxPBS.Machine

variable {σ ι : Type*}

/-- The state after a list of inputs. -/
def run (step : σ → ι → σ) : σ → List ι → σ
  | state, [] => state
  | state, input :: rest => run step (step state input) rest

/-- Every step of the run meets a condition. -/
def Meets (step : σ → ι → σ) (allowed : σ → ι → Prop) : σ → List ι → Prop
  | _, [] => True
  | state, input :: rest => allowed state input ∧ Meets step allowed (step state input) rest

variable {step : σ → ι → σ} {allowed : σ → ι → Prop}

@[simp] theorem run_nil (state : σ) : run step state [] = state := rfl

@[simp] theorem run_cons (state : σ) (input : ι) (rest : List ι) :
    run step state (input :: rest) = run step (step state input) rest := rfl

theorem run_append (state : σ) (first second : List ι) :
    run step state (first ++ second) = run step (run step state first) second := by
  induction first generalizing state with
  | nil => rfl
  | cons input rest ih => exact ih (step state input)

theorem Meets.and {other : σ → ι → Prop} {state : σ} {inputs : List ι}
    (hmeets : Meets step allowed state inputs) (hother : Meets step other state inputs) :
    Meets step (fun state input => allowed state input ∧ other state input) state inputs := by
  induction inputs generalizing state with
  | nil => trivial
  | cons input rest ih => exact ⟨⟨hmeets.1, hother.1⟩, ih hmeets.2 hother.2⟩

/-- Two conditions that say the same of every step say the same of every run. -/
theorem meets_congr {other : σ → ι → Prop}
    (hiff : ∀ state input, allowed state input ↔ other state input) {state : σ}
    {inputs : List ι} : Meets step allowed state inputs ↔ Meets step other state inputs := by
  induction inputs generalizing state with
  | nil => exact Iff.rfl
  | cons input rest ih => exact and_congr (hiff state input) ih

instance decidableMeets [∀ state input, Decidable (allowed state input)] :
    ∀ (state : σ) (inputs : List ι), Decidable (Meets step allowed state inputs)
  | _, [] => inferInstanceAs (Decidable True)
  | state, input :: rest =>
      haveI := decidableMeets (step state input) rest
      inferInstanceAs (Decidable (allowed state input ∧ Meets step allowed (step state input) rest))

/-- What the allowed steps keep holds in every state they reach. -/
theorem run_invariant {Inv : σ → Prop}
    (hstep : ∀ state input, Inv state → allowed state input → Inv (step state input))
    {state : σ} {inputs : List ι} (hstart : Inv state) (hmeets : Meets step allowed state inputs) :
    Inv (run step state inputs) := by
  induction inputs generalizing state with
  | nil => exact hstart
  | cons input rest ih => exact ih (hstep state input hstart hmeets.1) hmeets.2

/-- What every step keeps holds in every state reached. -/
theorem run_keeps {Inv : σ → Prop} (hstep : ∀ state input, Inv state → Inv (step state input))
    {state : σ} (hstart : Inv state) (inputs : List ι) : Inv (run step state inputs) := by
  induction inputs generalizing state with
  | nil => exact hstart
  | cons input rest ih => exact ih (hstep state input hstart)

/-- What a step keeps exactly if it is allowed, a run keeps exactly if all its steps are. -/
theorem run_iff {Inv : σ → Prop}
    (hstep : ∀ state input, Inv (step state input) ↔ Inv state ∧ allowed state input)
    {state : σ} {inputs : List ι} :
    Inv (run step state inputs) ↔ Inv state ∧ Meets step allowed state inputs := by
  induction inputs generalizing state with
  | nil => exact (and_iff_left trivial).symm
  | cons input rest ih => rw [run_cons, ih, hstep, and_assoc, Meets]

/-- The same where the step rule rests on an invariant of all steps. -/
theorem run_iff_of_keeps {Base Inv : σ → Prop}
    (hbase : ∀ state input, Base state → Base (step state input))
    (hstep : ∀ state input, Base state →
      (Inv (step state input) ↔ Inv state ∧ allowed state input))
    {state : σ} (hstart : Base state) {inputs : List ι} :
    Inv (run step state inputs) ↔ Inv state ∧ Meets step allowed state inputs := by
  induction inputs generalizing state with
  | nil => exact (and_iff_left trivial).symm
  | cons input rest ih =>
      rw [run_cons, ih (hbase state input hstart), hstep state input hstart, and_assoc, Meets]

/-- What a step breaks exactly if it is not allowed holds all the way exactly if all steps are. -/
theorem always_iff {Base Inv : σ → Prop}
    (hbase : ∀ state input, Base state → Base (step state input))
    (hstep : ∀ state input, Base state → Inv state →
      (Inv (step state input) ↔ allowed state input))
    {state : σ} (hstart : Base state) (hinv : Inv state) {inputs : List ι} :
    (∀ front, front <+: inputs → Inv (run step state front)) ↔ Meets step allowed state inputs := by
  induction inputs generalizing state with
  | nil =>
      refine ⟨fun _ => trivial, fun _ front hfront => ?_⟩
      rw [List.prefix_nil.mp hfront]
      exact hinv
  | cons input rest ih =>
      have hfirst := hstep state input hstart hinv
      have hrest := @ih (step state input) (hbase state input hstart)
      constructor
      · intro halways
        have hnext : Inv (step state input) :=
          halways [input] (List.prefix_append [input] rest)
        refine ⟨hfirst.mp hnext, (hrest hnext).mp fun front hfront => ?_⟩
        exact halways (input :: front) (List.cons_prefix_cons.mpr ⟨rfl, hfront⟩)
      · rintro ⟨hallowed, hmeets⟩ front hfront
        cases front with
        | nil => exact hinv
        | cons other front =>
            obtain ⟨rfl, hprefix⟩ := List.cons_prefix_cons.mp hfront
            exact (hrest (hfirst.mpr hallowed)).mpr hmeets front hprefix

end LinuxPBS.Machine
