import Mathlib.Order.WellFounded
import Mathlib.Algebra.BigOperators.Group.List.Basic

/-!
# Loops that leave from the middle

A `while (1)` loop whose body may `break`, `return` or throw at any point is a
body `σ → Except ρ σ`: `.ok` goes round again, `.error` leaves the loop with what
it leaves with.  The body may contain loops of its own, so it is allowed to run
out of fuel, which is `none`.

Five rules are proved.

* `loop_invariant`: what one turn keeps, the whole loop keeps.
* `loop_mono`: more fuel never changes a result.
* `loop_terminates`: a body that decreases a well-founded measure leaves.
* `loop_sum`: what every turn adds to an account, the run has added at its end.
* `Coupled.loop`: two loops that are run side by side.  They may leave at
  different turns; from then on only the other one moves.
-/

namespace LinuxPBS.Loop

variable {σ ρ : Type*}

/-- Run a loop for at most `fuel` turns. -/
def loop (body : σ → Option (Except ρ σ)) : ℕ → σ → Option ρ
  | 0, _ => none
  | fuel + 1, state =>
      match body state with
      | none => none
      | some (.ok next) => loop body fuel next
      | some (.error result) => some result

variable {body : σ → Option (Except ρ σ)} {state next : σ} {result : ρ} {fuel : ℕ}

theorem loop_succ_of_ok (hbody : body state = some (.ok next)) :
    loop body (fuel + 1) state = loop body fuel next := by
  rw [loop, hbody]

theorem loop_succ_of_error (hbody : body state = some (.error result)) :
    loop body (fuel + 1) state = some result := by
  rw [loop, hbody]

/-- The last turn of a loop that has left, or the first of the remaining ones. -/
theorem loop_eq_some (hloop : loop body fuel state = some result) :
    ∃ fuel', fuel = fuel' + 1 ∧
      (body state = some (.error result) ∨
        ∃ next, body state = some (.ok next) ∧ loop body fuel' next = some result) := by
  cases fuel with
  | zero => cases hloop
  | succ fuel' =>
      refine ⟨fuel', rfl, ?_⟩
      unfold loop at hloop
      split at hloop
      · cases hloop
      · rename_i next hbody
        exact Or.inr ⟨next, hbody, hloop⟩
      · rename_i left hbody
        obtain rfl := Option.some.inj hloop
        exact Or.inl hbody

/-! ## One loop -/

/-- What one turn keeps, the whole loop keeps. -/
theorem loop_invariant (Inv : σ → Prop) (Post : ρ → Prop)
    (hok : ∀ state next, Inv state → body state = some (.ok next) → Inv next)
    (herror : ∀ state result, Inv state → body state = some (.error result) → Post result)
    (hinv : Inv state) (hloop : loop body fuel state = some result) : Post result := by
  induction fuel generalizing state with
  | zero => cases hloop
  | succ fuel ih =>
      obtain ⟨fuel', hfuel, hleft | ⟨next, hnext, hrest⟩⟩ := loop_eq_some hloop
      · exact herror state result hinv hleft
      · obtain rfl : fuel = fuel' := by omega
        exact ih (hok state next hinv hnext) hrest

/-- More fuel, for the loop and for the loops in its body, never changes a result. -/
theorem loop_mono {body' : σ → Option (Except ρ σ)}
    (hbody : ∀ state out, body state = some out → body' state = some out) {fuel' : ℕ}
    (hfuel : fuel ≤ fuel') (hloop : loop body fuel state = some result) :
    loop body' fuel' state = some result := by
  induction fuel generalizing state fuel' with
  | zero => cases hloop
  | succ fuel ih =>
      obtain ⟨larger, rfl⟩ : ∃ larger, fuel' = larger + 1 := ⟨fuel' - 1, by omega⟩
      obtain ⟨fuel'', hsame, hleft | ⟨next, hnext, hrest⟩⟩ := loop_eq_some hloop
      · exact loop_succ_of_error (hbody _ _ hleft)
      · obtain rfl : fuel = fuel'' := by omega
        rw [loop_succ_of_ok (hbody _ _ hnext)]
        exact ih (by omega) hrest

/-- A body that gets an answer with enough fuel and makes a measure smaller whenever it
goes round leaves the loop. -/
theorem loop_terminates {α : Type*} [LT α] [WellFoundedLT α] (Inv : σ → Prop)
    (measure : σ → α) {body : ℕ → σ → Option (Except ρ σ)}
    (hmono : ∀ fuel fuel' state out, fuel ≤ fuel' → body fuel state = some out →
      body fuel' state = some out)
    (hstep : ∀ state, Inv state → ∃ fuel out, body fuel state = some out ∧
      ∀ next, out = .ok next → Inv next ∧ measure next < measure state)
    (hinv : Inv state) : ∃ fuel result, loop (body fuel) fuel state = some result := by
  have hwf : WellFounded ((· < ·) : α → α → Prop) := wellFounded_lt
  induction hmeasure : measure state using hwf.induction generalizing state with
  | _ bound ih =>
      obtain ⟨fuel, out, hout, hnext⟩ := hstep state hinv
      cases out with
      | error result =>
          exact ⟨fuel + 1, result,
            loop_succ_of_error (hmono _ _ _ _ (Nat.le_succ fuel) hout)⟩
      | ok next =>
          obtain ⟨hinv', hsmaller⟩ := hnext next rfl
          obtain ⟨rest, result, hrest⟩ := ih _ (hmeasure ▸ hsmaller) hinv' rfl
          refine ⟨max fuel rest + 1, result, ?_⟩
          rw [loop_succ_of_ok (hmono _ _ _ _ (by omega) hout)]
          exact loop_mono (fun state out => hmono _ _ state out (by omega))
            (le_max_right fuel rest) hrest

/-! ## The history of a loop -/

/-- The states at the head of the turns of a loop. -/
def heads (body : σ → Option (Except ρ σ)) : ℕ → σ → List σ
  | 0, _ => []
  | fuel + 1, state =>
      state :: match body state with
        | some (.ok next) => heads body fuel next
        | _ => []

theorem heads_succ_of_ok (hbody : body state = some (.ok next)) :
    heads body (fuel + 1) state = state :: heads body fuel next := by
  simp only [heads, hbody]

theorem heads_succ_of_error (hbody : body state = some (.error result)) :
    heads body (fuel + 1) state = [state] := by
  simp only [heads, hbody]

/-- The last turn of a loop that has left, among its heads. -/
theorem loop_last (hloop : loop body fuel state = some result) :
    ∃ earlier last, heads body fuel state = earlier ++ [last] ∧
      body last = some (.error result) := by
  induction fuel generalizing state with
  | zero => cases hloop
  | succ fuel ih =>
      obtain ⟨fuel', hfuel, hleft | ⟨next, hnext, hrest⟩⟩ := loop_eq_some hloop
      · exact ⟨[], state, heads_succ_of_error hleft, hleft⟩
      · obtain rfl : fuel = fuel' := by omega
        obtain ⟨earlier, last, hheads, hlast⟩ := ih hrest
        refine ⟨state :: earlier, last, ?_, hlast⟩
        rw [heads_succ_of_ok hnext, hheads, List.cons_append]

/-- What a turn keeps that begins well holds at the head of every turn, if all of them begin
well. -/
theorem heads_invariant_of (Inv Well : σ → Prop)
    (hok : ∀ state next, Inv state → Well state → body state = some (.ok next) → Inv next)
    (hwell : ∀ head ∈ heads body fuel state, Well head) (hinv : Inv state) :
    ∀ head ∈ heads body fuel state, Inv head := by
  induction fuel generalizing state with
  | zero => exact fun head hhead => by cases hhead
  | succ fuel ih =>
      intro head hhead
      cases hbody : body state with
      | none => simp_all [heads]
      | some out =>
          cases out with
          | error result =>
              rw [heads_succ_of_error hbody] at hhead
              exact List.mem_singleton.mp hhead ▸ hinv
          | ok next =>
              rw [heads_succ_of_ok hbody] at hhead hwell
              have hnext := hok state next hinv (hwell state List.mem_cons_self) hbody
              rcases List.mem_cons.mp hhead with rfl | hhead
              · exact hinv
              · exact ih (fun later hlater => hwell later (List.mem_cons_of_mem _ hlater)) hnext
                  head hhead

/-- What one turn keeps holds at the head of every turn. -/
theorem heads_invariant (Inv : σ → Prop)
    (hok : ∀ state next, Inv state → body state = some (.ok next) → Inv next)
    (hinv : Inv state) : ∀ head ∈ heads body fuel state, Inv head :=
  heads_invariant_of Inv (fun _ => True) (fun state next hstate _ => hok state next hstate)
    (fun _ _ => trivial) hinv

/-- What every turn adds to an account, the run has added at its end. -/
theorem loop_sum {M : Type*} [AddMonoid M] (Inv : σ → Prop) (account amount : σ → M) {total : M}
    (hok : ∀ state next, Inv state → body state = some (.ok next) →
      Inv next ∧ account next = account state + amount state)
    (herror : ∀ state, Inv state → body state = some (.error result) →
      total = account state + amount state)
    (hinv : Inv state) (hloop : loop body fuel state = some result) :
    total = account state + ((heads body fuel state).map amount).sum := by
  induction fuel generalizing state with
  | zero => cases hloop
  | succ fuel ih =>
      obtain ⟨fuel', hfuel, hleft | ⟨next, hnext, hrest⟩⟩ := loop_eq_some hloop
      · rw [heads_succ_of_error hleft, List.map_singleton, List.sum_singleton]
        exact herror state hinv hleft
      · obtain rfl : fuel = fuel' := by omega
        obtain ⟨hinv', hadded⟩ := hok state next hinv hnext
        rw [heads_succ_of_ok hnext, List.map_cons, List.sum_cons, ← add_assoc, ← hadded]
        exact ih hinv' hrest

/-! ## Two loops -/

variable {σ₁ ρ₁ σ₂ ρ₂ : Type*}

/-- Two turns that were made together.  `behind` relates the result of a loop that has
left with the state of the one that goes on, `after` does so for the other side. -/
def Together (R : σ₁ → σ₂ → Prop) (behind : ρ₁ → σ₂ → Prop) (after : σ₁ → ρ₂ → Prop)
    (P : ρ₁ → ρ₂ → Prop) : Except ρ₁ σ₁ → Except ρ₂ σ₂ → Prop
  | .ok state₁, .ok state₂ => R state₁ state₂
  | .error result₁, .ok state₂ => behind result₁ state₂
  | .ok state₁, .error result₂ => after state₁ result₂
  | .error result₁, .error result₂ => P result₁ result₂

/-- Two loops can be run side by side: together, or one of them alone after the other
has left. -/
structure Coupled (body₁ : σ₁ → Option (Except ρ₁ σ₁)) (body₂ : σ₂ → Option (Except ρ₂ σ₂))
    (R : σ₁ → σ₂ → Prop) (behind : ρ₁ → σ₂ → Prop) (after : σ₁ → ρ₂ → Prop)
    (P : ρ₁ → ρ₂ → Prop) : Prop where
  both : ∀ state₁ state₂ out₁ out₂, R state₁ state₂ → body₁ state₁ = some out₁ →
    body₂ state₂ = some out₂ → Together R behind after P out₁ out₂
  second : ∀ result₁ state₂, behind result₁ state₂ →
    (∀ next, body₂ state₂ = some (.ok next) → behind result₁ next) ∧
      ∀ result₂, body₂ state₂ = some (.error result₂) → P result₁ result₂
  first : ∀ state₁ result₂, after state₁ result₂ →
    (∀ next, body₁ state₁ = some (.ok next) → after next result₂) ∧
      ∀ result₁, body₁ state₁ = some (.error result₁) → P result₁ result₂

/-- Coupled loops that both leave are related by `P`. -/
theorem Coupled.loop {body₁ : σ₁ → Option (Except ρ₁ σ₁)} {body₂ : σ₂ → Option (Except ρ₂ σ₂)}
    {R : σ₁ → σ₂ → Prop} {behind : ρ₁ → σ₂ → Prop} {after : σ₁ → ρ₂ → Prop}
    {P : ρ₁ → ρ₂ → Prop} (hcoupled : Coupled body₁ body₂ R behind after P)
    {fuel₁ fuel₂ : ℕ} {state₁ : σ₁} {state₂ : σ₂} {result₁ : ρ₁} {result₂ : ρ₂}
    (hrelated : R state₁ state₂) (hloop₁ : Loop.loop body₁ fuel₁ state₁ = some result₁)
    (hloop₂ : Loop.loop body₂ fuel₂ state₂ = some result₂) : P result₁ result₂ := by
  induction fuel₁ generalizing fuel₂ state₁ state₂ with
  | zero => cases hloop₁
  | succ fuel₁ ih =>
      obtain ⟨fuel₁', hfuel₁, hturn₁⟩ := loop_eq_some hloop₁
      obtain ⟨fuel₂', hfuel₂, hturn₂⟩ := loop_eq_some hloop₂
      obtain rfl : fuel₁ = fuel₁' := by omega
      rcases hturn₁ with hleft₁ | ⟨next₁, hnext₁, hrest₁⟩ <;>
        rcases hturn₂ with hleft₂ | ⟨next₂, hnext₂, hrest₂⟩
      · exact hcoupled.both _ _ _ _ hrelated hleft₁ hleft₂
      · -- the first loop has left: only the second one moves
        refine loop_invariant (fun state₂ => behind result₁ state₂) (P result₁) ?_ ?_
          (hcoupled.both _ _ _ _ hrelated hleft₁ hnext₂) hrest₂
        · exact fun state next hbehind hbody => (hcoupled.second _ _ hbehind).1 next hbody
        · exact fun state result hbehind hbody => (hcoupled.second _ _ hbehind).2 result hbody
      · -- the second loop has left: only the first one moves
        refine loop_invariant (fun state₁ => after state₁ result₂) (fun result => P result result₂)
          ?_ ?_ (hcoupled.both _ _ _ _ hrelated hnext₁ hleft₂) hrest₁
        · exact fun state next hafter hbody => (hcoupled.first _ _ hafter).1 next hbody
        · exact fun state result hafter hbody => (hcoupled.first _ _ hafter).2 result hbody
      · exact ih (hcoupled.both _ _ _ _ hrelated hnext₁ hnext₂) hrest₁ hrest₂

end LinuxPBS.Loop
