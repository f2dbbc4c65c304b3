import Mathlib.Data.List.Basic

/-!
# Machines that are fed one symbol at a time

A receiver of a serial protocol is a step function `σ → β → σ × ρ`: it takes the
next symbol and answers something about what it has recognised so far.  `feed`
runs such a machine over a list of symbols and collects the answers.  The
statements below are the two ways runs are put together: `feed_append` splits a
run where the input splits, and `Silent` collects the runs whose answers are all
the same idle one, which is what a receiver says in the middle of a frame.

`stuff` is the byte stuffing every escape based framing uses: the escape symbol
is doubled, everything else is sent as it is.
-/

namespace LinuxPBS.Feed

variable {σ β ρ : Type*}

/-- Run a machine over a list of symbols, collecting its answers in order. -/
def feed (step : σ → β → σ × ρ) : σ → List β → σ × List ρ
  | state, [] => (state, [])
  | state, symbol :: rest =>
      let next := step state symbol
      let final := feed step next.1 rest
      (final.1, next.2 :: final.2)

variable {step : σ → β → σ × ρ}

@[simp] theorem feed_nil (state : σ) : feed step state [] = (state, []) := rfl

@[simp] theorem feed_cons (state : σ) (symbol : β) (rest : List β) :
    feed step state (symbol :: rest) =
      ((feed step (step state symbol).1 rest).1,
        (step state symbol).2 :: (feed step (step state symbol).1 rest).2) := rfl

theorem feed_append (state : σ) (first second : List β) :
    feed step state (first ++ second) =
      ((feed step (feed step state first).1 second).1,
        (feed step state first).2 ++ (feed step (feed step state first).1 second).2) := by
  induction first generalizing state with
  | nil => rfl
  | cons symbol rest ih => simp only [List.cons_append, feed_cons, ih]

theorem length_feed (state : σ) (symbols : List β) :
    (feed step state symbols).2.length = symbols.length := by
  induction symbols generalizing state with
  | nil => rfl
  | cons symbol rest ih => rw [feed_cons, List.length_cons, ih, List.length_cons]

/-- A run that ends in `final` and answers `idle` to every symbol. -/
def Silent (step : σ → β → σ × ρ) (idle : ρ) (state : σ) (symbols : List β) (final : σ) : Prop :=
  feed step state symbols = (final, List.replicate symbols.length idle)

variable {idle : ρ} {state middle final : σ}

theorem Silent.nil : Silent step idle state [] state := rfl

theorem Silent.cons {symbol : β} {rest : List β} (middle : σ)
    (hstep : step state symbol = (middle, idle))
    (hrest : Silent step idle middle rest final) :
    Silent step idle state (symbol :: rest) final := by
  unfold Silent at hrest ⊢
  rw [feed_cons, hstep, hrest]
  rfl

theorem Silent.append {first second : List β} (hfirst : Silent step idle state first middle)
    (hsecond : Silent step idle middle second final) :
    Silent step idle state (first ++ second) final := by
  unfold Silent at hfirst hsecond ⊢
  rw [feed_append, hfirst, hsecond, List.length_append, List.replicate_add]

/-- A silent run followed by one more symbol, the one that is answered. -/
theorem Silent.feed_concat {symbols : List β} {last : β} {answer : ρ}
    (hsilent : Silent step idle state symbols middle) (hlast : step middle last = (final, answer)) :
    feed step state (symbols ++ [last]) =
      (final, List.replicate symbols.length idle ++ [answer]) := by
  unfold Silent at hsilent
  rw [feed_append, hsilent, feed_cons, hlast, feed_nil]

/-- A silent run is silent in its two parts. -/
theorem Silent.split {first second : List β} (hsilent : Silent step idle state (first ++ second) final) :
    ∃ middle, Silent step idle state first middle ∧ Silent step idle middle second final := by
  unfold Silent at hsilent
  rw [feed_append, List.length_append, List.replicate_add] at hsilent
  obtain ⟨hfinal, hanswers⟩ := Prod.mk.inj hsilent
  have hlength : (feed step state first).2.length =
      (List.replicate first.length idle).length := by
    rw [length_feed, List.length_replicate]
  obtain ⟨hfirst, hsecond⟩ := List.append_inj hanswers hlength
  exact ⟨(feed step state first).1, Prod.ext rfl hfirst, Prod.ext hfinal hsecond⟩

/-! ## Chunks

A receiver that is handed whole chunks and stops at the first symbol it answers. -/

/-- Run a machine up to the first symbol that is answered with `true`. -/
def feedUntil (step : σ → β → σ × Bool) : σ → List β → σ × Bool
  | state, [] => (state, false)
  | state, symbol :: rest =>
      if (step state symbol).2 then ((step state symbol).1, true)
      else feedUntil step (step state symbol).1 rest

variable {reader : σ → β → σ × Bool}

theorem feedUntil_silent {symbols : List β} (hsilent : Silent reader false state symbols final)
    (rest : List β) : feedUntil reader state (symbols ++ rest) = feedUntil reader final rest := by
  induction symbols generalizing state with
  | nil =>
      obtain ⟨rfl, -⟩ := Prod.mk.inj hsilent
      rfl
  | cons symbol symbols ih =>
      have hsplit : Silent reader false state ([symbol] ++ symbols) final := hsilent
      obtain ⟨next, hone, hrest⟩ := hsplit.split
      obtain ⟨hnext, hanswer⟩ := Prod.mk.inj hone
      have hidle : (reader state symbol).2 = false := (List.cons.inj hanswer).1
      rw [List.cons_append, feedUntil, hidle, if_neg Bool.false_ne_true]
      have hstate : (reader state symbol).1 = next := hnext
      rw [hstate]
      exact ih hrest

/-- However the input is cut into chunks, the chunk with the symbol that is answered is the
only one that is answered. -/
theorem feed_feedUntil {chunks : List (List β)} {symbols : List β} {last : β}
    (hchunks : chunks.flatten = symbols ++ [last])
    (hsilent : Silent reader false state symbols middle)
    (hlast : reader middle last = (final, true)) :
    ∃ before chunk after, chunks = before ++ chunk :: after ∧ chunk ≠ [] ∧ after.flatten = [] ∧
      feed (feedUntil reader) state chunks =
        (final, List.replicate before.length false ++ true :: List.replicate after.length false) := by
  induction chunks generalizing state symbols with
  | nil => exact absurd hchunks.symm (List.append_ne_nil_of_right_ne_nil _ (List.cons_ne_nil _ _))
  | cons chunk rest ih =>
      rw [List.flatten_cons] at hchunks
      rcases List.eq_nil_or_concat rest.flatten with hnil | ⟨more, other, hmore⟩
      · rw [hnil, List.append_nil] at hchunks
        have hdone : feedUntil reader state chunk = (final, true) := by
          rw [hchunks, feedUntil_silent hsilent, feedUntil, hlast, if_pos rfl]
        have hempty : ∀ chunks : List (List β), chunks.flatten = [] →
            Silent (feedUntil reader) false final chunks final := by
          intro chunks hflatten
          induction chunks with
          | nil => rfl
          | cons empty chunks ih =>
              rw [List.flatten_cons, List.append_eq_nil_iff] at hflatten
              obtain ⟨rfl, hflatten⟩ := hflatten
              exact .cons final rfl (ih hflatten)
        refine ⟨[], chunk, rest, rfl, ?_, hnil, ?_⟩
        · rw [hchunks]
          exact List.append_ne_nil_of_right_ne_nil _ (List.cons_ne_nil _ _)
        · have hrest : feed (feedUntil reader) final rest = _ := hempty rest hnil
          rw [feed_cons, hdone, hrest]
          rfl
      · rw [List.concat_eq_append] at hmore
        rw [hmore, ← List.append_assoc] at hchunks
        obtain ⟨hfirst, hother⟩ := List.append_inj' hchunks rfl
        obtain rfl : other = last := (List.cons.inj hother).1
        subst hfirst
        obtain ⟨next, hchunk, hsecond⟩ := hsilent.split
        obtain ⟨before, found, after, hsplit, hne, hafter, hfeed⟩ := ih hmore hsecond
        have hidle : feedUntil reader state chunk = (next, false) := by
          rw [← List.append_nil chunk, feedUntil_silent hchunk, feedUntil]
        refine ⟨chunk :: before, found, after, ?_, hne, hafter, ?_⟩
        · rw [hsplit, List.cons_append]
        · rw [feed_cons, hidle, hfeed]
          rfl

/-! ## Byte stuffing -/

variable [DecidableEq β]

/-- Double every occurrence of the escape symbol. -/
def stuff (escape : β) : List β → List β
  | [] => []
  | symbol :: rest =>
      if symbol = escape then escape :: symbol :: stuff escape rest
      else symbol :: stuff escape rest

@[simp] theorem stuff_nil (escape : β) : stuff escape [] = [] := rfl

theorem stuff_cons_escape (escape : β) (rest : List β) :
    stuff escape (escape :: rest) = escape :: escape :: stuff escape rest := by
  rw [stuff, if_pos rfl]

theorem stuff_cons_of_ne {escape symbol : β} (hne : symbol ≠ escape) (rest : List β) :
    stuff escape (symbol :: rest) = symbol :: stuff escape rest := by
  rw [stuff, if_neg hne]

/-- Stuffing never shortens. -/
theorem length_le_length_stuff (escape : β) (symbols : List β) :
    symbols.length ≤ (stuff escape symbols).length := by
  induction symbols with
  | nil => exact Nat.le_refl _
  | cons symbol rest ih =>
      unfold stuff
      split <;> simp only [List.length_cons] <;> omega

end LinuxPBS.Feed
