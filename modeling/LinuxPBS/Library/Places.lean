import Mathlib.Data.List.Basic
import Mathlib.Logic.Function.Basic

/-!
# Files that are written in one place and moved to another

A file is written `here`, in pieces, and moved `there`: it is copied, and the copy of it here is
removed.  `written` is everything that was ever written under a name.  A file is whole if all of
it can be found under its name, here or, once it is gone from here, there.

The rules say what each action needs of the file it is about, so that the file stays whole; all
other files keep what they have (`Same`).
-/

namespace LinuxPBS

/-- What the names hold in the two places, and what was written under them. -/
structure Places (ν β : Type*) where
  here : ν → Option (List β)
  there : ν → Option (List β)
  written : ν → List β

namespace Places

variable {ν β : Type*} [DecidableEq ν]

/-- A file is opened and emptied. -/
def truncate (places : Places ν β) (name : ν) : Places ν β :=
  { places with here := Function.update places.here name (some []) }

/-- A file is opened at its end. -/
def touch (places : Places ν β) (name : ν) : Places ν β :=
  { places with here := Function.update places.here name (some ((places.here name).getD [])) }

/-- A piece is written at the start of an open file; what is written to a file that is no longer
here is lost. -/
def overwrite (places : Places ν β) (name : ν) (piece : List β) : Places ν β :=
  { places with
    here := Function.update places.here name
      ((places.here name).map fun content => piece ++ content.drop piece.length)
    written := Function.update places.written name (places.written name ++ piece) }

/-- A piece is written at the end of an open file. -/
def append (places : Places ν β) (name : ν) (piece : List β) : Places ν β :=
  { places with
    here := Function.update places.here name ((places.here name).map (· ++ piece))
    written := Function.update places.written name (places.written name ++ piece) }

/-- A file is copied, over what is there. -/
def copy (places : Places ν β) (name : ν) : Places ν β :=
  { places with there := Function.update places.there name (places.here name) }

/-- A copy breaks off; no matter what it leaves. -/
def spoil (places : Places ν β) (name : ν) (content : List β) : Places ν β :=
  { places with there := Function.update places.there name (some content) }

/-- A file is removed here. -/
def remove (places : Places ν β) (name : ν) : Places ν β :=
  { places with here := Function.update places.here name none }

/-- Everything written under a name is in its file. -/
def Whole (places : Places ν β) (name : ν) : Prop :=
  places.here name = some (places.written name) ∨
    places.here name = none ∧
      (places.there name = some (places.written name) ∨ places.written name = [])

/-- The file of a name is the same in both. -/
def Same (places other : Places ν β) (name : ν) : Prop :=
  places.here name = other.here name ∧ places.there name = other.there name ∧
    places.written name = other.written name

variable {places : Places ν β} {name other : ν}

omit [DecidableEq ν] in
theorem Same.whole {places' : Places ν β} (hsame : Same places places' name)
    (hwhole : places.Whole name) : places'.Whole name := by
  obtain ⟨hhere, hthere, hwritten⟩ := hsame
  rw [Whole, ← hhere, ← hthere, ← hwritten]
  exact hwhole

theorem same_truncate (hne : other ≠ name) : Same places (places.truncate name) other :=
  ⟨(Function.update_of_ne hne _ _).symm, rfl, rfl⟩

theorem same_touch (hne : other ≠ name) : Same places (places.touch name) other :=
  ⟨(Function.update_of_ne hne _ _).symm, rfl, rfl⟩

theorem same_overwrite (piece : List β) (hne : other ≠ name) :
    Same places (places.overwrite name piece) other :=
  ⟨(Function.update_of_ne hne _ _).symm, rfl, (Function.update_of_ne hne _ _).symm⟩

theorem same_append (piece : List β) (hne : other ≠ name) :
    Same places (places.append name piece) other :=
  ⟨(Function.update_of_ne hne _ _).symm, rfl, (Function.update_of_ne hne _ _).symm⟩

theorem same_copy (hne : other ≠ name) : Same places (places.copy name) other :=
  ⟨rfl, (Function.update_of_ne hne _ _).symm, rfl⟩

theorem same_spoil (content : List β) (hne : other ≠ name) :
    Same places (places.spoil name content) other :=
  ⟨rfl, (Function.update_of_ne hne _ _).symm, rfl⟩

theorem same_remove (hne : other ≠ name) : Same places (places.remove name) other :=
  ⟨(Function.update_of_ne hne _ _).symm, rfl, rfl⟩

omit [DecidableEq ν] in
/-- Nothing was written yet to a file that is in neither place. -/
theorem Whole.written_eq_nil (hwhole : places.Whole name) (hhere : places.here name = none)
    (hthere : places.there name = none) : places.written name = [] := by
  rcases hwhole with hfile | ⟨-, hcopy | hempty⟩
  · rw [hhere] at hfile
    cases hfile
  · rw [hthere] at hcopy
    cases hcopy
  · exact hempty

omit [DecidableEq ν] in
/-- A file that is here has everything. -/
theorem Whole.here_eq (hwhole : places.Whole name) (hhere : places.here name ≠ none) :
    places.here name = some (places.written name) := by
  rcases hwhole with hfile | ⟨hnone, -⟩
  · exact hfile
  · exact absurd hnone hhere

@[simp] theorem here_truncate : (places.truncate name).here name = some [] :=
  Function.update_self _ _ _

@[simp] theorem here_touch :
    (places.touch name).here name = some ((places.here name).getD []) :=
  Function.update_self _ _ _

theorem here_overwrite (hhere : places.here name = some []) (piece : List β) :
    (places.overwrite name piece).here name = some piece := by
  rw [overwrite]
  dsimp only
  rw [Function.update_self, hhere, Option.map_some, List.drop_nil, List.append_nil]

theorem here_append {content : List β} (hhere : places.here name = some content)
    (piece : List β) : (places.append name piece).here name = some (content ++ piece) := by
  rw [append]
  dsimp only
  rw [Function.update_self, hhere, Option.map_some]

@[simp] theorem written_overwrite (piece : List β) :
    (places.overwrite name piece).written name = places.written name ++ piece :=
  Function.update_self _ _ _

@[simp] theorem written_append (piece : List β) :
    (places.append name piece).written name = places.written name ++ piece :=
  Function.update_self _ _ _

@[simp] theorem there_copy : (places.copy name).there name = places.here name :=
  Function.update_self _ _ _

@[simp] theorem here_remove : (places.remove name).here name = none := Function.update_self _ _ _

end Places

end LinuxPBS
