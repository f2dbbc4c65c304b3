import Mathlib

/-!
# Fields of a record

A record is written piece by piece.  If the pieces have the lengths of a layout,
each of them stands at the sum of the lengths in front of it
(`field_flatten`) and the record is as long as the layout (`length_flatten_of_layout`).
-/

namespace LinuxPBS.Record

variable {α : Type*}

/-- `count` elements from `offset` on. -/
def field (data : List α) (offset count : ℕ) : List α := (data.drop offset).take count

theorem length_field {data : List α} {offset count : ℕ} (hfits : offset + count ≤ data.length) :
    (field data offset count).length = count := by
  rw [field, List.length_take, List.length_drop]
  omega

theorem length_flatten_of_layout {pieces : List (List α)} {layout : List ℕ}
    (hlayout : pieces.map List.length = layout) : pieces.flatten.length = layout.sum := by
  rw [List.length_flatten, hlayout]

theorem field_append_left {front : List α} {back : List α} {count : ℕ}
    (hlength : front.length = count) : field (front ++ back) 0 count = front := by
  rw [field, List.drop_zero, ← hlength, List.take_left]

theorem field_append_right {front back : List α} {length : ℕ} (hlength : front.length = length)
    (offset count : ℕ) :
    field (front ++ back) (length + offset) count = field back offset count := by
  rw [field, field, ← hlength, ← List.drop_drop, List.drop_left]

/-- A field of a field. -/
theorem field_field (data : List α) {offset length inner count : ℕ}
    (hfits : inner + count ≤ length) :
    field (field data offset length) inner count = field data (offset + inner) count := by
  rw [field, field, field, List.drop_take, List.take_take, List.drop_drop,
    Nat.min_eq_left (by omega)]

/-- A piece stands behind the lengths of those in front of it. -/
theorem field_flatten {pieces : List (List α)} {layout : List ℕ}
    (hlayout : pieces.map List.length = layout) {i : ℕ} {piece : List α}
    (hpiece : pieces[i]? = some piece) :
    field pieces.flatten (layout.take i).sum piece.length = piece := by
  induction pieces generalizing layout i with
  | nil => exact absurd hpiece (by simp)
  | cons first pieces ih =>
      subst hlayout
      cases i with
      | zero =>
          obtain rfl := Option.some_inj.mp hpiece
          exact field_append_left rfl
      | succ i =>
          rw [List.map_cons, List.take_succ_cons, List.sum_cons, List.flatten_cons,
            field_append_right rfl]
          exact ih rfl hpiece

end LinuxPBS.Record
