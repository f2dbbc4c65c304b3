import Mathlib
import LinuxPBS.Library.Bytes

/-!
# Numbers written with a fixed number of digits

`fixedDigits b k n` are the `k` lowest digits of `n` in base `b`, the highest
first.  A printed number padded with zeros to `k` places is that list, as long
as `k` places are enough (`padded_toDigits`), and printed numbers of one length
compare as texts like the numbers (`decimals_lt_iff`).  Two digits packed into
one byte give the big-endian bytes of the number when the base is 16
(`packed_hex`) and its binary coded decimals when the base is 10, which read back
as the number (`bcdValue_bcdBytes`).
-/

namespace LinuxPBS.Digits

open Bytes

/-! ## Fixed digits -/

/-- The `k` lowest digits of a number in base `b`, the highest first. -/
def fixedDigits (b : ℕ) : ℕ → ℕ → List ℕ
  | 0, _ => []
  | k + 1, n => fixedDigits b k (n / b) ++ [n % b]

@[simp] theorem length_fixedDigits (b k n : ℕ) : (fixedDigits b k n).length = k := by
  induction k generalizing n with
  | zero => rfl
  | succ k ih => rw [fixedDigits, List.length_append, ih, List.length_singleton]

theorem lt_of_mem_fixedDigits {b k n d : ℕ} (hb : 0 < b) (hmem : d ∈ fixedDigits b k n) :
    d < b := by
  induction k generalizing n with
  | zero => exact absurd hmem List.not_mem_nil
  | succ k ih =>
      rw [fixedDigits, List.mem_append, List.mem_singleton] at hmem
      rcases hmem with hfront | rfl
      · exact ih hfront
      · exact Nat.mod_lt n hb

theorem fixedDigits_zero (b k : ℕ) : fixedDigits b k 0 = List.replicate k 0 := by
  induction k with
  | zero => rfl
  | succ k ih =>
      rw [fixedDigits, Nat.zero_div, Nat.zero_mod, ih, ← List.replicate_succ']

/-- A number printed in base `b` and padded with zeros to `k` places. -/
theorem padded_toDigits {b k n : ℕ} (hb : 1 < b) (hpos : 0 < k) (hlt : n < b ^ k) :
    List.replicate (k - (Nat.toDigits b n).length) '0' ++ Nat.toDigits b n =
      (fixedDigits b k n).map Nat.digitChar := by
  induction k generalizing n with
  | zero => exact absurd hpos (Nat.lt_irrefl 0)
  | succ k ih =>
      rw [fixedDigits, List.map_append, List.map_singleton]
      by_cases hsmall : n < b
      · have hdiv : n / b = 0 := Nat.div_eq_of_lt hsmall
        rw [Nat.toDigits_of_lt_base hsmall, hdiv, fixedDigits_zero, Nat.mod_eq_of_lt hsmall,
          List.map_replicate]
        rfl
      · have hle : b ≤ n := Nat.le_of_not_lt hsmall
        have hfewer : n / b < b ^ k := Nat.div_lt_of_lt_mul (by rwa [← Nat.pow_succ'])
        have hk : 0 < k := by
          rcases Nat.eq_zero_or_pos k with rfl | hk
          · rw [Nat.zero_add, Nat.pow_one] at hlt
            exact absurd hlt hsmall
          · exact hk
        rw [Nat.toDigits_of_base_le hb hle, List.length_append, List.length_singleton,
          Nat.add_sub_add_right, ← List.append_assoc, ih hk hfewer]

/-- Numbers of exactly `k` decimals are printed as their fixed digits. -/
theorem toDigits_eq_fixedDigits {k n : ℕ} (hpos : 1 < k) (hle : 10 ^ (k - 1) ≤ n)
    (hlt : n < 10 ^ k) : Nat.toDigits 10 n = (fixedDigits 10 k n).map Nat.digitChar := by
  have hshort : ¬ (Nat.toDigits 10 n).length ≤ k - 1 := by
    rw [Nat.length_toDigits_le_iff (by decide) (by omega)]
    exact Nat.not_lt.mpr hle
  have hnone : k - (Nat.toDigits 10 n).length = 0 := by omega
  have htext := padded_toDigits (show 1 < 10 by decide) (by omega) hlt
  rwa [hnone] at htext

/-! ## The order of printed numbers -/

theorem fixedDigits_succ_cons (b k n : ℕ) :
    fixedDigits b (k + 1) n = n / b ^ k % b :: fixedDigits b k n := by
  induction k generalizing n with
  | zero => rw [Nat.pow_zero, Nat.div_one]; rfl
  | succ k ih =>
      have hhead : n / b / b ^ k = n / b ^ (k + 1) := by
        rw [Nat.div_div_eq_div_mul, ← Nat.pow_succ']
      calc fixedDigits b (k + 1 + 1) n
          = (n / b / b ^ k % b :: fixedDigits b k (n / b)) ++ [n % b] := by rw [fixedDigits, ih]
        _ = n / b ^ (k + 1) % b :: fixedDigits b (k + 1) n := by rw [hhead]; rfl

theorem fixedDigits_mod (b k n : ℕ) : fixedDigits b k (n % b ^ k) = fixedDigits b k n := by
  induction k generalizing n with
  | zero => rfl
  | succ k ih =>
      have hhigh : n % b ^ (k + 1) / b = n / b % b ^ k := by
        rw [Nat.pow_succ', Nat.mod_mul_right_div_self]
      have hlow : n % b ^ (k + 1) % b = n % b :=
        Nat.mod_mod_of_dvd n (Dvd.intro_left (b ^ k) rfl)
      rw [fixedDigits, fixedDigits, hhigh, hlow, ih]

/-- More places than are enough begin with zeros. -/
theorem fixedDigits_add_of_lt {b k n : ℕ} (hb : 0 < b) (hlt : n < b ^ k) (j : ℕ) :
    fixedDigits b (j + k) n = List.replicate j 0 ++ fixedDigits b k n := by
  induction j with
  | zero => rw [Nat.zero_add, List.replicate_zero, List.nil_append]
  | succ j ih =>
      have hhead : n / b ^ (j + k) = 0 := by
        apply Nat.div_eq_of_lt
        exact hlt.trans_le (Nat.pow_le_pow_right hb (Nat.le_add_left k j))
      rw [Nat.succ_add, fixedDigits_succ_cons, hhead, Nat.zero_mod, ih]
      rfl

theorem digitChar_lt_iff {d e : ℕ} (hd : d < 10) (he : e < 10) :
    d.digitChar < e.digitChar ↔ d < e := by
  have htable : ∀ d e : Fin 10, d.val.digitChar < e.val.digitChar ↔ d.val < e.val := by decide
  exact htable ⟨d, hd⟩ ⟨e, he⟩

theorem digitChar_inj {d e : ℕ} (hd : d < 10) (he : e < 10) :
    d.digitChar = e.digitChar ↔ d = e := by
  have htable : ∀ d e : Fin 10, d.val.digitChar = e.val.digitChar ↔ d.val = e.val := by decide
  exact htable ⟨d, hd⟩ ⟨e, he⟩

/-- Compare the leading digits first. -/
theorem lt_iff_div_mod {b m n : ℕ} :
    m < n ↔ m / b < n / b ∨ m / b = n / b ∧ m % b < n % b := by
  have hm : b * (m / b) + m % b = m := Nat.div_add_mod m b
  have hn : b * (n / b) + n % b = n := Nat.div_add_mod n b
  constructor
  · intro hlt
    rcases Nat.lt_or_ge (m / b) (n / b) with hless | hge
    · exact .inl hless
    · have heq : m / b = n / b := Nat.le_antisymm (Nat.div_le_div_right hlt.le) hge
      rw [heq] at hm
      exact .inr ⟨heq, by omega⟩
  · rintro (hless | ⟨heq, hless⟩)
    · exact Nat.lt_of_div_lt_div hless
    · rw [heq] at hm
      omega

/-- Numbers printed with equally many decimals compare as texts like numbers. -/
theorem decimals_lt_iff {k m n : ℕ} (hm : m < 10 ^ k) (hn : n < 10 ^ k) :
    (fixedDigits 10 k m).map Nat.digitChar < (fixedDigits 10 k n).map Nat.digitChar ↔ m < n := by
  induction k generalizing m n with
  | zero =>
      obtain rfl := Nat.lt_one_iff.mp hm
      obtain rfl := Nat.lt_one_iff.mp hn
      simp [fixedDigits]
  | succ k ih =>
      have hhead {n : ℕ} (hn : n < 10 ^ (k + 1)) : n / 10 ^ k % 10 = n / 10 ^ k :=
        Nat.mod_eq_of_lt (Nat.div_lt_of_lt_mul (by rwa [← Nat.pow_succ]))
      have hdigit (n : ℕ) : n / 10 ^ k % 10 < 10 := Nat.mod_lt _ (by decide)
      have hrest (n : ℕ) : n % 10 ^ k < 10 ^ k := Nat.mod_lt n (Nat.pow_pos (by decide))
      rw [fixedDigits_succ_cons, fixedDigits_succ_cons, List.map_cons, List.map_cons,
        List.cons_lt_cons_iff, digitChar_lt_iff (hdigit m) (hdigit n),
        digitChar_inj (hdigit m) (hdigit n), hhead hm, hhead hn, ← fixedDigits_mod 10 k m,
        ← fixedDigits_mod 10 k n, ih (hrest m) (hrest n)]
      exact lt_iff_div_mod.symm

/-! ## Two digits a byte -/

/-- Two digits to a byte, the higher one in the high half. -/
def packed : List ℕ → List UInt8
  | high :: low :: rest => UInt8.ofNat (16 * high + low) :: packed rest
  | _ => []

theorem packed_append {front : List ℕ} (heven : front.length % 2 = 0) (back : List ℕ) :
    packed (front ++ back) = packed front ++ packed back := by
  induction front using packed.induct with
  | case1 high low rest ih =>
      have hrest : rest.length % 2 = 0 := by
        rw [List.length_cons, List.length_cons] at heven
        omega
      simp only [List.cons_append, packed, ih hrest]
  | case2 front hshort =>
      match front with
      | [] => rfl
      | [_] => exact absurd heven Nat.one_ne_zero
      | high :: low :: rest => exact absurd rfl (hshort high low rest)

theorem length_packed (digits : List ℕ) : (packed digits).length = digits.length / 2 := by
  induction digits using packed.induct with
  | case1 high low rest ih =>
      rw [packed, List.length_cons, ih, List.length_cons, List.length_cons]
      omega
  | case2 digits hshort =>
      match digits with
      | [] => rfl
      | [_] => simp [packed]
      | high :: low :: rest => exact absurd rfl (hshort high low rest)

/-- Byte `i` is made of the digits `2 * i` and `2 * i + 1`. -/
theorem getElem_packed (digits : List ℕ) {i : ℕ} (hi : i < (packed digits).length)
    (hdigits : i * 2 + 1 < digits.length) :
    (packed digits)[i] = UInt8.ofNat (16 * digits[i * 2] + digits[i * 2 + 1]) := by
  induction digits using packed.induct generalizing i with
  | case1 high low rest ih =>
      cases i with
      | zero => rfl
      | succ i =>
          have hrest : i * 2 + 1 < rest.length := by
            rw [List.length_cons, List.length_cons] at hdigits
            omega
          have hpacked : i < (packed rest).length := by
            rw [length_packed]
            omega
          simpa only [packed, Nat.succ_mul, List.getElem_cons_succ] using ih hpacked hrest
  | case2 digits hshort =>
      match digits with
      | [] => exact absurd hdigits (Nat.not_lt_zero _)
      | [_] => exact absurd hdigits (Nat.not_lt.mpr (Nat.le_add_left 1 _))
      | high :: low :: rest => exact absurd rfl (hshort high low rest)

/-- The last two of an even number of fixed digits make the last byte. -/
theorem packed_fixedDigits_succ (b k n : ℕ) :
    packed (fixedDigits b (2 * (k + 1)) n) =
      packed (fixedDigits b (2 * k) (n / b / b)) ++
        [UInt8.ofNat (16 * (n / b % b) + n % b)] := by
  have hdigits : fixedDigits b (2 * (k + 1)) n =
      fixedDigits b (2 * k) (n / b / b) ++ [n / b % b, n % b] := by
    rw [Nat.mul_add, fixedDigits, fixedDigits, List.append_assoc]
    rfl
  rw [hdigits, packed_append (by rw [length_fixedDigits]; omega)]
  rfl

@[simp] theorem length_packed_fixedDigits (b k n : ℕ) :
    (packed (fixedDigits b (2 * k) n)).length = k := by
  rw [length_packed, length_fixedDigits, Nat.mul_div_cancel_left k (by omega)]

/-- The bytes of a number, the highest first. -/
def beBytes (k n : ℕ) : List UInt8 := (leBytes k n).reverse

theorem beBytes_succ (k n : ℕ) :
    beBytes (k + 1) n = beBytes k (n / 256) ++ [UInt8.ofNat n] := by
  rw [beBytes, leBytes, List.reverse_cons]
  rfl

@[simp] theorem length_beBytes (k n : ℕ) : (beBytes k n).length = k := by
  rw [beBytes, List.length_reverse, length_leBytes]

/-- Hexadecimal digits, two to a byte, are the bytes of the number. -/
theorem packed_hex (k n : ℕ) : packed (fixedDigits 16 (2 * k) n) = beBytes k n := by
  induction k generalizing n with
  | zero => rfl
  | succ k ih =>
      have hhigh : n / 16 / 16 = n / 256 := Nat.div_div_eq_div_mul n 16 16
      have hbyte : UInt8.ofNat (16 * (n / 16 % 16) + n % 16) = UInt8.ofNat n := by
        apply UInt8.toNat_inj.mp
        rw [UInt8.toNat_ofNat', UInt8.toNat_ofNat']
        omega
      rw [packed_fixedDigits_succ, ih, hhigh, hbyte, beBytes_succ]

/-! ## Hexadecimal text -/

/-- The half bytes of some bytes, the high one first. -/
def nibbles (data : List UInt8) : List ℕ :=
  data.flatMap fun byte => [byte.toNat / 16, byte.toNat % 16]

theorem nibbles_cons (byte : UInt8) (data : List UInt8) :
    nibbles (byte :: data) = byte.toNat / 16 :: byte.toNat % 16 :: nibbles data := rfl

theorem length_nibbles (data : List UInt8) : (nibbles data).length = 2 * data.length := by
  induction data with
  | nil => rfl
  | cons byte data ih =>
      rw [nibbles_cons, List.length_cons, List.length_cons, ih, List.length_cons]
      omega

theorem lt_of_mem_nibbles {data : List UInt8} {d : ℕ} (hmem : d ∈ nibbles data) : d < 16 := by
  obtain ⟨byte, -, hbyte⟩ := List.mem_flatMap.mp hmem
  have hlt : byte.toNat < 256 := byte.toNat_lt
  simp only [List.mem_cons, List.not_mem_nil, or_false] at hbyte
  omega

/-- Some bytes in hexadecimal, two characters a byte. -/
def hexText (data : List UInt8) : List Char :=
  data.flatMap fun byte =>
    List.replicate (2 - (Nat.toDigits 16 byte.toNat).length) '0' ++ Nat.toDigits 16 byte.toNat

/-- The text of a byte is the digits of its halves. -/
theorem hexText_eq (data : List UInt8) :
    hexText data = (nibbles data).map Nat.digitChar := by
  induction data with
  | nil => rfl
  | cons byte data ih =>
      have hlt : byte.toNat < 16 ^ 2 := byte.toNat_lt
      have hhigh : byte.toNat / 16 % 16 = byte.toNat / 16 := by omega
      have hbyte : fixedDigits 16 2 byte.toNat = [byte.toNat / 16, byte.toNat % 16] := by
        simp only [fixedDigits, List.nil_append, List.cons_append, hhigh]
      have htext := padded_toDigits (by decide) (by decide) hlt
      rw [hbyte] at htext
      unfold hexText at ih ⊢
      rw [List.flatMap_cons, htext, ih]
      rfl

/-! ## Binary coded decimals -/

/-- The `2 * k` lowest decimals of a number, two to a byte. -/
def bcdBytes (k n : ℕ) : List UInt8 := packed (fixedDigits 10 (2 * k) n)

/-- The number that binary coded decimals denote; a half byte above nine denotes none. -/
def bcdValue (bytes : List UInt8) : Option ℕ :=
  bytes.foldlM (fun value byte =>
    if byte.toNat / 16 < 10 ∧ byte.toNat % 16 < 10 then
      some (100 * value + 10 * (byte.toNat / 16) + byte.toNat % 16)
    else none) 0

@[simp] theorem length_bcdBytes (k n : ℕ) : (bcdBytes k n).length = k :=
  length_packed_fixedDigits 10 k n

theorem bcdBytes_succ (k n : ℕ) :
    bcdBytes (k + 1) n =
      bcdBytes k (n / 100) ++ [UInt8.ofNat (16 * (n / 10 % 10) + n % 10)] := by
  rw [bcdBytes, packed_fixedDigits_succ, Nat.div_div_eq_div_mul]
  rfl

theorem bcdValue_bcdBytes (k n : ℕ) : bcdValue (bcdBytes k n) = some (n % 100 ^ k) := by
  induction k generalizing n with
  | zero => rw [Nat.pow_zero, Nat.mod_one]; rfl
  | succ k ih =>
      have hbyte : (UInt8.ofNat (16 * (n / 10 % 10) + n % 10)).toNat =
          16 * (n / 10 % 10) + n % 10 := by
        rw [UInt8.toNat_ofNat']
        omega
      have hmod : n % 100 ^ (k + 1) =
          100 * (n / 100 % 100 ^ k) + 10 * (n / 10 % 10) + n % 10 := by
        calc n % 100 ^ (k + 1)
            = n % 100 + 100 * (n / 100 % 100 ^ k) := by rw [Nat.pow_succ', Nat.mod_mul]
          _ = 100 * (n / 100 % 100 ^ k) + 10 * (n / 10 % 10) + n % 10 := by omega
      have hfront : bcdValue (bcdBytes k (n / 100)) = some (n / 100 % 100 ^ k) := ih (n / 100)
      unfold bcdValue at hfront ⊢
      rw [bcdBytes_succ, List.foldlM_append, hfront, hmod]
      simp only [Option.bind_eq_bind, Option.bind_some, List.foldlM_cons, List.foldlM_nil, hbyte]
      rw [if_pos (by omega)]
      simp only [Option.bind_some, Option.pure_def, Option.some.injEq]
      omega

theorem foldlM_bcd_lt {bytes : List UInt8} {start value : ℕ}
    (hvalue : bytes.foldlM (fun value byte =>
      if byte.toNat / 16 < 10 ∧ byte.toNat % 16 < 10 then
        some (100 * value + 10 * (byte.toNat / 16) + byte.toNat % 16)
      else none) start = some value) : value < 100 ^ bytes.length * (start + 1) := by
  induction bytes generalizing start with
  | nil =>
      obtain rfl := Option.some_inj.mp hvalue
      rw [List.length_nil, Nat.pow_zero, Nat.one_mul]
      exact Nat.lt_succ_self _
  | cons byte bytes ih =>
      rw [List.foldlM_cons] at hvalue
      split at hvalue
      · next hdigits =>
          calc value
              < 100 ^ bytes.length * (100 * start + 10 * (byte.toNat / 16) + byte.toNat % 16 + 1) :=
                ih hvalue
            _ ≤ 100 ^ bytes.length * (100 * (start + 1)) := Nat.mul_le_mul_left _ (by omega)
            _ = 100 ^ (byte :: bytes).length * (start + 1) := by
                rw [List.length_cons, Nat.pow_succ, Nat.mul_assoc]
      · exact absurd hvalue.symm (Option.some_ne_none value)

/-- Binary coded decimals denote a number of two digits a byte. -/
theorem bcdValue_lt {bytes : List UInt8} {value : ℕ} (hvalue : bcdValue bytes = some value) :
    value < 100 ^ bytes.length := by
  have hlt := foldlM_bcd_lt hvalue
  rwa [Nat.zero_add, Nat.mul_one] at hlt

/-- A number that has room is what its binary coded decimals denote. -/
theorem bcdValue_bcdBytes_of_lt {k n : ℕ} (hlt : n < 100 ^ k) :
    bcdValue (bcdBytes k n) = some n := by
  rw [bcdValue_bcdBytes, Nat.mod_eq_of_lt hlt]

end LinuxPBS.Digits
