import Mathlib.Data.List.DropRight
import Mathlib.Data.List.TakeWhile
import Mathlib.Data.Nat.Digits.Defs

/-!
# Text functions of the C library

Strings are lists of bytes without their terminating zero; `cString` is what a function sees of
a buffer. The functions are those of a 32-bit C library in the C locale.

- `strtol`, `atoi`: leading blanks, a sign, the digits, saturated to a `long`.
- `numeral`: what a word of digits stands for. **`strtol_numeral`**, **`strtol_signed`**: it is
  what `strtol` makes of it, up to saturation.
- `strtok`: one token and what is left behind its separator.
- `fgets`: one buffer of a file; `lines`: the file line by line, each with its newline.
- **`fgets_eq`**: `fgets` reads the first line as far as the buffer goes.
- **`lines_drop`**: what is left of a line is a line.
-/

namespace CText

abbrev Char8 := BitVec 8

/-- A string literal. -/
def ascii (s : String) : List Char8 := s.toList.map fun c => BitVec.ofNat 8 c.toNat

/-- The string that a buffer holds. -/
def cString (buf : List Char8) : List Char8 := buf.takeWhile (· ≠ 0)

def isspace (c : Char8) : Bool := c == 32 || (9 ≤ c.toNat && c.toNat ≤ 13)

/-! ## Numbers -/

def digitVal (c : Char8) : Option Nat :=
  if 48 ≤ c.toNat ∧ c.toNat ≤ 57 then some (c.toNat - 48)
  else if 65 ≤ c.toNat ∧ c.toNat ≤ 90 then some (c.toNat - 55)
  else if 97 ≤ c.toNat ∧ c.toNat ≤ 122 then some (c.toNat - 87)
  else none

/-- A digit of this base. -/
def isDigit (base : Nat) (c : Char8) : Bool := (digitVal c).any (· < base)

/-- A letter or a digit. -/
def isalnum (c : Char8) : Bool := (digitVal c).isSome

/-- The digits that a number begins with. -/
def digits (base : Nat) (s : List Char8) : List Nat :=
  (s.takeWhile (isDigit base)).filterMap digitVal

/-- A `long` on the 32-bit target. -/
def clampLong (n : Int) : Int := max (-2147483648) (min n 2147483647)

/-- `strtol(s, NULL, base)` -/
def strtol (base : Nat) (s : List Char8) : Int :=
  let s := s.dropWhile isspace
  let negative := s.head? = some 45
  let s := if s.head? = some 45 ∨ s.head? = some 43 then s.tail else s
  let s := if base = 16 ∧ s.head? = some 48 ∧ (s[1]? = some 120 ∨ s[1]? = some 88) then s.drop 2
    else s
  let n : Nat := (digits base s).foldl (fun acc d => acc * base + d) 0
  clampLong (if negative then -n else n)

def atoi (s : List Char8) : Int := strtol 10 s

/-- Blanks are no number. -/
theorem atoi_blank {s : List Char8} (h : s.all isspace = true) : atoi s = 0 := by
  have hdrop : s.dropWhile isspace = [] :=
    List.dropWhile_eq_nil_iff.mpr fun c hc => List.all_eq_true.mp h c hc
  simp only [atoi, strtol, hdrop]
  rfl

/-- The number that a word stands for, if all of it are digits: each counts `base` times as much
as the one behind it. -/
def numeral (base : Nat) (word : List Char8) : Option Nat :=
  if word ≠ [] ∧ word.all (isDigit base) = true then
    some (Nat.ofDigits base (word.filterMap digitVal).reverse)
  else none

section Numerals

variable {base n : Nat} {c : Char8} {s t : List Char8}

/-- What it is for a text to be a numeral of a number. -/
theorem numeral_eq_some_iff : numeral base s = some n ↔
    s ≠ [] ∧ s.all (isDigit base) = true ∧
      Nat.ofDigits base (s.filterMap digitVal).reverse = n := by
  unfold numeral
  split
  · rename_i h
    simp [h]
  · rename_i h
    rw [not_and] at h
    constructor
    · intro hnone
      cases hnone
    · rintro ⟨hne, hall, -⟩
      exact absurd hall (h hne)

/-- A digit is a letter or a digit. -/
theorem isalnum_of_isDigit (h : isDigit base c = true) : isalnum c = true := by
  unfold isDigit at h
  unfold isalnum
  cases hc : digitVal c with
  | none =>
    rw [hc] at h
    cases h
  | some d => rfl

/-- Blanks and signs are neither letters nor digits. -/
theorem not_blank_of_isalnum (h : isalnum c = true) :
    isspace c = false ∧ c ≠ 45 ∧ c ≠ 43 := by
  have hrange : 48 ≤ c.toNat := by
    unfold isalnum digitVal at h
    split at h
    · omega
    · split at h
      · omega
      · split at h
        · omega
        · cases h
  refine ⟨?_, ?_, ?_⟩
  · have hne : (c == 32) = false := by
      rw [beq_eq_false_iff_ne]
      rintro rfl
      exact absurd hrange (by decide)
    rw [isspace, hne, Bool.false_or, Bool.and_eq_false_iff, decide_eq_false_iff_not,
      decide_eq_false_iff_not]
    omega
  · rintro rfl
    exact absurd hrange (by decide)
  · rintro rfl
    exact absurd hrange (by decide)

/-- The first digits of a number stand for one that is not larger. -/
theorem numeral_prefix (hbase : 0 < base) (h : numeral base (s ++ t) = some n) (hs : s ≠ []) :
    ∃ m ≤ n, numeral base s = some m := by
  obtain ⟨-, hall, hvalue⟩ := numeral_eq_some_iff.mp h
  rw [List.all_append, Bool.and_eq_true] at hall
  refine ⟨_, ?_, numeral_eq_some_iff.mpr ⟨hs, hall.1, rfl⟩⟩
  rw [List.filterMap_append, List.reverse_append, Nat.ofDigits_append] at hvalue
  rw [← hvalue]
  exact (Nat.le_mul_of_pos_left _ (Nat.pow_pos hbase)).trans (Nat.le_add_left _ _)

/-- A word of digits is all that is read of it. -/
theorem digits_word (h : (s.takeWhile isalnum).all (isDigit base) = true) :
    digits base s = (s.takeWhile isalnum).filterMap digitVal := by
  have hsame : s.takeWhile (isDigit base) = s.takeWhile isalnum := by
    induction s with
    | nil => rfl
    | cons c s ih =>
      cases hc : isalnum c with
      | false =>
        have hdigit : ¬ isDigit base c = true := by
          intro hd
          rw [isalnum_of_isDigit hd] at hc
          cases hc
        rw [List.takeWhile_cons_of_neg hdigit, List.takeWhile_cons_of_neg (by rw [hc]; decide)]
      | true =>
        rw [List.takeWhile_cons_of_pos hc, List.all_cons, Bool.and_eq_true] at h
        rw [List.takeWhile_cons_of_pos h.1, List.takeWhile_cons_of_pos hc, ih h.2]
  rw [digits, hsame]

/-- Reading digits from the left gives the number they stand for. -/
theorem foldl_eq_ofDigits (ds : List Nat) :
    ds.foldl (fun acc d => acc * base + d) 0 = Nat.ofDigits base ds.reverse := by
  induction ds using List.reverseRecOn with
  | nil => rfl
  | append_singleton ds d ih =>
    rw [List.foldl_append, List.foldl_cons, List.foldl_nil, ih, List.reverse_append,
      List.reverse_singleton, List.singleton_append, Nat.ofDigits_cons, Nat.mul_comm, Nat.add_comm]

/-- `strtol` reads a numeral to its end. -/
theorem foldl_digits (h : numeral base (s.takeWhile isalnum) = some n) :
    (digits base s).foldl (fun acc d => acc * base + d) 0 = n := by
  obtain ⟨-, hall, hvalue⟩ := numeral_eq_some_iff.mp h
  rw [digits_word hall, foldl_eq_ofDigits, hvalue]

/-- No number begins with `0x`. -/
theorem no_hex_prefix (h : numeral 16 (s.takeWhile isalnum) = some n) :
    ¬ (s.head? = some 48 ∧ (s[1]? = some 120 ∨ s[1]? = some 88)) := by
  obtain ⟨-, hall, -⟩ := numeral_eq_some_iff.mp h
  rintro ⟨hzero, hx⟩
  have hsecond {x : Char8} (hx : s[1]? = some x) (halnum : isalnum x = true) :
      isDigit 16 x = true := by
    cases s with
    | nil => cases hx
    | cons c s =>
      cases hzero
      cases s with
      | nil => cases hx
      | cons d s =>
        cases hx
        rw [List.takeWhile_cons_of_pos (by decide), List.takeWhile_cons_of_pos halnum] at hall
        simp only [List.all_cons, Bool.and_eq_true] at hall
        exact hall.2.1
  rcases hx with hx | hx
  · exact absurd (hsecond hx (by decide)) (by decide)
  · exact absurd (hsecond hx (by decide)) (by decide)

/-- `strtol` gives the number of a numeral, if a `long` can hold it. -/
theorem strtol_numeral (h : numeral base (s.takeWhile isalnum) = some n) :
    strtol base s = clampLong n := by
  obtain ⟨hne, hall, -⟩ := numeral_eq_some_iff.mp h
  cases s with
  | nil => exact absurd rfl hne
  | cons c s =>
    have halnum : isalnum c = true := by
      by_contra hc
      rw [List.takeWhile_cons_of_neg hc] at hne
      exact hne rfl
    obtain ⟨hblank, hminus, hplus⟩ := not_blank_of_isalnum halnum
    have hdrop : (c :: s).dropWhile isspace = c :: s :=
      List.dropWhile_cons_of_neg (by rw [hblank]; decide)
    have hhead (d : Char8) (hd : c ≠ d) : ¬ (c :: s).head? = some d := by
      intro he
      exact hd (by simpa using he)
    have hprefix : ¬ (base = 16 ∧ (c :: s).head? = some 48 ∧
        ((c :: s)[1]? = some 120 ∨ (c :: s)[1]? = some 88)) := by
      rintro ⟨rfl, hx⟩
      exact no_hex_prefix h hx
    unfold strtol
    rw [hdrop]
    simp only [if_neg (not_or.mpr ⟨hhead 45 hminus, hhead 43 hplus⟩), if_neg (hhead 45 hminus),
      if_neg hprefix, foldl_digits h]

/-- The same with a sign before it. -/
theorem strtol_signed (hc : c = 45 ∨ c = 43) (h : numeral 10 (s.takeWhile isalnum) = some n) :
    strtol 10 (c :: s) = clampLong (if c = 45 then -n else n) := by
  have hblank : isspace c = false := by
    rcases hc with rfl | rfl
    · decide
    · decide
  have hdrop : (c :: s).dropWhile isspace = c :: s :=
    List.dropWhile_cons_of_neg (by rw [hblank]; decide)
  unfold strtol
  rw [hdrop]
  simp only [List.tail_cons, List.head?_cons, Option.some.injEq, if_pos hc,
    if_neg (show ¬ ((10 : Nat) = 16 ∧ _) from fun hx => absurd hx.1 (by decide)), foldl_digits h]

end Numerals

/-! ## Tokens -/

/-- One call of `strtok_r`: the token, and where the next call goes on. -/
def strtok (sep : Char8) (s : List Char8) : Option (List Char8 × List Char8) :=
  let s := s.dropWhile (· == sep)
  if s = [] then none
  else some (s.takeWhile (· ≠ sep), (s.dropWhile (· ≠ sep)).tail)

/-! ## Lines -/

/-- What is stored of a file by `fgets` with room for `n` characters, and the rest. -/
def fgets : Nat → List Char8 → List Char8 × List Char8
  | 0, s => ([], s)
  | _ + 1, [] => ([], [])
  | n + 1, c :: s => if c = 10 then ([c], s) else ((c :: (fgets n s).1), (fgets n s).2)

/-- The lines of a file, each with the newline that ends it. -/
def lines : List Char8 → List (List Char8)
  | [] => []
  | c :: s =>
    if c = 10 then [c] :: lines s
    else (c :: (lines s).headD []) :: (lines s).tail

/-- The first of them. -/
def firstLine : List Char8 → List Char8
  | [] => []
  | c :: s => if c = 10 then [c] else c :: firstLine s

theorem lines_cons (c : Char8) (s : List Char8) :
    lines (c :: s) = firstLine (c :: s) :: lines ((c :: s).drop (firstLine (c :: s)).length) := by
  induction s generalizing c with
  | nil =>
    unfold lines firstLine
    split
    · rfl
    · rfl
  | cons d s ih =>
    rw [lines, firstLine]
    split
    · rfl
    · rw [ih d]
      rfl

/-- `fgets` reads the first line as far as there is room. -/
theorem fgets_eq (n : Nat) (s : List Char8) :
    fgets n s = ((firstLine s).take n, s.drop ((firstLine s).take n).length) := by
  induction n generalizing s with
  | zero => rfl
  | succ n ih =>
    cases s with
    | nil => rfl
    | cons c s =>
      unfold fgets firstLine
      split
      · rw [List.take_succ_cons, List.take_nil]
        rfl
      · rw [ih s]
        rfl

/-- The first line of a text that is not empty is not empty. -/
theorem firstLine_ne_nil {s : List Char8} (h : s ≠ []) : firstLine s ≠ [] := by
  cases s with
  | nil => exact absurd rfl h
  | cons c s =>
    unfold firstLine
    split
    · exact List.cons_ne_nil _ _
    · exact List.cons_ne_nil _ _

/-- With room for a character, `fgets` leaves less of the file than there was. -/
theorem fgets_rest_length_lt {n : Nat} {s : List Char8} (h : s ≠ []) :
    (fgets (n + 1) s).2.length < s.length := by
  have hs : 0 < s.length := List.length_pos_of_ne_nil h
  have hfirst : 0 < (firstLine s).length := List.length_pos_of_ne_nil (firstLine_ne_nil h)
  rw [fgets_eq, List.length_drop, List.length_take]
  omega

/-- The first line is in the text. -/
theorem firstLine_length_le (s : List Char8) : (firstLine s).length ≤ s.length := by
  induction s with
  | nil => exact Nat.le_refl 0
  | cons c s ih =>
    unfold firstLine
    split
    · exact Nat.succ_le_succ (Nat.zero_le _)
    · exact Nat.succ_le_succ ih

/-- Without its first characters a line is still a line. -/
theorem firstLine_drop {k : Nat} {s : List Char8} (h : k < (firstLine s).length) :
    firstLine (s.drop k) = (firstLine s).drop k := by
  induction k generalizing s with
  | zero => rfl
  | succ k ih =>
    cases s with
    | nil => exact absurd h (Nat.not_lt_zero _)
    | cons c s =>
      rw [List.drop_succ_cons]
      by_cases hc : c = 10
      · rw [firstLine, if_pos hc] at h
        exact absurd h (by simp)
      · rw [firstLine, if_neg hc] at h ⊢
        exact ih (Nat.lt_of_succ_lt_succ h)

/-- Within the first line only this line gets shorter. -/
theorem lines_drop {k : Nat} {s : List Char8} (h : k < (firstLine s).length) :
    lines (s.drop k) = (firstLine s).drop k :: lines (s.drop (firstLine s).length) := by
  have hlen : k < s.length := Nat.lt_of_lt_of_le h (firstLine_length_le s)
  obtain ⟨c, rest, hrest⟩ := List.exists_cons_of_ne_nil (List.ne_nil_of_length_pos
    (show 0 < (s.drop k).length by rw [List.length_drop]; omega))
  have hfirst := firstLine_drop h
  have hsplit := lines_cons c rest
  rw [← hrest, hfirst, List.drop_drop, List.length_drop, Nat.add_sub_cancel' (Nat.le_of_lt h)]
    at hsplit
  exact hsplit

end CText
