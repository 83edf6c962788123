import Ancora.Lib.CArray
import Ancora.LocEng.Config

/-!
# Trimming in place (loc_eng_cfg.cpp:97–139)

`trim_space` reads a string with one pointer and writes it back with another one that lags
behind, from the first character that is no blank on; at the end it terminates the string
behind the last such character. `Config` has what comes of it for a parameter; here is the
buffer.

- `trimSpace`: the function on an array; `none` means that it has read past the end of it.
- `Scanned`: what has been read and what has been written, next to the loop of `Config`.
- `trimSpace_spec`: the array afterwards, for any string.
- **`trimSpace_trims_iff`**: the buffer holds the trimmed string if and only if the string is
  empty or has a character that is no blank. Of blanks alone none is removed.
-/

namespace Ancora.LocEng.TrimSpace

open CText
open Config (Trim)

/-! ## The code -/

/-- The buffer and the four pointers, as indices into it. -/
structure Pointers where
  buf : CArray Char8
  scan : Nat
  write : Nat
  firstNonspace : Option Nat
  lastNonspace : Option Nat

/-- The body of the loop (loc_eng_cfg.cpp:121–135). -/
def Pointers.turn (p : Pointers) : Pointers :=
  let first := if !isspace (p.buf.cells p.scan) && p.firstNonspace.isNone then some p.scan
    else p.firstNonspace
  if first.isSome then
    let buf := p.buf.set p.write (p.buf.cells p.scan)
    { buf := buf
      scan := p.scan + 1
      write := p.write + 1
      firstNonspace := first
      -- the pointer has moved on, and the character is read again
      lastNonspace := if !isspace (buf.cells p.scan) then some (p.write + 1)
        else p.lastNonspace }
  else { p with scan := p.scan + 1, firstNonspace := first }

/-- `while (*scan_ptr)`, with the number of cells that are left to read. -/
def scanLoop : Nat → Pointers → Option Pointers
  | 0, _ => none
  | n + 1, p => if p.buf.cells p.scan = 0 then some p else scanLoop n p.turn

/-- `trim_space` (loc_eng_cfg.cpp:112). -/
def trimSpace (orgString : CArray Char8) : Option (CArray Char8) :=
  (scanLoop orgString.size ⟨orgString, 0, 0, none, none⟩).map fun p =>
    match p.lastNonspace with
    | some last => p.buf.set last 0
    | none => p.buf

/-! ## The loop -/

/-- The loop of `Config` after the characters `read`. -/
def trimmed (read : List Char8) : Trim := read.foldl Trim.scan ⟨[], false, 0⟩

/-- `read` has been read of the string in `a`. -/
structure Scanned (a : CArray Char8) (read : List Char8) (p : Pointers) : Prop where
  scan : p.scan = read.length
  size : p.buf.size = a.size
  write : p.write = (trimmed read).written.length
  first : p.firstNonspace.isSome = (trimmed read).first
  last : p.lastNonspace = if (trimmed read).last = 0 then none else some (trimmed read).last
  written : p.buf.Starts (trimmed read).written
  /-- What lies behind the write pointer is as it was. -/
  rest : ∀ k, p.write ≤ k → p.buf.cells k = a.cells k
  touched : p.buf.touched = a.touched ++ List.range p.write

section Loop

variable {a : CArray Char8} {read : List Char8} {p : Pointers}

theorem trimmed_append (read : List Char8) (c : Char8) :
    trimmed (read ++ [c]) = (trimmed read).scan c := by
  rw [trimmed, List.foldl_append]
  rfl

/-- The write pointer lags behind. -/
theorem Scanned.write_le (h : Scanned a read p) : p.write ≤ read.length := by
  rw [h.write, trimmed, (Config.trim_fold read).1]
  exact (List.dropWhile_sublist isspace).length_le

theorem Scanned.start (a : CArray Char8) : Scanned a [] ⟨a, 0, 0, none, none⟩ where
  scan := rfl
  size := rfl
  write := rfl
  first := rfl
  last := rfl
  written := rfl
  rest _ _ := rfl
  touched := (List.append_nil a.touched).symm

/-- What is read has not been written over. -/
theorem Scanned.cell (h : Scanned a read p) : p.buf.cells p.scan = a.cells read.length := by
  rw [h.scan]
  exact h.rest read.length h.write_le

/-- A blank before the string begins. -/
theorem Scanned.skip (h : Scanned a read p) (hfirst : (trimmed read).first = false)
    (hc : isspace (a.cells read.length) = true) :
    Scanned a (read ++ [a.cells read.length]) p.turn := by
  have hnone : p.firstNonspace = none := by
    rw [← Option.isNone_iff_eq_none, ← Option.not_isSome, h.first, hfirst]
    rfl
  have hturn : p.turn = { p with scan := p.scan + 1 } := by
    simp [Pointers.turn, h.cell, hc, hnone]
  have hscan : trimmed (read ++ [a.cells read.length]) = trimmed read := by
    simp [trimmed_append, Trim.scan, hfirst, hc]
  rw [hturn]
  refine ⟨?_, h.size, ?_, ?_, ?_, ?_, h.rest, h.touched⟩
  · show p.scan + 1 = _
    rw [h.scan, List.length_append, List.length_singleton]
  · rw [hscan]
    exact h.write
  · rw [hscan]
    exact h.first
  · rw [hscan]
    exact h.last
  · rw [hscan]
    exact h.written

/-- A character of the string, which is copied. -/
theorem Scanned.copy (h : Scanned a read p)
    (hcopy : ((trimmed read).first || !isspace (a.cells read.length)) = true) :
    Scanned a (read ++ [a.cells read.length]) p.turn := by
  set c := a.cells read.length with hc
  have hfirst : (if !isspace c && p.firstNonspace.isNone then some p.scan
      else p.firstNonspace).isSome = true := by
    rw [← h.first] at hcopy
    cases hp : p.firstNonspace with
    | none => simpa [hp] using hcopy
    | some k => simp
  have hagain : (p.buf.set p.write c).cells p.scan = c := by
    show (if p.scan = p.write then c else p.buf.cells p.scan) = c
    split
    · rfl
    · exact h.cell
  have hturn : p.turn = ⟨p.buf.set p.write c, p.scan + 1, p.write + 1,
      if !isspace c && p.firstNonspace.isNone then some p.scan else p.firstNonspace,
      if !isspace c then some (p.write + 1) else p.lastNonspace⟩ := by
    unfold Pointers.turn
    simp only [h.cell, ← hc, hfirst, if_true, hagain]
  have hscan : trimmed (read ++ [c]) = ⟨(trimmed read).written ++ [c], true,
      if isspace c then (trimmed read).last else (trimmed read).written.length + 1⟩ := by
    rw [trimmed_append, Trim.scan, if_pos hcopy]
  rw [hturn]
  refine ⟨?_, h.size, ?_, ?_, ?_, ?_, ?_, ?_⟩
  · show p.scan + 1 = _
    rw [h.scan, List.length_append, List.length_singleton]
  · show p.write + 1 = _
    rw [hscan, List.length_append, List.length_singleton, h.write]
  · rw [hscan]
    exact hfirst
  · rw [hscan]
    by_cases hsp : isspace c = true
    · simp [hsp, h.last]
    · simp [hsp, h.write]
  · rw [hscan]
    show (p.buf.set p.write c).Starts _
    rw [h.write]
    exact h.written.set c
  · intro k hk
    have hlt : p.write < k := hk
    exact (if_neg (by omega)).trans (h.rest k (by omega))
  · show p.buf.touched ++ [p.write] = _
    rw [h.touched, List.append_assoc, ← List.range_succ]

/-- **Step lemma**. -/
theorem Scanned.turn (h : Scanned a read p) :
    Scanned a (read ++ [a.cells read.length]) p.turn := by
  by_cases hcopy : ((trimmed read).first || !isspace (a.cells read.length)) = true
  · exact h.copy hcopy
  · simp only [Bool.or_eq_true, not_or, Bool.not_eq_true, Bool.not_eq_false'] at hcopy
    exact h.skip hcopy.1 hcopy.2

/-- **Run lemma**: the loop reads the string to its end. -/
theorem Scanned.scanLoop {rest : List Char8} {n : Nat} (h : Scanned a read p)
    (hstr : a.Starts (read ++ rest ++ [0])) (hnonzero : 0 ∉ rest) (hn : rest.length < n) :
    ∃ p', TrimSpace.scanLoop n p = some p' ∧ Scanned a (read ++ rest) p' := by
  induction rest generalizing read p n with
  | nil =>
    obtain ⟨n, rfl⟩ := Nat.exists_eq_succ_of_ne_zero (Nat.ne_of_gt hn)
    have hzero : p.buf.cells p.scan = 0 := by
      rw [h.cell, hstr.cell (by simp)]
      simp
    refine ⟨p, if_pos hzero, ?_⟩
    rw [List.append_nil]
    exact h
  | cons c rest ih =>
    obtain ⟨n, rfl⟩ := Nat.exists_eq_succ_of_ne_zero (Nat.ne_of_gt (Nat.zero_lt_of_lt hn))
    have hcell : a.cells read.length = c := by
      rw [hstr.cell (by simp)]
      simp
    have hne : p.buf.cells p.scan ≠ 0 := by
      rw [h.cell, hcell]
      intro hz
      exact hnonzero (hz ▸ List.mem_cons_self)
    have hturn := h.turn
    rw [hcell] at hturn
    have hsplit : read ++ c :: rest = read ++ [c] ++ rest := by simp
    rw [hsplit] at hstr ⊢
    obtain ⟨p', hp', hscanned⟩ := ih hturn hstr
      (fun hmem => hnonzero (List.mem_cons_of_mem c hmem)) (Nat.lt_of_succ_lt_succ hn)
    exact ⟨p', (if_neg hne).trans hp', hscanned⟩

end Loop

/-! ## The string afterwards -/

section Result

variable {a : CArray Char8} {s : List Char8}

theorem trim_prefix_dropWhile (s : List Char8) : Config.trim s <+: s.dropWhile isspace :=
  List.rdropWhile_prefix isspace _

theorem length_trim_le (s : List Char8) : (Config.trim s).length ≤ s.length :=
  Nat.le_trans (trim_prefix_dropWhile s).length_le (List.dropWhile_sublist isspace).length_le

/-- A character that is no blank ends the string. -/
theorem finish_some {p : Pointers} (hs : a.Str s) (h : Scanned a s p) :
    ((p.buf.set (Config.trim s).length 0).Str (Config.trim s)) ∧
    (∀ k, s.length < k → (p.buf.set (Config.trim s).length 0).cells k = a.cells k) ∧
    ∃ w, (p.buf.set (Config.trim s).length 0).touched = a.touched ++ w ∧
      ∀ k ∈ w, k ≤ s.length := by
  have hwritten := h.written
  have hle := length_trim_le s
  have hwrite := h.write_le
  rw [trimmed, (Config.trim_fold s).1] at hwritten
  obtain ⟨tail, htail⟩ := trim_prefix_dropWhile s
  rw [← htail] at hwritten
  refine ⟨⟨hwritten.of_append.set 0, ?_, ?_⟩, ?_, ?_⟩
  · show (Config.trim s).length < p.buf.size
    rw [h.size]
    exact Nat.lt_of_le_of_lt hle hs.fits
  · intro hmem
    exact hs.nonzero ((List.dropWhile_sublist isspace).subset
      ((trim_prefix_dropWhile s).subset hmem))
  · intro k hk
    exact (if_neg (by omega)).trans (h.rest k (by omega))
  · refine ⟨List.range p.write ++ [(Config.trim s).length], ?_, ?_⟩
    · show p.buf.touched ++ [_] = _
      rw [h.touched, List.append_assoc]
    · intro k hk
      rcases List.mem_append.mp hk with hk | hk
      · have hlt := List.mem_range.mp hk
        omega
      · rw [List.mem_singleton.mp hk]
        exact hle

/-- Of blanks alone none has been written. -/
theorem finish_none {p : Pointers} (hs : a.Str s) (h : Scanned a s p)
    (hblank : s.all isspace = true) :
    p.buf.Str s ∧ (∀ k, p.buf.cells k = a.cells k) ∧ p.buf.touched = a.touched := by
  have hdrop : s.dropWhile isspace = [] :=
    List.dropWhile_eq_nil_iff.mpr fun c hc => List.all_eq_true.mp hblank c hc
  have hwrite : p.write = 0 := by
    rw [h.write, trimmed, (Config.trim_fold s).1, hdrop]
    rfl
  have hcells : ∀ k, p.buf.cells k = a.cells k := fun k => h.rest k (by omega)
  refine ⟨⟨?_, ?_, hs.nonzero⟩, hcells, ?_⟩
  · exact CArray.Starts.of_cells fun k hk => (hcells k).trans (hs.starts.cell hk)
  · rw [h.size]
    exact hs.fits
  · rw [h.touched, hwrite]
    exact List.append_nil _

/-- What `trim_space` makes of a string, and what it leaves alone. -/
theorem trimSpace_spec (hs : a.Str s) :
    ∃ b, trimSpace a = some b ∧ b.Str (Config.trimSpace s) ∧
      (∀ k, s.length < k → b.cells k = a.cells k) ∧
      ∃ w, b.touched = a.touched ++ w ∧ ∀ k ∈ w, k ≤ s.length := by
  have hstr : a.Starts ([] ++ s ++ [0]) := hs.starts
  obtain ⟨p, hp, h⟩ := (Scanned.start a).scanLoop hstr hs.nonzero hs.fits
  rw [List.nil_append] at h
  have hlast := h.last
  have hempty : (Config.trim s).length = 0 ↔ s.all isspace = true := by
    rw [List.length_eq_zero_iff, Config.trim_eq_nil_iff]
  rw [trimmed, (Config.trim_fold s).2.2] at hlast
  rw [trimSpace, hp, Config.trimSpace_eq]
  by_cases hblank : s.all isspace = true
  · rw [if_pos (hempty.mpr hblank)] at hlast
    rw [if_pos hblank]
    obtain ⟨hstr, hcells, htouched⟩ := finish_none hs h hblank
    refine ⟨p.buf, by simp [hlast], hstr, fun k _ => hcells k, [], ?_, by simp⟩
    rw [htouched, List.append_nil]
  · rw [if_neg fun hlen => hblank (hempty.mp hlen)] at hlast
    rw [if_neg hblank]
    exact ⟨p.buf.set (Config.trim s).length 0, by simp [hlast], finish_some hs h⟩

/-! ## Trimming twice -/

theorem trim_trim (s : List Char8) : Config.trim (Config.trim s) = Config.trim s := by
  have hfront : (Config.trim s).dropWhile isspace = Config.trim s := by
    rw [List.dropWhile_eq_self_iff]
    intro hpos hspace
    -- the first character is the one the leading blanks end at
    have hpos' : 0 < (s.dropWhile isspace).length :=
      Nat.lt_of_lt_of_le hpos (trim_prefix_dropWhile s).length_le
    have hhead : (Config.trim s)[0] = (s.dropWhile isspace)[0] :=
      (trim_prefix_dropWhile s).getElem hpos
    rw [hhead] at hspace
    exact List.dropWhile_get_zero_not isspace s hpos' hspace
  have hback : (Config.trim s).rdropWhile isspace = Config.trim s :=
    List.rdropWhile_idempotent isspace _
  calc Config.trim (Config.trim s)
      = ((Config.trim s).dropWhile isspace).rdropWhile isspace := rfl
    _ = (Config.trim s).rdropWhile isspace := by rw [hfront]
    _ = Config.trim s := hback

theorem trimSpace_trimSpace (s : List Char8) :
    Config.trimSpace (Config.trimSpace s) = Config.trimSpace s := by
  rw [Config.trimSpace_eq s]
  split
  · rename_i hblank
    rw [Config.trimSpace_eq, if_pos hblank]
  · rw [Config.trimSpace_eq, trim_trim, ite_self]

/-- Trimming a string that was trimmed changes no cell. -/
theorem trimSpace_again {b : CArray Char8} (hb : b.Str (Config.trimSpace s)) :
    ∃ c, trimSpace b = some c ∧ c.cells = b.cells := by
  obtain ⟨c, hc, hstr, hrest, -⟩ := trimSpace_spec hb
  rw [trimSpace_trimSpace] at hstr
  refine ⟨c, hc, funext fun k => ?_⟩
  by_cases hk : k < (Config.trimSpace s ++ [0]).length
  · rw [hstr.starts.cell hk, hb.starts.cell hk]
  · rw [List.length_append, List.length_singleton] at hk
    exact hrest k (by omega)

/-- What `trim_space` is for: the buffer holds the string without the blanks around it, nothing
behind its terminating zero is written, and trimming it again changes nothing. -/
def Trims (a : CArray Char8) (s : List Char8) : Prop :=
  ∃ b, trimSpace a = some b ∧ b.Str (Config.trim s) ∧
    (∀ k, s.length < k → b.cells k = a.cells k) ∧
    (∃ w, b.touched = a.touched ++ w ∧ ∀ k ∈ w, k ≤ s.length) ∧
    ∃ c, trimSpace b = some c ∧ c.cells = b.cells

theorem eq_of_str {b : CArray Char8} {t : List Char8} (hs : b.Str s) (ht : b.Str t) : s = t :=
  hs.str_eq.symm.trans ht.str_eq

/-- A string is trimmed if and only if it is empty or not made of blanks alone. -/
theorem trimSpace_trims_iff (hs : a.Str s) :
    Trims a s ↔ s = [] ∨ ∃ c ∈ s, isspace c = false := by
  obtain ⟨b, hb, hstr, hrest, hwrites⟩ := trimSpace_spec hs
  have hagain := trimSpace_again hstr
  rw [Config.trimSpace_eq] at hstr
  constructor
  · rintro ⟨b', hb', htrim, -⟩
    obtain rfl : b = b' := Option.some.inj (hb.symm.trans hb')
    by_cases hblank : s.all isspace = true
    · rw [if_pos hblank] at hstr
      left
      rw [eq_of_str hstr htrim, Config.trim_eq_nil_iff]
      exact hblank
    · right
      simpa using hblank
  · intro hcond
    refine ⟨b, hb, ?_, hrest, hwrites, hagain⟩
    rcases hcond with rfl | ⟨c, hc, hspace⟩
    · exact hstr
    · have hblank : ¬ s.all isspace = true := by
        intro hall
        rw [List.all_eq_true.mp hall c hc] at hspace
        cases hspace
      rw [if_neg hblank] at hstr
      exact hstr

/-- `" a b "` is trimmed to `"a b"`. -/
theorem trimSpace_trims_inner :
    (⟨8, fun k => (ascii " a b ").getD k 0, []⟩ : CArray Char8).Str (ascii " a b ") ∧
    Trims ⟨8, fun k => (ascii " a b ").getD k 0, []⟩ (ascii " a b ") := by
  have hs : (⟨8, fun k => (ascii " a b ").getD k 0, []⟩ : CArray Char8).Str (ascii " a b ") :=
    ⟨rfl, by decide, by decide⟩
  exact ⟨hs, (trimSpace_trims_iff hs).mpr (.inr ⟨97, by decide, rfl⟩)⟩

/-- `" "` is not. -/
theorem blank_not_trimmed :
    (⟨2, fun k => (ascii " ").getD k 0, []⟩ : CArray Char8).Str (ascii " ") ∧
    ¬ Trims ⟨2, fun k => (ascii " ").getD k 0, []⟩ (ascii " ") := by
  refine ⟨⟨rfl, by decide, by decide⟩, ?_⟩
  rintro ⟨b, hb, htrim, -⟩
  obtain rfl := Option.some.inj hb
  have hcell := htrim.starts.cell (k := 0) (by decide)
  exact absurd hcell (by decide)

end Result

end Ancora.LocEng.TrimSpace
