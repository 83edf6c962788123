import Ancora.Lib.CText

/-!
# The configuration file (libloc_api/loc_eng_cfg.cpp)

`loc_read_gps_conf` reads `/etc/gps.conf` with `fgets` into a buffer of `LOC_MAX_PARAM_LINE`
characters and takes each buffer for a line: two tokens separated by `=`, both trimmed, the
first one the name of a parameter and the second its value.

A line is longer than the buffer, begins with `=`, or has no integer for a value or one that is
no `int`: then a buffer says something else than the line does.

- `locReadGpsConf`: the function; `setting`: what it makes of one buffer.
- `locReadGpsConf_eq`: it works through the pieces of the lines, whatever the file is.
- `number`: the integer that a text begins with; **`paramValue_of_number`**: what the code makes
  of it; **`leadingNumber_prefix`**: what is left of it when it is cut.
- `stated`: what a line says; `LineByLine`: the file is read so.
- **`conf_line_by_line_iff`**: it is, iff each line is `Plain`.
-/

namespace Ancora.LocEng.Config

open CText

/-- The parameters of `loc_parameter_table` (loc_eng_cfg.cpp:58–67); all have type `n`. -/
inductive Param
  | intermediatePos
  | accuracyThres
  | enableWiper
  | debugLevel
  deriving DecidableEq, Repr

def Param.name : Param → List Char8
  | .intermediatePos => ascii "INTERMEDIATE_POS"
  | .accuracyThres => ascii "ACCURACY_THRES"
  | .enableWiper => ascii "ENABLE_WIPER"
  | .debugLevel => ascii "DEBUG_LEVEL"

def locParameterTable : List Param := [.intermediatePos, .accuracyThres, .enableWiper, .debugLevel]

/-- `gps_conf`: each parameter is an `unsigned long` (loc_eng_cfg.h:51–58). -/
abbrev GpsConf := Param → BitVec 32

/-- `loc_default_parameters` (loc_eng_cfg.cpp:88–95). -/
def locDefaultParameters : GpsConf
  | .debugLevel => 2
  | _ => 0

/-- The loop of `trim_space`: what was written so far, whether a character was, and the length
up to the last one that is no blank. -/
structure Trim where
  written : List Char8
  first : Bool
  last : Nat

def Trim.scan (t : Trim) (c : Char8) : Trim :=
  let first := t.first || !isspace c
  if first then
    { written := t.written ++ [c]
      first := true
      last := if isspace c then t.last else t.written.length + 1 }
  else t

/-- `trim_space` (loc_eng_cfg.cpp:112–139): a string of blanks stays as it is. -/
def trimSpace (s : List Char8) : List Char8 :=
  let t := s.foldl Trim.scan ⟨[], false, 0⟩
  if t.last ≠ 0 then t.written.take t.last else s

/-- The value of the second operand (loc_eng_cfg.cpp:191–200). -/
def paramValue (v : List Char8) : Int :=
  if v.head? = some 48 ∧ (v[1]? = some 120 ∨ v[1]? = some 88) then strtol 16 (v.drop 2)
  else atoi v

/-- `'='` -/
def eqSign : Char8 := 61

/-- The two tokens of a buffer, before they are trimmed. -/
def operands (buf : List Char8) : Option (List Char8 × List Char8) :=
  (strtok eqSign (cString buf)).bind fun t =>
    (strtok eqSign t.2).map fun t' => (t.1, t'.1)

/-- The body of the loop (loc_eng_cfg.cpp:179–231). -/
def confStep (conf : GpsConf) (buf : List Char8) : GpsConf :=
  match operands buf with
  | none => conf
  | some (name, value) =>
    let paramName := trimSpace name
    let paramStrValue := trimSpace value
    locParameterTable.foldl (fun c p =>
      if p.name = paramName then
        fun q => if q = p then BitVec.ofInt 32 (paramValue paramStrValue) else c q
      else c)
      conf

/-- `LOC_MAX_PARAM_LINE` (loc_eng_cfg.h:35). -/
def locMaxParamLine : Nat := 80

/-- The loop over the file. -/
def readLoop (conf : GpsConf) (file : List Char8) : GpsConf :=
  if h : file = [] then conf
  else readLoop (confStep conf (fgets (locMaxParamLine - 1) file).1)
    (fgets (locMaxParamLine - 1) file).2
  termination_by file.length
  decreasing_by exact fgets_rest_length_lt h

/-- `loc_read_gps_conf` (loc_eng_cfg.cpp:156–235); `none` when there is no file. -/
def locReadGpsConf : Option (List Char8) → GpsConf
  | none => locDefaultParameters
  | some file => readLoop locDefaultParameters file

/-! ## What a line says -/

/-- Without the blanks around it. -/
def trim (s : List Char8) : List Char8 := (s.dropWhile isspace).rdropWhile isspace

/-- The parameter with this name. -/
def paramOf (name : List Char8) : Option Param := locParameterTable.find? (·.name = name)

/-- The text before the first `=`. -/
def nameText (text : List Char8) : List Char8 := text.takeWhile (· ≠ eqSign)

/-- The text behind it, as far as the next one. -/
def valueText (text : List Char8) : List Char8 :=
  ((text.dropWhile (· ≠ eqSign)).dropWhile (· == eqSign)).takeWhile (· ≠ eqSign)

/-- The number that a word stands for: hexadecimal behind `0x`, else decimal. -/
def wordNumber : List Char8 → Option Nat
  | c :: x :: ds =>
    if c = 48 ∧ (x = 120 ∨ x = 88) then numeral 16 ds else numeral 10 (c :: x :: ds)
  | word => numeral 10 word

/-- The integer that a text begins with: hexadecimal, or decimal with or without a sign. No letter
or digit follows it. -/
def leadingNumber : List Char8 → Option Int
  | [] => none
  | c :: s =>
    if c = 45 then (numeral 10 (s.takeWhile isalnum)).map fun n : Nat => -(n : Int)
    else if c = 43 then (numeral 10 (s.takeWhile isalnum)).map fun n : Nat => (n : Int)
    else (wordNumber ((c :: s).takeWhile isalnum)).map fun n : Nat => (n : Int)

/-- The integer behind the blanks. -/
def number (text : List Char8) : Option Int := leadingNumber (text.dropWhile isspace)

/-- The parameter that a line sets and its value: the text before the first `=` is the
parameter's name, and there is an integer behind it. -/
def stated (line : List Char8) : Option (Param × Int) :=
  (paramOf (trim (nameText (cString line)))).bind fun p =>
    (number (valueText (cString line))).map fun v => (p, v)

/-- The value that the last of these lines with one for `p` gives it. -/
def lastSaid (p : Param) (ls : List (List Char8)) : Int :=
  ((ls.filterMap stated).filter (·.1 = p)).getLast?.elim ((locDefaultParameters p).toNat : Int)
    (·.2)

/-- What the code makes of one buffer. -/
def setting (buf : List Char8) : Option (Param × BitVec 32) :=
  (operands buf).bind fun o =>
    (paramOf (trimSpace o.1)).map fun p => (p, BitVec.ofInt 32 (paramValue (trimSpace o.2)))

/-- A value that has been stored, read as the `unsigned long` that it is. -/
def shown (s : Param × BitVec 32) : Param × Int := (s.1, s.2.toNat)

/-- The buffers that a line is read into. -/
def pieces (line : List Char8) : List (List Char8) :=
  if line.length ≤ locMaxParamLine - 1 then [line]
  else line.take (locMaxParamLine - 1) :: pieces (line.drop (locMaxParamLine - 1))
  termination_by line.length
  decreasing_by
    rw [List.length_drop]
    simp only [locMaxParamLine] at *
    omega

/-- Each parameter has the value of the last line that says one. Every line sets, with its
first buffer, what it says, and nothing with the others. -/
structure LineByLine (file : List Char8) : Prop where
  values : ∀ p, ((locReadGpsConf (some file) p).toNat : Int) = lastSaid p (lines file)
  heads : ∀ line ∈ lines file, ∀ buf ∈ (pieces line).head?, (setting buf).map shown = stated line
  tails : ∀ line ∈ lines file, ∀ buf ∈ (pieces line).tail, setting buf = none

/-- Behind any leading `=`, the text before the next one is the name of a parameter and there is
something behind it. -/
def NamesParam (text : List Char8) : Prop :=
  (paramOf (trim (nameText (text.dropWhile (· == eqSign))))).isSome = true ∧
    valueText (text.dropWhile (· == eqSign)) ≠ []

/-- As much of a line as fits into the buffer. -/
def headText (line : List Char8) : List Char8 := (cString line).take (locMaxParamLine - 1)

/-- What the beginning of a line shows of an integer is the same integer, or it is 0. -/
def Shows (text : List Char8) (v : Int) : Prop := number text = some v ∨ v = 0

/-- A line that is understood. If a parameter is named in the first 79 characters, then the line
does not begin with `=`, it has an integer that fits into an `int` and is not negative, and all of
it is there. If the line says something, a parameter is named there. No later piece of the line
names one. -/
structure Plain (line : List Char8) : Prop where
  value : NamesParam (headText line) → (cString line).head? ≠ some eqSign ∧
    ∃ v, number (valueText (cString line)) = some v ∧ 0 ≤ v ∧ v ≤ 2147483647 ∧
      Shows (valueText (headText line)) v
  named : stated line ≠ none → NamesParam (headText line)
  tails : ∀ buf ∈ (pieces line).tail, ¬ NamesParam (cString buf)

/-! ## Trimming -/

/-- What the loop of `trim_space` has written and where it stands. -/
theorem trim_fold (s : List Char8) :
    (s.foldl Trim.scan ⟨[], false, 0⟩).written = s.dropWhile isspace ∧
    ((s.foldl Trim.scan ⟨[], false, 0⟩).first = true ↔ s.dropWhile isspace ≠ []) ∧
    (s.foldl Trim.scan ⟨[], false, 0⟩).last = (trim s).length := by
  induction s using List.reverseRecOn with
  | nil => exact ⟨rfl, by simp, rfl⟩
  | append_singleton s c ih =>
    obtain ⟨hwritten, hfirst, hlast⟩ := ih
    rw [List.foldl_append, List.foldl_cons, List.foldl_nil, trim, List.dropWhile_append]
    unfold trim at hlast
    generalize s.foldl Trim.scan ⟨[], false, 0⟩ = t at hwritten hfirst hlast ⊢
    by_cases hnil : s.dropWhile isspace = []
    · have hstarted : t.first = false := by simpa [hnil] using hfirst
      by_cases hc : isspace c = true
      · simp [Trim.scan, hstarted, hnil, hc, hwritten, hlast]
      · simp [Trim.scan, hstarted, hnil, hc, hwritten, List.rdropWhile_singleton]
    · have hstarted : t.first = true := hfirst.mpr hnil
      by_cases hc : isspace c = true
      · simp [Trim.scan, hstarted, hnil, hc, hwritten, hlast]
      · simp [Trim.scan, hstarted, hnil, hc, hwritten]

/-- Only blanks are trimmed to nothing. -/
theorem trim_eq_nil_iff (s : List Char8) : trim s = [] ↔ s.all isspace = true := by
  have hdrop : s.dropWhile isspace = [] ↔ s.all isspace = true := by
    rw [List.dropWhile_eq_nil_iff, List.all_eq_true]
  rw [trim, List.rdropWhile_eq_nil_iff, ← hdrop]
  constructor
  · intro hall
    by_contra hne
    have hhead := List.head_dropWhile_not isspace hne
    rw [hall _ (List.head_mem hne)] at hhead
    cases hhead
  · intro hnil x hx
    rw [hnil] at hx
    cases hx

/-- Blanks stay, everything else is trimmed. -/
theorem trimSpace_eq (s : List Char8) :
    trimSpace s = if s.all isspace = true then s else trim s := by
  obtain ⟨hwritten, -, hlast⟩ := trim_fold s
  have hblank : (trim s).length = 0 ↔ s.all isspace = true := by
    rw [List.length_eq_zero_iff, trim_eq_nil_iff]
  unfold trimSpace
  simp only [hwritten, hlast]
  split
  · rename_i hne
    rw [if_neg fun h => hne (hblank.mpr h)]
    exact (List.prefix_iff_eq_take.mp (List.rdropWhile_prefix isspace _)).symm
  · rename_i hz
    rw [if_pos (hblank.mp (not_not.mp hz))]

/-- No parameter has a name of blanks. -/
theorem paramOf_blank {s : List Char8} (h : s.all isspace = true) : paramOf s = none := by
  rw [paramOf, List.find?_eq_none]
  intro p _ hname
  have hp : p.name.all isspace = true := by
    rw [of_decide_eq_true hname]
    exact h
  cases p with
  | intermediatePos => exact absurd hp (by decide)
  | accuracyThres => exact absurd hp (by decide)
  | enableWiper => exact absurd hp (by decide)
  | debugLevel => exact absurd hp (by decide)

/-- For names the two ways to trim are the same. -/
theorem paramOf_trimSpace (s : List Char8) : paramOf (trimSpace s) = paramOf (trim s) := by
  rw [trimSpace_eq]
  split
  · rename_i hblank
    rw [paramOf_blank hblank, (trim_eq_nil_iff s).mpr hblank]
    exact (paramOf_blank rfl).symm
  · rfl

/-! ## Numbers -/

section Numbers

variable {text t s : List Char8} {v : Int}

/-- A blank value counts as 0. -/
theorem paramValue_blank (h : s.all isspace = true) : paramValue s = 0 := by
  -- a blank is not `0`, so the value is that of `atoi`
  have hhead : s.head? ≠ some 48 := by
    intro hzero
    have hmem := List.mem_of_mem_head? hzero
    have hspace := List.all_eq_true.mp h _ hmem
    exact absurd hspace (by decide)
  rw [paramValue, if_neg fun hx => hhead hx.1, atoi_blank h]

theorem paramValue_singleton (c : Char8) : paramValue [c] = atoi [c] := by
  rw [paramValue, if_neg]
  rintro ⟨-, hx⟩
  exact absurd hx (by simp)

theorem paramValue_cons_cons (c x : Char8) (s : List Char8) :
    paramValue (c :: x :: s) =
      if c = 48 ∧ (x = 120 ∨ x = 88) then strtol 16 s else atoi (c :: x :: s) := by
  simp only [paramValue, List.head?_cons, List.getElem?_cons_succ, List.getElem?_cons_zero,
    Option.some.injEq, List.drop_succ_cons, List.drop_zero]

theorem isalnum_hex {x : Char8} (hx : x = 120 ∨ x = 88) : isalnum x = true := by
  rcases hx with rfl | rfl
  · decide
  · decide

/-- The value of a numeral is its number, if a `long` can hold it. -/
theorem paramValue_of_wordNumber {n : Nat} (h : wordNumber (text.takeWhile isalnum) = some n) :
    paramValue text = clampLong n := by
  rcases text with _ | ⟨c, _ | ⟨x, s⟩⟩
  · cases h
  · rw [paramValue_singleton, atoi]
    refine strtol_numeral ?_
    cases hc : isalnum c with
    | false =>
      rw [List.takeWhile_cons_of_neg (by rw [hc]; decide)] at h ⊢
      exact h
    | true =>
      rw [List.takeWhile_cons_of_pos hc, List.takeWhile_nil] at h ⊢
      exact h
  · cases hc : isalnum c with
    | false =>
      rw [List.takeWhile_cons_of_neg (by rw [hc]; decide)] at h
      cases h
    | true =>
      rw [paramValue_cons_cons]
      cases hx : isalnum x with
      | false =>
        have hhex : ¬ (c = 48 ∧ (x = 120 ∨ x = 88)) := by
          rintro ⟨-, hx'⟩
          rw [isalnum_hex hx'] at hx
          cases hx
        rw [if_neg hhex, atoi]
        refine strtol_numeral ?_
        rw [List.takeWhile_cons_of_pos hc, List.takeWhile_cons_of_neg (by rw [hx]; decide)] at h ⊢
        exact h
      | true =>
        rw [List.takeWhile_cons_of_pos hc, List.takeWhile_cons_of_pos hx, wordNumber] at h
        split at h
        · rename_i hhex
          rw [if_pos hhex]
          exact strtol_numeral h
        · rename_i hhex
          rw [if_neg hhex, atoi]
          refine strtol_numeral ?_
          rw [List.takeWhile_cons_of_pos hc, List.takeWhile_cons_of_pos hx]
          exact h

/-- The code finds the integer that a text begins with, as far as it is a `long`. -/
theorem paramValue_of_leadingNumber (h : leadingNumber text = some v) :
    paramValue text = clampLong v := by
  cases text with
  | nil => cases h
  | cons c s =>
    have hdecimal (hc : c ≠ 48) : paramValue (c :: s) = atoi (c :: s) := by
      rw [paramValue, if_neg]
      rintro ⟨hzero, -⟩
      exact hc (Option.some.inj hzero)
    rw [leadingNumber] at h
    split at h
    · rename_i hminus
      obtain ⟨n, hn, rfl⟩ := Option.map_eq_some_iff.mp h
      rw [hdecimal (by rw [hminus]; decide), atoi, strtol_signed (.inl hminus) hn, if_pos hminus]
    · rename_i hminus
      split at h
      · rename_i hplus
        obtain ⟨n, hn, rfl⟩ := Option.map_eq_some_iff.mp h
        rw [hdecimal (by rw [hplus]; decide), atoi, strtol_signed (.inr hplus) hn, if_neg hminus]
      · obtain ⟨n, hn, rfl⟩ := Option.map_eq_some_iff.mp h
        exact paramValue_of_wordNumber hn

/-- The blanks behind a text do not belong to its word. -/
theorem takeWhile_isalnum_append (h : t.all isspace = true) :
    (s ++ t).takeWhile isalnum = s.takeWhile isalnum := by
  have hnil : t.takeWhile isalnum = [] := by
    cases t with
    | nil => rfl
    | cons c t =>
      rw [List.all_cons, Bool.and_eq_true] at h
      rw [List.takeWhile_cons_of_neg]
      intro hc
      have hblank := (not_blank_of_isalnum hc).1
      rw [h.1] at hblank
      cases hblank
  rw [List.takeWhile_append]
  split
  · rename_i hall
    rw [hnil, List.append_nil]
    exact ((List.takeWhile_prefix isalnum).eq_of_length hall).symm
  · rfl

/-- Trimming does not change the integer that is read. -/
theorem paramValue_of_number (h : number s = some v) :
    s.all isspace = false ∧ paramValue (trim s) = clampLong v := by
  have hsplit : trim s ++ (s.dropWhile isspace).rtakeWhile isspace = s.dropWhile isspace :=
    List.rdropWhile_append_rtakeWhile
  have hblanks : ((s.dropWhile isspace).rtakeWhile isspace).all isspace = true :=
    List.all_eq_true.mpr fun c hc => List.mem_rtakeWhile_imp hc
  have hne : s.all isspace = false := by
    rw [← Bool.not_eq_true]
    intro hall
    rw [number, List.dropWhile_eq_nil_iff.mpr fun c hc => List.all_eq_true.mp hall c hc] at h
    cases h
  refine ⟨hne, paramValue_of_leadingNumber ?_⟩
  rw [number, ← hsplit] at h
  have htrim : trim s ≠ [] := by
    rw [ne_eq, trim_eq_nil_iff, hne]
    decide
  rw [← h]
  obtain ⟨c, t, ht⟩ := List.exists_cons_of_ne_nil htrim
  rw [ht, List.cons_append, leadingNumber, leadingNumber, takeWhile_isalnum_append hblanks,
    ← List.cons_append, takeWhile_isalnum_append hblanks]

/-- The beginning of a word of digits is one, with a value that is not larger. -/
theorem numeral_takeWhile_prefix {base n : Nat} (hbase : 0 < base) (hs : s ≠ [])
    (h : numeral base ((s ++ t).takeWhile isalnum) = some n) :
    ∃ m ≤ n, numeral base (s.takeWhile isalnum) = some m := by
  rw [List.takeWhile_append] at h
  split at h
  · rename_i hall
    rw [(List.takeWhile_prefix isalnum).eq_of_length hall]
    exact numeral_prefix hbase h hs
  · exact ⟨n, Nat.le_refl n, h⟩

/-- A numeral that is cut short is "0x" or one of a number that is not greater. -/
theorem wordNumber_prefix {n : Nat} (hs : s ≠ [])
    (h : wordNumber ((s ++ t).takeWhile isalnum) = some n) :
    s ∈ [[48, 120], [48, 88]] ∨ ∃ m ≤ n, wordNumber (s.takeWhile isalnum) = some m := by
  rw [List.takeWhile_append] at h
  split at h
  · rename_i hall
    rw [(List.takeWhile_prefix isalnum).eq_of_length hall]
    generalize t.takeWhile isalnum = w at h
    rcases s with _ | ⟨c, _ | ⟨x, a⟩⟩
    · exact absurd rfl hs
    · right
      cases w with
      | nil => exact ⟨n, Nat.le_refl n, h⟩
      | cons x w =>
        rw [List.singleton_append, wordNumber] at h
        split at h
        · rename_i hhex
          rw [hhex.1]
          exact ⟨0, Nat.zero_le n, by decide⟩
        · exact numeral_prefix (by decide) (s := [c]) h hs
    · rw [List.cons_append, List.cons_append, wordNumber] at h
      split at h
      · rename_i hhex
        by_cases ha : a = []
        · left
          rw [ha, hhex.1]
          rcases hhex.2 with rfl | rfl
          · decide
          · decide
        · right
          rw [wordNumber, if_pos hhex]
          exact numeral_prefix (by decide) h ha
      · rename_i hhex
        right
        rw [wordNumber, if_neg hhex]
        exact numeral_prefix (by decide) (s := c :: x :: a) h hs
  · exact .inr ⟨n, Nat.le_refl n, h⟩

/-- What is left of an integer when it is cut: nothing yet, or an integer that is not further from
0. -/
theorem leadingNumber_prefix (hs : s ≠ []) (h : leadingNumber (s ++ t) = some v) :
    s ∈ [[45], [43], [48, 120], [48, 88]] ∨
      ∃ v', leadingNumber s = some v' ∧ (0 < v' → v' ≤ v) ∧ (v' < 0 → v ≤ v') := by
  obtain ⟨c, a, rfl⟩ := List.exists_cons_of_ne_nil hs
  rw [List.cons_append, leadingNumber] at h
  rw [leadingNumber]
  split at h
  · rename_i hminus
    obtain ⟨n, hn, rfl⟩ := Option.map_eq_some_iff.mp h
    by_cases ha : a = []
    · left
      rw [hminus, ha]
      decide
    · obtain ⟨m, hle, hm⟩ := numeral_takeWhile_prefix (by decide) ha hn
      right
      rw [if_pos hminus, hm]
      exact ⟨-(m : Int), rfl, by omega, by omega⟩
  · rename_i hminus
    split at h
    · rename_i hplus
      obtain ⟨n, hn, rfl⟩ := Option.map_eq_some_iff.mp h
      by_cases ha : a = []
      · left
        rw [hplus, ha]
        decide
      · obtain ⟨m, hle, hm⟩ := numeral_takeWhile_prefix (by decide) ha hn
        right
        rw [if_neg hminus, if_pos hplus, hm]
        exact ⟨m, rfl, by omega, by omega⟩
    · rename_i hplus
      obtain ⟨n, hn, rfl⟩ := Option.map_eq_some_iff.mp h
      rw [← List.cons_append] at hn
      rcases wordNumber_prefix hs hn with hmem | ⟨m, hle, hm⟩
      · exact .inl (List.mem_cons_of_mem _ (List.mem_cons_of_mem _ hmem))
      · right
        rw [if_neg hminus, if_neg hplus, hm]
        exact ⟨m, rfl, by omega, by omega⟩

end Numbers

/-! ## One buffer -/

section Buffer

variable (buf : List Char8)

/-- The loop over the table sets the parameter with this name. -/
theorem table_fold (conf : GpsConf) (name : List Char8) (v : BitVec 32) :
    locParameterTable.foldl (fun c p =>
      if p.name = name then fun q => if q = p then v else c q else c) conf =
    (paramOf name).elim conf fun p q => if q = p then v else conf q := by
  cases hp : paramOf name with
  | none =>
    have hne (p : Param) (hmem : p ∈ locParameterTable) : ¬ p.name = name := by
      have hnone := List.find?_eq_none.mp hp p hmem
      simpa using hnone
    simp only [locParameterTable, List.foldl_cons, List.foldl_nil]
    rw [if_neg (hne _ (by decide)), if_neg (hne _ (by decide)), if_neg (hne _ (by decide)),
      if_neg (hne _ (by decide))]
    rfl
  | some p =>
    have hname : p.name = name := by
      have hfound := List.find?_some hp
      simpa using hfound
    subst hname
    simp only [locParameterTable, List.foldl_cons, List.foldl_nil]
    cases p with
    | intermediatePos => rfl
    | accuracyThres => rfl
    | enableWiper => rfl
    | debugLevel => rfl

/-- What a buffer does to the parameters. -/
def apply (conf : GpsConf) : Option (Param × BitVec 32) → GpsConf
  | none => conf
  | some (p, v) => fun q => if q = p then v else conf q

/-- A piece of a line is applied as the setting it is read as. -/
theorem confStep_eq (conf : GpsConf) : confStep conf buf = apply conf (setting buf) := by
  unfold confStep setting
  cases operands buf with
  | none => rfl
  | some o =>
    obtain ⟨name, value⟩ := o
    show locParameterTable.foldl _ conf = _
    rw [table_fold]
    cases hp : paramOf (trimSpace name) with
    | none => simp [hp, apply]
    | some p => simp [hp, apply]

/-- The second call of `strtok_r` finds the value. -/
theorem strtok_tail_dropWhile (text : List Char8) :
    (strtok eqSign (text.dropWhile (· ≠ eqSign)).tail).map (·.1) =
      if valueText text = [] then none else some (valueText text) := by
  have hskip : (text.dropWhile (· ≠ eqSign)).tail.dropWhile (· == eqSign) =
      (text.dropWhile (· ≠ eqSign)).dropWhile (· == eqSign) := by
    cases hd : text.dropWhile (· ≠ eqSign) with
    | nil => rfl
    | cons c rest =>
      have hc := List.head?_dropWhile_not (· ≠ eqSign) text
      rw [hd] at hc
      have hsep : c = eqSign := not_not.mp (of_decide_eq_false hc)
      rw [List.tail_cons, List.dropWhile_cons, if_pos (beq_iff_eq.mpr hsep)]
  have hempty : valueText text = [] ↔
      (text.dropWhile (· ≠ eqSign)).dropWhile (· == eqSign) = [] := by
    unfold valueText
    cases hd : (text.dropWhile (· ≠ eqSign)).dropWhile (· == eqSign) with
    | nil => simp
    | cons c rest =>
      have hc := List.head?_dropWhile_not (· == eqSign) (text.dropWhile (· ≠ eqSign))
      rw [hd] at hc
      have hother : decide (c ≠ eqSign) = true := decide_eq_true (beq_eq_false_iff_ne.mp hc)
      rw [List.takeWhile_cons, if_pos hother]
      simp
  simp only [strtok, hskip, hempty]
  split
  · rfl
  · rfl

/-- The two operands of a buffer, behind any leading `=`. -/
theorem operands_eq : operands buf =
    if valueText ((cString buf).dropWhile (· == eqSign)) = [] then none
    else some (nameText ((cString buf).dropWhile (· == eqSign)),
      valueText ((cString buf).dropWhile (· == eqSign))) := by
  have hfirst : strtok eqSign (cString buf) =
      if (cString buf).dropWhile (· == eqSign) = [] then none
      else some (nameText ((cString buf).dropWhile (· == eqSign)),
        (((cString buf).dropWhile (· == eqSign)).dropWhile (· ≠ eqSign)).tail) := rfl
  rw [operands, hfirst]
  generalize (cString buf).dropWhile (· == eqSign) = text
  have hvalue := strtok_tail_dropWhile text
  by_cases hnil : text = []
  · subst hnil
    rfl
  · rw [if_neg hnil, Option.bind_some]
    split
    · rename_i hempty
      rw [if_pos hempty, Option.map_eq_none_iff] at hvalue
      exact Option.map_eq_none_iff.mpr hvalue
    · rename_i hne
      rw [if_neg hne] at hvalue
      obtain ⟨t, ht, hfst⟩ := Option.map_eq_some_iff.mp hvalue
      exact Option.map_eq_some_iff.mpr ⟨t, ht, by rw [hfst]⟩

/-- A line that begins with `=` has no name. -/
theorem stated_of_leading (h : (cString buf).head? = some eqSign) : stated buf = none := by
  have hname : nameText (cString buf) = [] := by
    cases hs : cString buf with
    | nil => rfl
    | cons c s =>
      rw [hs] at h
      cases h
      rfl
  rw [stated, hname]
  rfl

/-- A buffer sets nothing iff it names no parameter. -/
theorem setting_eq_none_iff : setting buf = none ↔ ¬ NamesParam (cString buf) := by
  unfold setting NamesParam
  rw [operands_eq]
  split
  · rename_i hempty
    simp [hempty]
  · rename_i hne
    rw [Option.bind_some, Option.map_eq_none_iff, paramOf_trimSpace]
    simp [hne]

/-- What is stored is an integer that is a `long` and not negative. -/
theorem toNat_ofInt_clampLong {v w : Int} (h : ((BitVec.ofInt 32 (clampLong v)).toNat : Int) = w) :
    (0 ≤ v ∧ v ≤ 2147483647 → w = v) ∧ (v < 0 → 0 ≤ w) ∧ (2147483647 < v → w = 2147483647) := by
  rw [BitVec.toNat_ofInt, clampLong] at h
  omega

theorem toNat_ofInt_clampLong_eq {v : Int} (h0 : 0 ≤ v) (h : v ≤ 2147483647) :
    ((BitVec.ofInt 32 (clampLong v)).toNat : Int) = v :=
  ((toNat_ofInt_clampLong rfl).1 ⟨h0, h⟩)

/-- A value that is cut is stored as the whole one exactly if that is no negative `long`, and all
of it is there or it is 0. -/
theorem stored_eq_iff {s t : List Char8} {v : Int} (h : number (s ++ t) = some v) :
    ((BitVec.ofInt 32 (paramValue (trimSpace s))).toNat : Int) = v ↔
      0 ≤ v ∧ v ≤ 2147483647 ∧ Shows s v := by
  have hzero (hval : paramValue (trimSpace s) = 0) (hnone : number s = none) :
      ((BitVec.ofInt 32 (paramValue (trimSpace s))).toNat : Int) = v ↔
        0 ≤ v ∧ v ≤ 2147483647 ∧ Shows s v := by
    rw [hval, Shows, hnone]
    constructor
    · rintro rfl
      exact ⟨by decide, by decide, .inr rfl⟩
    · rintro ⟨-, -, hshows⟩
      rw [hshows.resolve_left (by simp)]
      rfl
  by_cases hblank : s.all isspace = true
  · have hdrop : s.dropWhile isspace = [] :=
      List.dropWhile_eq_nil_iff.mpr fun c hc => List.all_eq_true.mp hblank c hc
    refine hzero ?_ (by rw [number, hdrop]; rfl)
    rw [trimSpace_eq, if_pos hblank, paramValue_blank hblank]
  · have hdrop : s.dropWhile isspace ≠ [] := by
      intro hnil
      exact hblank (List.all_eq_true.mpr fun c hc => List.dropWhile_eq_nil_iff.mp hnil c hc)
    rw [number, List.dropWhile_append, if_neg (by rw [List.isEmpty_iff]; exact hdrop)] at h
    rcases leadingNumber_prefix hdrop h with hmem | ⟨v', hv', hpos, hneg⟩
    · refine hzero ?_ ?_
      · rw [trimSpace_eq, if_neg hblank, trim]
        revert hmem
        generalize s.dropWhile isspace = u
        revert u
        decide
      · rw [number]
        revert hmem
        generalize s.dropWhile isspace = u
        revert u
        decide
    · have hnumber : number s = some v' := hv'
      have hval : paramValue (trimSpace s) = clampLong v' := by
        rw [trimSpace_eq, if_neg hblank, (paramValue_of_number hnumber).2]
      rw [hval, Shows, hnumber, Option.some.injEq]
      constructor
      · intro heq
        have hbound := toNat_ofInt_clampLong heq
        omega
      · rintro ⟨h0, hmax, rfl | rfl⟩
        · exact toNat_ofInt_clampLong_eq h0 hmax
        · have hv0 : v' = 0 := by omega
          rw [hv0]
          rfl

end Buffer

/-! ## The beginning of a line -/

section Head

variable {text : List Char8} {n : Nat}

/-- Cutting a line cuts the text before its terminator. -/
theorem cString_take (line : List Char8) (n : Nat) :
    cString (line.take n) = (cString line).take n := by
  unfold cString
  induction line generalizing n with
  | nil => rw [List.take_nil, List.takeWhile_nil, List.take_nil]
  | cons c line ih =>
    cases n with
    | zero => rfl
    | succ n =>
      rw [List.take_succ_cons]
      by_cases hc : c = 0
      · rw [List.takeWhile_cons_of_neg (by rw [hc]; decide),
          List.takeWhile_cons_of_neg (by rw [hc]; decide), List.take_nil]
      · have hpos : decide (c ≠ 0) = true := decide_eq_true hc
        rw [List.takeWhile_cons, if_pos hpos, List.takeWhile_cons, if_pos hpos,
          List.take_succ_cons, ih]

theorem dropWhile_eq_self_of_head {p : Char8 → Bool} (h : ∀ c ∈ text.head?, p c = false) :
    text.dropWhile p = text := by
  cases text with
  | nil => rfl
  | cons c s => exact List.dropWhile_cons_of_neg (by rw [h c rfl]; decide)

/-- If a text has a value, the same name and the beginning of the same value are in any text that
goes on with it. -/
theorem nameText_append {s t : List Char8} (h : valueText s ≠ []) :
    nameText (s ++ t) = nameText s ∧ ∃ r, valueText (s ++ t) = valueText s ++ r := by
  have hdrop : (s.dropWhile (· ≠ eqSign)).dropWhile (· == eqSign) ≠ [] := by
    intro hnil
    rw [valueText, hnil] at h
    exact h rfl
  have hsign : s.dropWhile (· ≠ eqSign) ≠ [] := by
    intro hnil
    rw [hnil] at hdrop
    exact hdrop rfl
  constructor
  · rw [nameText, List.takeWhile_append, if_neg]
    · rfl
    · intro hall
      refine hsign (List.dropWhile_eq_nil_iff.mpr fun c hc => ?_)
      rw [← (List.takeWhile_prefix _).eq_of_length hall] at hc
      have hne : decide (c ≠ eqSign) = true :=
        List.mem_takeWhile_imp (p := fun c => decide (c ≠ eqSign)) hc
      exact hne
  · rw [valueText, List.dropWhile_append, if_neg (by rw [List.isEmpty_iff]; exact hsign),
      List.dropWhile_append, if_neg (by rw [List.isEmpty_iff]; exact hdrop), List.takeWhile_append]
    split
    · rename_i hall
      rw [valueText, (List.takeWhile_prefix _).eq_of_length hall]
      exact ⟨_, rfl⟩
    · exact ⟨[], (List.append_nil _).symm⟩

/-- The first buffer of a line sets what the line says, exactly if the line is understood. -/
theorem setting_head_iff (line : List Char8) :
    (setting (line.take (locMaxParamLine - 1))).map shown = stated line ↔
      (NamesParam (headText line) → (cString line).head? ≠ some eqSign ∧
        ∃ v, number (valueText (cString line)) = some v ∧ 0 ≤ v ∧ v ≤ 2147483647 ∧
          Shows (valueText (headText line)) v) ∧
      (stated line ≠ none → NamesParam (headText line)) := by
  have hhead : cString (line.take (locMaxParamLine - 1)) = headText line := cString_take line _
  by_cases hnames : NamesParam (headText line)
  · rw [and_iff_left fun _ => hnames, imp_iff_right hnames]
    have hsets : setting (line.take (locMaxParamLine - 1)) ≠ none := by
      rw [ne_eq, setting_eq_none_iff, hhead, not_not]
      exact hnames
    by_cases hlead : (cString line).head? = some eqSign
    · rw [stated_of_leading line hlead, Option.map_eq_none_iff]
      exact iff_of_false hsets fun h => h.1 hlead
    · rw [and_iff_right hlead]
      have hfirst : (headText line).head? = (cString line).head? := by
        rw [headText]
        cases cString line with
        | nil => rfl
        | cons c s => rfl
      have hskip : (headText line).dropWhile (· == eqSign) = headText line := by
        refine dropWhile_eq_self_of_head fun c hc => beq_eq_false_iff_ne.mpr ?_
        rintro rfl
        exact hlead (hfirst ▸ hc)
      obtain ⟨hname, hvalue⟩ := hnames
      rw [hskip] at hname hvalue
      obtain ⟨p, hp⟩ := Option.isSome_iff_exists.mp hname
      obtain ⟨hsame, r, hr⟩ :=
        nameText_append (t := (cString line).drop (locMaxParamLine - 1)) hvalue
      have hwhole : headText line ++ (cString line).drop (locMaxParamLine - 1) = cString line :=
        List.take_append_drop _ _
      rw [hwhole] at hsame hr
      have hset : setting (line.take (locMaxParamLine - 1)) =
          some (p, BitVec.ofInt 32 (paramValue (trimSpace (valueText (headText line))))) := by
        rw [setting, operands_eq, hhead, hskip, if_neg hvalue, Option.bind_some,
          paramOf_trimSpace, hp, Option.map_some]
      rw [hset, stated, hsame, hp, Option.bind_some, Option.map_some, shown]
      cases hn : number (valueText (cString line)) with
      | none => simp
      | some v =>
        have hstored := stored_eq_iff (hr ▸ hn)
        rw [Option.map_some, Option.some.injEq, Prod.mk.injEq, and_iff_right rfl, hstored]
        constructor
        · intro h
          exact ⟨v, rfl, h⟩
        · rintro ⟨w, hw, h⟩
          rw [Option.some.inj hw]
          exact h
  · rw [(setting_eq_none_iff _).mpr (by rw [hhead]; exact hnames), Option.map_none]
    constructor
    · intro hnone
      exact ⟨fun h => absurd h hnames, fun h => absurd hnone.symm h⟩
    · rintro ⟨-, hstated⟩
      by_contra hne
      exact hnames (hstated fun h => hne h.symm)

end Head

/-! ## The file -/

/-- A line that fits into the buffer is read as it is. -/
theorem pieces_of_le {line : List Char8} (h : line.length ≤ locMaxParamLine - 1) :
    pieces line = [line] := by
  rw [pieces, if_pos h]

/-- A longer one is read in pieces of the buffer's size. -/
theorem pieces_of_lt {line : List Char8} (h : ¬ line.length ≤ locMaxParamLine - 1) :
    pieces line =
      line.take (locMaxParamLine - 1) :: pieces (line.drop (locMaxParamLine - 1)) := by
  rw [pieces, if_neg h]

/-- The buffers of the file are the pieces of its lines. -/
theorem readLoop_eq (conf : GpsConf) (file : List Char8) :
    readLoop conf file = ((lines file).flatMap pieces).foldl confStep conf := by
  induction conf, file using readLoop.induct with
  | case1 conf =>
    rw [readLoop]
    rfl
  | case2 conf file hne ih =>
    obtain ⟨c, s, rfl⟩ := List.exists_cons_of_ne_nil hne
    rw [readLoop, dif_neg hne, ih, lines_cons, List.flatMap_cons, fgets_eq]
    by_cases hlen : (firstLine (c :: s)).length ≤ locMaxParamLine - 1
    · -- the line fits
      rw [List.take_of_length_le hlen, pieces_of_le hlen]
      rfl
    · -- it does not, and the rest of it is read as the next line
      have htake : ((firstLine (c :: s)).take (locMaxParamLine - 1)).length =
          locMaxParamLine - 1 := by
        rw [List.length_take]
        omega
      rw [htake, lines_drop (by omega), List.flatMap_cons, pieces_of_lt hlen, List.cons_append,
        List.foldl_cons]

/-- The file is read piece by piece, from the defaults on. -/
theorem locReadGpsConf_eq (file : List Char8) :
    locReadGpsConf (some file) =
      ((lines file).flatMap pieces).foldl confStep locDefaultParameters :=
  readLoop_eq _ file

section Lines

variable {line : List Char8}

/-- The first piece is what fits into the buffer. -/
theorem pieces_head (line : List Char8) :
    (pieces line).head? = some (line.take (locMaxParamLine - 1)) := by
  by_cases hlen : line.length ≤ locMaxParamLine - 1
  · rw [pieces_of_le hlen, List.take_of_length_le hlen]
    rfl
  · rw [pieces_of_lt hlen]
    rfl

/-- What holds for the first piece and for the others. -/
theorem plain_iff : Plain line ↔
    (∀ buf ∈ (pieces line).head?, (setting buf).map shown = stated line) ∧
      ∀ buf ∈ (pieces line).tail, setting buf = none := by
  have hhead : (∀ buf ∈ (pieces line).head?, (setting buf).map shown = stated line) ↔
      (setting (line.take (locMaxParamLine - 1))).map shown = stated line := by
    rw [pieces_head]
    simp
  rw [hhead, setting_head_iff]
  constructor
  · intro h
    exact ⟨⟨h.value, h.named⟩, fun buf hbuf => (setting_eq_none_iff buf).mpr (h.tails buf hbuf)⟩
  · rintro ⟨⟨hvalue, hnamed⟩, htails⟩
    exact ⟨hvalue, hnamed, fun buf hbuf => (setting_eq_none_iff buf).mp (htails buf hbuf)⟩

/-- Pieces that set nothing change nothing. -/
theorem fold_of_none {bufs : List (List Char8)} (h : ∀ buf ∈ bufs, setting buf = none)
    (conf : GpsConf) : bufs.foldl confStep conf = conf := by
  induction bufs with
  | nil => rfl
  | cons buf bufs ih =>
    rw [List.foldl_cons, confStep_eq, h buf List.mem_cons_self]
    exact ih fun b hb => h b (List.mem_cons_of_mem _ hb)

/-- **Step lemma**: a line that is understood sets what it says. -/
theorem Plain.fold (h : Plain line) (conf : GpsConf) :
    ∃ s : Option (Param × BitVec 32), s.map shown = stated line ∧
      (pieces line).foldl confStep conf = apply conf s := by
  obtain ⟨hhead, htail⟩ := plain_iff.mp h
  have hfirst := pieces_head line
  cases hpieces : pieces line with
  | nil =>
    rw [hpieces] at hfirst
    cases hfirst
  | cons buf bufs =>
    rw [hpieces] at hhead htail
    refine ⟨setting buf, hhead buf rfl, ?_⟩
    rw [List.foldl_cons, confStep_eq]
    exact fold_of_none htail _

/-- **Run lemma**: of the lines that set a parameter the last one counts. -/
theorem fold_lines {ls : List (List Char8)} (h : ∀ line ∈ ls, Plain line) (conf : GpsConf)
    (p : Param) : (((ls.flatMap pieces).foldl confStep conf p).toNat : Int) =
      ((ls.filterMap stated).filter (·.1 = p)).getLast?.elim ((conf p).toNat : Int)
        (·.2) := by
  induction ls using List.reverseRecOn with
  | nil => rfl
  | append_singleton ls line ih =>
    have hls := ih fun l hl => h l (List.mem_append_left _ hl)
    obtain ⟨s, hs, hfold⟩ := (h line (List.mem_append_right _ List.mem_cons_self)).fold
      ((ls.flatMap pieces).foldl confStep conf)
    rw [List.flatMap_append, List.flatMap_singleton, List.foldl_append, hfold,
      List.filterMap_append, List.filter_append]
    cases s with
    | none =>
      have hstated : stated line = none := hs.symm
      simpa [hstated, apply] using hls
    | some pv =>
      obtain ⟨q, v⟩ := pv
      have hstated : stated line = some (q, (v.toNat : Int)) := hs.symm
      by_cases hq : q = p
      · simp [hstated, apply, hq]
      · simpa [hstated, apply, hq, Ne.symm hq] using hls

end Lines

/-- **gps.conf is read line by line** iff each of its lines is plain: if a parameter is named in
its first 79 characters, it does not begin with `=` and has an integer from 0 to 2147483647, all
of which is there; if it says something, a parameter is named there; and no later piece of it
names one. -/
theorem conf_line_by_line_iff (file : List Char8) :
    LineByLine file ↔ ∀ line ∈ lines file, Plain line := by
  constructor
  · intro h line hline
    exact plain_iff.mpr ⟨h.heads line hline, h.tails line hline⟩
  · intro h
    refine ⟨fun p => ?_, fun line hline => (plain_iff.mp (h line hline)).1,
      fun line hline => (plain_iff.mp (h line hline)).2⟩
    rw [locReadGpsConf_eq, fold_lines h]
    rfl

/-- A comment of which 79 characters fit into the buffer. -/
def longComment : List Char8 := List.replicate 79 35 ++ ascii "DEBUG_LEVEL=5"

/-- `DEBUG_LEVEL=` with nothing but the newline behind it. -/
def blankDebugLevel : List Char8 := ascii "DEBUG_LEVEL=\\n"

/-- An integer that is an `unsigned long` but no `long`. -/
def hugeThreshold : List Char8 := ascii "ACCURACY_THRES=0xFFFFFFFF\\n"

/-- One parameter with another value than was said last is enough. -/
theorem not_lineByLine {file : List Char8} {p : Param} {v : BitVec 32} {w : Int}
    (hread : locReadGpsConf (some file) p = v) (hsaid : lastSaid p (lines file) = w)
    (hne : (v.toNat : Int) ≠ w) : ¬ LineByLine file := by
  intro h
  refine hne ?_
  rw [← hread, h.values p, hsaid]

theorem conf_not_line_by_line :
    (locReadGpsConf (some longComment) .debugLevel = 5 ∧ ¬ LineByLine longComment) ∧
    (locReadGpsConf (some blankDebugLevel) .debugLevel = 0 ∧ ¬ LineByLine blankDebugLevel) ∧
    locReadGpsConf (some hugeThreshold) .accuracyThres = 0x7fffffff ∧
      ¬ LineByLine hugeThreshold := by
  have hlong : locReadGpsConf (some longComment) .debugLevel = 5 := by
    have hlines : lines longComment = [longComment] := by decide
    rw [locReadGpsConf_eq, hlines, List.flatMap_singleton, pieces_of_lt (by decide),
      pieces_of_le (by decide)]
    decide
  have hblank : locReadGpsConf (some blankDebugLevel) .debugLevel = 0 := by
    have hlines : lines blankDebugLevel = [blankDebugLevel] := by decide
    rw [locReadGpsConf_eq, hlines, List.flatMap_singleton, pieces_of_le (by decide)]
    decide
  have hhuge : locReadGpsConf (some hugeThreshold) .accuracyThres = 0x7fffffff := by
    have hlines : lines hugeThreshold = [hugeThreshold] := by decide
    rw [locReadGpsConf_eq, hlines, List.flatMap_singleton, pieces_of_le (by decide)]
    decide
  have hlongSaid : lastSaid .debugLevel (lines longComment) = 2 := by decide
  have hblankSaid : lastSaid .debugLevel (lines blankDebugLevel) = 2 := by decide
  have hhugeSaid : lastSaid .accuracyThres (lines hugeThreshold) = 4294967295 := by decide
  exact ⟨⟨hlong, not_lineByLine hlong hlongSaid (by decide)⟩,
    ⟨hblank, not_lineByLine hblank hblankSaid (by decide)⟩,
    hhuge, not_lineByLine hhuge hhugeSaid (by decide)⟩

end Ancora.LocEng.Config
