import Ancora.Lib.JavaString

/-!
# Network time (SamsungRIL.java:431–462)

A NITZ string has eight fields, "yy/mm/dd,hh:mm:ss±zz,dst", and the modem adds a tail of its
own. `processUnsolicited` counts the fields and cuts the string at its last comma if there are
more than eight. A registrant is notified of the string and the time it was received; where
there is none yet, `mLastNITZTimeInfo` is left for it.

The fields are counted with `String.split`, which drops the empty ones at the end, so a tail of
separators alone is not seen; the last comma may be one in the middle of the tail; and what is
left for a later registrant is the string without the time.

- `NetworkTime`: the eight fields; `tailText`: the tail.
- `stripNitz_eq`: what is cut off.
- **`nitz_delivered_iff`**: the registrant gets the network's string and the time of its
  receipt, if and only if it is registered already and the tail is empty or has no further comma
  and something besides separators.
-/

namespace Ancora.Ril.Nitz

open JavaString

/-- A UTF-16 code unit. -/
abbrev JChar := BitVec 16

def chr (c : Char) : JChar := BitVec.ofNat 16 c.toNat

def text (s : List Char) : List JChar := s.map chr

def comma : JChar := chr ','

/-- The regular expression `[/:,+-]`. -/
def isSep (c : JChar) : Bool :=
  c == chr '/' || c == chr ':' || c == comma || c == chr '+' || c == chr '-'

/-! ## The code -/

/-- The object that a registrant gets for its result: the string alone, or `Object[2]` with the
string and the time. -/
inductive NitzInfo
  | string (nitz : List JChar)
  | result (nitz : List JChar) (nitzReceiveTime : BitVec 64)
  deriving DecidableEq

structure NitzState where
  /-- `mNITZTimeRegistrant != null` -/
  registered : Bool
  mLastNITZTimeInfo : Option NitzInfo
  /-- The results the registrants have been notified of. -/
  notified : List NitzInfo

/-- "remove the tailing information that samsung added to the string"; `none` is the exception
that `substring` throws for a negative index. -/
def stripNitz (nitz : List JChar) : Option (List JChar) :=
  if 9 ≤ (split isSep nitz).length then (lastIndexOf comma nitz).map nitz.take
  else some nitz

/-- `processUnsolicited` for RIL_UNSOL_NITZ_TIME_RECEIVED, with the string and the time of the
parcel. -/
def processUnsolicited (s : NitzState) (nitz : List JChar) (nitzReceiveTime : BitVec 64) :
    Option NitzState :=
  (stripNitz nitz).map fun nitz =>
    if s.registered then { s with notified := s.notified ++ [.result nitz nitzReceiveTime] }
    else { s with mLastNITZTimeInfo := some (.string nitz) }

/-- `RIL.setOnNITZTime`, which hands over `mLastNITZTimeInfo`. -/
def setOnNITZTime (s : NitzState) : NitzState :=
  match s.mLastNITZTimeInfo with
  | some info => ⟨true, none, s.notified ++ [info]⟩
  | none => { s with registered := true }

/-- The string is received, and who is not registered by then does it afterwards. -/
def received (s : NitzState) (nitz : List JChar) (nitzReceiveTime : BitVec 64) :
    Option (List NitzInfo) :=
  (processUnsolicited s nitz nitzReceiveTime).map fun s' =>
    (if s'.registered then s' else setOnNITZTime s').notified

/-! ## The strings -/

/-- The eight fields of a network time; two digits each in a standard string. -/
structure NetworkTime where
  yy : List JChar
  mm : List JChar
  dd : List JChar
  hh : List JChar
  min : List JChar
  ss : List JChar
  sign : JChar
  zone : List JChar
  dst : List JChar
  signed : sign = chr '+' ∨ sign = chr '-'
  fields : ([yy, mm, dd, hh, min, ss, zone, dst].all fun f => !f.any isSep) = true

/-- `yy/mm/dd,hh:mm:ss±zz,dst` -/
def NetworkTime.toText (t : NetworkTime) : List JChar :=
  t.yy ++ chr '/' :: (t.mm ++ chr '/' :: (t.dd ++ comma :: (t.hh ++ chr ':' :: (t.min ++
    chr ':' :: (t.ss ++ t.sign :: (t.zone ++ comma :: t.dst))))))

/-- The tail: none, or a comma and anything. -/
def tailText : Option (List JChar) → List JChar
  | none => []
  | some v => comma :: v

section Strip

variable {t : NetworkTime} {v : List JChar}

theorem isSep_sign (t : NetworkTime) : isSep t.sign = true := by
  rcases t.signed with h | h
  · rw [h]
    decide
  · rw [h]
    decide

theorem splitOnP_toText (t : NetworkTime) :
    t.toText.splitOnP isSep = [t.yy, t.mm, t.dd, t.hh, t.min, t.ss, t.zone, t.dst] := by
  have hf : ∀ f ∈ [t.yy, t.mm, t.dd, t.hh, t.min, t.ss, t.zone, t.dst], ∀ c ∈ f,
      isSep c = false := by
    intro f hmem
    have hany := List.all_eq_true.mp t.fields f hmem
    rw [Bool.not_eq_true', List.any_eq_false] at hany
    exact fun c hc => Bool.eq_false_iff.mpr (hany c hc)
  simp only [List.forall_mem_cons, List.not_mem_nil, false_implies, implies_true, and_true] at hf
  obtain ⟨hyy, hmm, hdd, hhh, hmin, hss, hzone, hdst⟩ := hf
  rw [NetworkTime.toText,
    List.splitOnP_append_cons_of_forall_mem hyy _ (by decide),
    List.splitOnP_append_cons_of_forall_mem hmm _ (by decide),
    List.splitOnP_append_cons_of_forall_mem hdd _ (by decide),
    List.splitOnP_append_cons_of_forall_mem hhh _ (by decide),
    List.splitOnP_append_cons_of_forall_mem hmin _ (by decide),
    List.splitOnP_append_cons_of_forall_mem hss _ (isSep_sign t),
    List.splitOnP_append_cons_of_forall_mem hzone _ (by decide),
    List.splitOnP_eq_singleton hdst]

/-- Without a tail nothing is cut off. -/
theorem stripNitz_toText (t : NetworkTime) : stripNitz t.toText = some t.toText := by
  refine if_neg (Nat.not_le.mpr (Nat.lt_succ_of_le ?_))
  exact (length_split_le t.toText).trans (Nat.le_of_eq (congrArg List.length (splitOnP_toText t)))

/-- The tail counts unless it is made of separators. -/
theorem nine_le_iff (t : NetworkTime) (v : List JChar) :
    9 ≤ (split isSep (t.toText ++ comma :: v)).length ↔ ∃ c ∈ v, isSep c = false := by
  rw [← lt_length_split_iff (t := t.toText) (c := comma) (by decide), splitOnP_toText]
  rfl

/-- A tail that is not seen stays. -/
theorem stripNitz_separators (h : ¬ ∃ c ∈ v, isSep c = false) :
    stripNitz (t.toText ++ comma :: v) = some (t.toText ++ comma :: v) :=
  if_neg fun hlen => h ((nine_le_iff t v).mp hlen)

/-- A tail that is seen is cut off from its last comma on. -/
theorem stripNitz_last {v₁ : List JChar} {v₂ : List JChar}
    (h : ∃ c ∈ v, isSep c = false) (hcut : t.toText ++ comma :: v = v₁ ++ comma :: v₂)
    (hlast : comma ∉ v₂) : stripNitz (t.toText ++ comma :: v) = some v₁ := by
  rw [stripNitz, if_pos ((nine_le_iff t v).mpr h), hcut, lastIndexOf_append_cons v₁ hlast,
    Option.map_some, List.take_left]

/-- What is left is the network's string iff the tail has one comma and is seen. -/
theorem stripNitz_eq (t : NetworkTime) (tail : Option (List JChar)) :
    ∃ nitz, stripNitz (t.toText ++ tailText tail) = some nitz ∧
      (nitz = t.toText ↔
        ∀ v, tail = some v → comma ∉ v ∧ ∃ c ∈ v, isSep c = false) := by
  cases tail with
  | none =>
    refine ⟨t.toText, ?_, ?_⟩
    · rw [tailText, List.append_nil]
      exact stripNitz_toText t
    · exact iff_of_true rfl fun v hv => by cases hv
  | some v =>
    -- longer than the network's string
    have hlong : ∀ r : List JChar, t.toText ++ comma :: r ≠ t.toText := by
      intro r heq
      have hlen := congrArg List.length heq
      simp at hlen
    by_cases hseen : ∃ c ∈ v, isSep c = false
    · by_cases hcomma : comma ∈ v
      · obtain ⟨v₁, v₂, hv, hlast⟩ := exists_last hcomma
        have hcut : t.toText ++ comma :: v = (t.toText ++ comma :: v₁) ++ comma :: v₂ := by
          rw [hv, List.append_assoc, List.cons_append]
        refine ⟨_, stripNitz_last hseen hcut hlast, iff_of_false (hlong v₁) fun h => ?_⟩
        exact (h v rfl).1 hcomma
      · refine ⟨_, stripNitz_last hseen rfl hcomma, iff_of_true rfl ?_⟩
        intro v' hv'
        obtain rfl := Option.some.inj hv'
        exact ⟨hcomma, hseen⟩
    · refine ⟨_, stripNitz_separators hseen, iff_of_false (hlong v) fun h => ?_⟩
      exact hseen (h v rfl).2

end Strip

/-! ## The registrant -/

/-- The network's string and the time of its receipt reach the registrant, if and only if it is
registered when they come and the tail, if there is one, has no further comma and is not made of
separators alone. -/
theorem nitz_delivered_iff (s : NitzState) (t : NetworkTime) (tail : Option (List JChar))
    (m : BitVec 64) :
    received s (t.toText ++ tailText tail) m = some (s.notified ++ [.result t.toText m]) ↔
      s.registered = true ∧ ∀ v, tail = some v → comma ∉ v ∧ ∃ c ∈ v, isSep c = false := by
  obtain ⟨nitz, hnitz, hiff⟩ := stripNitz_eq t tail
  rw [← hiff, received, processUnsolicited, hnitz, Option.map_some, Option.map_some]
  by_cases hreg : s.registered = true
  · simp [hreg]
  · simp [hreg, setOnNITZTime]

/-- "13/07/04,12:30:00+08,1" -/
def sampleTime : NetworkTime where
  yy := text ['1', '3']
  mm := text ['0', '7']
  dd := text ['0', '4']
  hh := text ['1', '2']
  min := text ['3', '0']
  ss := text ['0', '0']
  sign := chr '+'
  zone := text ['0', '8']
  dst := text ['1']
  signed := .inl rfl
  fields := rfl

/-- The tail ",5,0" is cut off in the middle, the tail "," stays, and a registrant that comes
later gets no time. -/
theorem nitz_not_delivered :
    received ⟨true, none, []⟩ (sampleTime.toText ++ tailText (some (text ['5', ',', '0']))) 7 ≠
      some [.result sampleTime.toText 7] ∧
    received ⟨true, none, []⟩ (sampleTime.toText ++ tailText (some [])) 7 ≠
      some [.result sampleTime.toText 7] ∧
    received ⟨false, none, []⟩ (sampleTime.toText ++ tailText none) 7 ≠
      some [.result sampleTime.toText 7] := by
  refine ⟨?_, ?_, ?_⟩
  · decide
  · decide
  · decide

end Ancora.Ril.Nitz
