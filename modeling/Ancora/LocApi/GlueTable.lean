import Ancora.LocApi.Glue
import Ancora.Lib.Machine
import Ancora.Lib.History

/-!
# The callback table (loc_api_rpc_glue.c:277–372)

Calls to `loc_open` and `loc_close` in any order, with whatever the RPCs bring back. A
history records which opens returned a handle, and where it was stored, and which closes
returned.

- `Live log i cb h`: a `loc_open` of `cb` stored the valid handle `h` in entry `i`, and no
  `loc_close` of `h` has returned since.
- `TableInv`: an entry is in use iff such an open is live, the used entries have different
  callbacks and handles, and while there are any there is a client.
- `tableTimely`: the calls that keep it so: no NULL callback, a `loc_open` of a new callback
  gets a valid handle that nobody else has, and `loc_close` gets through only for the last
  client.
- **`callback_table`**: `TableInv` holds after every such run, a `loc_open` that fails leaves
  the table as it was, and `loc_close` changes only the entry that holds the handle.
-/

namespace Ancora.LocApi

open Machine History

variable {κ : Type}

/-- The two searches of `loc_open`, for a callback that may be NULL. -/
def Glue.slotOf [DecidableEq κ] (g : Glue κ) (cb : Option κ) : Option Nat :=
  (g.table.findIdx? fun e => e.cbFunc = cb) <|> g.table.findIdx? fun e => e.cbFunc = none

/-- `loc_open` (loc_api_rpc_glue.c:277) for a callback that may be NULL. -/
def locOpenPtr [DecidableEq κ] (cb : Option κ) (reply : Option Int) (g : Glue κ) : Int × Glue κ :=
  if !g.clnt then (rpcLocApiRpcFailure, g)
  else
    match g.slotOf cb with
    | none => (rpcLocClientHandleInvalid, g)
    | some i =>
      let g := g.modify i fun e => { e with cbFunc := cb }
      match reply with
      | none => (rpcLocApiRpcFailure, g)
      | some h => (h, g.modify i fun e => { e with handle := h })

/-- The two calls, each with what its RPC brings back. -/
inductive GlueAct (κ : Type)
  | locOpen (cb : Option κ) (reply : Option Int)
  | locClose (handle : Int) (reply : Option Int)
  deriving DecidableEq, Repr

def glueStep [DecidableEq κ] (g : Glue κ) : GlueAct κ → Option (Glue κ)
  | .locOpen cb reply => some (locOpenPtr cb reply g).2
  | .locClose handle reply => some (locClose handle reply g).2

/-- What the callers of the two functions see. -/
inductive GlueEvent (κ : Type)
  /-- `loc_open` returned the valid handle `h`, which is stored in entry `i`. -/
  | opened (cb : κ) (i : Nat) (h : Int)
  /-- `loc_close` returned. -/
  | closed (h : Int)
  deriving DecidableEq, Repr

def glueEvents [DecidableEq κ] (g : Glue κ) : GlueAct κ → Glue κ → List (GlueEvent κ)
  | .locOpen (some cb) (some h), _ =>
    match g.slotOf (some cb) with
    | some i => if g.clnt = true ∧ 0 ≤ h then [.opened cb i h] else []
    | none => []
  | .locOpen _ _, _ => []
  | .locClose handle _, _ => [.closed handle]

/-- Entry `i` of the table. -/
def Glue.entry (g : Glue κ) (i : Nat) : Option (GlueEntry κ) := g.table[i]?

/-- The event takes `h` out of entry `i`. -/
def GlueEvent.ends (i : Nat) (h : Int) : GlueEvent κ → Prop
  | .opened _ j _ => j = i
  | .closed h' => h' = h

/-- A `loc_open` of `cb` stored the valid handle `h` in entry `i`, where it still is, and no
`loc_close` of `h` has returned since. -/
def Live (log : List (GlueEvent κ)) (i : Nat) (cb : κ) (h : Int) : Prop :=
  ∃ pre post, log = pre ++ GlueEvent.opened cb i h :: post ∧ ∀ e ∈ post, ¬ e.ends i h

structure TableInv (g : Glue κ) (log : List (GlueEvent κ)) : Prop where
  live : ∀ i cb h, g.entry i = some ⟨some cb, h⟩ ↔ Live log i cb h
  free : ∀ i h, g.entry i = some ⟨none, h⟩ → h = -1
  valid : ∀ i cb h, g.entry i = some ⟨some cb, h⟩ → 0 ≤ h
  callbacks : ∀ i j cb h h', g.entry i = some ⟨some cb, h⟩ → g.entry j = some ⟨some cb, h'⟩ → i = j
  handles : ∀ i j cb cb' h, g.entry i = some ⟨some cb, h⟩ → g.entry j = some ⟨some cb', h⟩ → i = j
  clnt : ∀ i cb h, g.entry i = some ⟨some cb, h⟩ → g.clnt = true

/-- An entry holds the handle for another callback. -/
def Glue.heldByOther [DecidableEq κ] (g : Glue κ) (cb : κ) (h : Int) : Bool :=
  g.table.any fun e => e.cbFunc ≠ none ∧ e.cbFunc ≠ some cb ∧ e.handle = h

/-- The callback is in the table already. -/
def Glue.known [DecidableEq κ] (g : Glue κ) (cb : κ) : Bool :=
  g.table.any fun e => e.cbFunc = some cb

/-- The calls that keep the table in order. -/
def tableTimely [DecidableEq κ] (p : Glue κ × List (GlueEvent κ)) : GlueAct κ → Prop
  | .locOpen none reply => p.1.clnt = false ∨ reply = none
  | .locOpen (some cb) none => p.1.clnt = false ∨ p.1.slotOf (some cb) = none ∨ p.1.known cb = true
  | .locOpen (some cb) (some h) =>
    p.1.clnt = false ∨ p.1.slotOf (some cb) = none ∨ (0 ≤ h ∧ p.1.heldByOther cb h = false)
  | .locClose _ none => True
  | .locClose handle (some _) => ∀ e ∈ p.1.table, e.handle ≠ handle → e.cbFunc = none

instance [DecidableEq κ] (p : Glue κ × List (GlueEvent κ)) :
    (a : GlueAct κ) → Decidable (tableTimely p a)
  | .locOpen none _ => inferInstanceAs (Decidable (_ ∨ _))
  | .locOpen (some _) none => inferInstanceAs (Decidable (_ ∨ _ ∨ _))
  | .locOpen (some _) (some _) => inferInstanceAs (Decidable (_ ∨ _ ∨ _))
  | .locClose _ none => .isTrue trivial
  | .locClose _ (some _) => inferInstanceAs (Decidable (∀ e ∈ _, _))

/-! ## Entries -/

section Entries

variable {g : Glue κ} {log : List (GlueEvent κ)} {cb : κ} {i j : Nat} {h : Int}

theorem entry_modify (g : Glue κ) (i j : Nat) (f : GlueEntry κ → GlueEntry κ) :
    (g.modify i f).entry j = if i = j then (g.entry j).map f else g.entry j := by
  rw [Glue.entry, Glue.modify, List.getElem?_modify]
  split
  · rfl
  · exact Option.map_id'

theorem entry_of_findIdx {p : GlueEntry κ → Bool} (hi : g.table.findIdx? p = some i) :
    ∃ e, g.entry i = some e ∧ p e = true := by
  obtain ⟨hlt, hp, -⟩ := List.findIdx?_eq_some_iff_getElem.mp hi
  exact ⟨g.table[i], List.getElem?_eq_getElem hlt, hp⟩

theorem mem_table_of_entry {e : GlueEntry κ} (he : g.entry i = some e) : e ∈ g.table :=
  List.mem_of_getElem? he

/-- Where `loc_open` puts a callback: where it is, or in an entry without one. -/
theorem slotOf_eq_some [DecidableEq κ] (hs : g.slotOf (some cb) = some i) :
    (∃ h, g.entry i = some ⟨some cb, h⟩) ∨
      ((∀ j h, g.entry j ≠ some ⟨some cb, h⟩) ∧ ∃ h, g.entry i = some ⟨none, h⟩) := by
  unfold Glue.slotOf at hs
  cases hfirst : g.table.findIdx? fun e => e.cbFunc = some cb with
  | some k =>
    rw [hfirst] at hs
    cases hs
    obtain ⟨⟨c, h⟩, he, hc⟩ := entry_of_findIdx hfirst
    simp only [decide_eq_true_eq] at hc
    exact .inl ⟨h, hc ▸ he⟩
  | none =>
    rw [hfirst] at hs
    obtain ⟨⟨c, h⟩, he, hc⟩ := entry_of_findIdx hs
    simp only [decide_eq_true_eq] at hc
    refine .inr ⟨?_, h, hc ▸ he⟩
    intro j h' hj
    have hno := List.findIdx?_eq_none_iff.mp hfirst _ (mem_table_of_entry hj)
    simp at hno

theorem slotOf_none [DecidableEq κ] (hs : g.slotOf none = some i) :
    ∃ h, g.entry i = some ⟨none, h⟩ := by
  unfold Glue.slotOf at hs
  have hfirst : g.table.findIdx? (fun e => e.cbFunc = none) = some i := by
    cases hf : g.table.findIdx? fun e : GlueEntry κ => e.cbFunc = none with
    | some k =>
      rw [hf] at hs
      exact hs
    | none =>
      rw [hf] at hs
      cases hs
  obtain ⟨⟨c, h⟩, he, hc⟩ := entry_of_findIdx hfirst
  simp only [decide_eq_true_eq] at hc
  exact ⟨h, hc ▸ he⟩

/-- Writing the callback that is there changes nothing. -/
theorem modify_same {c : Option κ} (he : g.entry i = some ⟨c, h⟩) :
    (g.modify i fun e => { e with cbFunc := c }).table = g.table := by
  apply List.ext_getElem?
  intro j
  show (g.modify i fun e => { e with cbFunc := c }).entry j = g.entry j
  rw [entry_modify]
  by_cases hij : i = j
  · rw [if_pos hij, ← hij, he]
    rfl
  · rw [if_neg hij]

/-- The table after a `loc_open` that got a handle. -/
theorem entry_opened {e : GlueEntry κ} (he : g.entry i = some e) (c : Option κ) (h : Int)
    (j : Nat) :
    ((g.modify i fun e => { e with cbFunc := c }).modify i
        fun e => { e with handle := h }).entry j =
      if i = j then some ⟨c, h⟩ else g.entry j := by
  rw [entry_modify, entry_modify]
  by_cases hij : i = j
  · rw [if_pos hij, if_pos hij, if_pos hij, ← hij, he]
    rfl
  · rw [if_neg hij, if_neg hij, if_neg hij]

/-- The table after the clean-up of `loc_close`: what held the handle is gone. -/
theorem entry_forget (hi : TableInv g log) (handle : Int) (j : Nat) (c : κ) (h : Int) :
    (g.forget handle).entry j = some ⟨some c, h⟩ ↔
      g.entry j = some ⟨some c, h⟩ ∧ h ≠ handle := by
  unfold Glue.forget
  split
  · rename_i i hfound
    obtain ⟨⟨c', h'⟩, he, hh⟩ := entry_of_findIdx hfound
    simp only [decide_eq_true_eq] at hh
    subst hh
    rw [entry_modify]
    by_cases hij : i = j
    · rw [if_pos hij, ← hij, he]
      constructor
      · intro hsome
        cases hsome
      · rintro ⟨hsome, hne⟩
        cases hsome
        exact absurd rfl hne
    · rw [if_neg hij]
      constructor
      · intro hj
        refine ⟨hj, ?_⟩
        rintro rfl
        cases c' with
        | none =>
          have hminus := hi.free i h he
          have hvalid := hi.valid j c h hj
          omega
        | some c' => exact hij (hi.handles i j c' c h he hj)
      · intro hj
        exact hj.1
  · rename_i hnone
    constructor
    · intro hj
      refine ⟨hj, ?_⟩
      rintro rfl
      have hno := List.findIdx?_eq_none_iff.mp hnone _ (mem_table_of_entry hj)
      simp at hno
    · intro hj
      exact hj.1

/-- An entry that the clean-up leaves without a callback has the free marker. -/
theorem free_forget (hi : TableInv g log) (handle : Int) (j : Nat) (h : Int)
    (hj : (g.forget handle).entry j = some ⟨none, h⟩) : h = -1 := by
  unfold Glue.forget at hj
  split at hj
  · rename_i i hfound
    rw [entry_modify] at hj
    split at hj
    · cases hg : g.entry j with
      | none =>
        rw [hg] at hj
        cases hj
      | some e =>
        rw [hg] at hj
        cases hj
        rfl
    · exact hi.free j h hj
  · exact hi.free j h hj

/-- What is live after one more event. -/
theorem live_snoc {e : GlueEvent κ} :
    Live (log ++ [e]) i cb h ↔ e = .opened cb i h ∨ (Live log i cb h ∧ ¬ e.ends i h) := by
  constructor
  · rintro ⟨pre, post, hlog, hpost⟩
    rcases snoc_split hlog with ⟨-, he, -⟩ | ⟨post', rfl, hlog'⟩
    · exact .inl he.symm
    · refine .inr ⟨⟨pre, post', hlog', ?_⟩, ?_⟩
      · intro x hx
        exact hpost x (List.mem_append_left [e] hx)
      · exact hpost e (List.mem_append_right post' (List.mem_singleton_self e))
  · rintro (rfl | ⟨⟨pre, post, rfl, hpost⟩, he⟩)
    · exact ⟨log, [], rfl, by simp⟩
    · refine ⟨pre, post ++ [e], by simp, ?_⟩
      intro x hx
      rcases List.mem_append.mp hx with hx | hx
      · exact hpost x hx
      · rw [List.mem_singleton.mp hx]
        exact he

end Entries

/-! ## The two calls -/

section Calls

variable {g : Glue κ} {log : List (GlueEvent κ)}

/-- Nothing that the invariant speaks of has changed. -/
theorem TableInv.congr {g' : Glue κ} (hi : TableInv g log) (htable : g'.table = g.table)
    (hclnt : g'.clnt = g.clnt) : TableInv g' log := by
  have hentry : g'.entry = g.entry := by
    funext i
    rw [Glue.entry, Glue.entry, htable]
  constructor
  · rw [hentry]
    exact hi.live
  · rw [hentry]
    exact hi.free
  · rw [hentry]
    exact hi.valid
  · rw [hentry]
    exact hi.callbacks
  · rw [hentry]
    exact hi.handles
  · rw [hentry, hclnt]
    exact hi.clnt

variable [DecidableEq κ]

/-- A callback gets a valid handle that no other one has. -/
theorem TableInv.opened (hi : TableInv g log) {cb : κ} {i : Nat} {h : Int} {g' : Glue κ}
    (hclnt : g'.clnt = true) (hs : g.slotOf (some cb) = some i) (hh : 0 ≤ h)
    (hother : g.heldByOther cb h = false)
    (hentry : ∀ j, g'.entry j = if i = j then some ⟨some cb, h⟩ else g.entry j) :
    TableInv g' (log ++ [.opened cb i h]) := by
  -- no other entry has the callback or the handle
  have hcb : ∀ j h', i ≠ j → g.entry j ≠ some ⟨some cb, h'⟩ := by
    intro j h' hij hj
    rcases slotOf_eq_some hs with ⟨h'', hi'⟩ | ⟨hno, -⟩
    · exact hij (hi.callbacks i j cb h'' h' hi' hj)
    · exact hno j h' hj
  have hhandle : ∀ j c, i ≠ j → g.entry j ≠ some ⟨some c, h⟩ := by
    intro j c hij hj
    have hc : c ≠ cb := by
      rintro rfl
      exact hcb j h hij hj
    have hheld := List.any_eq_false.mp hother _ (mem_table_of_entry hj)
    simp [hc] at hheld
  refine ⟨?_, ?_, ?_, ?_, ?_, fun _ _ _ _ => hclnt⟩
  · intro j c h'
    rw [hentry, live_snoc]
    by_cases hij : i = j
    · rw [if_pos hij]
      constructor
      · intro hsome
        cases hsome
        exact .inl (hij ▸ rfl)
      · rintro (hev | ⟨-, hev⟩)
        · cases hev
          rfl
        · exact absurd hij hev
    · rw [if_neg hij, hi.live]
      constructor
      · intro hl
        exact .inr ⟨hl, hij⟩
      · rintro (hev | ⟨hl, -⟩)
        · cases hev
          exact absurd rfl hij
        · exact hl
  · intro j h' hj
    rw [hentry] at hj
    split at hj
    · cases hj
    · exact hi.free j h' hj
  · intro j c h' hj
    rw [hentry] at hj
    split at hj
    · cases hj
      exact hh
    · exact hi.valid j c h' hj
  · intro j k c h' h'' hj hk
    rw [hentry] at hj hk
    by_cases hij : i = j <;> by_cases hik : i = k
    · exact hij ▸ hik
    · rw [if_pos hij] at hj
      rw [if_neg hik] at hk
      cases hj
      exact absurd hk (hcb k _ hik)
    · rw [if_neg hij] at hj
      rw [if_pos hik] at hk
      cases hk
      exact absurd hj (hcb j _ hij)
    · rw [if_neg hij] at hj
      rw [if_neg hik] at hk
      exact hi.callbacks j k c h' h'' hj hk
  · intro j k c c' h' hj hk
    rw [hentry] at hj hk
    by_cases hij : i = j <;> by_cases hik : i = k
    · exact hij ▸ hik
    · rw [if_pos hij] at hj
      rw [if_neg hik] at hk
      cases hj
      exact absurd hk (hhandle k _ hik)
    · rw [if_neg hij] at hj
      rw [if_pos hik] at hk
      cases hk
      exact absurd hj (hhandle j _ hij)
    · rw [if_neg hij] at hj
      rw [if_neg hik] at hk
      exact hi.handles j k c c' h' hj hk

section Open

variable {cb : Option κ} {i : Nat}

theorem locOpenPtr_no_clnt (h : g.clnt = false) (reply : Option Int) :
    locOpenPtr cb reply g = (rpcLocApiRpcFailure, g) := if_pos (by simp [h])

theorem locOpenPtr_full (h : g.clnt = true) (hs : g.slotOf cb = none) (reply : Option Int) :
    locOpenPtr cb reply g = (rpcLocClientHandleInvalid, g) := by
  rw [locOpenPtr, if_neg (by simp [h]), hs]

theorem locOpenPtr_unanswered (h : g.clnt = true) (hs : g.slotOf cb = some i) :
    locOpenPtr cb none g = (rpcLocApiRpcFailure, g.modify i fun e => { e with cbFunc := cb }) := by
  rw [locOpenPtr, if_neg (by simp [h]), hs]

theorem locOpenPtr_answered (h : g.clnt = true) (hs : g.slotOf cb = some i) (handle : Int) :
    locOpenPtr cb (some handle) g =
      (handle, (g.modify i fun e => { e with cbFunc := cb }).modify i
        fun e => { e with handle := handle }) := by
  rw [locOpenPtr, if_neg (by simp [h]), hs]

/-- A `loc_open` that fails and leaves the table as it was. -/
structure OpenFails (g : Glue κ) (cb : Option κ) (reply : Option Int) : Prop where
  result : (locOpenPtr cb reply g).1 < 0
  table : (locOpenPtr cb reply g).2.table = g.table
  clnt : (locOpenPtr cb reply g).2.clnt = g.clnt
  events : ∀ g', glueEvents g (.locOpen cb reply) g' = []

/-- A `loc_open` that stores the handle `h` for `c` in entry `i`. -/
structure Opens (g : Glue κ) (cb : Option κ) (reply : Option Int) (c : κ) (i : Nat) (h : Int) :
    Prop where
  slot : g.slotOf (some c) = some i
  result : (locOpenPtr cb reply g).1 = h
  valid : 0 ≤ h
  fresh : g.heldByOther c h = false
  clnt : (locOpenPtr cb reply g).2.clnt = true
  entry : ∀ j, (locOpenPtr cb reply g).2.entry j = if i = j then some ⟨some c, h⟩ else g.entry j
  events : ∀ g', glueEvents g (.locOpen cb reply) g' = [.opened c i h]

/-- It returns an error and does nothing. -/
theorem OpenFails.of_eq {reply : Option Int} {e : Int} (hopen : locOpenPtr cb reply g = (e, g))
    (he : e < 0) (hevents : ∀ g', glueEvents g (.locOpen cb reply) g' = []) :
    OpenFails g cb reply := by
  refine ⟨?_, ?_, ?_, hevents⟩
  · rw [hopen]
    exact he
  · rw [hopen]
  · rw [hopen]

theorem openFails_no_clnt (h : g.clnt = false) (reply : Option Int) : OpenFails g cb reply := by
  refine .of_eq (locOpenPtr_no_clnt h reply) (Int.negSucc_lt_zero _) fun g' => ?_
  cases cb with
  | none => rfl
  | some c =>
    cases reply with
    | none => rfl
    | some handle =>
      simp only [glueEvents, h]
      split
      · simp
      · rfl

theorem openFails_full (h : g.clnt = true) (hs : g.slotOf cb = none) (reply : Option Int) :
    OpenFails g cb reply := by
  refine .of_eq (locOpenPtr_full h hs reply) (Int.negSucc_lt_zero _) fun g' => ?_
  cases cb with
  | none => rfl
  | some c =>
    cases reply with
    | none => rfl
    | some handle => simp only [glueEvents, hs]

/-- Without an answer, an entry that had the callback before stays as it was. -/
theorem openFails_unanswered {handle : Int} (h : g.clnt = true) (hs : g.slotOf cb = some i)
    (he : g.entry i = some ⟨cb, handle⟩) : OpenFails g cb none := by
  have hopen := locOpenPtr_unanswered h hs
  constructor
  · rw [hopen]
    exact Int.negSucc_lt_zero _
  · rw [hopen]
    exact modify_same he
  · rw [hopen]
    rfl
  · intro g'
    cases cb with
    | none => rfl
    | some c => rfl

theorem opens_answered {c : κ} {handle : Int} (h : g.clnt = true)
    (hs : g.slotOf (some c) = some i) (hvalid : 0 ≤ handle)
    (hfresh : g.heldByOther c handle = false) : Opens g (some c) (some handle) c i handle := by
  have hopen := locOpenPtr_answered h hs handle
  have hexists : ∃ e, g.entry i = some e := by
    rcases slotOf_eq_some hs with ⟨h', he⟩ | ⟨-, h', he⟩
    · exact ⟨_, he⟩
    · exact ⟨_, he⟩
  obtain ⟨e, he⟩ := hexists
  refine ⟨hs, ?_, hvalid, hfresh, ?_, ?_, ?_⟩
  · rw [hopen]
  · rw [hopen]
    exact h
  · rw [hopen]
    exact entry_opened he (some c) handle
  · intro g'
    simp only [glueEvents, hs]
    rw [if_pos ⟨h, hvalid⟩]

/-- What `loc_open` does under the condition. -/
theorem locOpenPtr_cases {reply : Option Int} (hok : tableTimely (g, log) (.locOpen cb reply)) :
    OpenFails g cb reply ∨ ∃ c i h, Opens g cb reply c i h := by
  cases hclnt : g.clnt with
  | false => exact .inl (openFails_no_clnt hclnt reply)
  | true =>
    have hsome : ¬ g.clnt = false := by simp [hclnt]
    cases hs : g.slotOf cb with
    | none => exact .inl (openFails_full hclnt hs reply)
    | some i =>
      cases cb with
      | none =>
        obtain rfl : reply = none := hok.resolve_left hsome
        obtain ⟨h, he⟩ := slotOf_none hs
        exact .inl (openFails_unanswered hclnt hs he)
      | some c =>
        have hfound : ¬ g.slotOf (some c) = none := by simp [hs]
        cases reply with
        | none =>
          have hknown : g.known c = true := (hok.resolve_left hsome).resolve_left hfound
          rcases slotOf_eq_some hs with ⟨h, he⟩ | ⟨hno, -⟩
          · exact .inl (openFails_unanswered hclnt hs he)
          · obtain ⟨⟨c', h⟩, hmem, hc⟩ := List.any_eq_true.mp hknown
            obtain ⟨j, hj⟩ := List.getElem?_of_mem hmem
            simp only [decide_eq_true_eq] at hc
            exact absurd (hc ▸ hj) (hno j h)
        | some h =>
          obtain ⟨hvalid, hfresh⟩ := (hok.resolve_left hsome).resolve_left hfound
          exact .inr ⟨c, i, h, opens_answered hclnt hs hvalid hfresh⟩

end Open

omit [DecidableEq κ] in
/-- With no client there is nothing to close. -/
theorem TableInv.closed_no_clnt (hi : TableInv g log) (hclnt : g.clnt = false) (handle : Int) :
    TableInv g (log ++ [.closed handle]) := by
  have hunused : ∀ i cb h, g.entry i ≠ some ⟨some cb, h⟩ := by
    intro i cb h he
    rw [hi.clnt i cb h he] at hclnt
    cases hclnt
  refine ⟨?_, hi.free, hi.valid, hi.callbacks, hi.handles, hi.clnt⟩
  intro i cb h
  refine iff_of_false (hunused i cb h) ?_
  rw [live_snoc]
  rintro (he | ⟨hl, -⟩)
  · cases he
  · exact hunused i cb h ((hi.live i cb h).mpr hl)

omit [DecidableEq κ] in
/-- The clean-up of `loc_close`, when the client survives it or nobody else needs it. -/
theorem TableInv.closed (hi : TableInv g log) {handle : Int} {g' : Glue κ}
    (hentry : g'.entry = (g.forget handle).entry)
    (hclnt : ∀ i cb h, (g.forget handle).entry i = some ⟨some cb, h⟩ → g'.clnt = true) :
    TableInv g' (log ++ [.closed handle]) := by
  refine ⟨?_, ?_, ?_, ?_, ?_, ?_⟩
  · intro i cb h
    rw [hentry, entry_forget hi, live_snoc, hi.live]
    constructor
    · rintro ⟨hl, hne⟩
      exact .inr ⟨hl, fun heq => hne heq.symm⟩
    · rintro (he | ⟨hl, hne⟩)
      · cases he
      · exact ⟨hl, fun heq => hne heq.symm⟩
  · intro i h he
    rw [hentry] at he
    exact free_forget hi handle i h he
  · intro i cb h he
    rw [hentry, entry_forget hi] at he
    exact hi.valid i cb h he.1
  · intro i j cb h h' he he'
    rw [hentry, entry_forget hi] at he he'
    exact hi.callbacks i j cb h h' he.1 he'.1
  · intro i j cb cb' h he he'
    rw [hentry, entry_forget hi] at he he'
    exact hi.handles i j cb cb' h he.1 he'.1
  · intro i cb h he
    rw [hentry] at he
    exact hclnt i cb h he

theorem TableInv.locClose (hi : TableInv g log) {handle : Int} {reply : Option Int}
    (hok : tableTimely (g, log) (.locClose handle reply)) :
    TableInv (locClose handle reply g).2 (log ++ [.closed handle]) := by
  cases hclnt : g.clnt with
  | false =>
    have hclose : LocApi.locClose handle reply g = (rpcLocApiRpcFailure, g) :=
      if_pos (by simp [hclnt])
    rw [hclose]
    exact hi.closed_no_clnt hclnt handle
  | true =>
    have hkeeps : (g.forget handle).clnt = true := by
      unfold Glue.forget
      split
      · exact hclnt
      · exact hclnt
    cases reply with
    | none =>
      have hclose : LocApi.locClose handle none g = (rpcLocApiRpcFailure, g.forget handle) :=
        if_neg (by simp [hclnt])
      rw [hclose]
      exact hi.closed rfl fun _ _ _ _ => hkeeps
    | some r =>
      have hclose : LocApi.locClose handle (some r) g =
          (r, { g.forget handle with clnt := false }) := if_neg (by simp [hclnt])
      rw [hclose]
      refine hi.closed rfl ?_
      intro i cb h he
      rw [entry_forget hi] at he
      have hnone := hok _ (mem_table_of_entry he.1) he.2
      cases hnone

/-- Every permitted call keeps the invariant. -/
theorem TableInv.step {g' : Glue κ} {a : GlueAct κ} (hok : tableTimely (g, log) a)
    (hst : glueStep g a = some g') (hi : TableInv g log) :
    TableInv g' (log ++ glueEvents g a g') := by
  cases a with
  | locOpen cb reply =>
    cases hst
    rcases locOpenPtr_cases hok with hf | ⟨c, i, h, ho⟩
    · rw [hf.events, List.append_nil]
      exact hi.congr hf.table hf.clnt
    · rw [ho.events]
      exact hi.opened ho.clnt ho.slot ho.valid ho.fresh ho.entry
  | locClose handle reply =>
    cases hst
    exact hi.locClose hok

omit [DecidableEq κ] in
/-- `loc_close` only writes where it finds the handle. -/
theorem entry_locClose {handle : Int} {reply : Option Int} {i : Nat} {e : GlueEntry κ}
    (he : g.entry i = some e) (hne : e.handle ≠ handle) :
    (locClose handle reply g).2.entry i = some e := by
  have hforget : (g.forget handle).entry i = some e := by
    unfold Glue.forget
    split
    · rename_i j hfound
      obtain ⟨e', he', hh⟩ := entry_of_findIdx hfound
      simp only [decide_eq_true_eq] at hh
      rw [entry_modify]
      by_cases hji : j = i
      · subst hji
        rw [he] at he'
        cases he'
        exact absurd hh hne
      · rw [if_neg hji]
        exact he
    · exact he
  unfold LocApi.locClose
  split
  · exact he
  · cases reply with
    | none => exact hforget
    | some r => exact hforget

end Calls

/-- The table that `loc_api_glue_init` leaves. -/
theorem TableInv.init : TableInv (locApiGlueInit true (Glue.boot κ)) [] := by
  have hentry : ∀ i e, (locApiGlueInit true (Glue.boot κ)).entry i = some e → e = ⟨none, -1⟩ := by
    intro i e he
    exact List.eq_of_mem_replicate (mem_table_of_entry he)
  have hunused : ∀ i cb h, (locApiGlueInit true (Glue.boot κ)).entry i ≠ some ⟨some cb, h⟩ := by
    intro i cb h he
    cases hentry i _ he
  refine ⟨?_, ?_, ?_, ?_, ?_, ?_⟩
  · intro i cb h
    refine iff_of_false (hunused i cb h) ?_
    rintro ⟨pre, post, hlog, -⟩
    simp at hlog
  · intro i h he
    cases hentry i _ he
    rfl
  · intro i cb h he
    exact absurd he (hunused i cb h)
  · intro i j cb h h' he
    exact absurd he (hunused i cb h)
  · intro i j cb cb' h he
    exact absurd he (hunused i cb h)
  · intro i cb h he
    exact absurd he (hunused i cb h)

variable [DecidableEq κ]

/-- **After every run of such calls the entries in use are the live opens, with a client to
serve them; a `loc_open` that fails leaves the table as it was, and `loc_close` touches only
what holds its handle.** -/
theorem callback_table {as : List (GlueAct κ)} {g : Glue κ} {log : List (GlueEvent κ)}
    (hrun : exec (restrict tableTimely (observe glueEvents glueStep))
      (locApiGlueInit true (Glue.boot κ), []) as = some (g, log)) :
    TableInv g log ∧
      (∀ cb reply, tableTimely (g, log) (.locOpen cb reply) → (locOpenPtr cb reply g).1 < 0 →
        (locOpenPtr cb reply g).2.table = g.table) ∧
      (∀ handle reply i e, g.entry i = some e → e.handle ≠ handle →
        (locClose handle reply g).2.entry i = some e) := by
  refine ⟨?_, ?_, ?_⟩
  · exact observe_invariant (fun _ _ _ _ hok hst hi => hi.step hok hst) TableInv.init hrun
  · intro cb reply hok hneg
    rcases locOpenPtr_cases hok with hf | ⟨c, i, h, ho⟩
    · exact hf.table
    · have hvalid := ho.valid
      rw [ho.result] at hneg
      omega
  · intro handle reply i e he hne
    exact entry_locClose he hne

/-- Two clients open, the first one opens again and gets no answer, and both close; the first
close does not get through. -/
def twoClients : List (GlueAct Nat) := [
  .locOpen (some 7) (some 0), .locOpen (some 8) (some 1), .locOpen (some 7) none,
  .locClose 0 none, .locClose 1 (some 0)]

theorem callback_table_two_clients :
    ∃ g, exec (restrict tableTimely (observe glueEvents glueStep))
        (locApiGlueInit true (Glue.boot Nat), []) twoClients =
          some (g, [.opened 7 0 0, .opened 8 1 1, .closed 0, .closed 1]) ∧
      TableInv g [.opened 7 0 0, .opened 8 1 1, .closed 0, .closed 1] := by
  have hlog : (exec (restrict tableTimely (observe glueEvents glueStep))
      (locApiGlueInit true (Glue.boot Nat), []) twoClients).map Prod.snd =
      some [.opened 7 0 0, .opened 8 1 1, .closed 0, .closed 1] := by decide +kernel
  obtain ⟨⟨g, log⟩, hrun, rfl⟩ := Option.map_eq_some_iff.mp hlog
  exact ⟨g, hrun, (callback_table hrun).1⟩

/-- Two clients open, and one of them closes. -/
def closeOneOfTwo : List (GlueAct Nat) := [
  .locOpen (some 7) (some 0), .locOpen (some 8) (some 1), .locClose 0 (some 0)]

/-- The other one is left without an RPC client. -/
theorem close_one_of_two_strands_the_other :
    ∃ g log, exec (observe glueEvents glueStep) (locApiGlueInit true (Glue.boot Nat), [])
        closeOneOfTwo = some (g, log) ∧
      g.entry 1 = some ⟨some 8, 1⟩ ∧ g.clnt = false ∧ ¬ TableInv g log := by
  have hend : (exec (observe glueEvents glueStep) (locApiGlueInit true (Glue.boot Nat), [])
      closeOneOfTwo).map (fun p => (p.1.entry 1, p.1.clnt)) = some (some ⟨some 8, 1⟩, false) := by
    decide +kernel
  obtain ⟨⟨g, log⟩, hrun, hg⟩ := Option.map_eq_some_iff.mp hend
  obtain ⟨hentry, hclnt⟩ := Prod.mk.inj hg
  refine ⟨g, log, hrun, hentry, hclnt, ?_⟩
  intro hi
  rw [hi.clnt 1 8 1 hentry] at hclnt
  cases hclnt

end Ancora.LocApi
