import Mathlib.Data.List.Basic

/-!
# The RPC glue (loc_api_rpc_glue.c)

All of the engine's calls to the modem go through one RPC client, `loc_api_clnt`,
that `loc_api_glue_init` creates. `loc_open` claims an entry of a table of 16
callbacks before it asks the modem for a handle; `loc_close` clears the entry and
destroys the client, whoever else uses it.

- A NULL client is `clnt = false`. A call through it fails without being sent.
- What an RPC brings back is an argument: `none` is a failed transport,
  `some r` the modem's result.
- Callbacks are an arbitrary type `κ`; a NULL `cb_func` is `none`.
-/

namespace Ancora.LocApi

variable {κ : Type}

/-- `LOC_API_CB_MAX_CLIENTS`. -/
def locApiCbMaxClients : Nat := 16

/-- `RPC_LOC_API_RPC_FAILURE`. -/
def rpcLocApiRpcFailure : Int := -1234

/-- `RPC_LOC_CLIENT_HANDLE_INVALID`. -/
def rpcLocClientHandleInvalid : Int := -1

/-- `loc_glue_cb_entry_s_type`; the `cb_id` of an entry is its index. -/
structure GlueEntry (κ : Type) where
  cbFunc : Option κ
  handle : Int
  deriving DecidableEq, Repr

/-- `loc_api_clnt` and `loc_glue_callback_table`. -/
structure Glue (κ : Type) where
  clnt : Bool
  table : List (GlueEntry κ)
  length_eq : table.length = locApiCbMaxClients
  deriving DecidableEq

/-- The globals before the first call: zero-initialised storage. -/
def Glue.boot (κ : Type) : Glue κ where
  clnt := false
  table := List.replicate locApiCbMaxClients ⟨none, 0⟩
  length_eq := List.length_replicate

/-- `loc_api_glue_init` (loc_api_rpc_glue.c:235); `created` says whether
`clnt_create` succeeds. -/
def locApiGlueInit (created : Bool) (g : Glue κ) : Glue κ :=
  if g.clnt then g
  else
    { clnt := created
      table := List.replicate locApiCbMaxClients ⟨none, -1⟩
      length_eq := List.length_replicate }

/-- Write one entry. -/
def Glue.modify (g : Glue κ) (i : Nat) (f : GlueEntry κ → GlueEntry κ) : Glue κ :=
  { g with table := g.table.modify i f, length_eq := (List.length_modify f g.table i).trans g.length_eq }

/-- The two searches of `loc_open`: the entry of the callback, else a free one. -/
def Glue.slot [DecidableEq κ] (g : Glue κ) (cb : κ) : Option Nat :=
  (g.table.findIdx? fun e => e.cbFunc = some cb) <|> g.table.findIdx? fun e => e.cbFunc = none

/-- `loc_open` (loc_api_rpc_glue.c:277): the result and the table. -/
def locOpen [DecidableEq κ] (cb : κ) (reply : Option Int) (g : Glue κ) : Int × Glue κ :=
  if !g.clnt then (rpcLocApiRpcFailure, g)
  else
    match g.slot cb with
    | none => (rpcLocClientHandleInvalid, g)
    | some i =>
      let g := g.modify i fun e => { e with cbFunc := some cb }
      match reply with
      | none => (rpcLocApiRpcFailure, g)
      | some h => (h, g.modify i fun e => { e with handle := h })

/-- `loc_open` gets as far as the RPC. -/
def locOpenSends [DecidableEq κ] (cb : κ) (g : Glue κ) : Bool := g.clnt && (g.slot cb).isSome

/-- The clean-up of the table in `loc_close` (loc_api_rpc_glue.c:347). -/
def Glue.forget (g : Glue κ) (handle : Int) : Glue κ :=
  match g.table.findIdx? fun e => e.handle = handle with
  | some i => g.modify i fun _ => ⟨none, -1⟩
  | none => g

/-- `loc_close` (loc_api_rpc_glue.c:331). -/
def locClose (handle : Int) (reply : Option Int) (g : Glue κ) : Int × Glue κ :=
  if !g.clnt then (rpcLocApiRpcFailure, g)
  else
    let g := g.forget handle
    match reply with
    | none => (rpcLocApiRpcFailure, g)
    | some r => (r, { g with clnt := false })

/-! ## What the lifecycle needs to know -/

/-- A client that had to be created finds its table empty. -/
theorem slot_locApiGlueInit [DecidableEq κ] {g : Glue κ} (h : g.clnt = false) (cb : κ) :
    (locApiGlueInit true g).slot cb = some 0 := by
  unfold locApiGlueInit
  rw [if_neg (by simp [h])]
  simp [Glue.slot, locApiCbMaxClients, List.replicate, List.findIdx?_cons]

theorem clnt_locApiGlueInit (g : Glue κ) : (locApiGlueInit true g).clnt = true := by
  unfold locApiGlueInit
  by_cases h : g.clnt = true
  · rw [if_pos h]
    exact h
  · rw [if_neg h]

/-- Without a client `loc_open` fails. -/
theorem locOpen_no_clnt [DecidableEq κ] {g : Glue κ} (h : g.clnt = false) (cb : κ)
    (reply : Option Int) : locOpen cb reply g = (rpcLocApiRpcFailure, g) := if_pos (by simp [h])

/-- With a client and a free entry `loc_open` returns what the modem gave. -/
theorem locOpen_slot [DecidableEq κ] {g : Glue κ} {cb : κ} {i : Nat} (h : g.clnt = true)
    (hs : g.slot cb = some i) (handle : Int) :
    (locOpen cb (some handle) g).1 = handle ∧ (locOpen cb (some handle) g).2.clnt = true := by
  unfold locOpen
  rw [if_neg (by simp [h]), hs]
  exact ⟨rfl, h⟩

theorem locOpenSends_slot [DecidableEq κ] {g : Glue κ} {cb : κ} {i : Nat} (h : g.clnt = true)
    (hs : g.slot cb = some i) : locOpenSends cb g = true := by
  rw [locOpenSends, h, hs]
  rfl

/-- A close that gets through leaves no client. -/
theorem clnt_locClose (handle r : Int) (g : Glue κ) : (locClose handle (some r) g).2.clnt = false := by
  unfold locClose
  by_cases h : g.clnt = true
  · rw [if_neg (by simp [h])]
  · rw [if_pos (by simp [h])]
    simpa using h

end Ancora.LocApi
