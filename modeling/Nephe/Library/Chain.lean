/-!
# Chains of labelled changes

A handler of a program is described once as a chain of small changes, each
with the origin that explains it.  An invariant of every small change is then
an invariant of the handler.
-/

namespace Nephe.Library

variable {σ ω α : Type} {change : ω → σ → σ → Prop}

/-- Finitely many changes whose origins are all allowed. -/
inductive Chain (change : ω → σ → σ → Prop) (allowed : ω → Prop) : σ → σ → Prop where
  | refl (state : σ) : Chain change allowed state state
  | tail {first middle last : σ} {origin : ω}
      (chain : Chain change allowed first middle)
      (permitted : allowed origin) (next : change origin middle last) :
      Chain change allowed first last

namespace Chain

variable {allowed : ω → Prop} {first middle last : σ}

theorem single {origin : ω} (permitted : allowed origin)
    (next : change origin first last) : Chain change allowed first last :=
  .tail (.refl first) permitted next

theorem trans (left : Chain change allowed first middle)
    (right : Chain change allowed middle last) : Chain change allowed first last := by
  induction right with
  | refl => exact left
  | tail _ permitted next induction => exact .tail induction permitted next

theorem mono {more : ω → Prop} (included : ∀ origin, allowed origin → more origin)
    (chain : Chain change allowed first last) : Chain change more first last := by
  induction chain with
  | refl => exact .refl _
  | tail _ permitted next induction => exact .tail induction (included _ permitted) next

/-- A chain of one origin, where that origin is allowed. -/
theorem only {origin : ω} (permitted : allowed origin)
    (chain : Chain change (· = origin) first last) : Chain change allowed first last := by
  refine chain.mono ?_
  rintro _ rfl
  exact permitted

/-- What every allowed change keeps, the chain keeps; a change comes after a part of it. -/
theorem along (property : σ → Prop)
    (kept : ∀ origin before after, Chain change allowed first before → allowed origin →
      change origin before after → property before → property after)
    (chain : Chain change allowed first last) (initially : property first) :
    property last := by
  induction chain with
  | refl => exact initially
  | tail chain permitted next induction => exact kept _ _ _ chain permitted next induction

/-- What every allowed change keeps, the chain keeps. -/
theorem invariant (property : σ → Prop)
    (kept : ∀ origin before after, allowed origin → change origin before after →
      property before → property after)
    (chain : Chain change allowed first last) (initially : property first) :
    property last :=
  chain.along property (fun _ _ _ _ => kept _ _ _) initially

/--
A loop over a list is a chain when every pass is one.

The precondition of a pass may speak about the elements still to be visited.
-/
theorem foldl (ready : List α → σ → Prop) {body : α → σ → σ}
    (pass : ∀ element rest state, ready (element :: rest) state →
      Chain change allowed state (body element state) ∧ ready rest (body element state))
    (list : List α) (state : σ) (initially : ready list state) :
    Chain change allowed state (list.foldl (fun state element => body element state) state) ∧
      ready [] (list.foldl (fun state element => body element state) state) := by
  induction list generalizing state with
  | nil => exact ⟨.refl state, initially⟩
  | cons element rest induction =>
    obtain ⟨chain, remaining⟩ := pass element rest state initially
    obtain ⟨others, finally_⟩ := induction _ remaining
    exact ⟨chain.trans others, finally_⟩

end Chain

end Nephe.Library
