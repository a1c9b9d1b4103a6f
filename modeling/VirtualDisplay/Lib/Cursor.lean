import Mathlib.Data.List.Basic
import Mathlib.Data.List.Range

/-!
# Loops behind a cursor

`Cursor.walk` emits what it finds under a cursor and moves the cursor on, a given number of times.
Where the cursor is after `i` moves is often known in closed form; then the loop is a map over the
positions (`Cursor.walk_eq_map`).

The two halves of the loop are parameters: `out` is what is emitted at a place, and `move` is how
the cursor goes on, which may depend on how many moves there have been.  A closed form is a function
`p` with `move i (p i) = p (i + 1)`, and `Cursor.walkFrom_eq_map` starts it at any number of moves.
A loop of no rounds does not look at its cursor at all, so the start need not be a place of `p`
then.
-/

set_option autoImplicit false

namespace Cursor

variable {σ α : Type}

/-- Emits from `n` positions.  The move behind the `i`-th may look at `i`. -/
def walkFrom (out : σ → α) (move : Int → σ → σ) : Int → Nat → σ → List α
  | _, 0, _ => []
  | i, n + 1, s => out s :: walkFrom out move (i + 1) n (move i s)

/-- The outputs of so many moves, from the first one on. -/
def walk (out : σ → α) (move : Int → σ → σ) (n : Nat) (s : σ) : List α :=
  walkFrom out move 0 n s

variable {out : σ → α} {move : Int → σ → σ} {p : Int → σ}

@[simp] theorem walk_zero (s : σ) : walk out move 0 s = [] := rfl

theorem walkFrom_eq_map (hmove : ∀ i, move i (p i) = p (i + 1)) (i : Int) (n : Nat) :
    walkFrom out move i n (p i) =
      (List.range n).map fun k : Nat ↦ out (p (i + k)) := by
  induction n generalizing i with
  | zero => rfl
  | succ n ih =>
    rw [walkFrom, hmove, ih, List.range_succ_eq_map, List.map_cons, List.map_map]
    refine congrArg₂ _ (by simp) (List.map_congr_left fun k _ ↦ ?_)
    have hindex : i + 1 + (k : Int) = i + (Nat.succ k : Nat) := by omega
    rw [Function.comp_apply, hindex]

/-- A cursor that emits anything starts where it is after no move. -/
theorem walk_eq_map (hmove : ∀ i, move i (p i) = p (i + 1)) {n : Nat} {s : σ}
    (hs : 0 < n → s = p 0) :
    walk out move n s = (List.range n).map fun k : Nat ↦ out (p k) := by
  cases n with
  | zero => rfl
  | succ n =>
    rw [walk, hs n.succ_pos, walkFrom_eq_map hmove]
    simp

end Cursor
