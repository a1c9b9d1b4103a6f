import Mathlib.Data.Int.Order.Basic
import Mathlib.Logic.Function.Basic
import Mathlib.Tactic.Linarith
import Mathlib.Tactic.Ring

/-!
# Spans of a memory

A memory is a function from places to values.  Three loops change a span of it: `Span.write` stores
a list, `Span.modify` changes each value in place, and `Span.writeBlocks` stores lists a stride
apart.  Each has a rule for the places inside its span and one for those outside.

## What is here

* `Span.write_of_getElem?`, `Span.write_of_outside` — a list that is stored is there afterwards.
* `Span.modify_of_inside`, `Span.modify_of_outside` — each value of the span is changed once.
* `Span.writeBlocks_of_getElem?`, `Span.writeBlocks_of_outside` — the blocks are as long as the
  stride, so that none of them overwrites another.

Places are natural numbers and the memory has no end.  Whether a program stays inside its own
buffers is then what the rule for the places outside is used for.
-/

set_option autoImplicit false

namespace Span

variable {α : Type} {m : Int → α} {start k : Int} {l : List α} {i : Nat} {a : α}

/-! ## Storing a list -/

/-- A stretch of memory overwritten with the elements of a list. -/
def write : (Int → α) → Int → List α → (Int → α)
  | m, _, [] => m
  | m, start, a :: l => write (Function.update m start a) (start + 1) l

theorem write_of_outside (h : k < start ∨ start + l.length ≤ k) : write m start l k = m k := by
  induction l generalizing m start with
  | nil => rfl
  | cons a l ih =>
    rw [List.length_cons, Nat.cast_succ] at h
    rw [write, ih (by omega), Function.update_of_ne (by omega)]

theorem write_of_getElem? (h : l[i]? = some a) : write m start l (start + i) = a := by
  induction l generalizing m start i with
  | nil => cases h
  | cons b l ih =>
    cases i with
    | zero =>
      cases h
      rw [write, Nat.cast_zero, add_zero, write_of_outside (.inl (by omega)),
        Function.update_self]
    | succ i =>
      have hplace : start + ((i + 1 : Nat) : Int) = start + 1 + i := by omega
      rw [write, hplace]
      exact ih h

/-! ## Changing a span in place -/

/-- Each cell of a stretch changed, with its place known. -/
def modify (f : Int → α → α) (m : Int → α) (start : Int) : Nat → (Int → α)
  | 0 => m
  | n + 1 =>
    let m' := modify f m start n
    Function.update m' (start + n) (f (start + n) (m' (start + n)))

variable {f : Int → α → α} {n : Nat}

theorem modify_of_outside (h : k < start ∨ start + n ≤ k) : modify f m start n k = m k := by
  induction n with
  | zero => rfl
  | succ n ih =>
    rw [modify, Function.update_of_ne (by omega), ih (by omega)]

theorem modify_of_inside (h : start ≤ k) (h' : k < start + n) :
    modify f m start n k = f k (m k) := by
  induction n with
  | zero => omega
  | succ n ih =>
    obtain rfl | hlt := eq_or_lt_of_le (by omega : k ≤ start + n)
    · rw [modify, Function.update_self, modify_of_outside (.inr le_rfl)]
    · rw [modify, Function.update_of_ne hlt.ne, ih hlt]

/-! ## Storing blocks -/

/-- Stores the blocks from `x` on, the first of them at `start`. -/
def writeBlocks (block : Nat → List α) (stride : Int) : Nat → Nat → Int → (Int → α) → (Int → α)
  | 0, _, _, m => m
  | n + 1, x, start, m =>
    writeBlocks block stride n (x + 1) (start + stride) (write m start (block x))

variable {block : Nat → List α} {stride x : Nat}

theorem writeBlocks_of_outside (hblock : ∀ x, (block x).length = stride)
    (h : k < start ∨ start + n * stride ≤ k) :
    writeBlocks block stride n x start m k = m k := by
  induction n generalizing x start m with
  | zero => rfl
  | succ n ih =>
    have hend : start + ((n + 1 : Nat) : Int) * stride = start + stride + n * stride := by
      rw [Nat.cast_succ]
      ring
    have hnonneg : (0 : Int) ≤ n * stride := by positivity
    rw [hend] at h
    rw [writeBlocks, ih (by omega), write_of_outside (by rw [hblock]; omega)]

theorem writeBlocks_of_getElem? (hblock : ∀ x, (block x).length = stride) (hi : i < n) {j : Nat}
    (h : (block (x + i))[j]? = some a) :
    writeBlocks block stride n x start m (start + i * stride + j) = a := by
  induction n generalizing x start m i with
  | zero => omega
  | succ n ih =>
    have hj : j < stride := by
      rw [← hblock (x + i)]
      exact (List.getElem?_eq_some_iff.mp h).1
    cases i with
    | zero =>
      rw [writeBlocks, writeBlocks_of_outside hblock (.inl (by simp; omega)), Nat.cast_zero,
        zero_mul, add_zero]
      exact write_of_getElem? h
    | succ i =>
      have hplace : start + ((i + 1 : Nat) : Int) * stride + j =
          start + stride + i * stride + j := by
        rw [Nat.cast_succ]
        ring
      have hblocks : x + (i + 1) = x + 1 + i := by omega
      rw [writeBlocks, hplace]
      rw [hblocks] at h
      exact ih (by omega) h

end Span
