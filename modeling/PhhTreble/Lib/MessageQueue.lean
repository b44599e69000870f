import Mathlib.Data.List.Basic
/-!
# Bounded message queues

A queue between one writer and one reader. Both move any number of entries at
once, and move all of them or none.
-/

/-- A queue of at most `capacity` entries, the oldest first. -/
structure MessageQueue (α : Type) (capacity : Nat) where
  entries : List α
  fits : entries.length ≤ capacity
deriving DecidableEq, Repr

namespace MessageQueue

variable {α : Type} {capacity : Nat}

def empty : MessageQueue α capacity := ⟨[], Nat.zero_le _⟩

def availableToRead (q : MessageQueue α capacity) : Nat := q.entries.length

def availableToWrite (q : MessageQueue α capacity) : Nat := capacity - q.entries.length

/-- The queue with `xs` behind its entries; `none` when they do not fit. -/
def write (q : MessageQueue α capacity) (xs : List α) : Option (MessageQueue α capacity) :=
  if h : (q.entries ++ xs).length ≤ capacity then some ⟨q.entries ++ xs, h⟩ else none

/-- The `n` oldest entries, and the queue without them; `none` when there are fewer. -/
def read (q : MessageQueue α capacity) (n : Nat) : Option (List α × MessageQueue α capacity) :=
  if n ≤ q.availableToRead then
    some (q.entries.take n, ⟨q.entries.drop n, Nat.le_trans (by rw [List.length_drop]; exact Nat.sub_le _ _) q.fits⟩)
  else none

@[simp] theorem entries_empty : (empty : MessageQueue α capacity).entries = [] := rfl

theorem write_eq_some {q q' : MessageQueue α capacity} {xs : List α} (h : q.write xs = some q') :
    q'.entries = q.entries ++ xs := by
  unfold write at h
  split at h
  · cases h
    rfl
  · cases h

/-- What fits is written. -/
theorem write_fits {q : MessageQueue α capacity} {xs : List α} (h : xs.length ≤ q.availableToWrite) :
    ∃ q', q.write xs = some q' := by
  have hfits := q.fits
  unfold availableToWrite at h
  have hlen : (q.entries ++ xs).length ≤ capacity := by
    rw [List.length_append]
    omega
  exact ⟨_, dif_pos hlen⟩

theorem read_eq_some {q q' : MessageQueue α capacity} {n : Nat} {xs : List α} (h : q.read n = some (xs, q')) :
    xs.length = n ∧ q.entries = xs ++ q'.entries := by
  unfold read at h
  split at h
  · rename_i hn
    cases h
    refine ⟨?_, (List.take_append_drop n q.entries).symm⟩
    rw [List.length_take]
    exact Nat.min_eq_left hn
  · cases h

/-- What is there is read. -/
theorem read_available {q : MessageQueue α capacity} {n : Nat} (h : n ≤ q.availableToRead) :
    ∃ xs q', q.read n = some (xs, q') := ⟨_, _, if_pos h⟩

/-! ## A queue for one entry -/

theorem read_one (q : MessageQueue α 1) :
    q.entries = [] ∧ q.read 1 = none ∨ ∃ x q', q.entries = [x] ∧ q.read 1 = some ([x], q') ∧ q'.entries = [] := by
  cases he : q.entries with
  | nil => exact .inl ⟨rfl, by simp [read, availableToRead, he]⟩
  | cons x xs =>
    have hfits := q.fits
    rw [he, List.length_cons] at hfits
    obtain rfl : xs = [] := List.length_eq_zero_iff.1 (by omega)
    right
    exact ⟨x, empty, rfl, by simp [read, availableToRead, he, empty], rfl⟩

theorem write_one (q : MessageQueue α 1) (x : α) :
    q.entries = [] ∧ (∃ q', q.write [x] = some q' ∧ q'.entries = [x]) ∨ q.entries ≠ [] ∧ q.write [x] = none := by
  cases he : q.entries with
  | nil =>
    have hroom : [x].length ≤ q.availableToWrite := by simp [availableToWrite, he]
    obtain ⟨q', hq⟩ := write_fits hroom
    exact .inl ⟨rfl, q', hq, by rw [write_eq_some hq, he]; rfl⟩
  | cons y ys => exact .inr ⟨List.cons_ne_nil _ _, by simp [write, he]⟩

end MessageQueue
