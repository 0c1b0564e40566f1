import Mathlib.Data.List.Infix

/-!
# What has left a queue, and what waits in it

A backlog is a first-in first-out queue seen over time: the elements that have left it, oldest
first, and those that still wait.  `Serves k b b'` says that from `b` to `b'` nothing has been
dropped or overtaken, and that `k` elements have left, or all that were there.  So an element with
`k` others before it has left once `k + 1` have been served, however many have joined since.

Nothing here mentions a particular program.
-/

namespace SledServer.Core

universe u

/-- A queue over time. -/
structure Backlog (α : Type u) where
  gone : List α
  waiting : List α

namespace Backlog

variable {α : Type u} {b b' b'' : Backlog α} {k l : ℕ}

/-- Everything that has ever joined the queue. -/
def joined (b : Backlog α) : List α := b.gone ++ b.waiting

/-- What comes next leaves first, and no fewer than `k` elements leave if there are so many. -/
structure Serves (k : ℕ) (b b' : Backlog α) : Prop where
  keeps : b.joined <+: b'.joined
  leaves : b.gone ++ b.waiting.take k <+: b'.gone

namespace Serves

lemma refl (b : Backlog α) : Serves 0 b b := ⟨List.prefix_rfl, by simp⟩

lemma mono (h : Serves l b b') (hkl : k ≤ l) : Serves k b b' := by
  refine ⟨h.keeps, List.IsPrefix.trans ?_ h.leaves⟩
  rw [List.prefix_append_right_inj]
  exact List.take_prefix_take_left hkl

lemma length_le (h : Serves k b b') :
    b.gone.length + min k b.waiting.length ≤ b'.gone.length := by
  have hle := h.leaves.length_le
  rwa [List.length_append, List.length_take] at hle

lemma trans (h : Serves k b b') (h' : Serves l b' b'') : Serves (k + l) b b'' := by
  refine ⟨h.keeps.trans h'.keeps, ?_⟩
  -- Both are first parts of everything that has ever joined, so the shorter is a part of the other.
  have hbefore : b.gone ++ b.waiting.take (k + l) <+: b'.joined := by
    refine List.IsPrefix.trans ?_ h.keeps
    rw [joined, List.prefix_append_right_inj]
    exact List.take_prefix _ _
  have hafter : b'.gone ++ b'.waiting.take l <+: b'.joined := by
    rw [joined, List.prefix_append_right_inj]
    exact List.take_prefix _ _
  refine (List.prefix_of_prefix_length_le hbefore hafter ?_).trans h'.leaves
  have hlength := h.length_le
  have hjoined := h.keeps.length_le
  simp only [joined, List.length_append, List.length_take] at hjoined ⊢
  omega

/-- An element joins. -/
lemma join (b : Backlog α) (a : α) : Serves 0 b ⟨b.gone, b.waiting ++ [a]⟩ :=
  ⟨⟨[a], by simp [joined]⟩, by simp⟩

/-- The first element leaves. -/
lemma serve (gone : List α) (a : α) (rest : List α) :
    Serves 1 ⟨gone, a :: rest⟩ ⟨gone ++ [a], rest⟩ := ⟨⟨[], by simp [joined]⟩, by simp⟩

/-- Nobody waits. -/
lemma idle (gone : List α) (k : ℕ) : Serves k ⟨gone, []⟩ ⟨gone, []⟩ :=
  ⟨List.prefix_rfl, by simp⟩

end Serves

end Backlog

end SledServer.Core
