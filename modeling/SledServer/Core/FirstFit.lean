import Mathlib.Data.Finset.Max
import Mathlib.Data.Fintype.Card

/-!
# Handing out slots first-fit

A table has finitely many slots, over an arbitrary linear order `α`.  `take` hands out the least
slot that is not taken, and `release` gives one back.  `Slots.after` is the set of slots that are
taken after a list of operations, and `Slots.handed` what the operations have handed out.

A slot that has been handed out is not handed out again before it has been released (`kept`), and
`take` fails exactly when all slots are taken (`free?_eq_none`).
-/

namespace SledServer.Core

/-- An operation on the table. -/
inductive SlotOp (α : Type*)
  | take
  | release (i : α)
  deriving DecidableEq

namespace Slots

variable {α : Type*} [LinearOrder α] [Fintype α] {taken : Finset α} {op : SlotOp α}
  {ops ops' : List (SlotOp α)} {i : α}

/-- The least slot that is not taken. -/
def free? (taken : Finset α) : Option α := takenᶜ.min

/-- What is taken after an operation. -/
def step (taken : Finset α) : SlotOp α → Finset α
  | .take => (free? taken).elim taken fun i => insert i taken
  | .release i => taken.erase i

/-- What an operation hands out: nothing for a release, and otherwise a slot, if there is one. -/
def hands? (taken : Finset α) : SlotOp α → Option (Option α)
  | .take => some (free? taken)
  | .release _ => none

/-- What is taken after a list of operations. -/
def after (taken : Finset α) (ops : List (SlotOp α)) : Finset α := ops.foldl step taken

/-- What a list of operations hands out, oldest first. -/
def handed (taken : Finset α) : List (SlotOp α) → List (Option α)
  | [] => []
  | op :: ops => (hands? taken op).toList ++ handed (step taken op) ops

lemma free?_eq_some : free? taken = some i ↔ i ∉ taken ∧ ∀ j < i, j ∈ taken := by
  constructor
  · intro h
    refine ⟨Finset.mem_compl.mp (Finset.mem_of_min h), fun j hj => ?_⟩
    by_contra hfree
    exact absurd hj (not_lt.mpr (Finset.min_le_of_eq (Finset.mem_compl.mpr hfree) h))
  · rintro ⟨hi, hlt⟩
    obtain ⟨j, hj⟩ := Finset.min_of_mem (Finset.mem_compl.mpr hi)
    have hle : j ≤ i := Finset.min_le_of_eq (Finset.mem_compl.mpr hi) hj
    obtain rfl | hji := hle.eq_or_lt
    · exact hj
    · exact absurd (hlt j hji) (Finset.mem_compl.mp (Finset.mem_of_min hj))

lemma free?_eq_none : free? taken = none ↔ taken = Finset.univ := by
  rw [free?, ← Finset.compl_eq_empty_iff]
  exact Finset.min_eq_top

@[simp] lemma after_nil : after taken [] = taken := rfl

lemma after_append : after taken (ops ++ ops') = after (after taken ops) ops' := List.foldl_append

lemma handed_append :
    handed taken (ops ++ ops') = handed taken ops ++ handed (after taken ops) ops' := by
  induction ops generalizing taken with
  | nil => rfl
  | cons op ops ih => simp only [List.cons_append, handed, ih, List.append_assoc]; rfl

/-- A slot that is taken stays so until it is released. -/
lemma mem_step (hi : i ∈ taken) (hop : op ≠ .release i) : i ∈ step taken op := by
  cases op with
  | take =>
    rw [step]
    cases free? taken with
    | none => exact hi
    | some j => exact Finset.mem_insert_of_mem hi
  | release j => exact Finset.mem_erase.mpr ⟨fun hij => hop (hij ▸ rfl), hi⟩

/-- A slot that is taken is not handed out. -/
lemma hands?_ne (hi : i ∈ taken) : hands? taken op ≠ some (some i) := by
  cases op with
  | take => exact fun h => (free?_eq_some.mp (Option.some.inj h)).1 hi
  | release j => exact nofun

/-- **A slot belongs to whom it has been handed out.**  While it is not released it stays taken, and
is handed out to nobody else. -/
theorem kept (hi : i ∈ taken) (hops : .release i ∉ ops) :
    i ∈ after taken ops ∧ some i ∉ handed taken ops := by
  induction ops generalizing taken with
  | nil => exact ⟨hi, by simp [handed]⟩
  | cons op ops ih =>
    obtain ⟨hop, hrest⟩ := not_or.mp (List.mem_cons.not.mp hops)
    obtain ⟨hmem, hnot⟩ := ih (mem_step hi (Ne.symm hop)) hrest
    refine ⟨hmem, fun h => ?_⟩
    obtain h | h := List.mem_append.mp h
    · exact hands?_ne hi (Option.mem_toList.mp h)
    · exact hnot h

end Slots

end SledServer.Core
