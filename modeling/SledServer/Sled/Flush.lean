import SledServer.Sled.Visits

/-!
# Which profiles a series of writes visits

A call of the library can write several profiles in turn (`writesAll`).  `Series` collects what
holds of the profiles that are visited: each is visited once and has something to be written, and
when the series is over nothing is left to be written in the profiles that were asked for, nor in
the next profiles of those that were visited.
-/

namespace SledServer

open SledServer.Core

lemma visits_env (s : Sled) (is : List (Fin MAX_PROFILES)) :
    (is.foldl Host.visit s).env = is.foldl SledEnv.visit s.env := by
  induction is generalizing s with
  | nil => rfl
  | cons i is ih => exact ih (s.visit i)

/-- What a series of visits does to a profile. -/
lemma visits_profile (e : SledEnv) (is : List (Fin MAX_PROFILES)) (j : Fin MAX_PROFILES) :
    ((is.foldl SledEnv.visit e).profiles j).profile = (e.profiles j).profile ∧
      ((is.foldl SledEnv.visit e).profiles j).nextProfile = (e.profiles j).nextProfile ∧
      (∀ n f, ((is.foldl SledEnv.visit e).profiles j).value n f = (e.profiles j).value n f) ∧
      ((is.foldl SledEnv.visit e).profiles j).neverSent =
        (if j ∈ is then false else (e.profiles j).neverSent) ∧
      ∀ f, ((is.foldl SledEnv.visit e).profiles j).fieldState f =
        if j ∈ is ∧ (e.profiles j).fieldState f = .changed then .writing
        else (e.profiles j).fieldState f := by
  induction is generalizing e with
  | nil => simp
  | cons i is ih =>
    obtain ⟨hp, hnext, hv, hn, hst⟩ := ih (e.visit i)
    obtain ⟨hp', hnext', -, hv'⟩ := visit_profile_contents e i j
    refine ⟨hp.trans hp', hnext.trans hnext', fun n f => (hv n f).trans (hv' n f), ?_,
      fun f => ?_⟩
    · rw [List.foldl_cons, hn]
      by_cases hji : j = i
      · subst hji
        simp [visit_profile_self, SledProfile.queued]
      · simp [visit_profiles_of_ne e i j hji, hji]
    · rw [List.foldl_cons, hst f]
      by_cases hji : j = i
      · subst hji
        rw [visit_profile_self]
        by_cases hc : (e.profiles j).fieldState f = .changed
        · simp [SledProfile.queued, hc]
        · simp [SledProfile.queued, hc]
      · rw [visit_profiles_of_ne e i j hji]
        simp [hji]

lemma visits_pending (e : SledEnv) (is : List (Fin MAX_PROFILES)) (j : Fin MAX_PROFILES) :
    sledProfileHasChangesPending ((is.foldl SledEnv.visit e).profiles j) = true ↔
      j ∉ is ∧ sledProfileHasChangesPending (e.profiles j) = true := by
  obtain ⟨-, -, -, -, hst⟩ := visits_profile e is j
  rw [hasChangesPending_iff, hasChangesPending_iff]
  by_cases hj : j ∈ is
  · simp only [hst, hj, true_and, not_true_eq_false, false_and, iff_false, not_exists]
    intro f
    split
    · simp
    · assumption
  · simp [hst, hj]

/-- The profiles that are visited when the profiles `ids` are written in turn. -/
def writesAll : SledEnv → List ℤ → Except Halt (List (Fin MAX_PROFILES))
  | _, [] => .ok []
  | e, id :: ids => do
    let is ← writes e id
    let js ← writesAll (is.foldl SledEnv.visit e) ids
    .ok (is ++ js)

/-- Once the profiles `is` have been visited, profile `i` has nothing left to be written. -/
def Flushed (e : SledEnv) (is : List (Fin MAX_PROFILES)) (i : Fin MAX_PROFILES) : Prop :=
  i ∈ is ∨ sledProfileHasChangesPending (e.profiles i) = false

/-- A set of profiles that no link leads out of. -/
def LinksWithin (e : SledEnv) (S : Set (Fin MAX_PROFILES)) : Prop :=
  ∀ i ∈ S, ∀ j, profileIndex? (e.profiles i).nextProfile = some j → j ∈ S

/-- What holds of the profiles `is` that are visited when the profiles `ids` are written. -/
structure Series (e : SledEnv) (ids : List ℤ) (is : List (Fin MAX_PROFILES)) : Prop where
  nodup : is.Nodup
  pending : ∀ i ∈ is, sledProfileHasChangesPending (e.profiles i) = true
  links : ∀ i ∈ is, (e.profiles i).nextProfile ≥ 0 →
    profileIndex? (e.profiles i).nextProfile ≠ none
  heads : ∀ id ∈ ids, ∀ i, profileIndex? id = some i → Flushed e is i
  closed : ∀ i ∈ is, ∀ j, profileIndex? (e.profiles i).nextProfile = some j → Flushed e is j
  within : ∀ S, LinksWithin e S → (∀ id ∈ ids, ∀ i, profileIndex? id = some i → i ∈ S) →
    ∀ i ∈ is, i ∈ S

section Flushed

variable {e : SledEnv} {is js : List (Fin MAX_PROFILES)} {i k : Fin MAX_PROFILES}

/-- What is flushed after the visit of `k` is flushed by a series that starts with it. -/
lemma flushed_cons (h : Flushed (e.visit k) is i) : Flushed e (k :: is) i := by
  by_cases hi : i = k
  · exact .inl (by simp [hi])
  · rcases h with h | h
    · exact .inl (List.mem_cons_of_mem _ h)
    · rw [visit_profiles_of_ne e k i hi] at h
      exact .inr h

lemma flushed_append_left (h : Flushed e is i) : Flushed e (is ++ js) i :=
  h.imp_left fun hi => List.mem_append_left _ hi

lemma flushed_append (h : Flushed (is.foldl SledEnv.visit e) js i) : Flushed e (is ++ js) i := by
  by_cases hi : i ∈ is
  · exact .inl (List.mem_append_left _ hi)
  · rcases h with h | h
    · exact .inl (List.mem_append_right _ h)
    · have hnot := (visits_pending e is i).not.mp (by simp [h])
      exact .inr (by simpa [hi] using hnot)

lemma linksWithin_of_next {e' : SledEnv} {S : Set (Fin MAX_PROFILES)}
    (h : ∀ j, (e'.profiles j).nextProfile = (e.profiles j).nextProfile) (hS : LinksWithin e S) :
    LinksWithin e' S := fun i hi j hj => hS i hi j (by rwa [← h i])

end Flushed

/-! ## One profile -/

section One

variable {e : SledEnv} {id : ℤ} {is : List (Fin MAX_PROFILES)}

lemma VisitOrder.head (h : VisitOrder e id is) {i : Fin MAX_PROFILES}
    (hi : profileIndex? id = some i) : Flushed e is i := by
  cases h with
  | done hk hp =>
    rw [hk, Option.some.injEq] at hi
    exact .inr (hi ▸ hp)
  | last hk | next hk =>
    rw [hk, Option.some.injEq] at hi
    exact .inl (by simp [hi])

lemma VisitOrder.closed (h : VisitOrder e id is) : ∀ i ∈ is, ∀ j,
    profileIndex? (e.profiles i).nextProfile = some j → Flushed e is j := by
  induction h with
  | done => simp
  | last hi hp hn =>
    intro i hmem j hj
    rw [List.mem_singleton.mp hmem] at hj
    rw [profileIndex?_eq_some] at hj
    omega
  | @next e id k is hi hp hn hlink h ih =>
    intro i hmem j hj
    rcases List.mem_cons.mp hmem with rfl | hmem
    · exact flushed_cons (h.head hj)
    · rw [← (visit_profile_contents e k i).2.1] at hj
      exact flushed_cons (ih i hmem j hj)

lemma VisitOrder.within (h : VisitOrder e id is) {S : Set (Fin MAX_PROFILES)}
    (hS : LinksWithin e S) (hhead : ∀ i, profileIndex? id = some i → i ∈ S) :
    ∀ i ∈ is, i ∈ S := by
  induction h with
  | done => simp
  | last hi => simpa using hhead _ hi
  | @next e id k is hi hp hn hlink h ih =>
    have hk : k ∈ S := hhead k hi
    have hrest := ih (linksWithin_of_next (fun j => (visit_profile_contents e k j).2.1) hS)
      fun j hj => hS k hk j hj
    intro i hmem
    rcases List.mem_cons.mp hmem with rfl | hmem
    · exact hk
    · exact hrest i hmem

lemma series_of_writes (h : writes e id = .ok is) : Series e [id] is := by
  have horder : VisitOrder e id is := visitOrder_of_writeOrder h
  refine ⟨horder.nodup, horder.pending, horder.links, ?_, horder.closed, ?_⟩
  · simpa using fun i => horder.head
  · intro S hS hheads
    exact horder.within hS (hheads id (by simp))

end One

/-! ## Several profiles -/

lemma Series.append {e : SledEnv} {ids ids' : List ℤ} {is js : List (Fin MAX_PROFILES)}
    (h : Series e ids is) (h' : Series (is.foldl SledEnv.visit e) ids' js) :
    Series e (ids ++ ids') (is ++ js) := by
  have hpending : ∀ j ∈ js, j ∉ is ∧ sledProfileHasChangesPending (e.profiles j) = true :=
    fun j hj => (visits_pending e is j).mp (h'.pending j hj)
  have hnext : ∀ j, ((is.foldl SledEnv.visit e).profiles j).nextProfile =
      (e.profiles j).nextProfile := fun j => (visits_profile e is j).2.1
  refine ⟨?_, ?_, ?_, ?_, ?_, ?_⟩
  · refine List.nodup_append.mpr ⟨h.nodup, h'.nodup, ?_⟩
    rintro i hi j hj rfl
    exact (hpending i hj).1 hi
  · intro i hi
    rcases List.mem_append.mp hi with hi | hi
    · exact h.pending i hi
    · exact (hpending i hi).2
  · intro i hi
    rcases List.mem_append.mp hi with hi | hi
    · exact h.links i hi
    · rw [← hnext i]
      exact h'.links i hi
  · intro id hid i hi
    rcases List.mem_append.mp hid with hid | hid
    · exact flushed_append_left (h.heads id hid i hi)
    · exact flushed_append (h'.heads id hid i hi)
  · intro i hi j hj
    rcases List.mem_append.mp hi with hi | hi
    · exact flushed_append_left (h.closed i hi j hj)
    · rw [← hnext i] at hj
      exact flushed_append (h'.closed i hi j hj)
  · intro S hS hheads i hi
    rcases List.mem_append.mp hi with hi | hi
    · exact h.within S hS (fun id hid => hheads id (List.mem_append_left _ hid)) i hi
    · exact h'.within S (linksWithin_of_next hnext hS)
        (fun id hid => hheads id (List.mem_append_right _ hid)) i hi

lemma series_nil (e : SledEnv) : Series e [] [] := by
  refine ⟨by simp, by simp, by simp, by simp, by simp, by simp⟩

/-- What holds of every series of writes. -/
theorem series_of_writesAll {e : SledEnv} {ids : List ℤ} {is : List (Fin MAX_PROFILES)}
    (h : writesAll e ids = .ok is) : Series e ids is := by
  induction ids generalizing e is with
  | nil =>
    cases h
    exact series_nil e
  | cons id ids ih =>
    obtain ⟨is₁, h₁, h⟩ := bind_eq_ok.mp h
    obtain ⟨is₂, h₂, h⟩ := bind_eq_ok.mp h
    cases h
    exact (series_of_writes h₁).append (ih h₂)

end SledServer
