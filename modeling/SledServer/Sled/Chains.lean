import SledServer.Core.Walk
import SledServer.Sled.Changes
import SledServer.Sled.Flush

/-!
# Which changes are written

`sled_profile_write_pending_changes` walks along the next links and clears the pending changes of
the profiles it visits (`walk_writes`), so it ends on every link graph and writes what is pending in
the profiles it visits, and nothing else (`writePendingChanges_exact`).  It stops at the first
profile with nothing pending, though, and what lies behind that profile is not written.
`execute_complete_iff` says when nothing that a motion depends on is left out.
-/

namespace SledServer

open SledServer.Core

namespace SledEnv

variable (e : SledEnv)

/-- The profile that the next link of profile `i` leads to. -/
def next? (i : Fin MAX_PROFILES) : Option (Fin MAX_PROFILES) :=
  profileIndex? (e.profiles i).nextProfile

/-- The profiles with a field in `FIELD_CHANGED`. -/
def changed : Set (Fin MAX_PROFILES) := {i | ∃ f, (e.profiles i).fieldState f = .changed}

/-- Every next link is -1 or the index of a profile. -/
def LinksInRange : Prop :=
  ∀ i, (e.profiles i).nextProfile = -1 ∨ profileIndex? (e.profiles i).nextProfile ≠ none

variable {e} {i : Fin MAX_PROFILES}

lemma mem_changed : i ∈ e.changed ↔ sledProfileHasChangesPending (e.profiles i) = true :=
  (hasChangesPending_iff _).symm

instance : Decidable (i ∈ e.changed) := decidable_of_iff _ mem_changed.symm

lemma changed_visit : (e.visit i).changed = e.changed \ {i} := by
  ext j
  rw [mem_changed, ← mem_pending, pending_visit, Finset.mem_erase, mem_pending, ← mem_changed]
  exact and_comm

lemma next?_visit : (e.visit i).next? = e.next? := by
  funext j
  rw [next?, (visit_profile_contents e i j).2.1, next?]

lemma changed_visits (is : List (Fin MAX_PROFILES)) :
    i ∈ (is.foldl visit e).changed ↔ i ∉ is ∧ i ∈ e.changed := by
  rw [mem_changed, visits_pending, mem_changed]

lemma next?_visits (is : List (Fin MAX_PROFILES)) : (is.foldl visit e).next? = e.next? := by
  funext j
  rw [next?, (visits_profile e is j).2.1, next?]

lemma next?_eq_none (h : ¬ (e.profiles i).nextProfile ≥ 0) : e.next? i = none := by
  cases hn : e.next? i with
  | none => rfl
  | some j =>
    have := profileIndex?_eq_some.mp hn
    omega

lemma LinksInRange.linkedIn (h : e.LinksInRange) : e.LinkedIn Set.univ := fun i _ => by
  obtain hend | hlink := h i
  · exact .inl (by omega)
  · obtain ⟨j, hj⟩ := Option.ne_none_iff_exists'.mp hlink
    exact .inr ⟨j, trivial, profileIndex?_eq_some.mp hj⟩

end SledEnv

/-! ## The walk -/

section Walk

variable {e : SledEnv} {id : ℤ} {is : List (Fin MAX_PROFILES)} {i : Fin MAX_PROFILES}

/-- The recursion is a walk along the next links, in which visits erase the pending changes. -/
lemma VisitOrder.walk (h : VisitOrder e id is) (hi : profileIndex? id = some i) :
    Walk e.next? e.changed i is := by
  induction h generalizing i with
  | done hk hp =>
    obtain rfl := Option.some.inj (hk.symm.trans hi)
    exact .stop (by simp [SledEnv.mem_changed, hp])
  | last hk hp hn =>
    obtain rfl := Option.some.inj (hk.symm.trans hi)
    exact .last (SledEnv.mem_changed.mpr hp) (SledEnv.next?_eq_none hn)
  | @next e id k is hk hp _ hlink _ ih =>
    obtain rfl := Option.some.inj (hk.symm.trans hi)
    obtain ⟨j, hj⟩ := Option.ne_none_iff_exists'.mp hlink
    have hrest := ih hj
    rw [SledEnv.changed_visit, SledEnv.next?_visit] at hrest
    exact .step (SledEnv.mem_changed.mpr hp) hj hrest

lemma walk_writes (h : writes e (i : ℕ) = .ok is) : Walk e.next? e.changed i is :=
  (visitOrder_of_writeOrder h).walk (profileIndex?_natCast i)

end Walk

/-! ## What is written -/

namespace SledEnv

variable (e : SledEnv)

/-- The requests of one visit: the slot of the profile may be copied to slot 0, every changed field
is written, and slot 0 is copied to the slot of the profile. -/
def visitParts (load : Bool) (i : Fin MAX_PROFILES) : List (Request sledClient) :=
  (if load then [copyTask (e.profiles i).profile 0] else []) ++
    (e.changedFields i).map (fun f => fieldWrite i f (e.value i f)) ++
    [copyTask 0 (e.profiles i).profile]

/-- The environment once the profiles `is` have been written. -/
def written (current : ℤ) (is : List (Fin MAX_PROFILES)) : SledEnv :=
  { e with
    currentProfile := current
    profiles := fun j => if j ∈ is then (e.profiles j).queued else e.profiles j }

/-- The profiles `is` are the longest beginning of the chain of next links from `i` in which every
profile has a changed field when it is visited. -/
structure LongestChanged (i : Fin MAX_PROFILES) (is : List (Fin MAX_PROFILES)) : Prop where
  chain : ∀ n j, is[n]? = some j → chain e.next? i n = some j
  changed : ∀ n j, is[n]? = some j → j ∈ ((is.take n).foldl visit e).changed
  longest : ∀ j, Core.chain e.next? i is.length = some j → j ∉ (is.foldl visit e).changed

variable {e} {i : Fin MAX_PROFILES} {is : List (Fin MAX_PROFILES)}

/-- Other visits do not change what a visit queues. -/
lemma visitParts_visit {j : Fin MAX_PROFILES} (h : j ≠ i) (load : Bool) :
    (e.visit i).visitParts load j = e.visitParts load j := by
  simp [visitParts, changedFields, visit_profiles_of_ne e i j h]

lemma queued_queued (p : SledProfile) : p.queued.queued = p.queued := by
  have hstate : ∀ f, p.queued.fieldState f ≠ .changed := fun f hf => by
    have hno := not_hasChangesPending_queued p
    rw [(hasChangesPending_iff _).mpr ⟨f, hf⟩] at hno
    cases hno
  simp only [SledProfile.queued] at hstate ⊢
  simp [hstate]

lemma visits_eq_written (is : List (Fin MAX_PROFILES)) :
    ∃ current, is.foldl visit e = e.written current is := by
  induction is generalizing e with
  | nil => exact ⟨e.currentProfile, by simp [written]⟩
  | cons i is ih =>
    obtain ⟨current, hcurrent⟩ := ih (e := e.visit i)
    refine ⟨current, ?_⟩
    rw [List.foldl_cons, hcurrent]
    have hprofiles : ∀ j, (if j ∈ is then ((e.visit i).profiles j).queued
        else (e.visit i).profiles j) =
          if j ∈ i :: is then (e.profiles j).queued else e.profiles j := by
      intro j
      by_cases hj : j = i
      · subst hj
        simp [visit_profile_self, queued_queued]
      · simp [visit_profiles_of_ne e i j hj, hj]
    simp only [written, hprofiles]
    rfl

lemma longestChanged_of_walk (h : Walk e.next? e.changed i is) : e.LongestChanged i is where
  chain n j hj := h.chain hj
  changed n j hj := by
    have hmem : j ∈ is := List.mem_of_getElem? hj
    have hdrop : j ∈ is.drop n := by
      refine List.mem_of_getElem? (i := 0) ?_
      rwa [List.getElem?_drop]
    refine (changed_visits _).mpr ⟨fun htake => ?_, h.subset j hmem⟩
    exact List.disjoint_take_drop h.nodup le_rfl htake hdrop
  longest j hj hchanged := by
    obtain ⟨hno, hch⟩ := (changed_visits is).mp hchanged
    exact hno (h.longest hj hch)

end SledEnv

/-- The requests of a series of visits, and what it does to the rest. -/
lemma visits_eq_pushAll {is : List (Fin MAX_PROFILES)} (hnodup : is.Nodup) (s : Sled) :
    ∃ loads : Fin MAX_PROFILES → Bool, is.foldl Host.visit s =
      (s.pushAll (is.flatMap fun i => s.env.visitParts (loads i) i)).withEnv
        (is.foldl SledEnv.visit s.env) := by
  induction is generalizing s with
  | nil => exact ⟨fun _ => false, rfl⟩
  | cons i is ih =>
    obtain ⟨hi, hnodup⟩ := List.nodup_cons.mp hnodup
    obtain ⟨loads, hloads⟩ := ih hnodup (s.visit i)
    refine ⟨Function.update loads i (s.env.loads i), ?_⟩
    have hrest : (is.flatMap fun j => (s.env.visit i).visitParts (loads j) j) =
        is.flatMap fun j => s.env.visitParts (Function.update loads i (s.env.loads i) j) j := by
      refine List.flatMap_congr fun j hj => ?_
      have hne : j ≠ i := fun h => hi (h ▸ hj)
      rw [SledEnv.visitParts_visit hne, Function.update_of_ne hne]
    have henv : (s.visit i).env = s.env.visit i := rfl
    have hfirst : s.env.visitParts (s.env.loads i) i = s.env.visitRequests i := rfl
    rw [List.foldl_cons, hloads, henv, hrest, List.flatMap_cons, Function.update_self, hfirst,
      Host.visit, Host.withEnv_pushAll, Host.withEnv_withEnv, Host.pushAll_append, List.foldl_cons]

/-- **Writing pending changes ends and writes exactly what is pending.**  With all next links within
the table, the call returns.  The profiles it visits are the longest beginning of the chain of next
links in which every profile has something pending.  For each of them, in this order, it queues at
most one copy of the slot of the profile to slot 0, one write for each changed field, with the value
computed from the profile, and the copy of slot 0 to the slot of the profile.  These fields are
being written from then on, and nothing else changes in the profiles but that they have been
sent. -/
theorem writePendingChanges_exact (s : Sled) (i : Fin MAX_PROFILES)
    (hlinks : s.env.LinksInRange) :
    ∃ (is : List (Fin MAX_PROFILES)) (loads : Fin MAX_PROFILES → Bool) (current : ℤ) (t : Sled),
      sledProfileWritePendingChanges (i : ℕ) s = .ok (0, t) ∧
      s.env.LongestChanged i is ∧
      t = (s.pushAll (is.flatMap fun j => s.env.visitParts (loads j) j)).withEnv
        (s.env.written current is) ∧
      t.queuedRequests =
        s.queuedRequests ++ is.flatMap fun j => s.env.visitParts (loads j) j := by
  obtain ⟨is, his⟩ := writes_returns hlinks.linkedIn (Set.mem_univ i)
  have hwalk := walk_writes his
  obtain ⟨loads, hloads⟩ := visits_eq_pushAll hwalk.nodup s
  obtain ⟨current, hcurrent⟩ := SledEnv.visits_eq_written (e := s.env) is
  refine ⟨is, loads, current, is.foldl Host.visit s, ?_, SledEnv.longestChanged_of_walk hwalk,
    ?_, ?_⟩
  · rw [sledProfileWritePendingChanges_eq, his]
    rfl
  · rw [hloads, hcurrent]
  · rw [hloads, Host.queuedRequests_withEnv, Host.queuedRequests_pushAll]

/-- Every profile is followed by profile 0, which follows itself. -/
theorem writePendingChanges_exact_loop :
    let s : Sled := mchSdoCreate intfCreate someMemory
    ∃ (is : List (Fin MAX_PROFILES)) (loads : Fin MAX_PROFILES → Bool) (current : ℤ) (t : Sled),
      sledProfileWritePendingChanges ((3 : Fin MAX_PROFILES) : ℕ) s = .ok (0, t) ∧
      s.env.LongestChanged 3 is ∧
      t = (s.pushAll (is.flatMap fun j => s.env.visitParts (loads j) j)).withEnv
        (s.env.written current is) ∧
      t.queuedRequests =
        s.queuedRequests ++ is.flatMap fun j => s.env.visitParts (loads j) j :=
  writePendingChanges_exact _ 3 fun _ => .inr (show profileIndex? 0 ≠ none by decide)

/-! ## What a motion depends on -/

/-- Every profile with a changed field that follows profile `i` follows it through profiles with
changed fields. -/
def SledEnv.ChangedThrough (e : SledEnv) (i : Fin MAX_PROFILES) : Prop :=
  ∀ j, Follows e.next? i j → j ∈ e.changed → FollowsIn e.next? e.changed i j

/-- A successful call writes the profile first. -/
lemma execute_written {id : ℤ} {s t : Sled} (h : sledProfileExecute id s = .ok (0, t)) :
    ∃ i is, profileIndex? id = some i ∧ writes s.env id = .ok is ∧
      sledProfileWritePendingChanges id s = .ok (0, is.foldl Host.visit s) ∧
      t = s.started is i := by
  obtain hbad | ⟨i, is, hi, -, -, his, hstarted⟩ := sledProfileExecute_ok h
  · simp at hbad
  · refine ⟨i, is, hi, his, ?_, (Prod.mk.inj hstarted).2⟩
    rw [sledProfileWritePendingChanges_eq, his]
    rfl

/-- **When everything that a motion depends on is written.**  When `sled_profile_execute` queues the
motion task, no profile that follows the executed one has a changed field, exactly if the changed
profiles among them could be reached through changed profiles when it was called. -/
theorem execute_complete_iff {id : ℤ} {s t : Sled} (h : sledProfileExecute id s = .ok (0, t)) :
    ∃ i u, profileIndex? id = some i ∧ sledProfileWritePendingChanges id s = .ok (0, u) ∧
      t = ((u.push (motionTask (u.env.profiles i).profile)).push (controlWord 0x3F)).mpMove
        .setpointSet ∧
      ((∀ j, Follows u.env.next? i j → j ∉ u.env.changed) ↔ s.env.ChangedThrough i) := by
  obtain ⟨i, is, hi, his, hwrite, ht⟩ := execute_written h
  refine ⟨i, is.foldl Host.visit s, hi, hwrite, ht, ?_⟩
  have hwalk : Walk s.env.next? s.env.changed i is := (visitOrder_of_writeOrder his).walk hi
  rw [visits_env, SledEnv.next?_visits]
  refine forall_congr' fun j => ?_
  rw [SledEnv.changed_visits, ← hwalk.mem_iff]
  tauto

/-- Two profiles, the second one the next of the first. -/
def twoInARow : List SledEvent :=
  networkUp ++ driveUp ++
    [.call .profileCreate, .call .profileCreate,
      .call (.profileSetTarget 4 .posAbsolute (1 / 10) 1),
      .call (.profileSetTarget 5 .posAbsolute 0 1), .call (.profileSetNext 4 5 0 .blnAfter)]

/-- The first one is executed, and both are written. -/
theorem execute_complete_two :
    ∃ s t, sledRun someMemory 0 ⟨.success, true⟩ twoInARow = .ok s ∧
      s.env.next? 4 = some 5 ∧ 4 ∈ s.env.changed ∧ 5 ∈ s.env.changed ∧
      sledProfileExecute 4 s = .ok (0, t) ∧ 4 ∉ t.env.changed ∧ 5 ∉ t.env.changed ∧
      ∃ i u, profileIndex? 4 = some i ∧ sledProfileWritePendingChanges 4 s = .ok (0, u) ∧
        t = ((u.push (motionTask (u.env.profiles i).profile)).push (controlWord 0x3F)).mpMove
          .setpointSet ∧
        ((∀ j, Follows u.env.next? i j → j ∉ u.env.changed) ↔ s.env.ChangedThrough i) := by
  obtain ⟨s, hs, h⟩ := exists_of_okAnd
    (p := fun s : Sled => decide (s.env.next? 4 = some 5 ∧ 4 ∈ s.env.changed ∧ 5 ∈ s.env.changed) &&
      okAnd (fun r : ℤ × Sled => decide (r.1 = 0 ∧ 4 ∉ r.2.env.changed ∧ 5 ∉ r.2.env.changed))
        (sledProfileExecute 4 s))
    (x := sledRun someMemory 0 ⟨.success, true⟩ twoInARow) (by decide +kernel)
  obtain ⟨hbefore, hexecute⟩ := Bool.and_eq_true_iff.mp h
  obtain ⟨hnext, hfirst, hsecond⟩ := of_decide_eq_true hbefore
  obtain ⟨⟨code, t⟩, ht, hafter⟩ := exists_of_okAnd hexecute
  obtain ⟨rfl, hfirst', hsecond'⟩ := of_decide_eq_true hafter
  exact ⟨s, t, hs, hnext, hfirst, hsecond, ht, hfirst', hsecond', execute_complete_iff ht⟩

/-- Both are written, then the second is edited. -/
def editedBehind : List SledEvent :=
  twoInARow ++
    [.call (.profileWritePendingChanges 4), .call (.profileSetTarget 5 .posAbsolute (1 / 20) 1)]

/-- The motion is started with the old position of the second profile. -/
theorem execute_incomplete :
    ∃ s t u, sledRun someMemory 0 ⟨.success, true⟩ editedBehind = .ok s ∧
      sledProfileExecute 4 s = .ok (0, t) ∧ sledProfileWritePendingChanges 4 s = .ok (0, u) ∧
      t = ((u.push (motionTask (u.env.profiles 4).profile)).push (controlWord 0x3F)).mpMove
        .setpointSet ∧
      Follows u.env.next? 4 5 ∧ (u.env.profiles 5).fieldState .p = .changed := by
  obtain ⟨s, hs, h⟩ := exists_of_okAnd
    (p := fun s : Sled => okAnd (fun r => r.1 == 0) (sledProfileExecute 4 s) &&
      okAnd (fun r => r.2.env.next? 4 == some 5 && (r.2.env.profiles 5).fieldState .p == .changed)
        (sledProfileWritePendingChanges 4 s))
    (x := sledRun someMemory 0 ⟨.success, true⟩ editedBehind) (by decide +kernel)
  obtain ⟨hexecute, hwrite⟩ := Bool.and_eq_true_iff.mp h
  obtain ⟨⟨code, t⟩, ht, hcode⟩ := exists_of_okAnd hexecute
  obtain rfl : code = 0 := by simpa using hcode
  obtain ⟨i, is, hi, -, hu, hstarted⟩ := execute_written ht
  obtain ⟨r, hr, hstate⟩ := exists_of_okAnd hwrite
  obtain rfl := Except.ok.inj (hu.symm.trans hr)
  simp only [Bool.and_eq_true, beq_iff_eq] at hstate
  obtain rfl : i = 4 := Option.some.inj (hi.symm.trans (by decide))
  exact ⟨s, t, _, hs, ht, hu, hstarted, .single hstate.1, hstate.2⟩

end SledServer
