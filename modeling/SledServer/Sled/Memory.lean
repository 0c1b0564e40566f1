import SledServer.Sled.Fresh

/-!
# Two runs on different memory

`sled_create` does not write the whole of the block that it gets from `malloc`.  `Session` is the
library as its clients and the drive see it: the frames it writes, and the results of the calls.
Two sessions with the same events show the same, whatever was in the memory, as long as no event
makes the library read what has not been written (`session_output_eq`).

The library does not see to that.  A profile that is written a second time makes it read
`current_profile`, which has never been written (`session_depends_on_memory`).
-/

namespace SledServer

open SledServer.Core

/-! ## The library from outside -/

/-- What can happen to the library, with the two functions that change nothing. -/
inductive ApiEvent
  | sled (e : SledEvent)
  | getPosition
  | getPositionAndTime (now : ℚ)

/-- What a call returns. -/
inductive ApiResult
  | code (result : ℤ)
  | position (result : ℤ × Option ℚ)
  | positionAndTime (result : ℤ × Option ℚ × ℚ)
  deriving DecidableEq

/-- One event: the results that a client gets, and the state after it. -/
def apiStep (s : Sled) : ApiEvent → Except Halt (List ApiResult × Sled)
  | .sled (.call c) => do
    let r ← sledCall s c
    .ok ([.code r.1], r.2)
  | .sled e => do
    let s ← sledStep s e
    .ok ([], s)
  | .getPosition => .ok ([.position (sledRtGetPosition s)], s)
  | .getPositionAndTime now => .ok ([.positionAndTime (sledRtGetPositionAndTime now s)], s)

/-- What `sled_create` has written when it returns: it creates four profiles. -/
def Known.start : Known := { created := fun i => decide ((i : ℕ) < 4), position := false }

/-- A sled, what its clients have been told, and which part of its memory has been written. -/
structure Session where
  sled : Sled
  known : Known
  results : List ApiResult

namespace Session

/-- What can be seen from outside: the frames on the bus and the results of the calls. -/
def output (σ : Session) : List CanMessage × List ApiResult := (σ.sled.intf.written, σ.results)

/-- The session, with fixed values in place of what is not known. -/
def view (σ : Session) : Session := { σ with sled := σ.sled.mask σ.known }

/-- A session that begins. -/
def start (s : Sled) : Session := ⟨s, .start, []⟩

end Session

/-- What is known after an event. -/
def Known.after (k : Known) (s : Sled) : ApiEvent → Known
  | .sled (.read _ _ r) => k.afterRead s r
  | .sled (.call c) => k.afterCall s.env c
  | _ => k

/-- One event of a session. -/
def sessionStep (σ : Session) (e : ApiEvent) : Except Halt Session := do
  let r ← apiStep σ.sled e
  .ok { sled := r.2, known := σ.known.after σ.sled e, results := σ.results ++ r.1 }

/-- A session: the sled is created in the memory `mem`, and then things happen to it. -/
def session (mem : SledEnv) (now : ℚ) (o : CanOutcome) (es : List ApiEvent) :
    Except Halt Session := do
  let s ← sledCreate mem now o
  run sessionStep (.start s) es

/-- The event of the sled, unless the client only asks. -/
def ApiEvent.sled? : ApiEvent → Option SledEvent
  | .sled e => some e
  | .getPosition | .getPositionAndTime _ => none

/-- The event does not make the library read what has not been written: the profiles that a call
writes have been created and not been sent since, and a position that is asked for has been
reported. -/
def Initialised (σ : Session) : ApiEvent → Prop
  | .sled (.call c) => (c.readsPosition = true → σ.known.position = true) ∧
      FreshWrites σ.known (c.prepared σ.sled).env c.writings
  | .sled (.read _ _ _) | .sled (.watchdog _) => True
  | .getPosition | .getPositionAndTime _ =>
    σ.sled.env.mchNet = .operational → σ.known.position = true

instance (σ : Session) : (e : ApiEvent) → Decidable (Initialised σ e)
  | .sled (.call _) => inferInstanceAs (Decidable (_ ∧ _))
  | .sled (.read _ _ _) | .sled (.watchdog _) => inferInstanceAs (Decidable True)
  | .getPosition | .getPositionAndTime _ => inferInstanceAs (Decidable (_ → _))

/-! ## The sled of a session -/

lemma sessionStep_sled (σ : Session) (e : ApiEvent) :
    (sessionStep σ e).map Session.sled =
      match e.sled? with
      | some e => sledStep σ.sled e
      | none => .ok σ.sled := by
  unfold sessionStep
  rcases e with (⟨o, now, r⟩ | now | c) | _ | now
  case sled.read =>
    simp only [apiStep, ApiEvent.sled?]
    cases sledStep σ.sled (.read o now r) with
    | error d => rfl
    | ok t => rfl
  case sled.watchdog =>
    simp only [apiStep, ApiEvent.sled?]
    cases sledStep σ.sled (.watchdog now) with
    | error d => rfl
    | ok t => rfl
  case sled.call =>
    simp only [apiStep, ApiEvent.sled?, sledStep]
    cases sledCall σ.sled c with
    | error d => rfl
    | ok r => rfl
  all_goals rfl

/-- The sled of a session goes through the events of the session. -/
lemma session_sled (mem : SledEnv) (now : ℚ) (o : CanOutcome) (es : List ApiEvent) :
    (session mem now o es).map Session.sled = sledRun mem now o (es.filterMap ApiEvent.sled?) := by
  have hrun : ∀ (es : List ApiEvent) (σ : Session), (run sessionStep σ es).map Session.sled =
      run sledStep σ.sled (es.filterMap ApiEvent.sled?) := by
    intro es
    induction es with
    | nil => exact fun σ => rfl
    | cons e es ih =>
      intro σ
      have hstep := sessionStep_sled σ e
      rw [run_cons]
      cases he : e.sled? with
      | none =>
        rw [he] at hstep
        obtain ⟨τ, hτ, hsled⟩ := map_eq_ok.mp hstep
        rw [hτ, ok_bind, ih, hsled, List.filterMap_cons_none he]
      | some f =>
        rw [he] at hstep
        dsimp only at hstep
        rw [List.filterMap_cons_some he, run_cons, ← hstep]
        cases sessionStep σ e with
        | error d => rfl
        | ok τ => exact ih τ
  unfold session sledRun
  cases sledCreate mem now o with
  | error d => rfl
  | ok s => exact hrun es (.start s)

/-! ## One step -/

section Step

variable {σ : Session} {e : ApiEvent}

lemma initialised_view : Initialised σ.view e ↔ Initialised σ e := by
  rcases e with (⟨o, now, r⟩ | now | c) | _ | now
  case sled.call =>
    refine and_congr_right fun hposition : c.readsPosition = true → σ.known.position = true => ?_
    show FreshWrites σ.known (c.prepared (σ.sled.mask σ.known)).env c.writings ↔ _
    rw [mask_prepared hposition]
    exact mask_freshWrites fun w hw => mask_visits_of_mem hw
  all_goals exact Iff.rfl

section Position

variable {k : Known} {s : Sled} (h : s.env.mchNet = .operational → k.position = true)

include h

lemma mask_getPosition : sledRtGetPosition (s.mask k) = sledRtGetPosition s := by
  unfold sledRtGetPosition
  by_cases hnet : s.env.mchNet = .operational
  · rw [mask_mchNet, mask_lastPosition (h hnet)]
  · rw [if_pos hnet, if_pos (show (s.mask k).env.mchNet ≠ .operational from hnet)]

lemma mask_getPositionAndTime {now : ℚ} :
    sledRtGetPositionAndTime now (s.mask k) = sledRtGetPositionAndTime now s := by
  unfold sledRtGetPositionAndTime
  by_cases hnet : s.env.mchNet = .operational
  · have htime : (s.mask k).env.lastTime = s.env.lastTime := if_pos (h hnet)
    rw [mask_mchNet, mask_lastPosition (h hnet), htime]
  · rw [if_pos hnet, if_pos (show (s.mask k).env.mchNet ≠ .operational from hnet)]

end Position

lemma apiStep_mask (h : Initialised σ e) :
    apiStep (σ.sled.mask σ.known) e =
      (apiStep σ.sled e).map fun r => (r.1, r.2.mask (σ.known.after σ.sled e)) := by
  rcases e with (⟨o, now, r⟩ | now | c) | _ | now
  case sled.read =>
    simp only [apiStep, mask_read]
    cases sledStep σ.sled (.read o now r) with
    | error d => rfl
    | ok t => rfl
  case sled.watchdog =>
    simp only [apiStep, sledStep, maskBlind_watchdog now σ.sled]
    cases nmtWatchdog now σ.sled with
    | error d => rfl
    | ok t => rfl
  case sled.call =>
    simp only [apiStep, mask_call h.1 h.2]
    cases sledCall σ.sled c with
    | error d => rfl
    | ok r => rfl
  case getPosition =>
    simp only [apiStep, mask_getPosition h]
    rfl
  case getPositionAndTime =>
    simp only [apiStep, mask_getPositionAndTime h]
    rfl

/-- What has not been written does not matter to a step that does not read it. -/
lemma sessionStep_view (h : Initialised σ e) :
    sessionStep σ.view e = (sessionStep σ e).map Session.view := by
  have hknown : σ.known.after (σ.sled.mask σ.known) e = σ.known.after σ.sled e := by
    rcases e with (⟨o, now, r⟩ | now | c) | _ | now
    case sled.call =>
      have hcreate : σ.known.afterCreate (σ.sled.mask σ.known).env =
          σ.known.afterCreate σ.sled.env := by
        unfold Known.afterCreate
        rw [mask_freeProfile?]
      cases c with
      | profileCreate | profileCreatePt => exact hcreate
      | _ => rfl
    all_goals rfl
  unfold sessionStep
  rw [show σ.view.sled = σ.sled.mask σ.known from rfl, apiStep_mask h,
    show σ.view.known = σ.known from rfl, hknown]
  cases apiStep σ.sled e with
  | error d => rfl
  | ok r => rfl

end Step

/-! ## The start -/

section Start

variable {mem mem' : SledEnv} {now : ℚ}

lemma mask_linkSinusoid {k : Known} {s : Sled} :
    (s.mask k).linkSinusoid = s.linkSinusoid.mask k := by
  simp only [Host.linkSinusoid, mask_setTable, mask_setNext, maskResult]
  rfl

/-- A profile that has been created is known as a whole, and one that has been cleared up to
`never_sent`. -/
lemma mask_createdTable (k : ℕ) (f f' : Fin MAX_PROFILES → SledProfile) (i : Fin MAX_PROFILES) :
    (createdTable k f i).mask (decide ((i : ℕ) < k)) =
      (createdTable k f' i).mask (decide ((i : ℕ) < k)) := by
  unfold createdTable
  by_cases hi : (i : ℕ) < k
  · rw [if_pos hi, if_pos hi]
    rfl
  · rw [if_neg hi, if_neg hi, decide_eq_false hi]
    rfl

/-- `sled_create` leaves the same in every memory, apart from what it does not write. -/
lemma mask_sledCreateProfiles :
    (sledCreateProfiles (sledAlloc mem now)).mask .start =
      (sledCreateProfiles (sledAlloc mem' now)).mask .start := by
  have htable : (fun i => (createdTable 4 mem.profiles i).mask (Known.start.created i)) =
      fun i => (createdTable 4 mem'.profiles i).mask (Known.start.created i) :=
    funext (mask_createdTable 4 mem.profiles mem'.profiles)
  have hsinusoid : (sledAlloc mem now).withSinusoid.mask .start =
      (sledAlloc mem' now).withSinusoid.mask .start := by
    have henv : (sledAlloc mem now).withSinusoid.env.mask .start =
        (sledAlloc mem' now).withSinusoid.env.mask .start := by
      simp only [Host.withSinusoid, Host.withEnv_env, SledEnv.mask, sledAlloc, mchSdoCreate]
      rw [htable]
      rfl
    unfold Host.mask
    rw [henv]
    rfl
  rw [sledCreateProfiles_eq, sledCreateProfiles_eq, ← mask_linkSinusoid, hsinusoid,
    mask_linkSinusoid]

lemma sledCreate_mask (mem mem' : SledEnv) (now : ℚ) (o : CanOutcome) :
    (sledCreate mem now o).map (Host.mask .start) =
      (sledCreate mem' now o).map (Host.mask .start) := by
  have hclosed : ∀ m : SledEnv, (sledCreateProfiles (sledAlloc m now)).env.mchIntf = .closed := by
    intro m
    have hstores :
        Stores (fun _ => False) (sledAlloc m now) (sledCreateProfiles (sledAlloc m now)) :=
      Stores.createProfiles (.refl _)
    exact (hstores.env_rel SledEnv.SameModes.refl fun _ _ _ => .trans).intf
  unfold sledCreate
  rw [← maskBlind_open o (hclosed mem), ← maskBlind_open o (hclosed mem'), mask_sledCreateProfiles]

end Start

/-! ## The property -/

section Property

variable {mem mem' : SledEnv} {now : ℚ} {o : CanOutcome} {es : List ApiEvent}

/-- Two sessions with the same events show the same, whatever was in the memory, as long as no event
makes the library read what has not been written. -/
theorem session_output_eq
    (h : ∀ s, sledCreate mem now o = .ok s → Guarded sessionStep Initialised (.start s) es) :
    ∀ pre, pre <+: es →
      (session mem now o pre).map Session.output = (session mem' now o pre).map Session.output := by
  intro pre hpre
  have houtput : ∀ x : Except Halt Session,
      (x.map Session.view).map Session.output = x.map Session.output := by
    intro x
    cases x with
    | error d => rfl
    | ok σ => rfl
  have hcreate := sledCreate_mask mem mem' now o
  rw [← houtput, ← houtput (session mem' now o pre)]
  refine congrArg (Except.map Session.output) ?_
  unfold session
  cases hs : sledCreate mem now o with
  | error d =>
    rw [hs] at hcreate
    cases hs' : sledCreate mem' now o with
    | error d' =>
      rw [hs'] at hcreate
      cases hcreate
      rfl
    | ok s' =>
      rw [hs'] at hcreate
      cases hcreate
  | ok s =>
    rw [hs] at hcreate
    obtain ⟨s', hs', hmask⟩ := map_eq_ok.mp hcreate.symm
    rw [hs']
    have hview : (Session.start s).view = (Session.start s').view := by
      unfold Session.view Session.start
      rw [hmask]
    exact Guarded.map_run_eq (fun _ _ => initialised_view) (fun _ _ => sessionStep_view) hview
      (Guarded.of_isPrefix hpre (h s hs))

end Property

/-! ## Two memories -/

/-- The same memory as `someMemory`, with the number of a motion task and a position in it. -/
def otherMemory : SledEnv := { someMemory with currentProfile := 205, lastPosition := 1 }

/-- TPDO2 with a position of one metre. -/
def positionReport : SledEvent :=
  frame { id := 0x281, type := 0, len := 8, data := #v[0x40, 0x42, 0x0F, 0, 0, 0, 0, 0] }

/-- The sled comes up, reports its position and starts a sinusoid. -/
def firstSinusoid : List ApiEvent :=
  (networkUp ++ driveUp ++ [positionReport]).map .sled ++
    [.getPosition, .sled (.call (.sinusoidStart (1 / 10) 2))]

theorem session_output_eq_firstSinusoid :
    (session someMemory 0 ⟨.success, true⟩ firstSinusoid).map Session.output =
      (session otherMemory 0 ⟨.success, true⟩ firstSinusoid).map Session.output :=
  session_output_eq (by decide +kernel) firstSinusoid (List.prefix_refl _)

/-- A profile is created and written, and written again with another table.  Then the client asks
for the position. -/
def secondWrite : List ApiEvent :=
  (networkUp ++
   [controlWordConfirmed, .call .profileCreate, .call (.profileWritePendingChanges 4)] ++
    (Field.all.map fun f => frame (writeResponse f.index 1)) ++
    [frame (writeResponse OB_COPY_MOTION_TASK 0), .call (.profileSetTable 4 0),
      .call (.profileWritePendingChanges 4)]).map .sled ++ [.getPosition]

/-- What was in the memory decides whether the drive is told to load the profile, and is the
position that the client is told. -/
theorem session_depends_on_memory :
    ∃ σ σ' : Session, session someMemory 0 ⟨.success, true⟩ secondWrite = .ok σ ∧
      session otherMemory 0 ⟨.success, true⟩ secondWrite = .ok σ' ∧
      σ.sled.intf.written ≠ σ'.sled.intf.written ∧ σ.results ≠ σ'.results := by
  obtain ⟨σ, hσ, h⟩ := exists_of_okAnd
    (p := fun σ : Session => σ.sled.intf.written.getLast? =
        some (writeReqFrame OB_COPY_MOTION_TASK 0 (copyValue 205 0) 4) ∧
      σ.results.getLast? = some (.position (0, some 0)))
    (x := session someMemory 0 ⟨.success, true⟩ secondWrite) (by decide +kernel)
  obtain ⟨σ', hσ', h'⟩ := exists_of_okAnd
    (p := fun σ : Session => σ.sled.intf.written.getLast? =
        some (writeReqFrame OB_O_TAB 1 0 4) ∧
      σ.results.getLast? = some (.position (0, some 1)))
    (x := session otherMemory 0 ⟨.success, true⟩ secondWrite) (by decide +kernel)
  obtain ⟨hframe, hresult⟩ := of_decide_eq_true h
  obtain ⟨hframe', hresult'⟩ := of_decide_eq_true h'
  refine ⟨σ, σ', hσ, hσ', fun heq => ?_, fun heq => ?_⟩
  · rw [heq, hframe'] at hframe
    revert hframe
    decide
  · rw [heq, hresult'] at hresult
    revert hresult
    decide

end SledServer
