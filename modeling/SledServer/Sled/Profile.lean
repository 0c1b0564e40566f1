import SledServer.Machines.Motion

/-!
# Motion profiles

`sled_profile.cc`.  A profile lives in one motion task of the drive, number `profile`.  The drive
lets the host write only task 0, so `sled_profile_write_pending_changes` loads the task into
task 0, writes the changed fields there and copies task 0 back, and then does the same for the
next profile.

`writePendingChangesAt_eq` splits this recursion in two: the profiles that are visited, in order
(`writeOrder`), and what one visit does (`Host.visit`).
-/

namespace SledServer

open SledServer.Core

/-! ## Field states -/

/-- `sled_profile_get_controlword`. -/
def sledProfileGetControlword (p : SledProfile) : UInt32 :=
  let control : UInt32 := 0
  let control := match p.positionType with
    | .posAbsolute => control
    | .posRelativeActual => control ||| (0x01 ||| 0x04)
    | .posRelativeTarget => control ||| (0x01 ||| 0x02)
  let control := if p.nextProfile ≥ 0 then control ||| 0x08 else control
  let control := match p.blendType with
    | .blnNone => control
    | .blnBefore => control ||| (0x100 ||| 0x10)
    | .blnAfter => control ||| 0x10
  let control := control ||| 0x200
  control ||| 0x2000

namespace SledProfile

/-- Store the state of one field. -/
def setField (f : Field) (st : FieldState) (p : SledProfile) : SledProfile :=
  { p with fieldState := Function.update p.fieldState f st }

/-- The values that `sled_profile_write_pending_changes` writes; `next` is its local variable
`next_profile`. -/
def value (p : SledProfile) (next : ℤ) : Field → UInt32
  | .p => int32 (p.position * 1000 * 1000)
  | .v => 0x00
  | .c => sledProfileGetControlword p
  | .acc => int32 (p.time * 1000 / 2 + 1 / 2)
  | .dec => int32 (p.time * 1000 / 2 + 1 / 2) - 1
  | .tab => UInt32.ofInt p.table
  | .fn => UInt32.ofInt next
  | .ft => int32 (p.delay * 1000)

end SledProfile

/-- `sled_profile_mark_as_unsaved`. -/
def sledProfileMarkAsUnsaved (p : SledProfile) : SledProfile :=
  { p with fieldState := fun _ => .changed }

/-- `sled_profile_has_changes_pending`. -/
def sledProfileHasChangesPending (p : SledProfile) : Bool :=
  Field.all.any fun f => p.fieldState f == .changed

/-- `sled_profile_set_field_state`. -/
def sledProfileSetFieldState (index : UInt16) (st : FieldState) (p : SledProfile) : SledProfile :=
  match Field.ofIndex? index with
  | some f => p.setField f st
  | none => p

/-- `on_success_callback`. -/
def onSuccessCallback (data : Option SledData) (index : UInt16) (_subindex : UInt8) (s : Sled) :
    Except Halt Sled :=
  match data with
  | none => .error .assertFailed
  | some .mchNet => .error .undefined
  | some (.profile i) => .ok (s.modifyProfile i (sledProfileSetFieldState index .written))

/-! ## Writing to the drive -/

/-- `WRITE_FIELD_IF_CHANGED`. -/
def writeFieldIfChanged (i : Fin MAX_PROFILES) (f : Field) (value : UInt32) (s : Sled) :
    Except Halt Sled :=
  if (s.env.profiles i).fieldState f = .changed then
    mchSdoQueueWriteWithCb sledAbort f.index 0x01 value 0x04 (some .onSuccessCallback)
      (some .onFailureCallback) (some (.profile i)) (s.modifyProfile i (·.setField f .writing))
  else .ok s

/-- The value that `COPY_MOTION_TASK` writes. -/
def copyValue (src dst : ℤ) : UInt32 :=
  (UInt32.ofInt src &&& (0xFFFF : UInt32)) ||| ((UInt32.ofInt dst &&& (0xFFFF : UInt32)) <<< 16)

/-- `COPY_MOTION_TASK`. -/
def copyMotionTask (src dst : ℤ) (s : Sled) : Except Halt Sled :=
  mchSdoQueueWrite sledAbort OB_COPY_MOTION_TASK 0x0 (copyValue src dst) 0x04 s

/-- "Load correct profile in slot 0". -/
def loadMotionTask (i : Fin MAX_PROFILES) (s : Sled) : Except Halt Sled :=
  let profile := s.env.profiles i
  if !profile.neverSent ∧ s.env.currentProfile ≠ profile.profile then do
    let s ← copyMotionTask profile.profile 0x00 s
    .ok { s with env := { s.env with currentProfile := profile.profile } }
  else .ok s

/-- The number of the next profile, or 0. -/
def nextProfileNumber (i : Fin MAX_PROFILES) (s : Sled) : Except Halt ℤ :=
  if (s.env.profiles i).nextProfile ≥ 0 then
    match profileIndex? (s.env.profiles i).nextProfile with
    | some j => .ok (s.env.profiles j).profile
    | none => .error .undefined
  else .ok 0

/-- `sled_profile_write_pending_changes` to a given depth of recursion.  A visited profile has no
changes pending any more, so the recursion visits every profile once at most
(`writePendingChangesAt_depth`). -/
def writePendingChangesAt : ℕ → ℤ → Sled → Except Halt Sled
  | 0, _, _ => .error .depth
  | depth + 1, profileId, s =>
    match profileIndex? profileId with
    | none => .error .undefined
    | some i => do
      let profile := s.env.profiles i
      if !sledProfileHasChangesPending profile then .ok s
      else
        let s ← loadMotionTask i s
        let s ← writeFieldIfChanged i .p (int32 (profile.position * 1000 * 1000)) s
        let s ← writeFieldIfChanged i .v 0x00 s
        let s ← writeFieldIfChanged i .c (sledProfileGetControlword profile) s
        let s ← writeFieldIfChanged i .acc (int32 (profile.time * 1000 / 2 + 1 / 2)) s
        let s ← writeFieldIfChanged i .dec (int32 (profile.time * 1000 / 2 + 1 / 2) - 1) s
        let s ← writeFieldIfChanged i .tab (UInt32.ofInt profile.table) s
        let nextProfile ← nextProfileNumber i s
        let s ← writeFieldIfChanged i .fn (UInt32.ofInt nextProfile) s
        let s ← writeFieldIfChanged i .ft (int32 (profile.delay * 1000)) s
        let s ← copyMotionTask 0x00 profile.profile s
        let s := s.modifyProfile i fun p => { p with neverSent := false }
        if profile.nextProfile ≥ 0 then writePendingChangesAt depth profile.nextProfile s
        else .ok s

/-- `sled_profile_write_pending_changes`. -/
def sledProfileWritePendingChanges (profileId : ℤ) (s : Sled) : Except Halt (ℤ × Sled) := do
  let s ← writePendingChangesAt (MAX_PROFILES + 1) profileId s
  .ok (0, s)

/-! ## The profile table -/

/-- The contents that `sled_profile_clear` gives to profile `i`. -/
def SledProfile.clear (i : Fin MAX_PROFILES) (inUse : Bool) (p : SledProfile) : SledProfile :=
  sledProfileMarkAsUnsaved
    { p with
      profile := 201 + (i : ℕ)
      inUse := inUse
      table := 2
      positionType := .posAbsolute
      position := 0
      time := 1
      nextProfile := -1
      delay := 0
      blendType := .blnNone }

/-- `sled_profile_clear`. -/
def sledProfileClear (profile : ℤ) (inUse : Bool) (s : Sled) : Sled :=
  match profileIndex? profile with
  | none => s
  | some i => s.modifyProfile i (SledProfile.clear i inUse)

/-- `sled_profiles_reset`. -/
def sledProfilesReset (s : Sled) : ℤ × Sled :=
  (0, s.setProfiles fun i =>
    if (s.env.profiles i).inUse then sledProfileMarkAsUnsaved (s.env.profiles i)
    else s.env.profiles i)

/-- The first profile that is not in use. -/
def freeProfile? (profiles : Fin MAX_PROFILES → SledProfile) : Option (Fin MAX_PROFILES) :=
  (List.finRange MAX_PROFILES).find? fun i => !(profiles i).inUse

/-- `sled_profile_create`. -/
def sledProfileCreate (s : Sled) : ℤ × Sled :=
  match freeProfile? s.env.profiles with
  | some i =>
    let s := sledProfileClear (i : ℕ) true s
    ((i : ℕ), s.modifyProfile i fun p => { p with inUse := true, neverSent := true })
  | none => (-1, s)

/-- `sled_profile_create_pt`. -/
def sledProfileCreatePt (position time : ℚ) (s : Sled) : ℤ × Sled :=
  let (profile, s) := sledProfileCreate s
  match profileIndex? profile with
  | some i => (profile, s.modifyProfile i fun p => { p with position := position, time := time })
  | none => (-1, s)

/-- The checks and the result that the functions on one profile share. -/
def onProfile (profile : ℤ) (f : SledProfile → SledProfile) (s : Sled) : ℤ × Sled :=
  match profileIndex? profile with
  | none => (-1, s)
  | some i => if !(s.env.profiles i).inUse then (-1, s) else (0, s.modifyProfile i f)

/-- `sled_profile_destroy`. -/
def sledProfileDestroy (profile : ℤ) (s : Sled) : ℤ × Sled :=
  onProfile profile (fun p => { p with inUse := false }) s

namespace SledProfile

/-- What `sled_profile_set_table` does to the profile. -/
def setTable (table : ℤ) (p : SledProfile) : SledProfile :=
  if p.table ≠ table then { p with table := table }.setField .tab .changed else p

/-- What `sled_profile_set_target` does to the profile. -/
def setTarget (type : PositionType) (position time : ℚ) (p : SledProfile) : SledProfile :=
  let p := if p.positionType ≠ type then
    { p.setField .c .changed with positionType := type } else p
  let p := if p.position ≠ position then
    { p.setField .p .changed with position := position } else p
  if p.time ≠ time then
    { (p.setField .acc .changed).setField .dec .changed with time := time } else p

/-- What `sled_profile_set_next` does to the profile. -/
def setNext (nextProfile : ℤ) (delay : ℚ) (blendType : BlendType) (p : SledProfile) :
    SledProfile :=
  let p := if p.nextProfile ≠ nextProfile then
    { (p.setField .c .changed).setField .fn .changed with nextProfile := nextProfile } else p
  let p := if p.delay ≠ delay then
    { (p.setField .c .changed).setField .ft .changed with delay := delay } else p
  if p.blendType ≠ blendType then
    { p.setField .c .changed with blendType := blendType } else p

end SledProfile

/-- `sled_profile_set_table`. -/
def sledProfileSetTable (profile table : ℤ) (s : Sled) : ℤ × Sled :=
  onProfile profile (SledProfile.setTable table) s

/-- `sled_profile_set_target`. -/
def sledProfileSetTarget (profile : ℤ) (type : PositionType) (position time : ℚ) (s : Sled) :
    ℤ × Sled :=
  onProfile profile (SledProfile.setTarget type position time) s

/-- `sled_profile_set_next`. -/
def sledProfileSetNext (profile nextProfile : ℤ) (delay : ℚ) (blendType : BlendType) (s : Sled) :
    ℤ × Sled :=
  onProfile profile (SledProfile.setNext nextProfile delay blendType) s

/-- `sled_profile_execute`. -/
def sledProfileExecute (profile : ℤ) (s : Sled) : Except Halt (ℤ × Sled) :=
  match profileIndex? profile with
  | none => .ok (-1, s)
  | some i =>
    if !(s.env.profiles i).inUse then .ok (-1, s)
    else if s.env.mchMp ≠ .ppIdle then .ok (-1, s)
    else do
      let (_, s) ← sledProfileWritePendingChanges profile s
      let s ← mchSdoQueueWrite sledAbort OB_MOTION_TASK 0x00
        (UInt32.ofInt (s.env.profiles i).profile) 0x02 s
      let s ← mchSdoQueueWrite sledAbort OB_CONTROL_WORD 0x00 (0x1F ||| 0x20) 0x02 s
      let s ← mchMpHandleEvent .setpointSet s
      .ok (0, s)

/-! ## Functions on one profile -/

section OnProfile

variable {s : Sled} {i : Fin MAX_PROFILES}

/-- A function on one profile, if the profile is in use. -/
lemma onProfile_of_inUse {f : SledProfile → SledProfile} (h : (s.env.profiles i).inUse = true) :
    onProfile (i : ℕ) f s = (0, s.modifyProfile i f) := by
  simp [onProfile, profileIndex?_natCast, h]

/-- A function on one profile, if there is no such profile. -/
lemma onProfile_of_unused {f : SledProfile → SledProfile} {id : ℤ}
    (h : ∀ i, profileIndex? id = some i → (s.env.profiles i).inUse = false) :
    onProfile id f s = (-1, s) := by
  unfold onProfile
  cases hi : profileIndex? id with
  | none => rfl
  | some i => simp [h i hi]

lemma setTarget_inUse (p : SledProfile) (type : PositionType) (position time : ℚ) :
    (p.setTarget type position time).inUse = p.inUse := by
  simp only [SledProfile.setTarget, SledProfile.setField]
  split_ifs <;> rfl

lemma setTable_inUse (p : SledProfile) (table : ℤ) : (p.setTable table).inUse = p.inUse := by
  unfold SledProfile.setTable
  split <;> rfl

/-- What `sled_profile_create` makes of profile `i`. -/
def SledProfile.created (i : Fin MAX_PROFILES) (p : SledProfile) : SledProfile :=
  { SledProfile.clear i true p with inUse := true, neverSent := true }

lemma sledProfileCreate_of_free (h : freeProfile? s.env.profiles = some i) :
    sledProfileCreate s = (((i : ℕ) : ℤ), s.modifyProfile i (SledProfile.created i)) := by
  simp [sledProfileCreate, h, sledProfileClear, profileIndex?_natCast, Host.modifyProfile,
    Host.setProfiles, SledProfile.created]

/-- The first profile that is not in use. -/
lemma freeProfile?_eq_some {f : Fin MAX_PROFILES → SledProfile} (hi : (f i).inUse = false)
    (hlt : ∀ j < i, (f j).inUse = true) : freeProfile? f = some i := by
  unfold freeProfile?
  rw [List.find?_eq_some_iff_getElem]
  refine ⟨by simp [hi], i, by simp, by simp, fun j hj => ?_⟩
  have hused := hlt ⟨j, by omega⟩ hj
  simpa using hused

end OnProfile

/-- The contents of a profile do not depend on the states of its fields. -/
lemma setFieldState_contents (index : UInt16) (st : FieldState) (p : SledProfile) :
    (sledProfileSetFieldState index st p).profile = p.profile ∧
      (sledProfileSetFieldState index st p).inUse = p.inUse ∧
      (sledProfileSetFieldState index st p).neverSent = p.neverSent ∧
      (sledProfileSetFieldState index st p).nextProfile = p.nextProfile ∧
      ∀ n f, (sledProfileSetFieldState index st p).value n f = p.value n f := by
  unfold sledProfileSetFieldState
  split
  · exact ⟨rfl, rfl, rfl, rfl, fun n f => by cases f <;> rfl⟩
  · exact ⟨rfl, rfl, rfl, rfl, fun _ _ => rfl⟩

lemma setFieldState_of_ne {index : UInt16} {f : Field} (h : index ≠ f.index) (st : FieldState)
    (p : SledProfile) : (sledProfileSetFieldState index st p).fieldState f = p.fieldState f := by
  unfold sledProfileSetFieldState
  split
  case h_1 g hg =>
    have hne : f ≠ g := by
      rintro rfl
      exact h (Field.index_of_ofIndex? hg).symm
    simp [SledProfile.setField, hne]
  case h_2 => rfl

end SledServer
