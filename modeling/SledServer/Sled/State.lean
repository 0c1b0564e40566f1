import Mathlib.Data.Rat.Defs
import Mathlib.Data.Fintype.Defs
import Mathlib.Logic.Function.Basic
import SledServer.Machines.Sdo

/-!
# The state of the sled

`sled_internal.h` and `sled_profile.h`: the motion profiles, the states of the four machines
around the SDO machine, and the cached report of the drive.  Together with the SDO machine and
the CAN interface they make up a `Sled`.

Numbers of type `double` are modelled by exact rationals; the conversions to `int32_t` that the
drive sees are `int32`.
-/

namespace SledServer

/-! ## Profiles -/

/-- `field_state_t`. -/
inductive FieldState
  | changed
  | writing
  | invalid
  | written
  deriving DecidableEq, Repr

/-- The eight fields of a motion task, in the order in which they are written. -/
inductive Field
  | p
  | v
  | c
  | acc
  | dec
  | tab
  | fn
  | ft
  deriving DecidableEq, Repr

/-- `position_type_t`. -/
inductive PositionType
  | posAbsolute
  | posRelativeTarget
  | posRelativeActual
  deriving DecidableEq, Repr

/-- `blend_type_t`. -/
inductive BlendType
  | blnNone
  | blnBefore
  | blnAfter
  deriving DecidableEq, Repr

/-- `sled_profile_t`; `fieldState` holds the eight `_ob_o_*` members. -/
structure SledProfile where
  inUse : Bool
  neverSent : Bool
  profile : ℤ
  table : ℤ
  positionType : PositionType
  position : ℚ
  time : ℚ
  nextProfile : ℤ
  delay : ℚ
  blendType : BlendType
  fieldState : Field → FieldState

/-- `MAX_PROFILES`. -/
abbrev MAX_PROFILES : ℕ := 99

namespace Field

/-- All fields, in the order in which they are written. -/
def all : List Field := [p, v, c, acc, dec, tab, fn, ft]

lemma mem_all (f : Field) : f ∈ all := by cases f <;> decide

lemma nodup_all : all.Nodup := by decide

instance : Fintype Field := ⟨⟨all, nodup_all⟩, mem_all⟩

/-- The object of the drive that holds the field. -/
def index : Field → UInt16
  | p => OB_O_P
  | v => OB_O_V
  | c => OB_O_C
  | acc => OB_O_ACC
  | dec => OB_O_DEC
  | tab => OB_O_TAB
  | fn => OB_O_FN
  | ft => OB_O_FT

/-- The field held by an object of the drive: the `switch` of `sled_profile_set_field_state`. -/
def ofIndex? (i : UInt16) : Option Field :=
  if i = OB_O_P then some p
  else if i = OB_O_V then some v
  else if i = OB_O_C then some c
  else if i = OB_O_ACC then some acc
  else if i = OB_O_DEC then some dec
  else if i = OB_O_TAB then some tab
  else if i = OB_O_FN then some fn
  else if i = OB_O_FT then some ft
  else none

@[simp] lemma ofIndex?_index (f : Field) : ofIndex? f.index = some f := by cases f <;> decide

lemma index_of_ofIndex? {i : UInt16} {f : Field} (h : ofIndex? i = some f) : f.index = i := by
  unfold ofIndex? at h
  split_ifs at h <;> (cases h; simp_all [index])

lemma index_injective : Function.Injective index := fun f g h => by
  have := congrArg ofIndex? h
  simpa using this

end Field

/-! ## The other machines -/

/-- `mch_intf_state_t`. -/
inductive MchIntfState
  | closed
  | opened
  | opening
  | closing
  deriving DecidableEq, Repr

/-- `mch_net_state_t`. -/
inductive MchNetState
  | disabled
  | unknown
  | stopped
  | preoperational
  | operational
  | enterpreoperational
  | uploadconfig
  | startremotenode
  deriving DecidableEq, Repr

/-- `mch_ds_state_t`. -/
inductive MchDsState
  | disabled
  | unknown
  | fault
  | clearingFault
  | readyToSwitchOn
  | switchOn
  | switchedOn
  | prepareSwitchOn
  | shutdown
  | switchOnDisabled
  | enableOperation
  | disableOperation
  | operationEnabled
  deriving DecidableEq, Repr

/-- `mch_mp_state_t`.  The last three states are only entered by the dirty sinusoid, which
`config.h` leaves out of the program. -/
inductive MchMpState
  | disabled
  | switchModeHoming
  | hhUnknown
  | hhHoming
  | switchModePp
  | ppIdle
  | ppSpNack
  | ppSpAck
  | switchModeIp
  | ipSinusoid
  | ipSinusoidStop
  deriving DecidableEq, Repr

/-! ## The sled -/

/-- The functions that the sled registers for a positive write response. -/
inductive SledWriteFn
  | mchNetSdoWriteCallback
  | onSuccessCallback
  deriving DecidableEq, Repr

/-- The functions that the sled registers for a dropped or aborted request. -/
inductive SledAbortFn
  | mchNetSdoAbortCallback
  | onFailureCallback
  deriving DecidableEq, Repr

/-- What the `void *data` of a request points to. -/
inductive SledData
  | mchNet
  | profile (i : Fin MAX_PROFILES)
  deriving DecidableEq, Repr

/-- The lines that the machines log when they change their state. -/
inductive SledNote
  | intfState (old new : MchIntfState)
  | netState (old new : MchNetState)
  | dsState (old new : MchDsState)
  | mpState (old new : MchMpState)
  deriving DecidableEq, Repr

/-- The sled as a client of the SDO machine.  It registers no functions for read responses. -/
abbrev sledClient : Client := ⟨SledWriteFn, Empty, SledAbortFn, SledData, SledNote⟩

/-- The instance variables of `sled_t` other than the SDO machine and the interface. -/
structure SledEnv where
  profiles : Fin MAX_PROFILES → SledProfile
  currentProfile : ℤ
  mchIntf : MchIntfState
  mchNet : MchNetState
  mchDs : MchDsState
  mchMp : MchMpState
  lastTime : ℚ
  lastPosition : ℚ
  lastVelocity : ℚ
  sinusoidThere : ℤ
  sinusoidRthere : ℤ
  sinusoidBack : ℤ
  sinusoidRback : ℤ
  timeLastNmtMsg : ℚ

/-- `sled_t`. -/
abbrev Sled := Host sledClient SledEnv

/-! ## Numbers -/

/-- `int32_t(x)`: truncation towards zero.  A value that does not fit becomes the smallest
`int32_t`, as the conversion instruction of the target has it. -/
def int32 (x : ℚ) : UInt32 :=
  let n := x.num.tdiv x.den
  if -2 ^ 31 ≤ n ∧ n < 2 ^ 31 then UInt32.ofInt n else 0x80000000

/-- An `int` used as an index into `sled->profiles`. -/
def profileIndex? (id : ℤ) : Option (Fin MAX_PROFILES) :=
  if h : 0 ≤ id ∧ id < MAX_PROFILES then some ⟨id.toNat, by omega⟩ else none

lemma profileIndex?_natCast (i : Fin MAX_PROFILES) : profileIndex? (i : ℕ) = some i := by
  have h : (0 : ℤ) ≤ (i : ℕ) ∧ ((i : ℕ) : ℤ) < MAX_PROFILES := ⟨by omega, by omega⟩
  unfold profileIndex?
  rw [dif_pos h]
  simp

lemma profileIndex?_eq_some {id : ℤ} {i : Fin MAX_PROFILES} :
    profileIndex? id = some i ↔ id = (i : ℕ) := by
  constructor
  · intro h
    unfold profileIndex? at h
    split at h
    · cases h
      simp only
      omega
    · cases h
  · rintro rfl
    exact profileIndex?_natCast i

namespace Host

variable (s : Sled)

/-- The same process with another profile table. -/
def setProfiles (f : Fin MAX_PROFILES → SledProfile) : Sled :=
  { s with env := { s.env with profiles := f } }

/-- The same process with profile `i` changed. -/
def modifyProfile (i : Fin MAX_PROFILES) (f : SledProfile → SledProfile) : Sled :=
  s.setProfiles (Function.update s.env.profiles i (f (s.env.profiles i)))

/-- The same process with another state of the network machine, and the line in the log. -/
def setNetState (st : MchNetState) : Sled :=
  { s with
    env := { s.env with mchNet := st }
    trace := s.trace ++ [.note (.netState s.env.mchNet st)] }

/-- The same process with another state of the drive machine, and the line in the log. -/
def setDsState (st : MchDsState) : Sled :=
  { s with
    env := { s.env with mchDs := st }
    trace := s.trace ++ [.note (.dsState s.env.mchDs st)] }

/-- The same process with another state of the motion machine, and the line in the log. -/
def setMpState (st : MchMpState) : Sled :=
  { s with
    env := { s.env with mchMp := st }
    trace := s.trace ++ [.note (.mpState s.env.mchMp st)] }

/-- The same process with another state of the interface machine, and the line in the log. -/
def setIntfState (st : MchIntfState) : Sled :=
  { s with
    env := { s.env with mchIntf := st }
    trace := s.trace ++ [.note (.intfState s.env.mchIntf st)] }

end Host

end SledServer
