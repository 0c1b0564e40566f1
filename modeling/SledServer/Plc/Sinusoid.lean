import Mathlib.Algebra.Order.Group.Unbundled.Abs
import Mathlib.Algebra.Order.Ring.Int
import Mathlib.Data.Int.ConditionallyCompleteOrder
import Mathlib.Order.Monotone.Basic
import SledServer.Core.Trunc

/-!
# The sinusoid of the drive

`sinusoid.pl3`, the program inside the drive that moves the sled along a sinusoid: a counter of 32
bits runs up and its lower 22 bits are the phase of a table that holds half a period, read forwards
and then backwards.

A `LONG` is an integer in the range of 32 bits, and `long` is what becomes of a result outside.  A
shift to the right is a division that rounds down, a mask of the lowest bits is a remainder.  The
flags are only ever 0 or 1.  The functions of the drive are taken as the comments describe them
(`Drive`), and what the drive shows the program comes with each run of it.  `MOVE_FLAG`, the
remainders of `GEARALL` and the scratch variables are not read by anyone.

`setpoint_smooth_iff` says when the set-point does not jump.
-/

namespace SledServer.Plc

open SledServer.Core

/-! ## Arithmetic of the drive -/

/-- A result, as a `LONG`. -/
def long (n : ℤ) : ℤ :=
  if n % 0x100000000 < 0x80000000 then n % 0x100000000 else n % 0x100000000 - 0x100000000

/-- The functions of the drive.  `GEARALL(a, b, c)` is `a * c / b`; what it is for `b = 0` is not
known.  The table rises from 0, and its entries are of type `LONG`. -/
structure Drive where
  gearall : ℤ → ℤ → ℤ → ℤ
  table : ℤ → ℤ
  gearall_eq : ∀ a b c, b ≠ 0 → gearall a b c = (a * c).tdiv b
  table_zero : table 0 = 0
  table_mono : Monotone table
  table_lt : ∀ i, table i < 0x80000000

/-- `GETTAB`: the value between two entries of the table. -/
def Drive.gettab (d : Drive) (index remainder : ℤ) : ℤ :=
  d.table index + (d.table (index + 1) - d.table index) * remainder / 0x400

/-! ## The program -/

def MAX_TAB_POSITION : ℤ := 0x3FFFFFF
def TIME_MULT : ℤ := 0x400000

/-- The variables of the program, and the variables in dual-ported memory that the sled writes. -/
structure State where
  dprvar10 : ℤ
  dprvar11 : ℤ
  dprvar12 : ℤ
  homedFlag : Bool
  startFlag : Bool
  changeFlag : Bool
  period : ℤ
  amplitude : ℤ
  step : ℤ
  stepsRequired : ℤ
  direction : ℤ
  odirection : ℤ
  newSetpoint : ℤ
  offset : ℤ
  tableIndex : ℤ
  tableRemainder : ℤ
  tableValue : ℤ
  newpos : ℤ
  newepos : ℤ
  deriving DecidableEq

/-- `PLCINIT` -/
def plcinit (dprvar11 dprvar12 : ℤ) : State where
  dprvar10 := 0
  dprvar11 := dprvar11
  dprvar12 := dprvar12
  homedFlag := false
  startFlag := false
  changeFlag := false
  period := dprvar12
  amplitude := dprvar11
  step := 0
  stepsRequired := 0
  direction := 0
  odirection := 0
  newSetpoint := 0
  offset := 0
  tableIndex := 0
  tableRemainder := 0
  tableValue := 0
  newpos := 0
  newepos := 0

/-- `PLCMAIN` -/
def plcmain (trjstat : UInt32) (s : State) : State :=
  let s := if s.amplitude ≠ s.dprvar11 then { s with changeFlag := true } else s
  let s := if s.period ≠ s.dprvar12 then { s with changeFlag := true } else s
  { s with homedFlag := trjstat &&& 0x30000 == 0x20000 }

/-- Take over the parameters. -/
def State.copy (s : State) : State :=
  { s with amplitude := s.dprvar11, period := s.dprvar12, changeFlag := false }

/-- The branch of `PLC1` in which the motion has not started. -/
def State.idle (pfb : ℤ) (s : State) : State :=
  let s :=
    if s.dprvar10 ≠ 0 then { s with startFlag := true, step := 0, direction := 0, odirection := 0 }
    else s
  let s := if s.changeFlag then s.copy else s
  { s with offset := pfb }

/-- The steps of one millisecond. -/
def Drive.stepsRequired (d : Drive) (period : ℤ) : ℤ := long (d.gearall 1 period TIME_MULT)

/-- The counter moves on, and its bits are taken apart. -/
def State.advance (d : Drive) (s : State) : State :=
  let s := { s with stepsRequired := d.stepsRequired s.period }
  let s := { s with step := long (s.step + s.stepsRequired) }
  let s := { s with tableIndex := s.step / 0x400 % 0x800, tableRemainder := s.step % 0x400 }
  let s := { s with direction := s.step / 0x200000 % 2 }
  if s.direction ≠ 0 then
    { s with tableIndex := 0x7FF - s.tableIndex, tableRemainder := 0x3FF - s.tableRemainder }
  else s

/-- Direction changed, check for stop signal and apply changes. -/
def State.turn (s : State) : State :=
  let s :=
    if s.direction ≠ s.odirection then
      let s := if s.dprvar10 = 0 then { s with startFlag := false } else s
      if s.changeFlag then s.copy else s
    else s
  { s with odirection := s.direction }

/-- The new set-point, scaled for the amplitude. -/
def State.output (d : Drive) (s : State) : State :=
  let s := { s with tableValue := long (d.gettab s.tableIndex s.tableRemainder) }
  let s := { s with newSetpoint := long (d.gearall s.tableValue MAX_TAB_POSITION s.amplitude) }
  { s with newpos := long (s.newSetpoint + s.offset), newepos := 1 }

/-- `PLC1` -/
def plc1 (d : Drive) (statcode opmode pfb : ℤ) (s : State) : State :=
  if statcode = 0 ∧ s.homedFlag ∧ opmode = 5 then
    if s.startFlag then ((s.advance d).turn).output d else s.idle pfb
  else { s with dprvar10 := 0, startFlag := false }

/-- What can happen to the program. -/
inductive Event
  /-- `PLC1` runs, once every millisecond. -/
  | plc1 (statcode opmode pfb : ℤ)
  /-- `PLCMAIN` runs. -/
  | plcmain (trjstat : UInt32)
  /-- `PLCMAIN` sets `CHANGE_FLAG`, after `PLC1` has interrupted it behind the comparison. -/
  | change
  | write10 (v : ℤ)
  | write11 (v : ℤ)
  | write12 (v : ℤ)

/-- One step of the drive. -/
def step (d : Drive) (s : State) : Event → State
  | .plc1 statcode opmode pfb => plc1 d statcode opmode pfb s
  | .plcmain trjstat => plcmain trjstat s
  | .change => { s with changeFlag := true }
  | .write10 v => { s with dprvar10 := v }
  | .write11 v => { s with dprvar11 := v }
  | .write12 v => { s with dprvar12 := v }

/-! ## Smooth motion -/

/-- The phase of the table at a value of the counter. -/
def phaseAt (step : ℤ) : ℤ :=
  if step / 0x200000 % 2 = 0 then step % 0x200000 else 0x1FFFFF - step % 0x200000

/-- The phase of the table that the last set-point was made of. -/
def State.phase (s : State) : ℤ := s.tableIndex * 1024 + s.tableRemainder

/-- The value of the table at a phase. -/
def Drive.value (d : Drive) (phase : ℤ) : ℤ := d.gettab (phase / 1024) (phase % 1024)

/-- How far one step of the phase away from the bottom moves the set-point, for a stroke of the size
of this change of the amplitude, rounded up. -/
def Drive.oneStep (d : Drive) (steps change : ℤ) : ℤ :=
  (d.value (min steps 0x1FFFFF) * |change| + (MAX_TAB_POSITION - 1)) / MAX_TAB_POSITION

/-- The set-point at the phase of `s`, for an amplitude. -/
def State.setPointFor (d : Drive) (amplitude : ℤ) (s : State) : ℤ :=
  long (long (d.gearall s.tableValue MAX_TAB_POSITION amplitude) + s.offset)

/-- The last set-point was made at the phase of the counter, or the motion has just been started. -/
def OnCounter (s : State) : Prop := s.phase = phaseAt s.step ∨ s.step = 0

/-- A run of `PLC1` that has made `s'` of `s` has not made the set-point jump. -/
structure Smooth (d : Drive) (s s' : State) : Prop where
  phase : |s'.phase - phaseAt s.step| ≤ s'.stepsRequired
  bottom : s'.amplitude ≠ s.amplitude → s'.phase < s'.stepsRequired
  newpos : ∃ move, |move| ≤ d.oneStep s'.stepsRequired (s'.amplitude - s.amplitude) ∧
    s'.newpos = long (s'.setPointFor d s.amplitude + move)

/-- `PLC1` runs while the motion is going on. -/
def Running (s : State) : Event → Prop
  | .plc1 statcode opmode _ => statcode = 0 ∧ s.homedFlag ∧ opmode = 5 ∧ s.startFlag
  | _ => False

/-- The counter does not run backwards; and where it enters the second half of the period and a
change of the amplitude is waiting, the period is so short that the phase is back at the bottom
within another step. -/
def Gentle (d : Drive) (s : State) : Prop :=
  0 ≤ d.stepsRequired s.period ∧
    (s.changeFlag → s.dprvar11 ≠ s.amplitude → s.step % 0x400000 < 0x200000 →
      0x200000 ≤ (s.step + d.stepsRequired s.period) % 0x400000 →
        0x400000 ≤ s.step % 0x400000 + 2 * d.stepsRequired s.period)

section Arithmetic

lemma long_emod (n : ℤ) : long n % 0x100000000 = n % 0x100000000 := by
  unfold long
  split <;> omega

/-- Only the lowest 32 bits matter. -/
lemma long_congr {m n : ℤ} (h : m % 0x100000000 = n % 0x100000000) : long m = long n := by
  unfold long
  rw [h]

lemma long_of_mem {n : ℤ} (h : -0x80000000 ≤ n) (h' : n < 0x80000000) : long n = n := by
  unfold long
  split <;> omega

lemma phaseAt_nonneg (x : ℤ) : 0 ≤ phaseAt x := by
  unfold phaseAt
  split <;> omega

lemma phaseAt_lt (x : ℤ) : phaseAt x < 0x200000 := by
  unfold phaseAt
  split <;> omega

/-- The phase does not notice that the counter wraps. -/
lemma phaseAt_long (x : ℤ) : phaseAt (long x) = phaseAt x := by
  have h := long_emod x
  unfold phaseAt
  split <;> split <;> omega

/-- The phase runs up and down with the counter, and not faster. -/
lemma phaseAt_add (x : ℤ) {n : ℤ} (hn : 0 ≤ n) : |phaseAt (x + n) - phaseAt x| ≤ n := by
  rw [abs_le]
  unfold phaseAt
  constructor <;> split <;> split <;> omega

/-- At the bottom the phase has come less than one step. -/
lemma phaseAt_bottom {x n : ℤ} (hn : 0 ≤ n) (hx : x / 0x200000 % 2 ≠ 0)
    (hy : (x + n) / 0x200000 % 2 = 0) : phaseAt (x + n) < n := by
  unfold phaseAt
  rw [if_pos hy]
  omega

/-- At the top it is less than one step away from the bottom for short periods only. -/
lemma phaseAt_top {x n : ℤ} (hx : x / 0x200000 % 2 = 0)
    (hy : (x + n) / 0x200000 % 2 ≠ 0) :
    phaseAt (x + n) < n ↔ 0x400000 ≤ x % 0x400000 + 2 * n := by
  unfold phaseAt
  rw [if_neg hy]
  omega

end Arithmetic

section Table

variable (d : Drive) {p q : ℤ}

/-- Between two entries the values lie between these. -/
lemma gettab_bounds {i r : ℤ} (hr : 0 ≤ r) (hr' : r < 1024) :
    d.table i ≤ d.gettab i r ∧ d.gettab i r ≤ d.table (i + 1) := by
  have hrise : 0 ≤ d.table (i + 1) - d.table i :=
    Int.sub_nonneg.mpr (d.table_mono (Int.le.intro 1 rfl))
  have hlow := Int.mul_nonneg hrise hr
  have hhigh := Int.mul_le_mul_of_nonneg_left hr'.le hrise
  unfold Drive.gettab
  omega

/-- The values rise with the phase. -/
lemma value_mono (h : p ≤ q) : d.value p ≤ d.value q := by
  have hp := gettab_bounds d (i := p / 1024) (r := p % 1024) (by omega) (by omega)
  have hq := gettab_bounds d (i := q / 1024) (r := q % 1024) (by omega) (by omega)
  unfold Drive.value
  by_cases hi : p / 1024 = q / 1024
  · have hrise : 0 ≤ d.table (q / 1024 + 1) - d.table (q / 1024) :=
      Int.sub_nonneg.mpr (d.table_mono (Int.le.intro 1 rfl))
    have hle := Int.mul_le_mul_of_nonneg_left (show p % 1024 ≤ q % 1024 by omega) hrise
    rw [hi]
    unfold Drive.gettab
    omega
  · have hnext : d.table (p / 1024 + 1) ≤ d.table (q / 1024) := d.table_mono (by omega)
    omega

lemma value_nonneg (h : 0 ≤ p) : 0 ≤ d.value p := by
  have hp := gettab_bounds d (i := p / 1024) (r := p % 1024) (by omega) (by omega)
  have hzero := d.table_mono (show 0 ≤ p / 1024 by omega)
  rw [d.table_zero] at hzero
  exact hzero.trans hp.1

lemma value_lt (p : ℤ) : d.value p < 0x80000000 := by
  have hp := gettab_bounds d (i := p / 1024) (r := p % 1024) (by omega) (by omega)
  exact lt_of_le_of_lt hp.2 (d.table_lt _)

/-- A change of the amplitude at a phase of less than one step. -/
lemma oneStep_of_lt {steps a b : ℤ} (hp : 0 ≤ p) (hmax : p ≤ 0x1FFFFF) (hlt : p < steps) :
    |d.gearall (d.value p) MAX_TAB_POSITION a - d.gearall (d.value p) MAX_TAB_POSITION b| ≤
      d.oneStep steps (a - b) := by
  have hvalue : d.value p ≤ d.value (min steps 0x1FFFFF) := value_mono d (le_min hlt.le hmax)
  rw [d.gearall_eq _ _ _ (by decide), d.gearall_eq _ _ _ (by decide)]
  refine (tdiv_sub_le (by decide) _ _).trans (Int.ediv_le_ediv (by decide) ?_)
  rw [← Int.mul_sub, abs_mul, abs_of_nonneg (value_nonneg d hp)]
  have hle := Int.mul_le_mul_of_nonneg_right hvalue (abs_nonneg (a - b))
  omega

end Table

/-! ## One run of `PLC1` -/

section Tick

variable {d : Drive} {s : State}

/-- While the motion is going on, the direction is that of the counter, and so is the phase, unless
the motion has just been started. -/
def InStep (s : State) : Prop :=
  s.startFlag → s.odirection = s.step / 0x200000 % 2 ∧ OnCounter s

lemma inStep_plcinit (p₁₁ p₁₂ : ℤ) : InStep (plcinit p₁₁ p₁₂) := nofun

/-- The counter after the next step. -/
abbrev State.next (d : Drive) (s : State) : ℤ := s.step + d.stepsRequired s.period

/-- What moving on leaves as it was. -/
lemma advance_keeps (d : Drive) (s : State) :
    (s.advance d).odirection = s.odirection ∧ (s.advance d).changeFlag = s.changeFlag ∧
      (s.advance d).dprvar11 = s.dprvar11 ∧ (s.advance d).amplitude = s.amplitude ∧
      (s.advance d).stepsRequired = d.stepsRequired s.period := by
  unfold State.advance
  dsimp only
  split <;> exact ⟨rfl, rfl, rfl, rfl, rfl⟩

lemma advance_direction (d : Drive) (s : State) :
    (s.advance d).step = long (s.next d) ∧
      (s.advance d).direction = s.next d / 0x200000 % 2 := by
  have hlong := long_emod (s.next d)
  have hdirection : long (s.next d) / 0x200000 % 2 = s.next d / 0x200000 % 2 := by omega
  rw [← hdirection]
  unfold State.advance
  dsimp only
  split <;> exact ⟨rfl, rfl⟩

/-- Index and remainder are the two parts of the phase. -/
lemma advance_table (d : Drive) (s : State) :
    (s.advance d).tableIndex = phaseAt (s.next d) / 1024 ∧
      (s.advance d).tableRemainder = phaseAt (s.next d) % 1024 := by
  rw [← phaseAt_long]
  unfold State.advance
  dsimp only
  split
  next h =>
    simp only [phaseAt, State.next, if_neg h]
    omega
  next h =>
    simp only [phaseAt, State.next, if_pos (not_not.mp h)]
    omega

lemma turn_amplitude (s : State) : s.turn.amplitude =
    if s.direction ≠ s.odirection ∧ s.changeFlag then s.dprvar11 else s.amplitude := by
  unfold State.turn
  by_cases hd : s.direction = s.odirection
  · simp [hd]
  · cases hc : s.changeFlag <;> by_cases hs : s.dprvar10 = 0 <;> simp [hd, hc, hs, State.copy]

/-- What turning leaves as it was. -/
lemma turn_keeps (s : State) : s.turn.tableIndex = s.tableIndex ∧
    s.turn.tableRemainder = s.tableRemainder ∧ s.turn.step = s.step ∧
    s.turn.stepsRequired = s.stepsRequired ∧ s.turn.odirection = s.direction := by
  unfold State.turn
  dsimp only
  split
  · split <;> split <;> exact ⟨rfl, rfl, rfl, rfl, rfl⟩
  · exact ⟨rfl, rfl, rfl, rfl, rfl⟩

/-- A run of `PLC1` while the motion is going on. -/
def State.move (d : Drive) (s : State) : State := ((s.advance d).turn).output d

lemma move_table (d : Drive) (s : State) :
    (s.move d).tableIndex = phaseAt (s.next d) / 1024 ∧
      (s.move d).tableRemainder = phaseAt (s.next d) % 1024 := by
  obtain ⟨hindex, hremainder, -⟩ := turn_keeps (s.advance d)
  rw [(advance_table d s).1] at hindex
  rw [(advance_table d s).2] at hremainder
  exact ⟨hindex, hremainder⟩

lemma move_phase (d : Drive) (s : State) : (s.move d).phase = phaseAt (s.next d) := by
  obtain ⟨hindex, hremainder⟩ := move_table d s
  rw [State.phase, hindex, hremainder]
  omega

lemma move_tableValue (d : Drive) (s : State) :
    (s.move d).tableValue = d.value (phaseAt (s.next d)) := by
  have hnonneg := value_nonneg d (phaseAt_nonneg (s.next d))
  have hlt := value_lt d (phaseAt (s.next d))
  have hvalue : (s.move d).tableValue =
      long (d.gettab (s.move d).tableIndex (s.move d).tableRemainder) := rfl
  rw [hvalue, (move_table d s).1, (move_table d s).2]
  exact long_of_mem (by unfold Drive.value at hnonneg; omega) hlt

lemma move_stepsRequired (d : Drive) (s : State) :
    (s.move d).stepsRequired = d.stepsRequired s.period := by
  rw [← (advance_keeps d s).2.2.2.2, ← (turn_keeps (s.advance d)).2.2.2.1]
  rfl

lemma move_amplitude (d : Drive) (s : State) : (s.move d).amplitude =
    if s.next d / 0x200000 % 2 ≠ s.odirection ∧ s.changeFlag then s.dprvar11
    else s.amplitude := by
  have hturn := turn_amplitude (s.advance d)
  obtain ⟨hod, hchange, hvar, hamplitude, -⟩ := advance_keeps d s
  rw [(advance_direction d s).2, hod, hchange, hvar, hamplitude] at hturn
  exact hturn

lemma move_step (d : Drive) (s : State) : (s.move d).step = long (s.next d) := by
  rw [← (advance_direction d s).1, ← (turn_keeps (s.advance d)).2.2.1]
  rfl

/-- The phase of a set-point is that of the counter. -/
lemma phase_of_move (d : Drive) (s : State) : (s.move d).phase = phaseAt (s.move d).step := by
  rw [move_phase, move_step, phaseAt_long]

/-- After each run the direction is that of the counter. -/
lemma move_inStep (d : Drive) (s : State) : InStep (s.move d) := by
  intro _
  refine ⟨?_, .inl (phase_of_move d s)⟩
  have hlong := long_emod (s.next d)
  have hod : (s.move d).odirection = s.next d / 0x200000 % 2 := by
    rw [← (advance_direction d s).2, ← (turn_keeps (s.advance d)).2.2.2.2]
    rfl
  rw [hod, move_step]
  omega

/-- The set-point moves by what the change of the amplitude makes of the value of the table. -/
lemma move_newpos (d : Drive) (s : State) : (s.move d).newpos =
    long ((s.move d).setPointFor d s.amplitude +
      (d.gearall (s.move d).tableValue MAX_TAB_POSITION (s.move d).amplitude -
        d.gearall (s.move d).tableValue MAX_TAB_POSITION s.amplitude)) := by
  have hnewpos : (s.move d).newpos = (s.move d).setPointFor d (s.move d).amplitude := rfl
  rw [hnewpos]
  refine long_congr ?_
  have hnew := long_emod (d.gearall (s.move d).tableValue MAX_TAB_POSITION (s.move d).amplitude)
  have hold := long_emod (d.gearall (s.move d).tableValue MAX_TAB_POSITION s.amplitude)
  have hsum := long_emod
    (long (d.gearall (s.move d).tableValue MAX_TAB_POSITION s.amplitude) + (s.move d).offset)
  unfold State.setPointFor
  omega

/-- The amplitude changes where the direction does, if a change is waiting. -/
lemma move_amplitude_ne_iff (hs : s.odirection = s.step / 0x200000 % 2) :
    (s.move d).amplitude ≠ s.amplitude ↔
      s.next d / 0x200000 % 2 ≠ s.step / 0x200000 % 2 ∧ s.changeFlag ∧
        s.dprvar11 ≠ s.amplitude := by
  rw [move_amplitude, hs]
  by_cases h : s.next d / 0x200000 % 2 ≠ s.step / 0x200000 % 2 ∧ s.changeFlag
  · rw [if_pos h]
    exact ⟨fun hne => ⟨h.1, h.2, hne⟩, fun h' => h'.2.2⟩
  · rw [if_neg h]
    exact ⟨fun hne => absurd rfl hne, fun h' => absurd ⟨h'.1, h'.2.1⟩ h⟩

/-- A run of `PLC1` is smooth exactly when it starts from a state that is gentle. -/
lemma smooth_move_iff (hs : s.odirection = s.step / 0x200000 % 2) :
    Smooth d s (s.move d) ↔ Gentle d s := by
  have hne := move_amplitude_ne_iff (d := d) hs
  have hnext : s.next d = s.step + d.stepsRequired s.period := rfl
  constructor
  · rintro ⟨hphase, hbottom, -⟩
    rw [move_stepsRequired] at hphase hbottom
    have hsteps := (abs_nonneg _).trans hphase
    refine ⟨hsteps, fun hchange hwaiting hfirst hsecond => ?_⟩
    have hlt := hbottom (hne.mpr ⟨by omega, hchange, hwaiting⟩)
    rw [move_phase] at hlt
    exact (phaseAt_top (by omega) (by omega)).mp hlt
  · rintro ⟨hsteps, hshort⟩
    have hbottom : (s.move d).amplitude ≠ s.amplitude →
        phaseAt (s.next d) < d.stepsRequired s.period := by
      intro hchanged
      obtain ⟨hturn, hchange, hwaiting⟩ := hne.mp hchanged
      by_cases hx : s.step / 0x200000 % 2 = 0
      · -- The top: the counter enters the second half.
        exact (phaseAt_top hx (by omega)).mpr
          (hshort hchange hwaiting (by omega) (by omega))
      · exact phaseAt_bottom hsteps hx (by omega)
    refine ⟨?_, ?_, _, ?_, move_newpos d s⟩
    · rw [move_phase, move_stepsRequired]
      exact phaseAt_add s.step hsteps
    · rw [move_phase, move_stepsRequired]
      exact hbottom
    · rw [move_tableValue, move_stepsRequired]
      by_cases hchanged : (s.move d).amplitude ≠ s.amplitude
      · have hlt := phaseAt_lt (s.next d)
        exact oneStep_of_lt d (phaseAt_nonneg _) (by omega) (hbottom hchanged)
      · rw [not_not.mp hchanged, Int.sub_self, Int.sub_self]
        simp [Drive.oneStep, MAX_TAB_POSITION]

end Tick

/-! ## Runs -/

section Runs

variable {d : Drive} {s : State}

lemma inStep_plc1 (d : Drive) (s : State) (statcode opmode pfb : ℤ) :
    InStep (plc1 d statcode opmode pfb s) := by
  unfold plc1
  split
  · split
    · exact move_inStep d s
    · intro hstart
      unfold State.idle at hstart ⊢
      by_cases h : s.dprvar10 = 0
      · -- The motion has not been started.
        cases hchange : s.changeFlag <;> simp_all [State.copy]
      · cases hchange : s.changeFlag <;> simp [h, State.copy, OnCounter]
  · exact nofun

lemma inStep_step (hs : InStep s) (e : Event) : InStep (step d s e) := by
  cases e with
  | plc1 statcode opmode pfb => exact inStep_plc1 d s statcode opmode pfb
  | plcmain trjstat =>
    simp only [step, plcmain]
    split <;> split <;> exact hs
  | change | write10 | write11 | write12 => exact hs

lemma inStep_run (hs : InStep s) (es : List Event) : InStep (es.foldl (step d) s) := by
  induction es generalizing s with
  | nil => exact hs
  | cons e es ih => exact ih (inStep_step hs e)

lemma Running.started {e : Event} (h : Running s e) : s.startFlag = true := by
  cases e with
  | plc1 statcode opmode pfb => exact h.2.2.2
  | plcmain | change | write10 | write11 | write12 => cases h

lemma step_of_running {e : Event} (h : Running s e) : step d s e = s.move d := by
  cases e with
  | plc1 statcode opmode pfb =>
    obtain ⟨hstat, hhomed, hmode, hstart⟩ := h
    simp only [step, plc1, if_pos (And.intro hstat (And.intro hhomed hmode)), if_pos hstart]
    rfl
  | plcmain | change | write10 | write11 | write12 => cases h

end Runs

/-- In a run of the program, each run of `PLC1` during the motion goes on from the phase of the run
before it, or from the bottom where the motion has just been started.  The set-point never jumps
exactly when each of them finds the counter not running backwards, and no change of the amplitude
waiting where the counter enters the second half of the period, unless the period is a few
milliseconds. -/
theorem setpoint_smooth_iff (d : Drive) (p₁₁ p₁₂ : ℤ) (es : List Event) :
    (∀ pre e, pre ++ [e] <+: es → Running (pre.foldl (step d) (plcinit p₁₁ p₁₂)) e →
      OnCounter (pre.foldl (step d) (plcinit p₁₁ p₁₂))) ∧
    ((∀ pre e, pre ++ [e] <+: es → Running (pre.foldl (step d) (plcinit p₁₁ p₁₂)) e →
      Smooth d (pre.foldl (step d) (plcinit p₁₁ p₁₂))
        ((pre ++ [e]).foldl (step d) (plcinit p₁₁ p₁₂))) ↔
    ∀ pre e, pre ++ [e] <+: es → Running (pre.foldl (step d) (plcinit p₁₁ p₁₂)) e →
      Gentle d (pre.foldl (step d) (plcinit p₁₁ p₁₂))) := by
  have hinStep := inStep_run (d := d) (inStep_plcinit p₁₁ p₁₂)
  have hiff : ∀ pre e, Running (pre.foldl (step d) (plcinit p₁₁ p₁₂)) e →
      (Smooth d (pre.foldl (step d) (plcinit p₁₁ p₁₂))
        ((pre ++ [e]).foldl (step d) (plcinit p₁₁ p₁₂)) ↔
      Gentle d (pre.foldl (step d) (plcinit p₁₁ p₁₂))) := by
    intro pre e hrunning
    rw [List.foldl_append, List.foldl_cons, List.foldl_nil, step_of_running hrunning]
    exact smooth_move_iff (hinStep pre hrunning.started).1
  refine ⟨fun pre e _ hrunning => (hinStep pre hrunning.started).2, ?_, ?_⟩
  · exact fun h pre e hpre hrunning => (hiff pre e hrunning).mp (h pre e hpre hrunning)
  · exact fun h pre e hpre hrunning => (hiff pre e hrunning).mpr (h pre e hpre hrunning)

/-- A drive whose table rises evenly. -/
def evenDrive : Drive where
  gearall a b c := (a * c).tdiv b
  table i := max 0 (min i 0x800) * 0x7FFF
  gearall_eq _ _ _ _ := rfl
  table_zero := rfl
  table_mono := by
    intro i j hij
    dsimp only
    omega
  table_lt i := by omega

/-- With a period of eight milliseconds, the fourth run of `PLC1` after the start is at the top of
the stroke; there the amplitude is doubled. -/
def topChange : List Event :=
  [.plcmain 0x20000, .write10 1, .plc1 0 5 0, .plc1 0 5 0, .plc1 0 5 0, .plc1 0 5 0, .write11 2000,
    .plcmain 0x20000, .plc1 0 5 0]

/-- The set-point jumps by almost the whole change of the stroke. -/
theorem setpoint_jumps : ¬ ∀ pre e, pre ++ [e] <+: topChange →
    Running (pre.foldl (step evenDrive) (plcinit 1000 8)) e →
      Smooth evenDrive (pre.foldl (step evenDrive) (plcinit 1000 8))
        ((pre ++ [e]).foldl (step evenDrive) (plcinit 1000 8)) := by
  intro hall
  have hsmooth := hall topChange.dropLast (.plc1 0 5 0) (List.prefix_refl _)
    ⟨rfl, by decide +kernel, rfl, by decide +kernel⟩
  exact absurd (hsmooth.bottom (by decide +kernel)) (by decide +kernel)

end SledServer.Plc
