import SledServer.Sled.Halts
import SledServer.Sled.Inside

/-!
# What the interface machine knows of the device

The interface is opened and closed on request, and closed when reading from it fails.  The calls can
fail in several ways, and `Truthful` says what the interface machine should make of each of them: it
is open exactly if there is a device to read from, and closed otherwise.

It is not always so.  `intf_open` reports its failures by `EV_INTF_CLOSED`, which is ignored while
opening, and `intf_close` returns early when `CAN_Close` fails, without a word to the machine.
`interface_truthful_iff` says in which runs neither happens.
-/

namespace SledServer

open SledServer.Core

/-- What can happen to the interface: a request, or a step of the sled. -/
inductive DeviceEvent
  /-- `EV_INTF_OPEN`. -/
  | open (o : CanOutcome)
  /-- `EV_INTF_CLOSE`. -/
  | close (o : CanOutcome)
  | sled (e : SledEvent)

/-- One request or one step of the sled. -/
def deviceStep (s : Sled) : DeviceEvent → Except Halt Sled
  | .open o => mchIntfHandleEvent o .open s
  | .close o => mchIntfHandleEvent o .close s
  | .sled e => sledStep s e

/-- The sled in `sled_create`, before it asks the interface machine to open the interface. -/
def sledUnopened (mem : SledEnv) (now : ℚ) : Sled := sledCreateProfiles (sledAlloc mem now)

/-- The interface machine is open or closed, and open exactly if there is a device and its read
event is registered. -/
structure Truthful (s : Sled) : Prop where
  settled : s.env.mchIntf = .opened ∨ s.env.mchIntf = .closed
  opened_iff : s.env.mchIntf = .opened ↔ s.intf.handle = true ∧ s.intf.readEvent = true

/-- The calls into the device that the event leads to go well enough: an interface that is not open
is opened at once and has no device left over from before, and the device of an interface that
cannot be read can be closed.  A request to close may fail as it likes. -/
def DeviceEvent.Heeded (s : Sled) : DeviceEvent → Prop
  | .open o => s.env.mchIntf = .opened ∨ (s.intf.handle = false ∧ o.open? = .success)
  | .close _ => True
  | .sled e => ∀ o, e.closing? s = some o → o.closeOk = true

/-! ## Termination -/

section Termination

variable (o : CanOutcome)

/-- The events of the network machine that the interface machine raises. -/
lemma mchNetHandleEvent_intf (s : Sled) {event : MchNetEvent}
    (h : event = .intfOpened ∨ event = .intfClosed) :
    ∃ t, mchNetHandleEvent event s = .ok t ∧ SameDevice s t := by
  have hne : event ≠ .preoperational ∧ event ≠ .operational := by rcases h with rfl | rfl <;> simp
  cases ht : mchNetHandleEvent event s with
  | error d => exact absurd ht (mchNetHandleEvent_ne_error hne.1 hne.2 s d)
  | ok t => exact ⟨t, rfl, ((Inside.refl s).netEvent ht).sameDevice⟩

lemma mchIntfHandleEvent_total (event : MchIntfEvent) (s : Sled) :
    ∃ t, mchIntfHandleEvent o event s = .ok t := by
  by_cases hstay : mchIntfNextStateGivenEvent s.env.mchIntf event = s.env.mchIntf
  · exact ⟨s, mchIntfHandleEvent_stay hstay⟩
  have hopened : ∀ s, ∃ t, mchNetHandleEvent .intfOpened s = .ok t ∧ SameDevice s t :=
    fun s => mchNetHandleEvent_intf s (.inl rfl)
  have hclosed : ∀ s, ∃ t, mchNetHandleEvent .intfClosed s = .ok t ∧ SameDevice s t :=
    fun s => mchNetHandleEvent_intf s (.inr rfl)
  cases hs : s.env.mchIntf <;> cases event <;> simp only [hs, mchIntfNextStateGivenEvent,
    not_true_eq_false, reduceCtorEq, not_false_eq_true] at hstay
  · rw [mchIntfHandleEvent_open hs]
    split
    · exact ⟨_, rfl⟩
    · exact (hopened _).imp fun _ ht => ht.1
  · rw [mchIntfHandleEvent_close hs]
    exact (hclosed _).imp fun _ ht => ht.1
  · rw [mchIntfHandleEvent, mchIntfHandleEventAt_opened hs]
    exact (hopened _).imp fun _ ht => ht.1
  · rw [mchIntfHandleEvent, mchIntfHandleEventAt_closed hs]
    exact (hclosed _).imp fun _ ht => ht.1

/-- The interface machine comes to rest, at a depth of two calls. -/
lemma mchIntfHandleEventAt_total (event : MchIntfEvent) (s : Sled) :
    ∃ t, ∀ depth, mchIntfHandleEventAt o (depth + 2) event s = .ok t := by
  obtain ⟨t, ht⟩ := mchIntfHandleEvent_total o event s
  exact ⟨t, fun depth => (mchIntfHandleEventAt_depth o depth event s).trans ht⟩

/-- `intf_close` returns. -/
lemma intfClose_total (s : Sled) :
    ∃ r, ∀ depth, intfClose o (mchIntfHandleEventAt o (depth + 2) .close) s = .ok r := by
  simp only [intfClose_eq]
  split
  · exact ⟨_, fun _ => rfl⟩
  · obtain ⟨t, ht⟩ := mchIntfHandleEventAt_total o .close (s.withIntf s.intf.shut)
    exact ⟨(0, t), fun depth => by rw [ht, ok_bind]⟩

end Termination

/-! ## Steps -/

/-- The interface machine is truthful, and a read event belongs to a device. -/
structure Tended (s : Sled) : Prop extends Truthful s where
  listens : s.intf.readEvent = true → s.intf.handle = true ∧ s.intf.fd = true

namespace Tended

variable {s t : Sled} {o : CanOutcome}

lemma of_same (h : Tended s) (ht : SameDevice s t) : Tended t where
  settled := by rw [ht.mchIntf]; exact h.settled
  opened_iff := by rw [ht.mchIntf, ht.handle, ht.readEvent]; exact h.opened_iff
  listens := by rw [ht.handle, ht.readEvent, ht.fd]; exact h.listens

lemma closed_of_ne (h : Tended s) (hne : s.env.mchIntf ≠ .opened) : s.env.mchIntf = .closed :=
  h.settled.resolve_left hne

/-- An interface that closes is not read any more. -/
lemma of_closed {intf : Intf} (hread : intf.readEvent = false)
    (ht : SameDevice (((s.setIntfState .closing).withIntf intf).setIntfState .closed) t) :
    Tended t := by
  refine of_same ⟨⟨.inr rfl, ?_⟩, ?_⟩ ht
  · simp [Host.setIntfState, Host.withIntf, hread]
  · simp [Host.setIntfState, Host.withIntf, hread]

/-- A request to close, on an open interface. -/
lemma close_opened (hopened : s.env.mchIntf = .opened) (o : CanOutcome) :
    ∃ t, mchIntfHandleEvent o .close s = .ok t ∧ Tended t := by
  rw [mchIntfHandleEvent_close hopened]
  obtain ⟨t, ht, hsame⟩ := mchNetHandleEvent_intf
    (((s.setIntfState .closing).withIntf (s.intf.tryClose o)).setIntfState .closed) (.inr rfl)
  exact ⟨t, ht, of_closed (Intf.tryClose_readEvent o s.intf) hsame⟩

lemma close (h : Tended s) (o : CanOutcome) :
    ∃ t, mchIntfHandleEvent o .close s = .ok t ∧ Tended t := by
  by_cases hopened : s.env.mchIntf = .opened
  · exact close_opened hopened o
  · have hclosed := h.closed_of_ne hopened
    exact ⟨s, mchIntfHandleEvent_stay (by rw [hclosed]; rfl), h⟩

/-- A request to open, on a closed interface: the machine gets stuck, or it opens the device, or it
takes what is left of one for an open device. -/
lemma open_closed (h : Tended s) (hclosed : s.env.mchIntf = .closed) (o : CanOutcome) :
    ∃ t, mchIntfHandleEvent o .open s = .ok t ∧
      (Truthful t ↔ s.intf.handle = false ∧ o.open? = .success) ∧ (Truthful t → Tended t) := by
  have hdeaf : ¬ (s.intf.handle = true ∧ s.intf.readEvent = true) := fun hboth => by
    have := h.opened_iff.mpr hboth
    simp [hclosed] at this
  have stuck : ∀ intf : Intf, ¬ Truthful ((s.setIntfState .opening).withIntf intf) := fun _ ht => by
    rcases ht.settled with hst | hst <;> simp [Host.setIntfState, Host.withIntf] at hst
  rw [mchIntfHandleEvent_open hclosed]
  by_cases hhandle : s.intf.handle = true
  · -- The device is left over from a close that has failed: nothing listens to it.
    have htry : s.intf.tryOpen o = (0, s.intf) := by rw [Intf.tryOpen, if_pos hhandle]
    rw [htry, if_neg (by simp)]
    obtain ⟨t, ht, hsame⟩ := mchNetHandleEvent_intf
      (((s.setIntfState .opening).withIntf s.intf).setIntfState .opened) (.inl rfl)
    have hno : ¬ Truthful t := fun htrue => by
      have hboth := htrue.opened_iff.mp hsame.mchIntf
      rw [hsame.handle, hsame.readEvent] at hboth
      exact hdeaf hboth
    exact ⟨t, ht, ⟨fun htrue => absurd htrue hno, fun hs => by simp [hhandle] at hs⟩,
      fun htrue => absurd htrue hno⟩
  · have hfree : s.intf.handle = false := by simpa using hhandle
    by_cases hsuccess : o.open? = .success
    · have htry : s.intf.tryOpen o =
          (0, { s.intf with handle := true, fd := true, readEvent := true }) := by
        rw [Intf.tryOpen, if_neg hhandle, hsuccess]
      rw [htry, if_neg (by simp)]
      obtain ⟨t, ht, hsame⟩ := mchNetHandleEvent_intf (((s.setIntfState .opening).withIntf
        { s.intf with handle := true, fd := true, readEvent := true }).setIntfState .opened)
        (.inl rfl)
      have htended : Tended t := by
        refine of_same ⟨⟨.inl rfl, ?_⟩, ?_⟩ hsame
        · simp [Host.setIntfState, Host.withIntf]
        · simp [Host.setIntfState, Host.withIntf]
      exact ⟨t, ht, iff_of_true htended.toTruthful ⟨hfree, hsuccess⟩, fun _ => htended⟩
    · have hfailed : (s.intf.tryOpen o).1 ≠ 0 := by
        rw [Intf.tryOpen, if_neg hhandle]
        cases ho : o.open? <;> simp_all
      rw [if_pos hfailed]
      exact ⟨_, rfl, iff_of_false (stuck _) fun hs => hsuccess hs.2, fun ht => absurd ht (stuck _)⟩

/-- Reading from the device fails: the interface is closed, unless the device cannot be closed. -/
lemma closeSled (h : Tended s) (hread : s.intf.readEvent = true) (o : CanOutcome) :
    ∃ t, intfCloseSled o s = .ok t ∧ (Truthful t ↔ o.closeOk = true) ∧
      (Truthful t → Tended t) := by
  obtain ⟨hhandle, -⟩ := h.listens hread
  have hopened := h.opened_iff.mpr ⟨hhandle, hread⟩
  unfold intfCloseSled
  rw [intfClose_eq, hhandle]
  by_cases hok : o.closeOk = true
  · rw [if_neg (by simp [hok])]
    obtain ⟨t, ht, htended⟩ := close_opened (s := s.withIntf s.intf.shut) hopened o
    rw [ht]
    exact ⟨t, rfl, iff_of_true htended.toTruthful hok, fun _ => htended⟩
  · rw [if_pos (by simp [hok])]
    have hno : ¬ Truthful (s.withIntf s.intf.deaf) := fun htrue => by
      have := (htrue.opened_iff.mp hopened).2
      simp [Host.withIntf, Intf.deaf] at this
    exact ⟨_, rfl, iff_of_false hno hok, fun ht => absurd ht hno⟩

/-- A step that the device heeds keeps the interface machine truthful, and no other does. -/
lemma step (h : Tended s) (e : DeviceEvent) :
    ((∀ t, deviceStep s e = .ok t → Truthful t) ↔ e.Heeded s) ∧
      ∀ t, deviceStep s e = .ok t → Truthful t → Tended t := by
  cases e with
  | «open» o =>
    by_cases hopened : s.env.mchIntf = .opened
    · have hstay : mchIntfHandleEvent o .open s = .ok s :=
        mchIntfHandleEvent_stay (by rw [hopened]; rfl)
      simp [deviceStep, DeviceEvent.Heeded, hopened, hstay, h, h.toTruthful]
    · obtain ⟨t, ht, htrue, htended⟩ := h.open_closed (h.closed_of_ne hopened) o
      simpa [deviceStep, DeviceEvent.Heeded, hopened, ht, htrue] using htended
  | close o =>
    obtain ⟨t, ht, htended⟩ := h.close o
    simp [deviceStep, DeviceEvent.Heeded, ht, htended, htended.toTruthful]
  | sled e =>
    cases hc : e.closing? s with
    | none =>
      have hkeep : ∀ t, sledStep s e = .ok t → Tended t := fun t ht =>
        h.of_same (sledStep_inside hc ht).sameDevice
      exact ⟨iff_of_true (fun t ht => (hkeep t ht).toTruthful) (by simp [DeviceEvent.Heeded, hc]),
        fun t ht _ => hkeep t ht⟩
    | some o =>
      obtain ⟨hstep, hread⟩ := sledStep_closing hc
      obtain ⟨t, ht, htrue, htended⟩ := h.closeSled hread o
      simpa [deviceStep, DeviceEvent.Heeded, hc, hstep, ht, htrue] using htended

end Tended

/-! ## Runs -/

lemma tended_sledUnopened (mem : SledEnv) (now : ℚ) : Tended (sledUnopened mem now) := by
  have hstores : Stores (fun _ => False) (sledAlloc mem now) (sledUnopened mem now) :=
    Stores.createProfiles (.refl _)
  have hmch : (sledUnopened mem now).env.mchIntf = .closed :=
    (hstores.env_rel SledEnv.SameModes.refl fun _ _ _ => .trans).intf
  have hintf : (sledUnopened mem now).intf = intfCreate := hstores.silent.2
  refine ⟨⟨.inr hmch, ?_⟩, ?_⟩ <;> simp [hmch, hintf, intfCreate]

/-- **The interface machine tells the truth as long as the device heeds it.**  Opening and closing
come to an end whatever the device does.  In a run of the sled and of requests to open and close,
the machine is open or closed after every step, and open exactly if there is a device with its read
event registered, if and only if every step of the run is heeded. -/
theorem interface_truthful_iff (mem : SledEnv) (now : ℚ) (es : List DeviceEvent) :
    (∀ o s, (∀ event, ∃ t, ∀ depth, mchIntfHandleEventAt o (depth + 2) event s = .ok t) ∧
      ∃ r, ∀ depth, intfClose o (mchIntfHandleEventAt o (depth + 2) .close) s = .ok r) ∧
    ((∀ pre, pre <+: es → ∀ s, run deviceStep (sledUnopened mem now) pre = .ok s →
        Truthful s) ↔
      Guarded deviceStep (fun s e => e.Heeded s) (sledUnopened mem now) es) := by
  refine ⟨fun o s => ⟨fun event => mchIntfHandleEventAt_total o event s, intfClose_total o s⟩, ?_⟩
  have hstart := tended_sledUnopened mem now
  refine guarded_iff (I := Tended) (P := fun x => ∀ s, x = .ok s → Truthful s) ?_ ?_ ?_ hstart ?_
  · exact fun s e t hs he ht => (hs.step e).2 t ht ((hs.step e).1.mpr he t ht)
  · exact fun s e hs => (hs.step e).1.mpr
  · exact fun s e hs he hall => he ((hs.step e).1.mp hall)
  · intro s hs
    rw [← Except.ok.inj hs]
    exact hstart.toTruthful

/-- The device is missing when the sled starts.  The interface machine stays in `ST_INTF_OPENING`,
and a second request to open, when the device is there, is ignored. -/
theorem interface_stuck :
    ∃ s t, run deviceStep (sledUnopened someMemory 0) [.open ⟨.noDevice, true⟩] = .ok s ∧
      run deviceStep (sledUnopened someMemory 0)
        [.open ⟨.noDevice, true⟩, .open ⟨.success, true⟩] = .ok t ∧
      ¬ Truthful s ∧ t.env.mchIntf = .opening ∧ t.intf.handle = false := by
  obtain ⟨s, hs, hst⟩ := exists_of_okAnd (p := fun s : Sled => s.env.mchIntf == .opening)
    (x := run deviceStep (sledUnopened someMemory 0) [.open ⟨.noDevice, true⟩]) (by decide +kernel)
  obtain ⟨t, ht, hst'⟩ := exists_of_okAnd
    (p := fun t : Sled => t.env.mchIntf == .opening && !t.intf.handle)
    (x := run deviceStep (sledUnopened someMemory 0)
      [.open ⟨.noDevice, true⟩, .open ⟨.success, true⟩]) (by decide +kernel)
  simp only [Bool.and_eq_true, Bool.not_eq_true', beq_iff_eq] at hst hst'
  refine ⟨s, t, hs, ht, fun htrue => ?_, hst'⟩
  rcases htrue.settled with h | h <;> simp [hst] at h

end SledServer
