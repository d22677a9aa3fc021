import LinkControl.Server.Transitions

/-!
# Link server — invariants of a single device

Much of what is worth knowing about the server concerns one device at a time: its
status, its clients, its connect time, and what has been done with it so far
(`history`). A call leaves every device but its own alone (`confined_run`), so such a
property (`Local`) is an invariant of all devices as soon as every call keeps it for
the device it is about (`Kept.ofLocal`).
-/

namespace LinkControl

open ReturnCode

variable {w : World} {cfg : Config} {c : CliPtr} {d : DevPtr} {s s' s'' : State}

/-- What has been done with the device, newest first. -/
def history (d : DevPtr) (s : State) : List Effect :=
  s.trace.filter fun e => e.device = some d

section History

variable (w : World) (cfg : Config) (c : CliPtr) (d : DevPtr) (s : State)

/-- Something done with the device is added to its past. -/
theorem history_cons {s s' : State} {e : Effect} (hTrace : s'.trace = e :: s.trace)
    (hDevice : e.device = some d) : history d s' = e :: history d s := by
  rw [history, hTrace, List.filter_cons_of_pos (by simpa using hDevice)]
  rfl

/-- Where nothing was done, the past is the same. -/
theorem history_eq {s s' : State} (hTrace : s'.trace = s.trace) : history d s' = history d s :=
  congrArg (List.filter _) hTrace

@[simp] theorem history_setRetries (n : Int) :
    history d (s.setRetries d n) = history d s := rfl

@[simp] theorem history_setClientsConnected (pp : List CliPtr) :
    history d (s.setClientsConnected d pp) = history d s := rfl

@[simp] theorem history_setErrno (e : Errno) : history d (s.setErrno e) = history d s := rfl

@[simp] theorem history_setConnectTime :
    history d (setConnectTime w d s) = history d s := rfl

@[simp] theorem history_forgetDevice : history d (forgetDevice d c s).2 = history d s :=
  history_eq d (forgetDevice_trace d s)

@[simp] theorem history_setStatus (st : DeviceStatus) : history d (s.setStatus d st) =
    .status s.clock d (s.dev d).status st :: history d s :=
  history_cons d rfl rfl

@[simp] theorem history_forcedDown : history d (forcedDown w d s) =
    .ran s.clock d .linkForceDown (w.system s.commands).result :: history d s :=
  history_cons d (forcedDown_trace w d s) rfl

@[simp] theorem history_hungUp : history d (hungUp w d s) = .ran s.clock d
    (if (s.dev d).status = .up then .linkDown else .linkForceDown)
    (w.system s.commands).result :: history d s :=
  history_cons d (hungUp_trace w d s) rfl

@[simp] theorem history_undialled : history d (undialled w d s) =
    .ran s.clock d .linkUp (w.system s.commands).result :: history d s :=
  history_cons d (undialled_trace w d s) rfl

@[simp] theorem history_exhausted :
    history d (exhausted d s) = .gaveUp s.clock d :: history d s :=
  history_cons d (exhausted_trace d s) rfl

@[simp] theorem history_dialled : history d (dialled w d s) =
    .status (dialled w d s).clock d (s.dev d).status .connecting ::
      .ran s.clock d .linkUp (w.system s.commands).result :: history d s := by
  rw [history, dialled_trace, List.filter_cons_of_pos (by simp [Effect.device]),
    List.filter_cons_of_pos (by simp [Effect.device])]
  rfl

/-- Getting ready for a dial is noted only when an old connection had to be killed. -/
theorem history_readied : history d (readied w cfg d s) =
    if (s.dev d).status = .disconnecting then
      .ran s.clock d .linkForceDown (w.system s.commands).result :: history d s
    else history d s := by
  unfold readied
  split <;> simp [history, Effect.device]

/-- Noting a client does nothing with the device. -/
theorem history_noteClient : history d (noteClient w c d s).2 = history d s :=
  history_eq d (noted_noteClient w c d s).trace

end History

/-- No device but `d` changed, and all that was done was done with `d`. -/
structure Confined (d : DevPtr) (s s' : State) : Prop where
  gDevices : s'.gDevices = s.gDevices
  other : ∀ d', d' ≠ d → s'.dev d' = s.dev d'
  clock : s.clock ≤ s'.clock
  trace : ∃ new, s'.trace = new ++ s.trace ∧ ∀ e ∈ new, e.device = some d

/-- What touches one device is confined to it. -/
theorem Touched.confined (h : Touched d s s') : Confined d s s' := by
  obtain ⟨new, hEq, hNew⟩ := h.trace
  exact ⟨h.gDevices, h.other, h.clock, new, hEq, fun e he => (hNew e he).1⟩

/-- Noting a client is confined to its device. -/
theorem Noted.confined (h : Noted c d s s') : Confined d s s' :=
  ⟨h.gDevices, h.other, h.clock.ge, [], h.trace, by simp⟩

namespace Confined

theorem trans (h : Confined d s s') (h' : Confined d s' s'') : Confined d s s'' := by
  obtain ⟨new, hEq, hNew⟩ := h.trace
  obtain ⟨new', hEq', hNew'⟩ := h'.trace
  refine ⟨h'.gDevices.trans h.gDevices, fun d' hd => (h'.other d' hd).trans (h.other d' hd),
    h.clock.trans h'.clock, new' ++ new, by rw [hEq', hEq, List.append_assoc], fun e he => ?_⟩
  rcases List.mem_append.mp he with he | he
  · exact hNew' e he
  · exact hNew e he

/-- Nothing was done with another device. -/
theorem history_other (h : Confined d s s') {d' : DevPtr} (hd : d' ≠ d) :
    history d' s' = history d' s := by
  obtain ⟨new, hEq, hNew⟩ := h.trace
  have hNone : new.filter (fun e => e.device = some d') = [] := by
    rw [List.filter_eq_nil_iff]
    intro e he
    simpa [hNew e he] using hd.symm
  rw [history, hEq, List.filter_append, hNone]
  rfl

end Confined

/-- Connecting is confined to its device. -/
theorem confined_connectClientToDevice (w : World) (cfg : Config) (c : CliPtr) (d : DevPtr)
    (s : State) : Confined d s (connectClientToDevice w cfg c d s).2 := by
  have hDial := ((touched_setRetries d s cfg.gRetries).trans
    (touched_alterToConnecting w cfg d (s.setRetries d cfg.gRetries))).confined
  rcases connectClientToDevice_cases w cfg c d s with ⟨-, hEq⟩ | ⟨-, -, hEq⟩ | ⟨-, -, hEq⟩ <;>
    rw [hEq]
  · exact (noted_noteClient w c d s).confined
  · exact hDial
  · exact hDial.trans (noted_noteClient w c d _).confined

/-- A call changes its own device only. -/
theorem confined_run (w : World) (cfg : Config) (o : Op) (s : State) :
    Confined o.device s (o.run w cfg s).2 := by
  cases o with
  | connect c d => exact confined_connectClientToDevice w cfg c d s
  | _ => exact (touched_run (by simp)).confined

/-- The list of devices never changes. -/
theorem gDevices_kept (ds : List DevPtr) :
    Kept w cfg (fun _ _ => True) (fun s => WellFormed s ∧ s.gDevices = ds)
      (fun _ s => WellFormed s ∧ s.gDevices = ds) := by
  refine Kept.uniform And.left ?_ ?_ ?_ ?_ ?_
  · exact fun hq h => ⟨h.1.quiet hq, hq.gDevices.trans h.2⟩
  · exact fun hj h => ⟨h.1.joined hj, hj.gDevices.trans h.2⟩
  · exact fun _ _ h => ⟨h.1.log _, h.2⟩
  · exact fun h hApplies _ => ⟨h.1.run hApplies, (confined_run w cfg _ _).gDevices.trans h.2⟩
  · exact fun h _ hGone => ⟨h.1.dropped hGone, h.2⟩

/-- The list of devices is what it was at the start. -/
theorem gDevices_step (h : WellFormed s) (e : Event) :
    (step w cfg e s).2.gDevices = s.gDevices :=
  ((gDevices_kept s.gDevices).step ⟨h, rfl⟩ (calls_of_forall (fun _ _ => trivial) e s)).2

/-- A property of one device and its past, which time alone does not undo. -/
def Local (J : DevPtr → State → Prop) : Prop :=
  ∀ (d s s'), s'.dev d = s.dev d → history d s' = history d s → s.clock ≤ s'.clock →
    J d s → J d s'

/-- The property holds of every device. -/
structure Everywhere (J : DevPtr → State → Prop) (s : State) : Prop where
  wellFormed : WellFormed s
  all : ∀ d ∈ s.gDevices, J d s

/-- **Local invariants.** What every call keeps for its own device holds of all
devices throughout. -/
theorem Kept.ofLocal {P : Op → State → Prop} {J : DevPtr → State → Prop} (hLocal : Local J)
    (hOp : ∀ {o s}, Everywhere J s → o.Applies cfg s → P o s → J o.device (o.run w cfg s).2) :
    Kept w cfg P (Everywhere J) (fun _ => Everywhere J) := by
  refine Kept.uniform (fun h => h.wellFormed) ?_ ?_ ?_ ?_ ?_
  · intro s s' hq h
    refine ⟨h.wellFormed.quiet hq, fun d hd => ?_⟩
    exact hLocal d s s' (by rw [hq.dev]) (by rw [history, hq.trace]; rfl) hq.clock
      (h.all d (hq.gDevices ▸ hd))
  · intro c s s' hj h
    refine ⟨h.wellFormed.joined hj, fun d hd => ?_⟩
    exact hLocal d s s' (by rw [hj.dev]) (by rw [history, hj.trace]; rfl) hj.clock
      (h.all d (hj.gDevices ▸ hd))
  · intro s t a h
    refine ⟨h.wellFormed.log _, fun d hd => ?_⟩
    exact hLocal d s _ rfl (List.filter_cons_of_neg (by simp [Effect.device])) le_rfl (h.all d hd)
  · intro o s h hApplies hP
    have hc := confined_run w cfg o s
    refine ⟨h.wellFormed.run hApplies, fun d hd => ?_⟩
    rcases eq_or_ne d o.device with rfl | hOther
    · exact hOp h hApplies hP
    · exact hLocal d s _ (hc.other d hOther) (hc.history_other hOther) hc.clock
        (h.all d (hc.gDevices ▸ hd))
  · intro c s h _ hGone
    exact ⟨h.wellFormed.dropped hGone, fun d hd => hLocal d s _ rfl rfl le_rfl (h.all d hd)⟩

/-- A local property of a device that is down, free, and has no past. -/
theorem Booted.everywhere {J : DevPtr → State → Prop} (h : Booted s)
    (hStart : ∀ d, (s.dev d).status = .down → (s.dev d).clientsConnected = [] →
      history d s = [] → J d s) : Everywhere J s :=
  ⟨h.wellFormed, fun d hd => hStart d (h.status d hd) (h.clients d hd) (by simp [history, h.trace])⟩

/-- The device a call is about is listed. -/
theorem Op.Applies.device_mem {o : Op} (h : o.Applies cfg s) : o.device ∈ s.gDevices := by
  cases o with
  | connect c d => exact h.2
  | disconnect c d => exact h.2
  | expire c d => exact h.2
  | timeout d => exact h.1
  | isUp d => exact h
  | isDown d => exact h
  | forceDown d => exact h

end LinkControl
