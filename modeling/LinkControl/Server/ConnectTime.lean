import LinkControl.Server.Local

/-!
# Link server — connect times

`connect_time` is written by `link_up`, by `link_down` when the command returned
exactly 0, and by `alter_device_status` on the way to Connecting and to Link Up. It is
read as the age of the current status, by the uptime printer and by both device
timeouts.

`enteredAt` reads off the history when the device entered the status it has. Every
way into a status refreshes the connect time but two, both into Disconnecting
(`Stale`): hanging up a device that is still connecting, and a `link_down` that exits
with a positive status. Apart from those `aged_run` shows that the connect time is
never earlier than the entry.
-/

namespace LinkControl

open ReturnCode

variable {w : World} {cfg : Config} {c : CliPtr} {d : DevPtr} {s s' : State}

/-- When the last change of status in the history was made. -/
def enteredAt : List Effect → Option Int
  | [] => none
  | .status t _ old new :: rest => if old = new then enteredAt rest else some t
  | .ran _ _ _ _ :: rest | .gaveUp _ _ :: rest | .expired _ _ :: rest => enteredAt rest

/-- The device entered the status it has at some time up to now, and its connect time
is not earlier. -/
def Aged (d : DevPtr) (s : State) : Prop :=
  (s.dev d).status ≠ .down →
    ∃ t, enteredAt (history d s) = some t ∧ t ≤ (s.dev d).connectTime ∧ t ≤ s.clock

/-- The call makes a device disconnecting whose connect time is older than that: the
last client leaves while the device is still connecting, or `link_down` exits with a
positive status. -/
def Stale (w : World) (o : Op) (s : State) : Prop :=
  match o with
  | .disconnect c d | .expire c d =>
    (s.dev d).clientsConnected = [c] ∧
    ((s.dev d).status = .connecting ∧ 0 ≤ launchResult w s ∨
      (s.dev d).status = .up ∧ 0 < launchResult w s) ∧
    (s.dev d).connectTime < s.clock + w.tick s.ticks
  | _ => False

instance (w : World) (s : State) : ∀ o, Decidable (Stale w o s)
  | .disconnect _ _ | .expire _ _ => inferInstanceAs (Decidable (_ ∧ _))
  | .connect _ _ | .isUp _ | .isDown _ | .forceDown _ | .timeout _ => isFalse id

/-- The age is a matter of the device, its past and the clock, which never goes back. -/
theorem local_aged : Local Aged := by
  intro d s s' hDev hHistory hClock h hStatus
  rw [hDev] at hStatus ⊢
  obtain ⟨t, hEntered, hConnect, hNow⟩ := h hStatus
  exact ⟨t, hHistory ▸ hEntered, hConnect, hNow.trans hClock⟩

/-- A device that is down has no age to tell. -/
theorem aged_of_down (h : (s.dev d).status = .down) : Aged d s :=
  fun hStatus => absurd h hStatus

/-- The status and the entry are the same, and the connect time is not earlier than it
was. -/
theorem Aged.later (h : Aged d s) (hStatus : (s'.dev d).status = (s.dev d).status)
    (hEntered : enteredAt (history d s') = enteredAt (history d s))
    (hConnect : (s.dev d).connectTime ≤ (s'.dev d).connectTime ∨
      s.clock ≤ (s'.dev d).connectTime)
    (hClock : s.clock ≤ s'.clock) : Aged d s' := by
  intro hSt
  obtain ⟨t, hT, hOld, hNow⟩ := h (hStatus ▸ hSt)
  refine ⟨t, hEntered.trans hT, ?_, hNow.trans hClock⟩
  rcases hConnect with hConnect | hConnect
  · exact hOld.trans hConnect
  · exact hNow.trans hConnect

/-- A status assigned when the connect time is the clock, or later. -/
theorem aged_setStatus {st : DeviceStatus} (hNe : (s.dev d).status ≠ st)
    (hConnect : s.clock ≤ (s.dev d).connectTime) : Aged d (s.setStatus d st) := by
  intro _
  refine ⟨s.clock, ?_, by simpa using hConnect, le_rfl⟩
  rw [history_setStatus, enteredAt, if_neg hNe]

-- ---------------------------------------------------------------------------
-- Every call
-- ---------------------------------------------------------------------------

/-- Killing the connection changes neither the status nor the connect time. -/
theorem aged_forcedDown (h : Aged d s) : Aged d (forcedDown w d s) :=
  h.later (by simp) (by rw [history_forcedDown, enteredAt]) (Or.inl (by simp))
    (touched_forcedDown w d s).clock

/-- A dial that could not be made leaves the status and the connect time as they were. -/
theorem aged_undialled (h : Aged d s) (hLaunch : launchResult w s < 0) :
    Aged d (undialled w d s) :=
  h.later (by simp) (by rw [history_undialled, enteredAt])
    (Or.inl (undialled_connectTime w d s hLaunch).ge) (touched_undialled w d s).clock

/-- A dial refreshes the connect time whether or not the device was connecting. -/
theorem aged_dialled (h : Aged d s) : Aged d (dialled w d s) := by
  by_cases hStatus : (s.dev d).status = .connecting
  · refine h.later (by simp [hStatus]) ?_ (Or.inr ?_) (touched_dialled w d s).clock
    · rw [history_dialled, enteredAt, if_pos hStatus, enteredAt]
    · rw [dialled_connectTime]
      exact (touched_dialled w d s).clock
  · intro _
    refine ⟨(dialled w d s).clock, ?_, (dialled_connectTime w d s).ge, le_rfl⟩
    rw [history_dialled, enteredAt, if_neg hStatus]

theorem aged_setRetries (h : Aged d s) (n : Int) : Aged d (s.setRetries d n) :=
  h.later (by simp) rfl (Or.inl (by simp)) le_rfl

/-- A device that is got ready for a dial has the age it had. -/
theorem aged_readied (h : Aged d s) : Aged d (readied w cfg d s) := by
  refine h.later (by simp) ?_ (Or.inl (by simp)) (touched_readied w cfg d s).clock
  rw [history_readied]
  split
  · rw [enteredAt]
  · rfl

theorem aged_setClientsConnected (h : Aged d s) (pp : List CliPtr) :
    Aged d (s.setClientsConnected d pp) :=
  h.later (by simp) rfl (Or.inl (by simp)) le_rfl

theorem aged_setErrno (h : Aged d s) (e : Errno) : Aged d (s.setErrno e) :=
  h.later rfl rfl (Or.inl le_rfl) le_rfl

theorem aged_forgetDevice (h : Aged d s) (c : CliPtr) : Aged d (forgetDevice d c s).2 :=
  h.later (by simp) (by simp) (Or.inl (by simp)) (by simp)

theorem aged_noteClient (h : Aged d s) (c : CliPtr) : Aged d (noteClient w c d s).2 :=
  have hn := noted_noteClient w c d s
  h.later hn.status (by rw [history_noteClient]) (Or.inl hn.connectTime.ge) hn.clock.ge

/-- Taken down, or left as it was because the command could not be run. -/
theorem aged_alterToDown (h : Aged d s) : Aged d (alterToDown w d s).2 := by
  rcases alterToDown_cases w d s with ⟨-, hEq⟩ | ⟨-, -, hEq⟩ | ⟨-, -, hEq⟩ <;> rw [hEq]
  · exact aged_of_down (by simp)
  · exact aged_forcedDown h
  · exact aged_of_down (by simp)

theorem aged_exhausted (h : Aged d s) : Aged d (exhausted d s) :=
  h.later (by simp) (by rw [history_exhausted, enteredAt]) (Or.inl (by simp)) le_rfl

/-- Whatever becomes of a dial, the device is down, is as old as it was, or has just been
dialled. -/
theorem aged_redial (h : Aged d s) : Aged d (redial w d s).2 := by
  rcases redial_cases w d s with ⟨-, hEq⟩ | ⟨-, hLaunch, hEq⟩ | ⟨-, -, hEq⟩ <;> rw [hEq]
  · exact aged_alterToDown (aged_exhausted h)
  · exact aged_undialled h hLaunch
  · exact aged_dialled h

/-- The way to Connecting ends in a dial wherever it is open. -/
theorem aged_alterToConnecting (w : World) (cfg : Config) (h : Aged d s) :
    Aged d (alterToConnecting w cfg d s).2 := by
  rcases alterToConnecting_cases w cfg d s with ⟨-, hEq⟩ | ⟨-, hEq⟩ | ⟨-, -, hEq⟩ | ⟨-, hEq⟩ <;>
    rw [hEq]
  · exact aged_setErrno h _
  · exact aged_redial h
  · exact aged_forcedDown h
  · exact aged_redial (aged_readied h)

/-- The first client has the device dialled; the others only join. -/
theorem aged_connect (h : Aged d s) (c : CliPtr) :
    Aged d (connectClientToDevice w cfg c d s).2 := by
  have hDial := aged_alterToConnecting w cfg (aged_setRetries h cfg.gRetries)
  rcases connectClientToDevice_cases w cfg c d s with ⟨-, hEq⟩ | ⟨-, -, hEq⟩ | ⟨-, -, hEq⟩ <;>
    rw [hEq]
  · exact aged_noteClient h c
  · exact hDial
  · exact aged_noteClient hDial c

/-- The last client's departure is the only call that can leave a stale connect time. -/
theorem aged_disconnect (h : Aged d s) (c : CliPtr) (hP : ¬ Stale w (.disconnect c d) s) :
    Aged d (disconnectClientFromDevice w cfg c d s).2 := by
  have h₀ := aged_setClientsConnected h []
  rcases disconnectClientFromDevice_cases w cfg c d s with ⟨-, hEq⟩ | ⟨-, -, hEq⟩ |
    ⟨-, -, hEq⟩ | ⟨-, -, hLaunch, hEq⟩ | ⟨-, -, -, hEq⟩ | ⟨hLast, hStatus, hLaunch, hEq⟩ <;>
    rw [hEq]
  · exact aged_forgetDevice (aged_setErrno h _) c
  · exact aged_forgetDevice (aged_setClientsConnected h _) c
  · exact aged_setErrno h₀ _
  · -- the command could not be run: nothing but the client list changed
    refine h₀.later (by simp) (by rw [history_hungUp, enteredAt]) (Or.inl ?_)
      (touched_hungUp w d _).clock
    unfold hungUp
    split
    · rw [commanded_connectTime, if_neg (by simpa using hLaunch.ne)]
    · simp
  · exact aged_forgetDevice (aged_of_down (by simp)) c
  · -- the device starts disconnecting: the one place where the time can be stale
    refine aged_forgetDevice (aged_setStatus ?_ ?_) c
    · rcases hStatus with hStatus | hStatus <;> simp [hStatus]
    · have hNotStale : ∀ {st}, (s.dev d).status = st →
          (st = .connecting ∧ 0 ≤ launchResult w s ∨ st = .up ∧ 0 < launchResult w s) →
          s.clock + w.tick s.ticks ≤ (s.dev d).connectTime := by
        intro st hEq hSt
        obtain rfl := hEq
        by_contra hOld
        exact hP ⟨hLast, hSt, Int.not_le.mp hOld⟩
      unfold hungUp
      rcases hStatus with hStatus | hStatus <;>
        simp only [State.setClientsConnected_dev, Function.update_self, hStatus]
      · rw [forcedDown_clock, forcedDown_connectTime]
        simpa using hNotStale hStatus (Or.inl ⟨rfl, hLaunch⟩)
      · rw [commanded_connectTime, commanded_clock, launchResult_setClientsConnected]
        split
        · exact le_rfl
        · rename_i hNot
          simpa using hNotStale hStatus (Or.inr ⟨rfl, by omega⟩)

/-- A sweep that acts on a device dials it again or takes it down. -/
theorem aged_timeout (hDue : Due cfg d s) (h : Aged d s) :
    Aged d ((Op.timeout d).run w cfg s).2 := by
  rcases timeout_cases w hDue with ⟨-, -, -, hEq⟩ | ⟨-, -, -, hEq⟩ | ⟨-, -, hLaunch, hEq⟩ |
    ⟨-, -, -, hEq⟩ | ⟨-, -, hEq⟩ | ⟨-, -, hEq⟩ <;> rw [hEq]
  · exact aged_forcedDown (aged_exhausted h)
  · exact aged_of_down (by simp)
  · exact aged_undialled h hLaunch
  · exact aged_dialled h
  · exact aged_forcedDown h
  · exact aged_of_down (by simp)

/-- **Call rule.** Every call that leaves no stale connect time keeps the age. -/
theorem aged_run {o : Op} (h : Aged o.device s)
    (hApplies : o.Applies cfg s) (hP : ¬ Stale w o s) : Aged o.device (o.run w cfg s).2 := by
  cases o with
  | connect c d => exact aged_connect h c
  | disconnect c d => exact aged_disconnect h c hP
  | expire c d =>
    rw [run_expire]
    exact aged_disconnect h c hP
  | isUp d =>
    rw [run_isUp]
    rcases alterToUp_cases w d s with ⟨-, hEq⟩ | ⟨hStatus, hEq⟩ <;> rw [hEq]
    · exact aged_setErrno h _
    · exact aged_setStatus (by simp [hStatus, Op.device]) (by simp [Op.device])
  | isDown d => exact aged_alterToDown h
  | forceDown d =>
    dsimp only [Op.device] at h ⊢
    rcases forceDown_cases w cfg d s with ⟨-, hEq⟩ | ⟨-, -, hEq⟩ | ⟨-, -, hEq⟩ <;> rw [hEq]
    · exact aged_of_down (by simp)
    · exact aged_forcedDown h
    · exact aged_of_down (by simp)
  | timeout d => exact aged_timeout hApplies.2 h

/-- Along runs in which no call leaves a stale connect time, none is stale. -/
theorem aged_kept : Kept w cfg (fun o s => ¬ Stale w o s) (Everywhere Aged)
    (fun _ => Everywhere Aged) :=
  Kept.ofLocal local_aged fun h hApplies hP =>
    aged_run (h.all _ hApplies.device_mem) hApplies hP

-- ---------------------------------------------------------------------------
-- What reads the connect time
-- ---------------------------------------------------------------------------

/-- The uptime that is printed for a device that is up is the time since its connect
time, when the text is made. -/
theorem printDeviceStatus_up {text : CStr} (hUp : (s.dev d).status = .up)
    (h : printDeviceStatus w d s = (some text, s')) :
    text = (s.dev d).deviceName ++ serverStatusUp ++
      (decimal (toInt (s'.clock - (s.dev d).connectTime)) ++ [' '] ++
        decimal (toInt (s.dev d).clientsConnected.length)) := by
  unfold printDeviceStatus at h
  unfold malloc at h
  cases hM : w.malloc s.mallocs with
  | none => simp [hM] at h
  | some p =>
    simp only [hM, hUp, if_true, advance_mallocs] at h
    cases hM' : w.malloc (s.mallocs + 1) with
    | none => simp [hM'] at h
    | some p' =>
      simp only [hM', Prod.mk.injEq, Option.some.injEq] at h
      obtain ⟨rfl, rfl⟩ := h
      rw [advance_dev]
      rfl

/-- A device that a sweep comes to and finds due has been in its status for longer
than the timeout. -/
theorem Aged.due (h : Aged d s) (hDue : Due cfg d s) : ∃ t, enteredAt (history d s) = some t ∧
    t + (if (s.dev d).status = .connecting then cfg.gConnectTimeout
      else cfg.gDisconnectTimeout) < s.clock := by
  rcases hDue with ⟨hStatus, hLate⟩ | ⟨hStatus, hLate⟩ <;>
    obtain ⟨t, hEntered, hConnect, -⟩ := h (by simp [hStatus]) <;>
    refine ⟨t, hEntered, ?_⟩ <;> rw [hStatus]
  · rw [if_pos rfl]
    omega
  · rw [if_neg (by simp)]
    omega

/-- **The connect time is the age of the status**, in any run in which no device starts
disconnecting from Connecting, or by a `link_down` that exits with a positive status,
at a moment later than its connect time. Then no uptime that is printed counts time
before the link came up, and `timeout_old_devices` acts on no device before it has
been connecting, or disconnecting, for longer than the timeout. -/
theorem connectTime_current (w : World) (cfg : Config) (sections : List DeviceSection)
    (es : List Event)
    (hCalls : Runs.Along (fun e s => (step w cfg e s).2)
      (StepCalls w cfg fun o s => ¬ Stale w o s) es (boot w sections)) :
    let s := serverRun w cfg es (boot w sections)
    (∀ d ∈ s.gDevices, (s.dev d).status ≠ .down →
      ∃ t, enteredAt (history d s) = some t ∧ t ≤ (s.dev d).connectTime ∧
        ∀ s₁ s₂ text, s₁.dev = s.dev → (s.dev d).status = .up →
          printDeviceStatus w d s₁ = (some text, s₂) →
          ∃ uptime ≤ s₂.clock - t, text = (s.dev d).deviceName ++ serverStatusUp ++
            (decimal (toInt uptime) ++ [' '] ++
              decimal (toInt (s.dev d).clientsConnected.length))) ∧
    Visits (timeoutOldDevice w cfg) (fun d s' => Due cfg d (advance w s') →
      ∃ t, enteredAt (history d s') = some t ∧
        t + (if (s'.dev d).status = .connecting then cfg.gConnectTimeout
          else cfg.gDisconnectTimeout) < (advance w s').clock)
      s.gDevices (advance w s) := by
  intro s
  have hKept : Kept w cfg (fun o s => ¬ Stale w o s) (Everywhere Aged) (fun _ => Everywhere Aged) :=
    aged_kept
  have h : Everywhere Aged s := hKept.run
    ((booted_boot w sections).everywhere fun _ hDown _ _ => aged_of_down hDown) hCalls
  refine ⟨fun d hd hStatus => ?_, ?_⟩
  · obtain ⟨t, hEntered, hConnect, -⟩ := h.all d hd hStatus
    refine ⟨t, hEntered, hConnect, fun s₁ s₂ text hDev hUp hPrint => ?_⟩
    refine ⟨s₂.clock - (s.dev d).connectTime, by omega, ?_⟩
    rw [← hDev] at hUp ⊢
    exact printDeviceStatus_up hUp hPrint
  · -- the sweep itself makes no call that could leave a stale time
    have hNow : Everywhere Aged (advance w s) := hKept.quiet (quiet_advance w s) h
    refine (hKept.visits_devices hNow (visits_of_forall ?_ _ _)).mono ?_
    · exact fun d s' _ hStale => hStale
    · intro d s' h hDue
      obtain ⟨hAged, hd, -⟩ := h
      exact ((hKept.quiet (quiet_advance w s') hAged).all d hd).due hDue

/-- A link that comes up, is used, and is hung up at the first attempt. -/
theorem connectTime_current_used :
    let w := calmWorld 1 []
    let s := serverRun w defaultConfig
      [aboutPpp clientUp 1, noticeAboutPpp notifyIsup, aboutPpp clientDown 1] (boot w [pppSection])
    (s.dev 0).status = .disconnecting ∧
      ∃ t, enteredAt (history 0 s) = some t ∧ t ≤ (s.dev 0).connectTime := by
  refine ⟨by decide +kernel, ?_⟩
  obtain ⟨t, hEntered, hConnect, -⟩ := (connectTime_current (calmWorld 1 []) defaultConfig
    [pppSection] [aboutPpp clientUp 1, noticeAboutPpp notifyIsup, aboutPpp clientDown 1]
    (by decide +kernel)).1 0 (by decide +kernel) (by decide +kernel)
  exact ⟨t, hEntered, hConnect⟩

/-- The only client leaves while the device is still connecting, and every command
returns 0: the device has been disconnecting since 1008, and its connect time is
1005. -/
theorem connectTime_stale :
    let w := calmWorld 1 []
    let s := serverRun w defaultConfig [aboutPpp clientUp 1, aboutPpp clientDown 1]
      (boot w [pppSection])
    (s.dev 0).status = .disconnecting ∧ enteredAt (history 0 s) = some 1008 ∧
      (s.dev 0).connectTime = 1005 := by
  decide +kernel

end LinkControl
