import LinkControl.Server.HangUps

/-!
# Link server — what a sweep misses

Both sweeps return at the first failure, and what comes behind it in the list has to wait
for the next turn of the main loop, which fails at the same place again if nothing has
changed. `timeout_old_clients` fails when all clients of a device have expired and the device
cannot be hung up (`HangsUp`), `timeout_old_devices` when the command of a device that is due
cannot be run.

`sweeps_complete_iff` says that nothing else is missed: the expired clients go exactly if no
hang-up fails, and every device that is due is seen to exactly if the commands of all but
the last of them can be run.
-/

namespace LinkControl

open ReturnCode

variable {w : World} {cfg : Config} {c : CliPtr} {d : DevPtr} {s s' s'' : State}

/-- What is to be done with a device that is due has been done: a redial, or giving up and
forcing the link down, or forcing it down. `system ()` is called also for a device whose section
does not set the command, and then runs nothing. -/
def SeenTo (d : DevPtr) (s s' : State) : Prop :=
  ∃ new, history d s' = new ++ history d s ∧
    if (s.dev d).status = .connecting ∧ 0 ≤ (s.dev d).retries then
      ∃ r, .ran s.clock d .linkUp r ∈ new
    else ((s.dev d).status = .connecting → .gaveUp s.clock d ∈ new) ∧
      ∃ r, .ran s.clock d .linkForceDown r ∈ new

-- ---------------------------------------------------------------------------
-- Old devices
-- ---------------------------------------------------------------------------

theorem timeout_frozen (w : World) (cfg : Config) (h : Due cfg d s) :
    ((Op.timeout d).run (frozen w) cfg s).2.clock = s.clock ∧
      ((Op.timeout d).run (frozen w) cfg s).2.commands = s.commands + 1 := by
  rcases timeout_cases (frozen w) h with ⟨-, -, -, hEq⟩ | ⟨-, -, -, hEq⟩ | ⟨-, -, -, hEq⟩ |
    ⟨-, -, -, hEq⟩ | ⟨-, -, hEq⟩ | ⟨-, -, hEq⟩ <;> rw [hEq] <;>
    simp [exhausted, undialled, dialled]

/-- A device that is not due yet is passed over. -/
theorem timeoutOldDevice_frozen (h : ¬ Due cfg d s) :
    timeoutOldDevice (frozen w) cfg d s = (0, s) ∨
      timeoutOldDevice (frozen w) cfg d s = (0, advance (frozen w) s) := by
  unfold timeoutOldDevice
  cases hStatus : (s.dev d).status with
  | connecting =>
    have hEarly : ¬ (s.dev d).connectTime + cfg.gConnectTimeout < s.clock :=
      fun hLate => h (Or.inl ⟨hStatus, hLate⟩)
    simp [hEarly]
  | disconnecting =>
    have hEarly : ¬ (s.dev d).connectTime + cfg.gDisconnectTimeout < s.clock :=
      fun hLate => h (Or.inr ⟨hStatus, hLate⟩)
    simp [hEarly]
  | _ => exact Or.inl rfl

theorem SeenTo.of_redialled (more : List Effect) {r : Int} (hSt : (s.dev d).status = .connecting)
    (hLeft : 0 ≤ (s.dev d).retries)
    (hPast : history d s' = more ++ .ran s.clock d .linkUp r :: history d s) : SeenTo d s s' := by
  refine ⟨more ++ [.ran s.clock d .linkUp r], by simp [hPast], ?_⟩
  rw [if_pos ⟨hSt, hLeft⟩]
  exact ⟨r, by simp⟩

theorem SeenTo.of_forcedDown (more given : List Effect) {r : Int}
    (hNot : ¬ ((s.dev d).status = .connecting ∧ 0 ≤ (s.dev d).retries))
    (hPast : history d s' = more ++ .ran s.clock d .linkForceDown r :: (given ++ history d s))
    (hGaveUp : (s.dev d).status = .connecting → .gaveUp s.clock d ∈ given) : SeenTo d s s' := by
  refine ⟨more ++ .ran s.clock d .linkForceDown r :: given, by simp [hPast], ?_⟩
  rw [if_neg hNot]
  exact ⟨fun hSt => by simp [hGaveUp hSt], r, by simp⟩

/-- The transition of a device that is due sees to it, also when its command fails. -/
theorem seenTo_timeout (w : World) (h : Due cfg d s) :
    SeenTo d s ((Op.timeout d).run w cfg s).2 := by
  have hNoRetry : (s.dev d).retries < 0 →
      ¬ ((s.dev d).status = .connecting ∧ 0 ≤ (s.dev d).retries) := fun hNone hBoth =>
    absurd hBoth.2 (Int.not_le.mpr hNone)
  have hHangingUp : (s.dev d).status = .disconnecting → (s.dev d).status ≠ .connecting := by
    intro hSt
    simp [hSt]
  rcases timeout_cases w h with ⟨-, hNone, -, hEq⟩ | ⟨-, hNone, -, hEq⟩ |
    ⟨hSt, hLeft, -, hEq⟩ | ⟨hSt, hLeft, -, hEq⟩ | ⟨hSt, -, hEq⟩ | ⟨hSt, -, hEq⟩ <;> rw [hEq]
  · refine SeenTo.of_forcedDown [] [.gaveUp s.clock d] (hNoRetry hNone)
      (r := (w.system s.commands).result) ?_ (fun _ => List.mem_singleton_self _)
    rw [history_forcedDown, history_exhausted]
    rfl
  · refine SeenTo.of_forcedDown [.status (forcedDown w d (exhausted d s)).clock d
        ((forcedDown w d (exhausted d s)).dev d).status .down] [.gaveUp s.clock d]
      (r := (w.system s.commands).result) (hNoRetry hNone) ?_ (fun _ => List.mem_singleton_self _)
    rw [history_setStatus, history_forcedDown, history_exhausted]
    rfl
  · exact SeenTo.of_redialled [] hSt hLeft (history_undialled w d s)
  · exact SeenTo.of_redialled [.status (dialled w d s).clock d (s.dev d).status .connecting] hSt
      hLeft (history_dialled w d s)
  · exact SeenTo.of_forcedDown [] [] (fun hBoth => hHangingUp hSt hBoth.1)
      (history_forcedDown w d s) fun hCon => absurd hCon (hHangingUp hSt)
  · refine SeenTo.of_forcedDown
      [.status (forcedDown w d s).clock d ((forcedDown w d s).dev d).status .down] []
      (r := (w.system s.commands).result) (fun hBoth => hHangingUp hSt hBoth.1) ?_
      fun hCon => absurd hCon (hHangingUp hSt)
    rw [history_setStatus, history_forcedDown]
    rfl

/-- What has been done stays done. -/
theorem SeenTo.mono (h : SeenTo d s s') (more : List Effect)
    (hMore : history d s'' = more ++ history d s') : SeenTo d s s'' := by
  obtain ⟨new, hNew, hDone⟩ := h
  refine ⟨more ++ new, by rw [hMore, hNew, List.append_assoc], ?_⟩
  split at hDone <;> rename_i hRetry
  · obtain ⟨r, hr⟩ := hDone
    rw [if_pos hRetry]
    exact ⟨r, List.mem_append_right _ hr⟩
  · obtain ⟨hGaveUp, r, hr⟩ := hDone
    rw [if_neg hRetry]
    exact ⟨fun hSt => List.mem_append_right _ (hGaveUp hSt), r, List.mem_append_right _ hr⟩

/-- Nothing was done with a device that has no new past. -/
theorem not_seenTo (h : history d s' = history d s) : ¬ SeenTo d s s' := by
  intro hSeen
  obtain ⟨new, hNew, hDone⟩ := hSeen
  obtain rfl : new = [] := by
    rw [h] at hNew
    simpa using hNew
  split at hDone
  · obtain ⟨r, hr⟩ := hDone
    exact absurd hr List.not_mem_nil
  · obtain ⟨-, r, hr⟩ := hDone
    exact absurd hr List.not_mem_nil

/-- The same device, at the same time, with the same past. -/
theorem seenTo_congr (hDev : s'.dev d = s.dev d) (hClock : s'.clock = s.clock)
    (hPast : history d s' = history d s) : SeenTo d s' s'' ↔ SeenTo d s s'' := by
  unfold SeenTo
  rw [hDev, hClock, hPast]

theorem due_congr (hDev : s'.dev d = s.dev d) (hClock : s'.clock = s.clock) :
    Due cfg d s' ↔ Due cfg d s := by
  rw [Due, Due, hDev, hClock]

/-- The devices of the list that are due. -/
def dueDevices (cfg : Config) (ds : List DevPtr) (s : State) : List DevPtr :=
  ds.filter fun d => Due cfg d s

/-- A sweep over some devices does nothing with the others. -/
theorem history_timeoutOldDevices (w : World) (cfg : Config) {ds : List DevPtr} {d : DevPtr}
    (hd : d ∉ ds) (s : State) :
    history d (untilFailure (timeoutOldDevice w cfg) ds s).2 = history d s := by
  refine untilFailure_invariant' (I := fun s' => history d s' = history d s) ?_ s rfl
  intro x hx s' h
  rw [(touched_timeoutOldDevice w cfg x s').confined.history_other
    (fun hEq : d = x => hd (hEq ▸ hx)), h]

/-- **The sweep over the devices**, from any place in the list on. -/
theorem timeoutOldDevices_from (w : World) (cfg : Config) :
    ∀ {ds : List DevPtr} {s : State}, ds.Nodup →
      ((∀ d ∈ ds, Due cfg d s →
          SeenTo d s (untilFailure (timeoutOldDevice (frozen w) cfg) ds s).2) ↔
        ∀ i, i + 1 < (dueDevices cfg ds s).length → CommandRuns w (s.commands + i)) := by
  intro ds
  induction ds with
  | nil => exact fun _ => iff_of_true (fun d hd => absurd hd List.not_mem_nil) (by simp [dueDevices])
  | cons d rest ih =>
    intro s hNodup
    obtain ⟨hd, hRest⟩ := List.nodup_cons.mp hNodup
    -- the other devices are as they were, whatever the round has done with this one
    have hOthers : ∀ s₁ : State, Confined d s s₁ → s₁.clock = s.clock →
        (∀ x ∈ rest, Due cfg x s₁ → SeenTo x s₁
          (untilFailure (timeoutOldDevice (frozen w) cfg) rest s₁).2) =
        (∀ x ∈ rest, Due cfg x s → SeenTo x s
          (untilFailure (timeoutOldDevice (frozen w) cfg) rest s₁).2) ∧
        dueDevices cfg rest s₁ = dueDevices cfg rest s := by
      intro s₁ hConfined hClock
      have hOther : ∀ x ∈ rest, x ≠ d := fun x hx hEq => hd (hEq ▸ hx)
      refine ⟨propext (forall₂_congr fun x hx => ?_), List.filter_congr fun x hx => ?_⟩
      · have hDev := hConfined.other x (hOther x hx)
        rw [due_congr hDev hClock,
          seenTo_congr hDev hClock (hConfined.history_other (hOther x hx))]
      · rw [decide_eq_decide]
        exact due_congr (hConfined.other x (hOther x hx)) hClock
    rw [untilFailure]
    by_cases hDue : Due cfg d s
    · have hNow := advance_frozen_clock w s
      have hDev : (advance (frozen w) s).dev d = s.dev d := rfl
      have hDueNow : Due cfg d (advance (frozen w) s) := by rwa [due_congr hDev hNow]
      set r := (Op.timeout d).run (frozen w) cfg (advance (frozen w) s) with hr
      have hSeen : SeenTo d s r.2 := by
        have hTimeout := seenTo_timeout (frozen w) hDueNow
        rwa [seenTo_congr hDev hNow (history_eq d rfl)] at hTimeout
      obtain ⟨hClock, hCommands⟩ := timeout_frozen w cfg hDueNow
      rw [advance_frozen_clock] at hClock
      have hConfined : Confined d s r.2 := ((touched_advance (frozen w) d s).trans
        (touched_run (o := .timeout d) (by simp))).confined
      have hLength : (dueDevices cfg (d :: rest) s).length =
          (dueDevices cfg rest s).length + 1 := by
        simp [dueDevices, hDue]
      have hRuns : 0 ≤ r.1 ↔ CommandRuns w s.commands := by
        have hLaunch := launchResult_nonneg_iff (w := w) (s := s)
        rcases timeout_cases (frozen w) hDueNow with ⟨-, -, hL, hEq⟩ | ⟨-, -, hL, hEq⟩ |
          ⟨-, -, hL, hEq⟩ | ⟨-, -, hL, hEq⟩ | ⟨-, hL, hEq⟩ | ⟨-, hL, hEq⟩ <;>
          rw [hr, hEq, ← hLaunch] <;> rw [launchResult_frozen, launchResult_advance] at hL
        · exact iff_of_false (by simp) (Int.not_le.mpr hL)
        · exact iff_of_true le_rfl hL
        · exact iff_of_false (by simp) (Int.not_le.mpr hL)
        · exact iff_of_true le_rfl hL
        · exact iff_of_false (by simp) (Int.not_le.mpr hL)
        · exact iff_of_true le_rfl hL
      rw [timeoutOldDevice_of_due (frozen w) cfg hDueNow, hLength, List.forall_mem_cons]
      rcases unlessFails_cases r fun s => (0, s) with ⟨hFail, hEq⟩ | ⟨hRet, hEq⟩ <;> rw [hEq]
      · -- the sweep ends here
        rw [unlessFails_of_neg (by simp)]
        have hNot : ¬ CommandRuns w s.commands := fun h => absurd (hRuns.mpr h) (Int.not_le.mpr hFail)
        constructor
        · intro h i hi
          have hPos : 0 < (dueDevices cfg rest s).length := by omega
          obtain ⟨x, hx⟩ := List.exists_mem_of_length_pos hPos
          obtain ⟨hx, hxDue⟩ := List.mem_filter.mp hx
          have hSeenX := h.2 x hx (of_decide_eq_true hxDue)
          exact absurd hSeenX (not_seenTo (hConfined.history_other fun hEq => hd (hEq ▸ hx)))
        · intro h
          refine ⟨fun _ => hSeen, fun x hx hxDue => absurd (h 0 ?_) hNot⟩
          have hIn : x ∈ dueDevices cfg rest s := List.mem_filter.mpr ⟨hx, decide_eq_true hxDue⟩
          have hPos := List.length_pos_of_mem hIn
          omega
      · rw [unlessFails_of_nonneg le_rfl]
        obtain ⟨hSame, hLeft⟩ := hOthers r.2 hConfined hClock
        have hNext := ih (s := r.2) hRest
        rw [hSame, hLeft, hCommands] at hNext
        have hHere : Due cfg d s → SeenTo d s
            (untilFailure (timeoutOldDevice (frozen w) cfg) rest r.2).2 := fun _ =>
          hSeen.mono [] (history_timeoutOldDevices (frozen w) cfg hd r.2)
        rw [show ((0 : Int), r.2).2 = r.2 from rfl, and_iff_right hHere, hNext]
        constructor
        · intro h i hi
          cases i with
          | zero => exact hRuns.mp hRet
          | succ i =>
            have := h i (by omega)
            rwa [show (advance (frozen w) s).commands = s.commands from rfl, Nat.add_assoc,
              Nat.add_comm 1 i] at this
        · intro h i hi
          have := h (i + 1) (by omega)
          rwa [show (advance (frozen w) s).commands = s.commands from rfl, Nat.add_assoc,
            Nat.add_comm 1 i]
    · have hPassed : ∃ s₁, timeoutOldDevice (frozen w) cfg d s = (0, s₁) ∧ Confined d s s₁ ∧
          s₁.clock = s.clock ∧ s₁.commands = s.commands := by
        rcases timeoutOldDevice_frozen hDue with hEq | hEq
        · exact ⟨s, hEq, (Touched.refl d s).confined, rfl, rfl⟩
        · exact ⟨_, hEq, (touched_advance (frozen w) d s).confined, advance_frozen_clock w s, rfl⟩
      obtain ⟨s₁, hEq, hConfined, hClock, hCommands⟩ := hPassed
      obtain ⟨hSame, hLeft⟩ := hOthers s₁ hConfined hClock
      have hNext := ih (s := s₁) hRest
      rw [hSame, hLeft, hCommands] at hNext
      have hList : dueDevices cfg (d :: rest) s = dueDevices cfg rest s := by
        simp [dueDevices, hDue]
      rw [hEq, unlessFails_of_nonneg le_rfl, List.forall_mem_cons, hList,
        and_iff_right fun h => absurd h hDue, hNext]

-- ---------------------------------------------------------------------------
-- Both sweeps
-- ---------------------------------------------------------------------------

/-- **What the sweeps miss.** In every reachable state, with the clock standing still and
whatever the commands return: `timeout_old_clients` leaves in `g_clients` exactly the clients
that have not expired, in their order, if and only if the devices whose clients have all expired
can be hung up; and `timeout_old_devices` sees to every device that was due when it began, if and
only if the commands of all of them but the last can be run. -/
theorem sweeps_complete_iff (w : World) (cfg : Config) (sections : List DeviceSection)
    (es : List Event) :
    let s := serverRun w cfg es (boot w sections)
    ((timeoutOldClients (frozen w) cfg s).2.gClients =
        s.gClients.filter (fun c => ¬ Overdue cfg c s) ↔
      HangsUp w cfg s (expiries cfg s s.gClients) s.commands s.errno) ∧
    ((∀ d ∈ s.gDevices, Due cfg d s → SeenTo d s (timeoutOldDevices (frozen w) cfg s).2) ↔
      ∀ i, i + 1 < (dueDevices cfg s.gDevices s).length → CommandRuns w (s.commands + i)) := by
  intro s
  have h : WellFormed s := wellFormed_run w cfg sections es
  refine ⟨?_, timeoutOldDevices_from w cfg (h.names.of_map _)⟩
  have hSweep := timeoutOldClients_from w cfg h.clients_nodup h.clients_nodup fun _ hc => hc
  rw [← hangsUpAlong_iff h, ← hSweep]
  have hFilter : s.gClients.filter (fun c => ¬ Overdue cfg c s) =
      s.gClients.filter fun c => ¬ (c ∈ s.gClients ∧ Overdue cfg c s) :=
    List.filter_congr fun c hc => by simp [hc]
  rw [hFilter]
  rfl

/-- Two clients, the first of them on `ppp0`; the link is reported down, and the force-down
command exits with a failure. -/
def strandedRun : State :=
  serverRun (calmWorld 1000 [0, 256]) defaultConfig [aboutPpp clientUp 1, .client ⟨2, 1026⟩ clientPing,
    noticeAboutPpp notifyIsdown, .peer [], .peer []] (boot (calmWorld 1000 [0, 256]) [pppSection])

/-- Two devices, each dialled for a client; no shell can be started for the next command. -/
def unansweredRun : State :=
  serverRun (calmWorld 61 [0, 0, 127]) defaultConfig [aboutPpp clientUp 1,
    .client ⟨2, 1026⟩ (clientUp ++ "ppp1".toList), .peer []] (boot (calmWorld 61 [0, 0, 127])
      [pppSection, { pppSection with name := some "ppp1".toList }])

/-- Both clients of the first server have expired, and both stay: the device of the first is
down already. Both devices of the second server are due, and nothing is done with the
second. -/
theorem sweeps_incomplete :
    (strandedRun.gClients.filter (fun c => ¬ Overdue defaultConfig c strandedRun) = [] ∧
      (timeoutOldClients (frozen (calmWorld 1000 [0, 256])) defaultConfig
        strandedRun).2.gClients.length = 2) ∧
    (∀ d ∈ unansweredRun.gDevices, Due defaultConfig d unansweredRun) ∧
    ¬ SeenTo 1 unansweredRun
      (timeoutOldDevices (frozen (calmWorld 61 [0, 0, 127])) defaultConfig unansweredRun).2 := by
  refine ⟨by decide +kernel, by decide +kernel, not_seenTo (by decide +kernel)⟩

end LinkControl
