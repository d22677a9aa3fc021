import LinkControl.Server.Local

/-!
# Link server — the hang-ups of a sweep

When `timeout_old_clients` goes through its list, a device is hung up at the last of its
clients, if all of them have expired (`lastClient`). The sweep returns if that fails, with the
client still in the list: if the device is down already, or if its command cannot be run,
unless `errno` happens to be `ENODEV`.

`timeoutOldClients_from` says so round by round, each hang-up in the state that it meets
(`HangsUpAlong`). A sweep changes little that later rounds look at (`Swept`), so that all of
this can be read off the state in which it begins (`HangsUp`, `hangsUpAlong_iff`).
-/

namespace LinkControl

open ReturnCode

variable {w : World} {cfg : Config} {c : CliPtr} {d : DevPtr} {s s' : State}

/-- Surroundings in which no time passes. -/
def frozen (w : World) : World := { w with tick := fun _ => 0 }

/-- The client is the last one of the device, which cannot be hung up: it is down already, or
its command cannot be run and `errno` is not the one that is ignored. -/
def HangUpFails (w : World) (c : CliPtr) (d : DevPtr) (s : State) : Prop :=
  (s.dev d).clientsConnected = [c] ∧ ((s.dev d).status = .down ∨
    (launchResult w s < 0 ∧ (w.system s.commands).errno.getD s.errno ≠ .enodev))

/-- The command can be run. -/
def CommandRuns (w : World) (k : Nat) : Prop := 0 ≤ (w.system k).result ∧ (w.system k).result ≠ 127

/-- The client that a device is hung up for when the expired clients go: the last of its
clients in `g_clients`, if all of them have expired. -/
def lastClient (cfg : Config) (s : State) (d : DevPtr) : Option CliPtr :=
  if ∀ c ∈ (s.dev d).clientsConnected, Overdue cfg c s then
    (s.gClients.filter (· ∈ (s.dev d).clientsConnected)).getLast?
  else none

/-- Those of the clients that have expired, each with all devices: what a sweep goes through. -/
def expiries (cfg : Config) (s : State) (cs : List CliPtr) : List (CliPtr × DevPtr) :=
  (cs.filter fun c => Overdue cfg c s).flatMap fun c => s.gDevices.map (c, ·)

/-- What `errno` is when the sweep has gone on behind this client and device, `k` commands
having been run before and `errno` having been `e`: a client and a device that do not list each
other leave `ENODEV`, and so does a force-down that has worked. -/
def errnoBehind (w : World) (cfg : Config) (s : State) (c : CliPtr) (d : DevPtr) (k : Nat)
    (e : Errno) : Errno :=
  if c ∉ (s.dev d).clientsConnected ∨ d ∉ (s.cli c).devicesConnected then .enodev
  else if lastClient cfg s d ≠ some c then e
  else if (w.system k).result = 0 ∧ (s.dev d).status ≠ .up then .enodev
  else (w.system k).errno.getD e

/-- Every device that is to be hung up can be: it is not down, and its command, which is the
`k`th, can be run, or `errno` is the one that is ignored. All of this is about the state `s` in
which the sweep begins. -/
def HangsUp (w : World) (cfg : Config) (s : State) : List (CliPtr × DevPtr) → Nat → Errno → Prop
  | [], _, _ => True
  | (c, d) :: rest, k, e =>
    if lastClient cfg s d = some c then
      (s.dev d).status ≠ .down ∧ (CommandRuns w k ∨ (w.system k).errno.getD e = .enodev) ∧
        HangsUp w cfg s rest (k + 1) (errnoBehind w cfg s c d k e)
    else HangsUp w cfg s rest k (errnoBehind w cfg s c d k e)

instance (w : World) (k : Nat) : Decidable (CommandRuns w k) := inferInstanceAs (Decidable (_ ∧ _))

instance HangsUp.decidable (w : World) (cfg : Config) (s : State) :
    ∀ l k e, Decidable (HangsUp w cfg s l k e)
  | [], _, _ => isTrue trivial
  | (c, d) :: rest, k, e =>
    have := HangsUp.decidable w cfg s rest (k + 1) (errnoBehind w cfg s c d k e)
    have := HangsUp.decidable w cfg s rest k (errnoBehind w cfg s c d k e)
    inferInstanceAs (Decidable (if lastClient cfg s d = some c then
      (s.dev d).status ≠ .down ∧ (CommandRuns w k ∨ (w.system k).errno.getD e = .enodev) ∧
        HangsUp w cfg s rest (k + 1) (errnoBehind w cfg s c d k e)
      else HangsUp w cfg s rest k (errnoBehind w cfg s c d k e)))

/-- No hang-up fails while the sweep goes through the devices of its expired clients. -/
def HangsUpAlong (w : World) (cfg : Config) (cs : List CliPtr) (s : State) : Prop :=
  Visits (timeoutOldClient w cfg) (fun c s => Overdue cfg c s →
    Visits (removeClientFromDevice w cfg c) (fun d s => ¬ HangUpFails w c d s)
      s.gDevices (noteExpired w c s)) cs s

theorem launchResult_nonneg_iff : 0 ≤ launchResult w s ↔ CommandRuns w s.commands := by
  unfold launchResult CommandRuns
  split <;> rename_i h <;> simp [h]

-- ---------------------------------------------------------------------------
-- While no time passes
-- ---------------------------------------------------------------------------

section Frozen

variable (w : World) (cfg : Config) (c : CliPtr) (d : DevPtr) (s : State)

@[simp] theorem frozen_tick (k : Nat) : (frozen w).tick k = 0 := rfl

@[simp] theorem launchResult_frozen : launchResult (frozen w) s = launchResult w s := rfl

@[simp] theorem launchResult_advance (v : World) :
    launchResult w (advance v s) = launchResult w s := rfl

@[simp] theorem advance_frozen_clock : (advance (frozen w) s).clock = s.clock := by
  simp

@[simp] theorem commanded_frozen_clock (command : Command) :
    (commanded (frozen w) d command s).clock = s.clock := by
  rw [commanded_clock]
  split <;> simp

@[simp] theorem hungUp_frozen_clock : (hungUp (frozen w) d s).clock = s.clock := by
  unfold hungUp
  split <;> simp

@[simp] theorem commanded_commands (command : Command) :
    (commanded w d command s).commands = s.commands + 1 := by
  unfold commanded
  split <;> simp

/-- On a frozen clock, hanging up takes no time. -/
theorem disconnect_frozen_clock :
    (disconnectClientFromDevice (frozen w) cfg c d s).2.clock = s.clock := by
  rcases disconnectClientFromDevice_cases (frozen w) cfg c d s with ⟨-, hEq⟩ | ⟨-, -, hEq⟩ |
    ⟨-, -, hEq⟩ | ⟨-, -, -, hEq⟩ | ⟨-, -, -, hEq⟩ | ⟨-, -, -, hEq⟩ <;> rw [hEq] <;> simp

end Frozen

-- ---------------------------------------------------------------------------
-- Old clients
-- ---------------------------------------------------------------------------

/-- When the loop of `remove_client_from_all_devices` ends early. -/
theorem removeClientFromDevice_neg_iff (cfg : Config) :
    (removeClientFromDevice w cfg c d s).1 < 0 ↔ HangUpFails w c d s := by
  unfold removeClientFromDevice HangUpFails
  dsimp only
  have hLaunched : launchResult w s < 0 →
      (hungUp w d (s.setClientsConnected d [])).errno =
        (w.system s.commands).errno.getD s.errno := by
    intro h
    have hNotRun : launchResult w (s.setClientsConnected d []) ≠ 0 := by simpa using h.ne
    unfold hungUp commanded forcedDown
    split <;> rw [if_neg hNotRun] <;> simp
  rcases disconnectClientFromDevice_cases w cfg c d s with ⟨hc, hEq⟩ | ⟨-, hMore, hEq⟩ |
    ⟨hLast, hDown, hEq⟩ | ⟨hLast, hUp, hFail, hEq⟩ | ⟨-, hStatus, hRuns, hEq⟩ |
    ⟨-, hStatus, hRuns, hEq⟩ <;> rw [hEq]
  · have hNot : (s.dev d).clientsConnected ≠ [c] := by
      intro hLast
      rw [hLast] at hc
      exact hc (List.mem_singleton_self c)
    simp [hNot]
  · simp [hMore]
  · simp [hLast, hDown]
  · by_cases hIgnored : (w.system s.commands).errno.getD s.errno = .enodev <;>
      simp [hLast, hUp, hFail, hLaunched hFail, hIgnored]
  · have hNot : ¬ launchResult w s < 0 := Int.not_lt.mpr hRuns
    simp [hStatus, hNot]
  · have hNot : ¬ launchResult w s < 0 := Int.not_lt.mpr hRuns
    have hUp : (s.dev d).status ≠ .down := by
      rcases hStatus with hStatus | hStatus <;> simp [hStatus]
    simp [hUp, hNot]

/-- The loop of `remove_client_from_all_devices` comes to its end if no hang-up fails. -/
theorem removeClientFromAllDevices_nonneg_iff (cfg : Config) :
    0 ≤ (removeClientFromAllDevices w cfg c s).1 ↔
      Visits (removeClientFromDevice w cfg c) (fun d s => ¬ HangUpFails w c d s)
        s.gDevices s := by
  rw [removeClientFromAllDevices, untilFailure_nonneg_iff]
  exact visits_congr (fun d s => by rw [← removeClientFromDevice_neg_iff cfg, not_lt]) _ _

/-- Going through the devices of a client takes no time, and leaves what is known of all
clients but their devices. -/
theorem removeClientFromDevices_frozen (w : World) (cfg : Config) (c : CliPtr)
    (ds : List DevPtr) (s : State) :
    (untilFailure (removeClientFromDevice (frozen w) cfg c) ds s).2.clock = s.clock ∧
      ∀ x, ((untilFailure (removeClientFromDevice (frozen w) cfg c) ds s).2.cli x).lastHeardFrom =
        (s.cli x).lastHeardFrom :=
  untilFailure_invariant' (I := fun s' => s'.clock = s.clock ∧
      ∀ x, (s'.cli x).lastHeardFrom = (s.cli x).lastHeardFrom)
    (fun d _ s' h => by
      refine ⟨?_, fun x => ?_⟩
      · rw [removeClientFromDevice_snd, disconnect_frozen_clock, h.1]
      · rw [(touched_removeClientFromDevice (frozen w) cfg d s' c).heard x, h.2 x])
    s ⟨rfl, fun _ => rfl⟩

/-- Being overdue is a matter of the clock and of when the client was heard. -/
theorem overdue_congr (hClock : s'.clock = s.clock)
    (hHeard : ∀ x, (s'.cli x).lastHeardFrom = (s.cli x).lastHeardFrom) (x : CliPtr) :
    Overdue cfg x s' ↔ Overdue cfg x s := by
  rw [Overdue, Overdue, hClock, hHeard x]

/-- The state in which a client has been removed from all devices and from the list. -/
def removed (w : World) (cfg : Config) (c : CliPtr) (s : State) : State :=
  { (untilFailure (removeClientFromDevice (frozen w) cfg c) s.gDevices
      (noteExpired (frozen w) c s)).2 with gClients := s.gClients.erase c }

/-- Removing a client takes no time, -/
theorem removed_clock (w : World) (cfg : Config) (c : CliPtr) (s : State) :
    (removed w cfg c s).clock = s.clock :=
  (removeClientFromDevices_frozen w cfg c _ _).1.trans (advance_frozen_clock w s)

/-- and changes nobody's last contact. -/
theorem removed_heard (w : World) (cfg : Config) (c : CliPtr) (s : State) (x : CliPtr) :
    ((removed w cfg c s).cli x).lastHeardFrom = (s.cli x).lastHeardFrom :=
  (removeClientFromDevices_frozen w cfg c _ _).2 x

/-- A round of the sweep over the clients: the client has not expired, or a hang-up fails, and
the client is still in the list, or it is removed. -/
theorem timeoutOldClient_cases (w : World) (cfg : Config) (hMem : c ∈ s.gClients) :
    (¬ Overdue cfg c s ∧ timeoutOldClient (frozen w) cfg c s = (0, advance (frozen w) s)) ∨
    (Overdue cfg c s ∧ ¬ Visits (removeClientFromDevice (frozen w) cfg c)
        (fun d s => ¬ HangUpFails (frozen w) c d s) s.gDevices (noteExpired (frozen w) c s) ∧
      (timeoutOldClient (frozen w) cfg c s).1 < 0 ∧
      (timeoutOldClient (frozen w) cfg c s).2.gClients = s.gClients) ∨
    (Overdue cfg c s ∧ Visits (removeClientFromDevice (frozen w) cfg c)
        (fun d s => ¬ HangUpFails (frozen w) c d s) s.gDevices (noteExpired (frozen w) c s) ∧
      timeoutOldClient (frozen w) cfg c s = (0, removed w cfg c s)) := by
  have hNow : Overdue cfg c (advance (frozen w) s) ↔ Overdue cfg c s :=
    overdue_congr (advance_frozen_clock w s) (fun _ => rfl) c
  by_cases hOver : Overdue cfg c s
  · have hVisits : 0 ≤ (removeClientFromAllDevices (frozen w) cfg c
          (noteExpired (frozen w) c s)).1 ↔
        Visits (removeClientFromDevice (frozen w) cfg c)
          (fun d s => ¬ HangUpFails (frozen w) c d s) s.gDevices (noteExpired (frozen w) c s) :=
      removeClientFromAllDevices_nonneg_iff cfg
    have hClients : (removeClientFromAllDevices (frozen w) cfg c
        (noteExpired (frozen w) c s)).2.gClients = s.gClients :=
      (removeClientFromDevices_globals (frozen w) cfg c _ _).2
    rw [timeoutOldClient_of_overdue (frozen w) cfg (hNow.mpr hOver)]
    rcases unlessFails_cases (removeClientFromAllDevices (frozen w) cfg c
      (noteExpired (frozen w) c s)) (dropClient c) with ⟨hFail, hEq⟩ | ⟨hRet, hEq⟩ <;> rw [hEq]
    · exact Or.inr (Or.inl ⟨hOver, mt hVisits.mpr (Int.not_le.mpr hFail), by simp, hClients⟩)
    · refine Or.inr (Or.inr ⟨hOver, hVisits.mp hRet, ?_⟩)
      rw [dropClient_of_mem (hClients ▸ hMem), hClients]
      rfl
  · exact Or.inl ⟨hOver, timeoutOldClient_of_not_overdue (frozen w) cfg (mt hNow.mp hOver)⟩

/-- **The sweep over the clients**, from any place in the list on. -/
theorem timeoutOldClients_from (w : World) (cfg : Config) :
    ∀ {cs : List CliPtr} {s : State}, cs.Nodup → s.gClients.Nodup → (∀ c ∈ cs, c ∈ s.gClients) →
      ((untilFailure (timeoutOldClient (frozen w) cfg) cs s).2.gClients =
          s.gClients.filter (fun c => ¬ (c ∈ cs ∧ Overdue cfg c s)) ↔
        HangsUpAlong (frozen w) cfg cs s) := by
  intro cs
  induction cs with
  | nil => exact fun _ _ _ => iff_of_true (by simp [untilFailure]) trivial
  | cons c rest ih =>
    intro s hNodup hListed hMem
    obtain ⟨hc, hRest⟩ := List.nodup_cons.mp hNodup
    have hIn := hMem c (List.mem_cons_self ..)
    have hLater : ∀ x ∈ rest, x ∈ s.gClients := fun x hx => hMem x (List.mem_cons_of_mem _ hx)
    rw [untilFailure, HangsUpAlong, Visits]
    rcases timeoutOldClient_cases w cfg hIn with ⟨hOver, hEq⟩ | ⟨hOver, hNot, hFail, hSame⟩ |
      ⟨hOver, hVisits, hEq⟩
    · have hSame : ∀ x, Overdue cfg x (advance (frozen w) s) ↔ Overdue cfg x s :=
        overdue_congr (advance_frozen_clock w s) fun _ => rfl
      have hFilter : s.gClients.filter (fun x => ¬ (x ∈ c :: rest ∧ Overdue cfg x s)) =
          (advance (frozen w) s).gClients.filter
            fun x => ¬ (x ∈ rest ∧ Overdue cfg x (advance (frozen w) s)) := by
        refine List.filter_congr fun x _ => ?_
        by_cases hxc : x = c
        · simp [hxc, hOver, hSame c]
        · simp [hxc, hSame x]
      rw [hEq, unlessFails_of_nonneg le_rfl, hFilter, forall_prop_of_true le_rfl,
        and_iff_right fun h => absurd h hOver]
      exact ih hRest hListed hLater
    · -- the sweep ends here, and the client is still in the list
      rw [unlessFails_of_neg hFail]
      refine iff_of_false (fun hLeft => ?_) fun h => hNot (h.1 hOver)
      rw [hSame] at hLeft
      rw [hLeft] at hIn
      simp [hOver] at hIn
    · have hLeft : (removed w cfg c s).gClients = s.gClients.filter (· ≠ c) := by
        show s.gClients.erase c = _
        rw [hListed.erase_eq_filter]
        exact List.filter_congr fun x _ => by by_cases hxc : x = c <;> simp [hxc]
      have hSame : ∀ x, Overdue cfg x (removed w cfg c s) ↔ Overdue cfg x s :=
        overdue_congr (removed_clock w cfg c s) (removed_heard w cfg c s)
      have hFilter : s.gClients.filter (fun x => ¬ (x ∈ c :: rest ∧ Overdue cfg x s)) =
          (removed w cfg c s).gClients.filter
            fun x => ¬ (x ∈ rest ∧ Overdue cfg x (removed w cfg c s)) := by
        rw [hLeft, List.filter_filter]
        refine List.filter_congr fun x _ => ?_
        by_cases hxc : x = c
        · simp [hxc, hOver]
        · simp [hxc, hSame x]
      rw [hEq, unlessFails_of_nonneg le_rfl, hFilter, forall_prop_of_true le_rfl,
        and_iff_right fun _ => hVisits]
      refine ih hRest (hListed.erase c) fun x hx => ?_
      exact (List.mem_erase_of_ne fun hxc : x = c => hc (hxc ▸ hx)).mpr (hLater x hx)

-- ---------------------------------------------------------------------------
-- One client and one device
-- ---------------------------------------------------------------------------

/-- A client that does not list the device leaves `ENODEV` behind. -/
theorem forgetDevice_errno (d : DevPtr) (c : CliPtr) (s : State) :
    (forgetDevice d c s).2.errno =
      if d ∈ (s.cli c).devicesConnected then s.errno else .enodev := by
  unfold forgetDevice rmDevice
  rw [rmCell_eq]
  by_cases hd : d ∈ (s.cli c).devicesConnected <;> simp [hd]

@[simp] theorem forgetDevice_commands (d : DevPtr) (c : CliPtr) (s : State) :
    (forgetDevice d c s).2.commands = s.commands := by
  obtain ⟨e, h⟩ := forgetDevice_eq d c s
  rw [h]

@[simp] theorem hungUp_commands (w : World) (d : DevPtr) (s : State) :
    (hungUp w d s).commands = s.commands + 1 := by
  unfold hungUp
  split <;> simp

/-- The client goes from the list of the device; and while there are clients left, nothing else
changes but the list of the client. -/
theorem disconnect_left (w : World) (cfg : Config) (c : CliPtr) (d : DevPtr) (s : State) :
    ((disconnectClientFromDevice w cfg c d s).2.dev d).clientsConnected =
        (s.dev d).clientsConnected.erase c ∧
      (((disconnectClientFromDevice w cfg c d s).2.dev d).clientsConnected ≠ [] →
        ((disconnectClientFromDevice w cfg c d s).2.dev d).status = (s.dev d).status ∧
        ∀ x, x ≠ c → (disconnectClientFromDevice w cfg c d s).2.cli x = s.cli x) := by
  have hEmpty : ∀ {s' : State}, Touched d (s.setClientsConnected d []) s' →
      (s'.dev d).clientsConnected = [] := fun ht =>
    List.eq_nil_of_sublist_nil (by simpa using ht.clients)
  have hLastLeft : ∀ {s' : State}, (s.dev d).clientsConnected = [c] →
      (s'.dev d).clientsConnected = [] →
      (s'.dev d).clientsConnected = (s.dev d).clientsConnected.erase c ∧
      ((s'.dev d).clientsConnected ≠ [] → (s'.dev d).status = (s.dev d).status ∧
        ∀ x, x ≠ c → s'.cli x = s.cli x) := by
    intro s' hLast hNil
    exact ⟨by rw [hNil, hLast]; simp, fun h => absurd hNil h⟩
  have hHungUp := touched_hungUp w d (s.setClientsConnected d [])
  rcases disconnectClientFromDevice_cases w cfg c d s with ⟨hc, hEq⟩ | ⟨-, -, hEq⟩ |
    ⟨hLast, -, hEq⟩ | ⟨hLast, -, -, hEq⟩ | ⟨hLast, -, -, hEq⟩ | ⟨hLast, -, -, hEq⟩ <;> rw [hEq]
  · refine ⟨by simp [List.erase_of_not_mem hc], fun _ => ⟨by simp, fun x hx => ?_⟩⟩
    rw [forgetDevice_cli, Function.update_of_ne hx]
    rfl
  · refine ⟨by simp, fun _ => ⟨by simp, fun x hx => ?_⟩⟩
    rw [forgetDevice_cli, Function.update_of_ne hx]
    rfl
  · exact hLastLeft hLast (by simp)
  · exact hLastLeft hLast (hEmpty hHungUp)
  · refine hLastLeft hLast (hEmpty ?_)
    exact ((touched_forcedDown w d _).trans (touched_setStatus d _ _)).trans
      (touched_forgetDevice d _ c)
  · refine hLastLeft hLast (hEmpty ?_)
    exact (hHungUp.trans (touched_setStatus d _ _)).trans (touched_forgetDevice d _ c)

theorem launchResult_eq_zero_iff : launchResult w s = 0 ↔ (w.system s.commands).result = 0 := by
  unfold launchResult
  split <;> rename_i h <;> simp [h]

/-- A command leaves its own `errno`, if it sets one. -/
theorem commanded_errno (w : World) (d : DevPtr) (command : Command) (s : State) :
    (commanded w d command s).errno = (w.system s.commands).errno.getD s.errno := by
  unfold commanded
  split <;> rfl

/-- So does a force-down that does not wipe the device. -/
theorem forcedDown_errno (d : DevPtr) (h : launchResult w s ≠ 0) :
    (forcedDown w d s).errno = (w.system s.commands).errno.getD s.errno := by
  unfold forcedDown
  rw [if_neg h]
  rfl

/-- So does a hang-up. -/
theorem hungUp_errno (d : DevPtr) (h : launchResult w s ≠ 0) :
    (hungUp w d s).errno = (w.system s.commands).errno.getD s.errno := by
  unfold hungUp
  split
  · exact commanded_errno w d .linkDown s
  · exact forcedDown_errno d h

/-- A force-down that has worked has the client forget the device, so that it does not list it
any more when it is to forget it. -/
theorem forget_forcedDown_errno (d : DevPtr) (new : DeviceStatus) (hc : c ∈ s.gClients)
    (hClients : s.gClients.Nodup) (hDevices : (s.cli c).devicesConnected.Nodup) :
    (forgetDevice d c ((forcedDown w d s).setStatus d new)).2.errno =
      if d ∉ (s.cli c).devicesConnected ∨ (w.system s.commands).result = 0 then .enodev
      else (w.system s.commands).errno.getD s.errno := by
  rw [forgetDevice_errno, State.setStatus_cli, State.setStatus_errno,
    forcedDown_cli w d s hClients hc]
  by_cases hZero : launchResult w s = 0
  · rw [if_pos hZero, if_neg hDevices.not_mem_erase,
      if_pos (Or.inr (launchResult_eq_zero_iff.mp hZero))]
  · have hResult : (w.system s.commands).result ≠ 0 := mt launchResult_eq_zero_iff.mpr hZero
    rw [if_neg hZero, forcedDown_errno d hZero]
    by_cases hd : d ∈ (s.cli c).devicesConnected <;> simp [hd, hResult]

/-- How many commands are run, and what `errno` is then, unless the sweep ends here. -/
theorem removeClientFromDevice_errno (hc : c ∈ s.gClients) (hClients : s.gClients.Nodup)
    (hDevices : (s.cli c).devicesConnected.Nodup)
    (hRet : 0 ≤ (removeClientFromDevice w cfg c d s).1) :
    (removeClientFromDevice w cfg c d s).2.commands =
        (if (s.dev d).clientsConnected = [c] then s.commands + 1 else s.commands) ∧
      (removeClientFromDevice w cfg c d s).2.errno =
        if c ∉ (s.dev d).clientsConnected ∨ d ∉ (s.cli c).devicesConnected then .enodev
        else if (s.dev d).clientsConnected ≠ [c] then s.errno
        else if (w.system s.commands).result = 0 ∧ (s.dev d).status ≠ .up then .enodev
        else (w.system s.commands).errno.getD s.errno := by
  have hNot : ¬ HangUpFails w c d s := by
    rw [← removeClientFromDevice_neg_iff cfg]
    exact Int.not_lt.mpr hRet
  rw [removeClientFromDevice_snd]
  have hForced := fun new => forget_forcedDown_errno (w := w) (s := s.setClientsConnected d []) d
    new hc hClients hDevices
  have hMem : ∀ {l : List CliPtr}, l = [c] → c ∈ l := fun hLast => hLast ▸ List.mem_singleton_self c
  rcases disconnectClientFromDevice_cases w cfg c d s with ⟨hNone, hEq⟩ | ⟨hOne, hMore, hEq⟩ |
    ⟨hLast, hDown, -⟩ | ⟨hLast, hUp, hFail, hEq⟩ | ⟨hLast, hSt, -, hEq⟩ |
    ⟨hLast, hSt, -, hEq⟩
  · rw [hEq, if_neg (fun hLast => hNone (hMem hLast)), if_pos (Or.inl hNone), forgetDevice_errno]
    exact ⟨by simp, by simp⟩
  · rw [hEq, if_neg hMore, if_pos hMore, forgetDevice_errno]
    refine ⟨by simp, ?_⟩
    by_cases hd : d ∈ (s.cli c).devicesConnected <;> simp [hOne, hd]
  · exact absurd ⟨hLast, Or.inl hDown⟩ hNot
  · have hIgnored : (w.system s.commands).errno.getD s.errno = .enodev := by
      by_contra hErrno
      exact hNot ⟨hLast, Or.inr ⟨hFail, hErrno⟩⟩
    rw [hEq, if_pos hLast]
    refine ⟨by simp, ?_⟩
    rw [hungUp_errno d (by simpa using hFail.ne)]
    simp [hIgnored, hLast]
  · rw [hEq, if_pos hLast]
    refine ⟨by simp, ?_⟩
    rw [hForced, if_neg (not_not.mpr hLast)]
    by_cases hd : d ∈ (s.cli c).devicesConnected <;> simp [hMem hLast, hSt, hd]
  · rw [hEq, if_pos hLast]
    refine ⟨by simp, ?_⟩
    rw [if_neg (not_not.mpr hLast)]
    rcases hSt with hSt | hSt
    · have hCommand : hungUp w d (s.setClientsConnected d []) =
          forcedDown w d (s.setClientsConnected d []) := by simp [hungUp, hSt]
      rw [hCommand, hForced]
      by_cases hd : d ∈ (s.cli c).devicesConnected <;> simp [hMem hLast, hSt, hd]
    · have hCommand : hungUp w d (s.setClientsConnected d []) =
          commanded w d .linkDown (s.setClientsConnected d []) := by simp [hungUp, hSt]
      rw [hCommand, forgetDevice_errno]
      by_cases hd : d ∈ (s.cli c).devicesConnected <;>
        simp [hMem hLast, hSt, hd, commanded_errno]

-- ---------------------------------------------------------------------------
-- From the state in which the sweep begins
-- ---------------------------------------------------------------------------

/-- What the sweep that began in `s` has left when it has gone through the expiries `past`: the
devices have lost these clients, and a device that has clients left, and what these know of it,
is as it was. -/
structure Swept (past : List (CliPtr × DevPtr)) (s s' : State) : Prop where
  gDevices : s'.gDevices = s.gDevices
  clients : ∀ d ∈ s.gDevices, (s'.dev d).clientsConnected =
    (s.dev d).clientsConnected.filter fun x => (x, d) ∉ past
  status : ∀ d, (s'.dev d).clientsConnected ≠ [] → (s'.dev d).status = (s.dev d).status
  devices : ∀ d, ∀ x ∈ (s'.dev d).clientsConnected,
    (d ∈ (s'.cli x).devicesConnected ↔ d ∈ (s.cli x).devicesConnected)
  sublist : ∀ x, (s'.cli x).devicesConnected.Sublist (s.cli x).devicesConnected

/-- Nothing has been gone through yet. -/
theorem Swept.start (s : State) : Swept [] s s where
  gDevices := rfl
  clients d _ := by simp
  status _ _ := rfl
  devices _ _ _ := Iff.rfl
  sublist _ := List.Sublist.refl _

/-- The expiries are the overdue clients with every device. -/
theorem mem_expiries {cs : List CliPtr} : (c, d) ∈ expiries cfg s cs ↔
    (c ∈ cs ∧ Overdue cfg c s) ∧ d ∈ s.gDevices := by
  simp [expiries]

/-- The client is the one that the device is hung up for exactly if all other clients of the
device have expired before it in the list. -/
theorem lastClient_eq_some_iff (h : WellFormed s) (hd : d ∈ s.gDevices)
    {before behind : List CliPtr} (hSplit : s.gClients = before ++ c :: behind)
    (hc : Overdue cfg c s) :
    lastClient cfg s d = some c ↔ c ∈ (s.dev d).clientsConnected ∧
      ∀ x ∈ (s.dev d).clientsConnected, x = c ∨ x ∈ before ∧ Overdue cfg x s := by
  have hNodup := h.clients_nodup
  rw [hSplit, List.nodup_middle, List.nodup_cons, List.mem_append] at hNodup
  obtain ⟨hNot, hApart⟩ := hNodup
  have hKnown : ∀ x ∈ (s.dev d).clientsConnected, x ∈ before ∨ x = c ∨ x ∈ behind := by
    intro x hx
    have hMem := h.clientsKnown d hd x hx
    rwa [hSplit, List.mem_append, List.mem_cons] at hMem
  unfold lastClient
  rw [hSplit]
  constructor
  · intro hLast
    split at hLast
    · rename_i hAll
      have hMem : c ∈ (s.dev d).clientsConnected :=
        of_decide_eq_true (List.mem_filter.mp (List.mem_of_getLast? hLast)).2
      refine ⟨hMem, fun x hx => ?_⟩
      rcases hKnown x hx with hBefore | rfl | hBehind
      · exact Or.inr ⟨hBefore, hAll x hx⟩
      · exact Or.inl rfl
      · -- the last one would come behind
        have hNotNil : behind.filter (· ∈ (s.dev d).clientsConnected) ≠ [] :=
          List.ne_nil_of_mem (List.mem_filter.mpr ⟨hBehind, decide_eq_true hx⟩)
        rw [List.append_cons, List.filter_append, List.getLast?_append_of_ne_nil _ hNotNil] at hLast
        have hIn := (List.mem_filter.mp (List.mem_of_getLast? hLast)).1
        exact absurd (Or.inr hIn) hNot
    · exact absurd hLast (by simp)
  · intro hBoth
    obtain ⟨hMem, hOthers⟩ := hBoth
    have hAll : ∀ x ∈ (s.dev d).clientsConnected, Overdue cfg x s := by
      intro x hx
      rcases hOthers x hx with rfl | hBefore
      · exact hc
      · exact hBefore.2
    have hNone : behind.filter (· ∈ (s.dev d).clientsConnected) = [] := by
      rw [List.filter_eq_nil_iff]
      intro x hx hIn
      rcases hOthers x (of_decide_eq_true hIn) with rfl | hBefore
      · exact hNot (Or.inr hx)
      · exact (List.nodup_append.mp hApart).2.2 x hBefore.1 x hx rfl
    have hHere : (c :: behind).filter (· ∈ (s.dev d).clientsConnected) = [c] := by
      rw [List.filter_cons_of_pos (by exact decide_eq_true hMem), hNone]
    rw [if_pos hAll, List.filter_append, hHere]
    exact List.getLast?_concat

namespace Swept

variable {past : List (CliPtr × DevPtr)}

/-- One more expiry: its client is gone from its device, and the other devices are left alone.
-/
theorem round (h : Swept past s s') (hWF : WellFormed s) (w : World) (cfg : Config) (c : CliPtr)
    (hd : d ∈ s.gDevices) :
    Swept (past ++ [(c, d)]) s (removeClientFromDevice w cfg c d s').2 := by
  have ht := touched_removeClientFromDevice w cfg d s' c
  obtain ⟨hErase, hSame⟩ := disconnect_left w cfg c d s'
  rw [← removeClientFromDevice_snd] at hErase hSame
  have hNodup : (s'.dev d).clientsConnected.Nodup := by
    rw [h.clients d hd]
    exact (hWF.clientsNodup d hd).filter _
  refine ⟨ht.gDevices.trans h.gDevices, fun d' hd' => ?_, fun d' hd' => ?_, fun d' x hx => ?_,
    fun x => (ht.devices x).trans (h.sublist x)⟩
  · rcases eq_or_ne d' d with rfl | hOther
    · rw [hErase, hNodup.erase_eq_filter, h.clients d' hd', List.filter_filter]
      exact List.filter_congr fun x _ => by by_cases hxc : x = c <;> simp [hxc]
    · rw [ht.other d' hOther, h.clients d' hd']
      exact List.filter_congr fun x _ => by simp [hOther]
  · rcases eq_or_ne d' d with rfl | hOther
    · rw [(hSame hd').1]
      refine h.status d' fun hNil => hd' ?_
      rw [hErase, hNil]
      rfl
    · rw [ht.other d' hOther] at hd' ⊢
      exact h.status d' hd'
  · rcases eq_or_ne d' d with rfl | hOther
    · rw [hErase] at hSame hx
      obtain ⟨hxc, hx⟩ := hNodup.mem_erase_iff.mp hx
      rw [(hSame (List.ne_nil_of_mem (hNodup.mem_erase_iff.mpr ⟨hxc, hx⟩))).2 x hxc]
      exact h.devices d' x hx
    · rw [ht.other d' hOther] at hx
      rw [ht.mem_devices hOther]
      exact h.devices d' x hx

/-- The device has no other client left exactly if the client is the one it is hung up for. -/
theorem last_iff (h : Swept past s s') (hWF : WellFormed s) (hd : d ∈ s.gDevices)
    {before behind : List CliPtr} (hSplit : s.gClients = before ++ c :: behind)
    (hc : Overdue cfg c s) (hPast : ∀ x, (x, d) ∈ past ↔ x ∈ before ∧ Overdue cfg x s) :
    (s'.dev d).clientsConnected = [c] ↔ lastClient cfg s d = some c := by
  have hNodup := hWF.clients_nodup
  rw [hSplit, List.nodup_middle, List.nodup_cons, List.mem_append] at hNodup
  have hNot : (c, d) ∉ past := fun hIn => hNodup.1 (Or.inl ((hPast c).mp hIn).1)
  rw [h.clients d hd, lastClient_eq_some_iff hWF hd hSplit hc, ← List.perm_singleton,
    List.perm_ext_iff_of_nodup ((hWF.clientsNodup d hd).filter _) (List.nodup_singleton c)]
  simp only [List.mem_filter, List.mem_singleton, decide_eq_true_eq]
  constructor
  · intro hAll
    refine ⟨((hAll c).mpr rfl).1, fun x hx => ?_⟩
    by_cases hIn : (x, d) ∈ past
    · exact Or.inr ((hPast x).mp hIn)
    · exact Or.inl ((hAll x).mp ⟨hx, hIn⟩)
  · intro hBoth x
    obtain ⟨hMem, hOthers⟩ := hBoth
    constructor
    · intro hx
      exact (hOthers x hx.1).resolve_right fun hIn => hx.2 ((hPast x).mpr hIn)
    · rintro rfl
      exact ⟨hMem, hNot⟩

/-- One round, in terms of the state in which the sweep began. -/
theorem hangsUp_cons_iff (h : Swept past s s') (rest : List (CliPtr × DevPtr)) (hd : d ∈ s.gDevices)
    (hNew : (c, d) ∉ past) (hc : c ∈ s'.gClients) (hClients : s'.gClients.Nodup)
    (hDevices : (s'.cli c).devicesConnected.Nodup)
    (hLast : (s'.dev d).clientsConnected = [c] ↔ lastClient cfg s d = some c) :
    HangsUp w cfg s ((c, d) :: rest) s'.commands s'.errno ↔ ¬ HangUpFails w c d s' ∧
      HangsUp w cfg s rest (removeClientFromDevice w cfg c d s').2.commands
        (removeClientFromDevice w cfg c d s').2.errno := by
  have hStatus : lastClient cfg s d = some c → (s'.dev d).status = (s.dev d).status := by
    intro hSome
    refine h.status d ?_
    rw [hLast.mpr hSome]
    exact List.cons_ne_nil _ _
  have hFails : HangUpFails w c d s' ↔ lastClient cfg s d = some c ∧ ¬ ((s.dev d).status ≠ .down ∧
      (CommandRuns w s'.commands ∨ (w.system s'.commands).errno.getD s'.errno = .enodev)) := by
    unfold HangUpFails
    rw [hLast, ← launchResult_nonneg_iff]
    refine and_congr_right fun hSome => ?_
    rw [hStatus hSome, not_and_or, not_not, not_or, not_le]
  by_cases hEnds : HangUpFails w c d s'
  · obtain ⟨hSome, hBad⟩ := hFails.mp hEnds
    rw [HangsUp, if_pos hSome]
    exact iff_of_false (fun hAll => hBad ⟨hAll.1, hAll.2.1⟩) fun hBoth => hBoth.1 hEnds
  · have hRet : 0 ≤ (removeClientFromDevice w cfg c d s').1 := by
      rw [← not_lt, removeClientFromDevice_neg_iff]
      exact hEnds
    obtain ⟨hCommands, hErrno⟩ := removeClientFromDevice_errno hc hClients hDevices hRet
    have hMem : c ∈ (s'.dev d).clientsConnected ↔ c ∈ (s.dev d).clientsConnected := by
      simp [h.clients d hd, hNew]
    have hBehind : (removeClientFromDevice w cfg c d s').2.errno =
        errnoBehind w cfg s c d s'.commands s'.errno := by
      rw [hErrno]
      unfold errnoBehind
      by_cases hIn : c ∈ (s'.dev d).clientsConnected
      · have hKnown := h.devices d c hIn
        by_cases hSome : lastClient cfg s d = some c
        · simp [hKnown, hMem.mp hIn, hStatus hSome, hLast.mpr hSome, hSome]
        · have hMore : (s'.dev d).clientsConnected ≠ [c] := fun hEq => hSome (hLast.mp hEq)
          simp [hKnown, hIn, hMem.mp hIn, hMore, hSome]
      · simp [hIn, ← hMem]
    rw [and_iff_right hEnds, HangsUp, hBehind, hCommands]
    by_cases hSome : lastClient cfg s d = some c
    · have hGood := not_not.mp fun hBad => hEnds (hFails.mpr ⟨hSome, hBad⟩)
      rw [if_pos hSome, if_pos (hLast.mpr hSome), and_iff_right hGood.1, and_iff_right hGood.2]
    · rw [if_neg hSome, if_neg fun hEq => hSome (hLast.mp hEq)]

end Swept

-- ---------------------------------------------------------------------------
-- The whole sweep
-- ---------------------------------------------------------------------------

section Sweep

variable {before behind : List CliPtr}

/-- The devices of one expired client. -/
theorem visits_iff_hangsUp (rest : List (CliPtr × DevPtr)) (hWF : WellFormed s)
    (hSplit : s.gClients = before ++ c :: behind) (hc : Overdue cfg c s) :
    ∀ {ds seen : List DevPtr} {t : State}, s.gDevices = seen ++ ds →
      Swept (expiries cfg s before ++ seen.map (c, ·)) s t → c ∈ t.gClients → t.gClients.Nodup →
      (Visits (removeClientFromDevice w cfg c) (fun d s => ¬ HangUpFails w c d s) ds t ∧
          HangsUp w cfg s rest (untilFailure (removeClientFromDevice w cfg c) ds t).2.commands
            (untilFailure (removeClientFromDevice w cfg c) ds t).2.errno ↔
        HangsUp w cfg s (ds.map (c, ·) ++ rest) t.commands t.errno) ∧
      (Visits (removeClientFromDevice w cfg c) (fun d s => ¬ HangUpFails w c d s) ds t →
        Swept (expiries cfg s before ++ s.gDevices.map (c, ·)) s
          (untilFailure (removeClientFromDevice w cfg c) ds t).2) := by
  intro ds
  induction ds with
  | nil =>
    intro seen s' hDevices h _ _
    rw [List.append_nil] at hDevices
    rw [hDevices]
    exact ⟨and_iff_right trivial, fun _ => h⟩
  | cons d ds ih =>
    intro seen s' hDevices h hMem hClients
    have hd : d ∈ s.gDevices := by simp [hDevices]
    have hNodup := hWF.names.of_map _
    have hNodupClients := hWF.clients_nodup
    rw [hSplit, List.nodup_middle, List.nodup_cons, List.mem_append, not_or] at hNodupClients
    rw [hDevices, List.nodup_middle, List.nodup_cons, List.mem_append, not_or] at hNodup
    have hPast : ∀ x, (x, d) ∈ expiries cfg s before ++ seen.map (c, ·) ↔
        x ∈ before ∧ Overdue cfg x s := by
      intro x
      rw [List.mem_append, mem_expiries]
      simp [hd, hNodup.1.1]
    have hNew : (c, d) ∉ expiries cfg s before ++ seen.map (c, ·) := fun hIn =>
      hNodupClients.1.1 ((hPast c).mp hIn).1
    have hListed : c ∈ s.gClients := by simp [hSplit]
    have hOwn := (hWF.devicesNodup c hListed).sublist (h.sublist c)
    have hCons := h.hangsUp_cons_iff (w := w) (ds.map (c, ·) ++ rest) hd hNew hMem hClients
      hOwn (h.last_iff hWF hd hSplit hc hPast)
    have ht := touched_removeClientFromDevice w cfg d s' c
    have hRound := h.round hWF w cfg c hd
    rw [List.append_assoc, show seen.map (c, ·) ++ [(c, d)] = (seen ++ [d]).map (c, ·) by simp]
      at hRound
    have hNext := ih (by simp [hDevices]) hRound (ht.gClients ▸ hMem) (ht.gClients ▸ hClients)
    rw [List.map_cons, List.cons_append, hCons, Visits, untilFailure]
    rcases unlessFails_cases (removeClientFromDevice w cfg c d s')
      (untilFailure (removeClientFromDevice w cfg c) ds) with ⟨hFail, hEq⟩ | ⟨hRet, hEq⟩ <;>
      rw [hEq]
    · have hEnds := (removeClientFromDevice_neg_iff cfg).mp hFail
      exact ⟨iff_of_false (fun hAll => hAll.1.1 hEnds) fun hBoth => hBoth.1 hEnds,
        fun hAll => absurd hEnds hAll.1⟩
    · have hGoesOn : ¬ HangUpFails w c d s' := by
        rw [← removeClientFromDevice_neg_iff cfg, not_lt]
        exact hRet
      rw [and_iff_right hGoesOn, and_iff_right hGoesOn, forall_prop_of_true hRet]
      exact hNext

/-- A sweep in terms of the state in which it begins, from any place in the list on. -/
theorem hangsUpAlong_from (hWF : WellFormed s) (w : World) (cfg : Config) :
    ∀ {cs before : List CliPtr} {t : State}, s.gClients = before ++ cs →
      Swept (expiries cfg s before) s t → (∀ x ∈ cs, x ∈ t.gClients) → t.gClients.Nodup →
      t.clock = s.clock → (∀ x, (t.cli x).lastHeardFrom = (s.cli x).lastHeardFrom) →
      (HangsUpAlong (frozen w) cfg cs t ↔
        HangsUp (frozen w) cfg s (expiries cfg s cs) t.commands t.errno) := by
  intro cs
  induction cs with
  | nil => exact fun _ _ _ _ _ _ => iff_of_true trivial trivial
  | cons c cs ih =>
    intro before s' hSplit h hMem hClients hClock hHeard
    have hOver : Overdue cfg c s' ↔ Overdue cfg c s := overdue_congr hClock hHeard c
    have hDrops : ∀ x ∈ cs, x ≠ c := by
      have hNodup := hWF.clients_nodup
      rw [hSplit, List.nodup_append, List.nodup_cons] at hNodup
      exact fun x hx hEq => hNodup.2.1.1 (hEq ▸ hx)
    have hFurther : s.gClients = (before ++ [c]) ++ cs := by rw [hSplit, List.append_cons]
    have hIn := hMem c (List.mem_cons_self ..)
    have hLater : ∀ x ∈ cs, x ∈ s'.gClients := fun x hx => hMem x (List.mem_cons_of_mem _ hx)
    -- what the rounds for the devices of an expired client come to
    have hDevices : Overdue cfg c s → _ := fun hExpired =>
      visits_iff_hangsUp (w := frozen w) (expiries cfg s cs) (t := noteExpired (frozen w) c s') hWF
        hSplit hExpired (List.nil_append _).symm
        (by rw [List.map_nil, List.append_nil]; exact { h with }) hIn hClients
    have hHere : Overdue cfg c s → expiries cfg s (c :: cs) =
        s.gDevices.map (c, ·) ++ expiries cfg s cs := fun hExpired => by simp [expiries, hExpired]
    rw [HangsUpAlong, Visits]
    rcases timeoutOldClient_cases w cfg hIn with ⟨hNot, hEq⟩ | ⟨hExpired, hFails, hRet, -⟩ |
      ⟨hExpired, hVisits, hEq⟩
    · have hNone : expiries cfg s (c :: cs) = expiries cfg s cs := by
        simp [expiries, mt hOver.mpr hNot]
      have hBefore : expiries cfg s (before ++ [c]) = expiries cfg s before := by
        simp [expiries, mt hOver.mpr hNot]
      rw [hEq, hNone, and_iff_right fun h' => absurd h' hNot, forall_prop_of_true le_rfl]
      exact ih hFurther (hBefore ▸ { h with }) hLater hClients
        ((advance_frozen_clock w s').trans hClock) hHeard
    · obtain ⟨hRounds, -⟩ := hDevices (hOver.mp hExpired)
      rw [h.gDevices] at hFails ⊢
      rw [hHere (hOver.mp hExpired)]
      exact iff_of_false (fun hAll => hFails (hAll.1 hExpired))
        fun hUp => hFails (hRounds.mpr hUp).1
    · obtain ⟨hRounds, hLeft⟩ := hDevices (hOver.mp hExpired)
      have hBefore : expiries cfg s (before ++ [c]) =
          expiries cfg s before ++ s.gDevices.map (c, ·) := by
        simp [expiries, hOver.mp hExpired]
      rw [hEq, hHere (hOver.mp hExpired), and_iff_right fun _ => hVisits,
        forall_prop_of_true le_rfl]
      rw [h.gDevices] at hVisits
      rw [and_iff_right hVisits] at hRounds
      have hNext := ih (t := removed w cfg c s') hFurther ?_ (fun x hx => ?_) (hClients.erase c)
        ((removed_clock w cfg c s').trans hClock)
        (fun x => (removed_heard w cfg c s' x).trans (hHeard x))
      · refine hNext.trans ?_
        unfold removed
        rw [h.gDevices]
        exact hRounds
      · rw [hBefore, removed, h.gDevices]
        exact { hLeft hVisits with }
      · exact (List.mem_erase_of_ne (hDrops x hx)).mpr (hLater x hx)

/-- Time does not come into it. -/
theorem hangsUp_frozen (w : World) (cfg : Config) (s : State) (l : List (CliPtr × DevPtr)) (k : Nat)
    (e : Errno) : HangsUp (frozen w) cfg s l k e ↔ HangsUp w cfg s l k e := by
  induction l generalizing k e with
  | nil => rfl
  | cons x l ih =>
    rw [HangsUp, HangsUp]
    split
    · exact and_congr_right fun _ => and_congr_right fun _ => ih _ _
    · exact ih _ _

/-- **The hang-ups of a sweep**, in terms of the state in which it begins. -/
theorem hangsUpAlong_iff (h : WellFormed s) (w : World) (cfg : Config) :
    HangsUpAlong (frozen w) cfg s.gClients s ↔
      HangsUp w cfg s (expiries cfg s s.gClients) s.commands s.errno := by
  rw [← hangsUp_frozen]
  exact hangsUpAlong_from h w cfg (List.nil_append _).symm (Swept.start s) (fun _ hx => hx)
    h.clients_nodup rfl fun _ => rfl

end Sweep

end LinkControl
