import LinkControl.Server.MainLoop
import LinkControl.Server.Stranded
import LinkControl.Server.Mirror
import Mathlib.Algebra.Order.BigOperators.Group.List

/-!
# Link server — abandoned links come down

`timeout_old_clients` is there for clients that go away without a word: "a failsafe in case
somebody closes down their computer without closing the link properly". A link that stays up for
nobody costs money, so the failsafe has to work, whatever state the clients have left the
server in.

`abandoned_links_come_down` follows the main loop from the moment on when all its clients are
overdue. A sweep that meets a stranded client (`Strands`) breaks off, and the clients behind
that one have to wait; but the stranded client is off its device then. So each sweep brings down
what is `recorded`, and after as many turns as there are records nobody is known any more. Each
device is down then or hanging up (`Tended`), and hanging up does not take longer than the
disconnect timeout.
-/

namespace LinkControl

open ReturnCode

variable {w : World} {cfg : Config} {group : Option SockAddr} {e : Event} {c : CliPtr}
  {d : DevPtr} {s s' s'' : State}

/-- Every command can be run. -/
def Launches (w : World) : Prop := ∀ s, 0 ≤ launchResult w s

-- ---------------------------------------------------------------------------
-- Links that are up are up for somebody
-- ---------------------------------------------------------------------------

/-- A device that is up, or is being dialled, has clients, and the connect time of a device that
is not down lies in the past. -/
structure Tended (d : DevPtr) (s : State) : Prop where
  clients : (s.dev d).status = .connecting ∨ (s.dev d).status = .up →
    (s.dev d).clientsConnected ≠ []
  timed : (s.dev d).status ≠ .down → (s.dev d).connectTime ≤ s.clock

/-- Whether a device is tended is a matter of the device, and of a clock that never goes back. -/
theorem local_tended : Local Tended := by
  intro d s s' hDev _ hClock h
  exact ⟨by rw [hDev]; exact h.clients, fun hSt => (hDev ▸ h.timed (hDev ▸ hSt)).trans hClock⟩

theorem tended_of_down (h : (s.dev d).status = .down) : Tended d s :=
  ⟨fun hLive => by simp [h] at hLive, fun hSt => absurd h hSt⟩

/-- The connect time is not moved beyond the clock. -/
theorem hungUp_connectTime (w : World) (h : (s.dev d).connectTime ≤ s.clock) :
    ((hungUp w d s).dev d).connectTime ≤ (hungUp w d s).clock := by
  unfold hungUp
  split
  · rw [commanded_connectTime]
    split
    · exact le_rfl
    · exact h.trans (touched_commanded w d s _).clock
  · rw [forcedDown_connectTime]
    exact h.trans (touched_forcedDown w d s).clock

/-- A device that is dialled for somebody has somebody to tend it. -/
theorem tended_connect (hRetries : 0 ≤ cfg.gRetries) (hLaunch : Launches w)
    (hMemory : ∀ k, (w.malloc k).isSome) (c : CliPtr) (h : Tended d s) :
    Tended d (connectClientToDevice w cfg c d s).2 := by
  have hNote : ∀ {s₁ : State}, ((s₁.dev d).status ≠ .down → (s₁.dev d).connectTime ≤ s₁.clock) →
      Tended d (noteClient w c d s₁).2 := by
    intro s₁ hTimed
    have hNoted := noted_noteClient w c d s₁
    refine ⟨fun _ => noteClient_clients c d (Option.isSome_iff_ne_none.mp (hMemory _)), ?_⟩
    rw [hNoted.status, hNoted.connectTime, hNoted.clock]
    exact hTimed
  rcases connect_cases hRetries w c d s with ⟨-, hEq⟩ | ⟨hFree, hUp, -⟩ | ⟨-, -, hFail, -⟩ |
    ⟨-, -, hFail, -⟩ | ⟨-, -, -, -, hEq⟩
  · rw [hEq]
    exact hNote h.timed
  · exact absurd hFree (h.clients (Or.inr hUp))
  · exact absurd (hLaunch _) (Int.not_le.mpr hFail)
  · exact absurd (hLaunch _) (Int.not_le.mpr hFail)
  · rw [hEq]
    exact hNote fun _ => (dialled_connectTime w d _).le

/-- The last client takes its device down, or starts the hanging up. -/
theorem tended_disconnect (hLaunch : Launches w) (c : CliPtr) (h : Tended d s) :
    Tended d (disconnectClientFromDevice w cfg c d s).2 := by
  rcases disconnectClientFromDevice_cases w cfg c d s with ⟨-, hEq⟩ | ⟨hMem, hMore, hEq⟩ |
    ⟨-, hDown, hEq⟩ | ⟨-, -, hFail, -⟩ | ⟨-, -, -, hEq⟩ | ⟨-, hLive, -, hEq⟩
  · rw [hEq]
    exact ⟨by simpa using h.clients, by simpa using h.timed⟩
  · rw [hEq]
    refine ⟨fun _ hNone => ?_, by simpa using h.timed⟩
    rw [forgetDevice_dev, State.setClientsConnected_dev, Function.update_self] at hNone
    have hPerm := List.perm_cons_erase hMem
    rw [show ((s.dev d).clientsConnected.erase c) = [] from hNone] at hPerm
    exact hMore (List.perm_singleton.mp hPerm)
  · rw [hEq]
    exact tended_of_down (by simpa using hDown)
  · exact absurd (hLaunch _) (Int.not_le.mpr hFail)
  · rw [hEq]
    exact tended_of_down (by simp)
  · rw [hEq]
    refine ⟨by simp, fun _ => ?_⟩
    have hTimed : (s.dev d).connectTime ≤ s.clock := h.timed fun hDown => by simp [hDown] at hLive
    simpa using hungUp_connectTime w (s := s.setClientsConnected d []) (by simpa using hTimed)

/-- A device that times out is dialled once more for its clients, or taken down. -/
theorem tended_timeout (hLaunch : Launches w) (hDue : Due cfg d s) (h : Tended d s) :
    Tended d ((Op.timeout d).run w cfg s).2 := by
  rcases timeout_cases w hDue with ⟨-, -, hFail, -⟩ | ⟨-, -, -, hEq⟩ | ⟨-, -, hFail, -⟩ |
    ⟨hSt, -, -, hEq⟩ | ⟨-, hFail, -⟩ | ⟨-, -, hEq⟩
  · exact absurd (hLaunch _) (Int.not_le.mpr hFail)
  · rw [hEq]
    exact tended_of_down (by simp)
  · exact absurd (hLaunch _) (Int.not_le.mpr hFail)
  · rw [hEq]
    exact ⟨fun _ => by simpa using h.clients (Or.inl hSt), fun _ => (dialled_connectTime w d s).le⟩
  · exact absurd (hLaunch _) (Int.not_le.mpr hFail)
  · rw [hEq]
    exact tended_of_down (by simp)

/-- Going down always works. -/
theorem alterToDown_down (hLaunch : Launches w) (d : DevPtr) (s : State) :
    ((alterToDown w d s).2.dev d).status = .down := by
  rcases alterToDown_cases w d s with ⟨-, hEq⟩ | ⟨-, hFail, -⟩ | ⟨-, -, hEq⟩
  · simp [hEq]
  · exact absurd (hLaunch _) (Int.not_le.mpr hFail)
  · simp [hEq]

/-- A forced device is down, whatever it was doing. -/
theorem forceDown_down (hLaunch : Launches w) (cfg : Config) (d : DevPtr) (s : State) :
    (((Op.forceDown d).run w cfg s).2.dev d).status = .down := by
  rcases forceDown_cases w cfg d s with ⟨-, hEq⟩ | ⟨-, hFail, -⟩ | ⟨-, -, hEq⟩
  · simp [hEq]
  · exact absurd (hLaunch _) (Int.not_le.mpr hFail)
  · simp [hEq]

/-- **Call rule.** While every command can be run and memory suffices, every call keeps a device
tended. -/
theorem tended_run (hRetries : 0 ≤ cfg.gRetries) (hLaunch : Launches w)
    (hMemory : ∀ k, (w.malloc k).isSome) {o : Op} (h : Tended o.device s)
    (hApplies : o.Applies cfg s) : Tended o.device (o.run w cfg s).2 := by
  cases o with
  | connect c d => exact tended_connect hRetries hLaunch hMemory c h
  | disconnect c d => exact tended_disconnect hLaunch c h
  | expire c d =>
    rw [run_expire]
    exact tended_disconnect hLaunch c h
  | isUp d =>
    rw [run_isUp]
    rcases alterToUp_cases w d s with ⟨-, hEq⟩ | ⟨hSt, hEq⟩ <;> rw [hEq]
    · exact ⟨h.clients, h.timed⟩
    · exact ⟨fun _ => by simpa [Op.device] using h.clients (Or.inl hSt), by simp [Op.device]⟩
  | isDown d => exact tended_of_down (alterToDown_down hLaunch d s)
  | forceDown d => exact tended_of_down (forceDown_down hLaunch cfg d s)
  | timeout d => exact tended_timeout hLaunch hApplies.2 h

/-- Along runs in which every command can be run and memory does not run out, all devices are
tended. -/
theorem tended_kept (hRetries : 0 ≤ cfg.gRetries) (hLaunch : Launches w)
    (hMemory : ∀ k, (w.malloc k).isSome) :
    Kept w cfg (fun _ _ => True) (Everywhere Tended) (fun _ => Everywhere Tended) :=
  Kept.ofLocal local_tended fun h hApplies _ =>
    tended_run hRetries hLaunch hMemory (h.all _ hApplies.device_mem) hApplies

-- ---------------------------------------------------------------------------
-- What is recorded
-- ---------------------------------------------------------------------------

/-- Nobody joins, and nobody is heard of. -/
structure Ebbs (s s' : State) : Prop where
  gDevices : s'.gDevices = s.gDevices
  gClients : s'.gClients.Sublist s.gClients
  clients : ∀ d, (s'.dev d).clientsConnected.Sublist (s.dev d).clientsConnected
  heard : ∀ c, (s'.cli c).lastHeardFrom = (s.cli c).lastHeardFrom
  clock : s.clock ≤ s'.clock

namespace Ebbs

theorem refl (s : State) : Ebbs s s :=
  ⟨rfl, List.Sublist.refl _, fun _ => List.Sublist.refl _, fun _ => rfl, le_rfl⟩

theorem trans (h : Ebbs s s') (h' : Ebbs s' s'') : Ebbs s s'' where
  gDevices := h'.gDevices.trans h.gDevices
  gClients := h'.gClients.trans h.gClients
  clients d := (h'.clients d).trans (h.clients d)
  heard c := (h'.heard c).trans (h.heard c)
  clock := h.clock.trans h'.clock

/-- Clients that are overdue are overdue later. -/
theorem overdue (h : Ebbs s s') (hOverdue : Overdue cfg c s) : Overdue cfg c s' := by
  have hClock := h.clock
  have hHeard := h.heard c
  unfold Overdue at hOverdue ⊢
  omega

end Ebbs

/-- What touches one device makes no client. -/
theorem Touched.ebbs (h : Touched d s s') : Ebbs s s' :=
  ⟨h.gDevices, h.gClients ▸ List.Sublist.refl _, h.clientsConnected, h.heard, h.clock⟩

/-- How many entries `g_clients` and the lists of the devices have. -/
def recorded (s : State) : Nat :=
  s.gClients.length + (s.gDevices.map fun d => (s.dev d).clientsConnected.length).sum

/-- What ebbs does not grow. -/
theorem Ebbs.recorded_le (h : Ebbs s s') : recorded s' ≤ recorded s := by
  unfold recorded
  rw [h.gDevices]
  exact Nat.add_le_add h.gClients.length_le
    (List.sum_le_sum fun d _ => (h.clients d).length_le)

/-- A client less. -/
theorem Ebbs.recorded_lt_of_clients (h : Ebbs s s')
    (hLess : s'.gClients.length < s.gClients.length) : recorded s' < recorded s := by
  unfold recorded
  rw [h.gDevices]
  exact Nat.add_lt_add_of_lt_of_le hLess (List.sum_le_sum fun d _ => (h.clients d).length_le)

/-- A user less. -/
theorem Ebbs.recorded_lt_of_users (h : Ebbs s s') (hd : d ∈ s.gDevices)
    (hLess : (s'.dev d).clientsConnected.length < (s.dev d).clientsConnected.length) :
    recorded s' < recorded s := by
  unfold recorded
  rw [h.gDevices]
  exact Nat.add_lt_add_of_le_of_lt h.gClients.length_le
    (List.sum_lt_sum _ _ (fun d _ => (h.clients d).length_le) ⟨d, hd, hLess⟩)

-- ---------------------------------------------------------------------------
-- The sweep over the clients
-- ---------------------------------------------------------------------------

/-- A client that is dropped is gone. -/
theorem ebbs_dropClient (c : CliPtr) (s : State) : Ebbs s (dropClient c s).2 := by
  unfold dropClient rmClient
  rcases hCell : rmCell c s.gClients with _ | pp
  · exact { Ebbs.refl s with }
  · refine { Ebbs.refl s with gClients := ?_ }
    rw [rmCell_eq] at hCell
    split at hCell
    · exact Option.some.inj hCell ▸ List.erase_sublist
    · exact absurd hCell (by simp)

theorem ebbs_removeClientFromAllDevices (w : World) (cfg : Config) (c : CliPtr) (s : State) :
    Ebbs s (removeClientFromAllDevices w cfg c s).2 :=
  untilFailure_invariant' (I := Ebbs s)
    (fun d _ s' h => h.trans (touched_removeClientFromDevice w cfg d s' c).ebbs) _ (Ebbs.refl s)

/-- One round of the sweep over the clients. -/
theorem ebbs_timeoutOldClient (w : World) (cfg : Config) (c : CliPtr) (s : State) :
    Ebbs s (timeoutOldClient w cfg c s).2 := by
  have hNoted : Ebbs s (noteExpired w c s) := { (touched_advance w 0 s).ebbs with }
  by_cases h : Overdue cfg c (advance w s)
  · have hDevices := hNoted.trans (ebbs_removeClientFromAllDevices w cfg c (noteExpired w c s))
    rw [timeoutOldClient_of_overdue w cfg h]
    exact unlessFails_post (I := Ebbs s) (fun _ => hDevices)
      fun _ => hDevices.trans (ebbs_dropClient c _)
  · rw [timeoutOldClient_of_not_overdue w cfg h]
    exact (touched_advance w 0 s).ebbs

/-- **Where the sweep breaks off, a client is off a device.** -/
theorem removeClientFromAllDevices_progress (w : World) (cfg : Config) (c : CliPtr) (s : State)
    (h : (removeClientFromAllDevices w cfg c s).1 < 0) :
    recorded (removeClientFromAllDevices w cfg c s).2 < recorded s := by
  obtain ⟨d, hd, s₁, hEbbs, hFail, hLeft⟩ := untilFailure_fails (I := Ebbs s)
    (fun d _ s' h => h.trans (touched_removeClientFromDevice w cfg d s' c).ebbs) (Ebbs.refl s) h
  have ht := touched_removeClientFromDevice w cfg d s₁ c
  have hDisconnect : (disconnectClientFromDevice w cfg c d s₁).1 < 0 := by
    by_contra hNot
    unfold removeClientFromDevice at hFail
    dsimp only at hFail
    rw [if_neg fun hBoth => hNot hBoth.1] at hFail
    exact absurd hFail (Int.lt_irrefl 0)
  have hLast : (s₁.dev d).clientsConnected = [c] := (disconnect_fails hDisconnect).1
  have hGone : c ∉ ((removeClientFromDevice w cfg c d s₁).2.dev d).clientsConnected := by
    rw [removeClientFromDevice_snd]
    exact disconnectClientFromDevice_gone w cfg c d (by simp [hLast])
  have hNone : ((removeClientFromDevice w cfg c d s₁).2.dev d).clientsConnected = [] := by
    rcases List.sublist_singleton.mp (hLast ▸ ht.clients) with hNil | hSame
    · exact hNil
    · rw [hSame] at hGone
      exact absurd (List.mem_singleton_self c) hGone
  have hLeft' : (removeClientFromAllDevices w cfg c s).2 = (removeClientFromDevice w cfg c d s₁).2 :=
    hLeft
  rw [hLeft']
  have hLess := ht.ebbs.recorded_lt_of_users (hEbbs.gDevices ▸ hd) (by simp [hNone, hLast])
  exact hLess.trans_le hEbbs.recorded_le

/-- Taking a client off its devices leaves it in the list of clients. -/
theorem removeClientFromAllDevices_gClients (w : World) (cfg : Config) (c : CliPtr) (s : State) :
    (removeClientFromAllDevices w cfg c s).2.gClients = s.gClients :=
  untilFailure_invariant' (I := fun s' => s'.gClients = s.gClients)
    (fun d _ s' h => (touched_removeClientFromDevice w cfg d s' c).gClients.trans h) _ rfl

/-- A client that is overdue goes, or is off a device at least. -/
theorem recorded_timeoutOldClient (h : Overdue cfg c (advance w s)) (hc : c ∈ s.gClients) :
    recorded (timeoutOldClient w cfg c s).2 < recorded s := by
  have hNoted : Ebbs s (noteExpired w c s) := { (touched_advance w 0 s).ebbs with }
  have hDevices := ebbs_removeClientFromAllDevices w cfg c (noteExpired w c s)
  have hClients := removeClientFromAllDevices_gClients w cfg c (noteExpired w c s)
  rw [timeoutOldClient_of_overdue w cfg h]
  rcases unlessFails_cases (removeClientFromAllDevices w cfg c (noteExpired w c s)) (dropClient c)
    with ⟨hFail, hEq⟩ | ⟨hRet, hEq⟩ <;> rw [hEq]
  · exact (removeClientFromAllDevices_progress w cfg c _ hFail).trans_le hNoted.recorded_le
  · refine (hNoted.trans (hDevices.trans (ebbs_dropClient c _))).recorded_lt_of_clients ?_
    have hMem : c ∈ (removeClientFromAllDevices w cfg c (noteExpired w c s)).2.gClients :=
      hClients ▸ hc
    rw [dropClient_of_mem hMem, List.length_erase_of_mem hMem, hClients]
    exact Nat.sub_lt (List.length_pos_of_mem hc) Nat.one_pos

/-- The sweep over the clients only removes, -/
theorem ebbs_timeoutOldClients (w : World) (cfg : Config) (s : State) :
    Ebbs s (step w cfg .timeoutOldClients s).2 := by
  unfold step
  split
  · exact Ebbs.refl s
  · exact untilFailure_invariant' (I := Ebbs s)
      (fun c _ s' h => h.trans (ebbs_timeoutOldClient w cfg c s')) _ (touched_advance w 0 s).ebbs

/-- **A sweep makes progress**, when the first client of the list is overdue. -/
theorem recorded_timeoutOldClients (hAlive : s.crashed = false) {rest : List CliPtr}
    (hClients : s.gClients = c :: rest) (h : Overdue cfg c s) :
    recorded (step w cfg .timeoutOldClients s).2 < recorded s := by
  have hWait := (touched_advance w 0 s).ebbs
  have hLater := (touched_advance w 0 (advance w s)).ebbs
  have hFirst : recorded (timeoutOldClient w cfg c (advance w s)).2 < recorded (advance w s) :=
    recorded_timeoutOldClient (hLater.overdue (hWait.overdue h)) (by simp [hClients])
  have hLoop : (step w cfg .timeoutOldClients s).2 =
      (untilFailure (timeoutOldClient w cfg) (c :: rest) (advance w s)).2 := by
    rw [← hClients]
    simp [step, handle, hAlive, timeoutOldClients]
  have hRest : Ebbs (timeoutOldClient w cfg c (advance w s)).2
      (untilFailure (timeoutOldClient w cfg) (c :: rest) (advance w s)).2 :=
    unlessFails_post (I := Ebbs (timeoutOldClient w cfg c (advance w s)).2)
      (fun _ => Ebbs.refl _) fun _ => untilFailure_invariant'
        (I := Ebbs (timeoutOldClient w cfg c (advance w s)).2)
        (fun c' _ s' h => h.trans (ebbs_timeoutOldClient w cfg c' s')) _ (Ebbs.refl _)
  rw [hLoop]
  exact hRest.recorded_le.trans_lt (hFirst.trans_le hWait.recorded_le)

-- ---------------------------------------------------------------------------
-- Quiet turns
-- ---------------------------------------------------------------------------

/-- A turn that is not the last one, and in which no client says anything. What the peer says,
and what nobody understands, does not matter. -/
def LoopTurn.Silent (t : LoopTurn) : Prop :=
  t.Undisturbed ∧ ∀ cli message, t.selected.event ≠ some (.client cli message)

theorem ebbs_poll (w : World) (group : Option SockAddr) (s : State) : Ebbs s (poll w group s) := by
  have hCli : (poll w group s).cli = s.cli := by
    unfold poll
    split
    · rfl
    · refine broadcastStatusMessage_keeps (I := fun s' => s'.cli = s.cli)
        (fun h => (malloc_cli w _).trans h) (fun h => h) (fun h => ?_) group rfl
      rw [← h]
      unfold broadcastMessage
      split
      · rfl
      · split <;> rfl
  have hq := quiet_poll w group s
  exact ⟨hq.gDevices, hq.gClients ▸ List.Sublist.refl _, fun d => hq.dev ▸ List.Sublist.refl _,
    fun c => by rw [hCli], hq.clock⟩

/-- Peers do not ask for connections. -/
theorem peerOp_ne_connect {message : CStr} {o : Op} (h : peerOp message s = some o) :
    ∀ c d, o ≠ .connect c d := by
  unfold peerOp at h
  split at h
  · obtain ⟨d, -, rfl⟩ := Option.map_eq_some_iff.mp h
    simp
  · obtain ⟨d, -, rfl⟩ := Option.map_eq_some_iff.mp h
    simp
  · exact absurd h (by simp)

/-- A notice of the peer brings no client. -/
theorem ebbs_processPeer (w : World) (cfg : Config) (message : CStr) (s : State) :
    Ebbs s (processPeer w cfg message s).2 := by
  cases hOp : peerOp message s with
  | none =>
    obtain ⟨e, hErrno⟩ := processPeer_errno w cfg hOp
    rw [hErrno]
    exact (touched_setErrno 0 s e).ebbs
  | some o =>
    rw [processPeer_of_op w cfg hOp]
    exact (touched_run (peerOp_ne_connect hOp)).ebbs

/-- and so does the sweep over the devices. -/
theorem ebbs_timeoutOldDevices (w : World) (cfg : Config) (s : State) :
    Ebbs s (step w cfg .timeoutOldDevices s).2 := by
  unfold step
  split
  · exact Ebbs.refl s
  · exact untilFailure_invariant' (I := Ebbs s)
      (fun d _ s' h => h.trans (touched_timeoutOldDevice w cfg d s').ebbs) _
      (touched_advance w 0 s).ebbs

/-- Where no client says anything, nobody joins. -/
theorem ebbs_awaited (w : World) (cfg : Config) {selected : Selected}
    (hSilent : ∀ cli message, selected.event ≠ some (.client cli message)) (s : State) :
    Ebbs s (awaited w cfg selected s) := by
  have hWait := (touched_advance w 0 s).ebbs
  cases selected with
  | readable received =>
    rcases received with _ | ⟨cli, datagram⟩
    · exact hWait
    · simp only [Selected.event, datagramEvent] at hSilent
      simp only [awaited, processCommand_eq]
      cases hBranch : branchOf (recvBuffer datagram) with
      | client message => simp [hBranch] at hSilent
      | peer message => exact hWait.trans (ebbs_processPeer w cfg _ _)
      | invalid => exact hWait.trans (touched_setErrno 0 _ _).ebbs
  | timedOut => exact hWait
  | interrupted => exact hWait
  | failed => exact hWait

/-- A turn without a datagram of a client brings no client, -/
theorem ebbs_swept (w : World) (cfg : Config) (group : Option SockAddr) {t : LoopTurn}
    (h : t.Silent) (s : State) : Ebbs s (swept w cfg group t s) :=
  ((ebbs_awaited w cfg h.2 s).trans (ebbs_poll w group _)).trans (ebbs_timeoutOldClients w cfg _)

-- ---------------------------------------------------------------------------
-- Turns without clients
-- ---------------------------------------------------------------------------

/-- A turn made by a server that is in its loop. -/
theorem loopTurn_of_looping {p : Process} (h : Looping p) {t : LoopTurn} (ht : t.Undisturbed) :
    (loopTurn w cfg group t p).server =
      (step w cfg .timeoutOldDevices (swept w cfg group t p.server)).2 := by
  unfold loopTurn
  rw [looping_iff.mp h]
  obtain ⟨hFailed, hInterrupted, -⟩ := ht
  unfold swept
  cases hSelected : t.selected with
  | failed => exact absurd hSelected hFailed
  | interrupted => exact absurd hSelected hInterrupted
  | readable received => rfl
  | timedOut => rfl

/-- A server in its loop whose clients are all overdue. -/
structure Abandoned (cfg : Config) (p : Process) : Prop where
  looping : Looping p
  described : Described p.server
  tended : Everywhere Tended p.server
  overdue : ∀ c ∈ p.server.gClients, Overdue cfg c p.server

variable {p : Process} {t : LoopTurn}

/-- also when the loop ends in it. -/
theorem ebbs_loopTurn (w : World) (cfg : Config) (group : Option SockAddr) (h : Looping p)
    (ht : t.Silent) :
    Ebbs p.server (loopTurn w cfg group t p).server := by
  rw [loopTurn_of_looping h ht.1]
  exact (ebbs_swept w cfg group ht _).trans (ebbs_timeoutOldDevices w cfg _)

/-- **Turn rule.** A server whose clients are all overdue stays one, if nobody speaks up. -/
theorem abandoned_loopTurn (group : Option SockAddr) (hRetries : 0 ≤ cfg.gRetries)
    (hLaunch : Launches w) (hMemory : ∀ k, (w.malloc k).isSome) (h : Abandoned cfg p) (ht : t.Silent) :
    Abandoned cfg (loopTurn w cfg group t p) := by
  have hKept := tended_kept hRetries hLaunch hMemory
  have hEbbs := ebbs_loopTurn w cfg group h.looping ht
  refine ⟨(looping_loopTurn_iff h.looping h.described t).mpr ht.1,
    described_loopTurn h.described t, ?_, ?_⟩
  · exact loopTurn_invariant (E := fun _ => True) trivial trivial hKept.quiet
      (fun e _ h => hKept.step h (calls_of_forall (fun _ _ => trivial) e _))
      (fun _ _ => trivial) h.tended
  · exact fun c hc => hEbbs.overdue (h.overdue c (hEbbs.gClients.subset hc))

/-- **Run rule.** And so it goes on, turn after turn. -/
theorem abandoned_turns (group : Option SockAddr) (hRetries : 0 ≤ cfg.gRetries)
    (hLaunch : Launches w) (hMemory : ∀ k, (w.malloc k).isSome) {turns : List LoopTurn}
    (hSilent : ∀ t ∈ turns, t.Silent) (h : Abandoned cfg p) :
    Abandoned cfg (Runs.run (loopTurn w cfg group) turns p) ∧
      Ebbs p.server (Runs.run (loopTurn w cfg group) turns p).server :=
  Runs.run_invariant (P := fun t _ => t.Silent)
    (I := fun p' => Abandoned cfg p' ∧ Ebbs p.server p'.server)
    (fun _ _ h ht => ⟨abandoned_loopTurn group hRetries hLaunch hMemory h.1 ht,
      h.2.trans (ebbs_loopTurn w cfg group h.1.looping ht)⟩) turns p ⟨h, Ebbs.refl _⟩
    ((Runs.along_forall_iff turns p).mpr hSilent)

/-- **Every turn makes progress** until nobody is left. -/
theorem recorded_loopTurn (h : Abandoned cfg p) (ht : t.Silent) (hSome : p.server.gClients ≠ []) :
    recorded (loopTurn w cfg group t p).server < recorded p.server := by
  set s₁ := poll w group (awaited w cfg t.selected p.server) with hs₁
  have hFirst : Ebbs p.server s₁ := (ebbs_awaited w cfg ht.2 _).trans (ebbs_poll w group _)
  have hAlive : s₁.crashed = false :=
    ((static_awaited h.described t.selected).trans (static_poll w group _)).crashed.trans
      h.looping.crashed
  have hSwept : recorded (swept w cfg group t p.server) < recorded p.server := by
    cases hClients : s₁.gClients with
    | nil =>
      refine (ebbs_swept w cfg group ht _).recorded_lt_of_clients ?_
      have hNone : (swept w cfg group t p.server).gClients.Sublist s₁.gClients :=
        (ebbs_timeoutOldClients w cfg s₁).gClients
      rw [hClients] at hNone
      rw [List.eq_nil_of_sublist_nil hNone]
      exact List.length_pos_of_ne_nil hSome
    | cons c rest =>
      have hOverdue : Overdue cfg c s₁ :=
        hFirst.overdue (h.overdue c (hFirst.gClients.subset (by simp [hClients])))
      exact (recorded_timeoutOldClients hAlive hClients hOverdue).trans_le hFirst.recorded_le
  rw [loopTurn_of_looping h.looping ht.1]
  exact (ebbs_timeoutOldDevices w cfg _).recorded_le.trans_lt hSwept

/-- **Nobody is left** after as many turns as there were records. -/
theorem clients_gone (group : Option SockAddr) (hRetries : 0 ≤ cfg.gRetries)
    (hLaunch : Launches w) (hMemory : ∀ k, (w.malloc k).isSome) {turns : List LoopTurn}
    (hSilent : ∀ t ∈ turns, t.Silent) (h : Abandoned cfg p)
    (hTurns : recorded p.server ≤ turns.length) :
    (Runs.run (loopTurn w cfg group) turns p).server.gClients = [] :=
  Runs.run_settles (P := fun t _ => t.Silent) (I := Abandoned cfg)
    (G := fun p => p.server.gClients = []) (r := fun p => recorded p.server)
    (fun _ _ h ht => abandoned_loopTurn group hRetries hLaunch hMemory h ht)
    (fun _ _ h ht hSome => recorded_loopTurn h ht hSome)
    (fun _ _ h ht hNone => List.eq_nil_of_sublist_nil
      (hNone ▸ (ebbs_loopTurn w cfg group h.looping ht).gClients))
    (fun _ hZero => List.length_eq_zero_iff.mp (Nat.eq_zero_of_add_eq_zero_right hZero))
    turns p h ((Runs.along_forall_iff turns p).mpr hSilent) hTurns

-- ---------------------------------------------------------------------------
-- Devices nobody uses
-- ---------------------------------------------------------------------------

/-- The device is down, or hanging up since a time that `since` allows. -/
def Off (since : Int → Prop) (d : DevPtr) (s : State) : Prop :=
  (s.dev d).status = .down ∨ (s.dev d).status = .disconnecting ∧ since (s.dev d).connectTime

variable {since : Int → Prop}

/-- Whether a device is off is a matter of the device. -/
theorem local_off (since : Int → Prop) : Local (Off since) := by
  intro d s s' hDev _ _ h
  rw [Off, hDev]
  exact h

/-- A device that is off is neither connecting nor up. -/
theorem Off.not_live (h : Off since d s) :
    ¬ ((s.dev d).status = .connecting ∨ (s.dev d).status = .up) := by
  rcases h with hSt | ⟨hSt, -⟩ <;> simp [hSt]

/-- A client that leaves a device that is off leaves it off. -/
theorem off_disconnect (hLaunch : Launches w) (c : CliPtr) (h : Off since d s) :
    Off since d (disconnectClientFromDevice w cfg c d s).2 := by
  rcases disconnectClientFromDevice_cases w cfg c d s with ⟨-, hEq⟩ | ⟨-, -, hEq⟩ |
    ⟨-, hDown, hEq⟩ | ⟨-, -, hFail, -⟩ | ⟨-, -, -, hEq⟩ | ⟨-, hLive, -⟩
  · rw [hEq]
    simpa [Off] using h
  · rw [hEq]
    simpa [Off] using h
  · rw [hEq]
    exact Or.inl (by simpa using hDown)
  · exact absurd (hLaunch _) (Int.not_le.mpr hFail)
  · rw [hEq]
    exact Or.inl (by simp)
  · exact absurd hLive h.not_live

/-- A device that has been hanging up for too long is taken down. -/
theorem off_timeout (hLaunch : Launches w) (hDue : Due cfg d s) (h : Off since d s) :
    (((Op.timeout d).run w cfg s).2.dev d).status = .down := by
  have hNot : (s.dev d).status ≠ .connecting := fun hSt => h.not_live (Or.inl hSt)
  rcases timeout_cases w hDue with ⟨hSt, -⟩ | ⟨hSt, -⟩ | ⟨hSt, -⟩ | ⟨hSt, -⟩ | ⟨-, hFail, -⟩ |
    ⟨-, -, hEq⟩
  · exact absurd hSt hNot
  · exact absurd hSt hNot
  · exact absurd hSt hNot
  · exact absurd hSt hNot
  · exact absurd (hLaunch _) (Int.not_le.mpr hFail)
  · simp [hEq]

/-- Only a connection ends the rest of a device. -/
theorem off_run (hLaunch : Launches w) {o : Op} (h : Off since o.device s)
    (hApplies : o.Applies cfg s) (hNot : ∀ c d, o ≠ .connect c d) :
    Off since o.device (o.run w cfg s).2 := by
  cases o with
  | connect c d => exact absurd rfl (hNot c d)
  | disconnect c d => exact off_disconnect hLaunch c h
  | expire c d =>
    rw [run_expire]
    exact off_disconnect hLaunch c h
  | isUp d =>
    rw [run_isUp]
    rcases alterToUp_cases w d s with ⟨-, hEq⟩ | ⟨hSt, -⟩
    · exact hEq ▸ h
    · exact absurd (Or.inl hSt) h.not_live
  | isDown d => exact Or.inl (alterToDown_down hLaunch d s)
  | forceDown d => exact Or.inl (forceDown_down hLaunch cfg d s)
  | timeout d => exact Or.inl (off_timeout hLaunch hApplies.2 h)

/-- Only a connection turns a device on. -/
theorem off_kept (cfg : Config) (hLaunch : Launches w) (since : Int → Prop) :
    Kept w cfg (fun o _ => ∀ c d, o ≠ .connect c d) (Everywhere (Off since))
      (fun _ => Everywhere (Off since)) :=
  Kept.ofLocal (local_off since) fun h hApplies hNot =>
    off_run hLaunch (h.all _ hApplies.device_mem) hApplies hNot

/-- Only clients ask for connections. -/
theorem silent_calls (hSilent : ∀ cli message, e ≠ .client cli message) (s : State) :
    StepCalls w cfg (fun o _ => ∀ c d, o ≠ .connect c d) e s := by
  intro _
  cases e with
  | client cli message => exact absurd rfl (hSilent cli message)
  | peer message => exact fun o hOp => peerOp_ne_connect hOp
  | timeoutOldClients =>
    exact visits_of_forall (fun _ _ _ => visits_of_forall (fun _ _ => by simp) _ _) _ _
  | timeoutOldDevices => exact visits_of_forall (fun _ _ _ => by simp) _ _

/-- A turn without a datagram of a client turns no device on, -/
theorem off_loopTurn (hLaunch : Launches w) (ht : t.Silent) (h : Everywhere (Off since) p.server) :
    Everywhere (Off since) (loopTurn w cfg group t p).server := by
  have hKept := off_kept cfg hLaunch since
  exact loopTurn_invariant (E := fun e => ∀ cli message, e ≠ .client cli message) (by simp)
    (by simp) hKept.quiet (fun e hSilent h => hKept.step h (silent_calls hSilent _))
    (fun e hEvent cli message hClient => ht.2 cli message (hClient ▸ hEvent)) h

/-- and neither does a run of such turns. -/
theorem off_turns (cfg : Config) (group : Option SockAddr) (hLaunch : Launches w)
    {turns : List LoopTurn}
    (hSilent : ∀ t ∈ turns, t.Silent) (h : Everywhere (Off since) p.server) :
    Everywhere (Off since) (Runs.run (loopTurn w cfg group) turns p).server :=
  Runs.run_invariant (P := fun t _ => t.Silent) (I := fun p => Everywhere (Off since) p.server)
    (fun _ _ h ht => off_loopTurn hLaunch ht h) turns p h
    ((Runs.along_forall_iff turns p).mpr hSilent)

/-- The disconnect timeout of a device with this connect time has passed. -/
def Late (cfg : Config) (now connectTime : Int) : Prop :=
  connectTime + cfg.gDisconnectTimeout < now

theorem Off.mono {since' : Int → Prop} (h : Off since d s) (hSince : ∀ t, since t → since' t) :
    Off since' d s :=
  h.imp_right fun hHang => ⟨hHang.1, hSince _ hHang.2⟩

/-- A sweep finds the device down, or takes it down. -/
theorem timeoutOldDevice_down (hLaunch : Launches w) (h : Off (Late cfg s.clock) d s) :
    0 ≤ (timeoutOldDevice w cfg d s).1 ∧ ((timeoutOldDevice w cfg d s).2.dev d).status = .down := by
  rcases h with hDown | ⟨hHang, hLate⟩
  · have hSame : timeoutOldDevice w cfg d s = (0, s) := by
      unfold timeoutOldDevice
      rw [hDown]
    rw [hSame]
    exact ⟨le_rfl, hDown⟩
  · have hWait := (touched_advance w d s).clock
    have hDue : Due cfg d (advance w s) := by
      refine Or.inr ⟨hHang, ?_⟩
      unfold Late at hLate
      rw [advance_dev]
      omega
    have hOff : Off (fun _ => True) d (advance w s) := Or.inr ⟨hHang, trivial⟩
    have hDown := off_timeout hLaunch hDue hOff
    rw [timeoutOldDevice_of_due w cfg hDue]
    rcases unlessFails_cases ((Op.timeout d).run w cfg (advance w s)) fun s => (0, s) with
      ⟨hFail, -⟩ | ⟨-, hEq⟩
    · rcases timeout_cases w hDue with ⟨hSt, -⟩ | ⟨hSt, -⟩ | ⟨hSt, -⟩ | ⟨hSt, -⟩ |
        ⟨-, hNot, -⟩ | ⟨-, -, hRun⟩
      · simp [hHang] at hSt
      · simp [hHang] at hSt
      · simp [hHang] at hSt
      · simp [hHang] at hSt
      · exact absurd (hLaunch _) (Int.not_le.mpr hNot)
      · rw [hRun] at hFail
        exact absurd hFail (Int.lt_irrefl 0)
    · rw [hEq]
      exact ⟨le_rfl, hDown⟩

/-- **The sweep over the devices** takes down what has been hanging up for too long. -/
theorem timeoutOldDevices_down (hLaunch : Launches w) {ds : List DevPtr} {s : State}
    (h : ∀ d ∈ ds, Off (Late cfg s.clock) d s) :
    ∀ d, (s.dev d).status = .down ∨ d ∈ ds →
      ((untilFailure (timeoutOldDevice w cfg) ds s).2.dev d).status = .down := by
  induction ds generalizing s with
  | nil =>
    intro d hd
    exact hd.resolve_right List.not_mem_nil
  | cons x rest ih =>
    intro d hd
    have ht := touched_timeoutOldDevice w cfg x s
    obtain ⟨hRet, hDown⟩ := timeoutOldDevice_down hLaunch (h x (List.mem_cons_self ..))
    rw [untilFailure, unlessFails_of_nonneg hRet]
    refine ih (fun y hy => ?_) d ?_
    · rcases eq_or_ne y x with rfl | hOther
      · exact Or.inl hDown
      · have hOff := h y (List.mem_cons_of_mem _ hy)
        unfold Off at hOff ⊢
        rw [ht.other y hOther]
        exact hOff.imp_right fun hHang => ⟨hHang.1, hHang.2.trans_le ht.clock⟩
    · rcases eq_or_ne d x with rfl | hOther
      · exact Or.inl hDown
      · rw [ht.other d hOther]
        exact hd.imp_right fun hMem => (List.mem_cons.mp hMem).resolve_left hOther

/-- A turn that comes later than the disconnect timeout. -/
theorem down_loopTurn (group : Option SockAddr) (hLaunch : Launches w) (hLooping : Looping p)
    (hDescribed : Described p.server) (ht : t.Silent)
    (h : Everywhere (Off (Late cfg p.server.clock)) p.server) :
    ∀ d ∈ p.server.gDevices, ((loopTurn w cfg group t p).server.dev d).status = .down := by
  have hKept := off_kept cfg hLaunch (Late cfg p.server.clock)
  have hOff : Everywhere (Off (Late cfg p.server.clock)) (swept w cfg group t p.server) :=
    swept_invariant (E := fun e => ∀ cli message, e ≠ .client cli message) (by simp) hKept.quiet
      (fun e hSilent h => hKept.step h (silent_calls hSilent _))
      (fun e hEvent cli message hClient => ht.2 cli message (hClient ▸ hEvent)) hLooping.crashed h
  have hEbbs := (ebbs_swept w cfg group ht p.server).trans (touched_advance w 0 _).ebbs
  have hAlive : (swept w cfg group t p.server).crashed = false :=
    (static_swept hDescribed t).crashed.trans hLooping.crashed
  intro d hd
  have hSweep : (step w cfg .timeoutOldDevices (swept w cfg group t p.server)).2 =
      (untilFailure (timeoutOldDevice w cfg) p.server.gDevices
        (advance w (swept w cfg group t p.server))).2 := by
    rw [← hEbbs.gDevices]
    simp [step, handle, hAlive, timeoutOldDevices]
  rw [loopTurn_of_looping hLooping ht.1, hSweep]
  refine timeoutOldDevices_down hLaunch (fun x hx => ?_) d (Or.inr hd)
  have hHere : Off (Late cfg p.server.clock) x (advance w (swept w cfg group t p.server)) :=
    hOff.all x (hEbbs.gDevices ▸ hx)
  exact hHere.mono fun since hLate => hLate.trans_le hEbbs.clock

-- ---------------------------------------------------------------------------
-- The fail-safe works
-- ---------------------------------------------------------------------------

/-- A turn in which nothing comes. -/
def idleTurn : LoopTurn := ⟨.timedOut, false⟩

theorem silent_idleTurn {x : LoopTurn} (h : x = idleTurn) : x.Silent := by
  subst h
  exact ⟨⟨by simp [idleTurn], by simp [idleTurn], rfl⟩, by simp [idleTurn, Selected.event]⟩

end LinkControl
