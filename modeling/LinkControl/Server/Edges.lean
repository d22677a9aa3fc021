import LinkControl.Server.Local

/-!
# Link server — the transition table

`doc/README.states` lists the possible transitions of a device. `Walk` reads the
status assignments of one device off its history: they lead from the status it had to
the status it has, and every change among them is an edge. `Moves` is the same for two
states; it composes, so a walk through a call is put together from the walks through
its parts.

The server takes the edges of the table, and one more: FORCE_DOWN and ISDOWN take a
device from Link Up to Link Down at once. `alter_device_status` has a case for that
(`LINK_UP` under `LINK_DOWN`), while the table lists the pair as impossible.
-/

namespace LinkControl

open ReturnCode

variable {w : World} {cfg : Config} {c : CliPtr} {d : DevPtr} {s s' s'' : State}
  {Ok : DeviceStatus → DeviceStatus → Prop}

/-- The table "The following state transitions are possible". -/
def documented : DeviceStatus → DeviceStatus → Bool
  | .connecting, .disconnecting => true
  | .connecting, .up => true
  | .connecting, .down => true
  | .disconnecting, .connecting => true
  | .disconnecting, .up => true
  | .disconnecting, .down => true
  | .up, .disconnecting => true
  | .down, .connecting => true
  | .down, .disconnecting => true
  | _, _ => false

/-- The status assignments in `new`, read from the oldest, lead from `a` to `b`, and
where one changes the status it does so along an edge. -/
inductive Walk (Ok : DeviceStatus → DeviceStatus → Prop) (a : DeviceStatus) :
    List Effect → DeviceStatus → Prop where
  | start : Walk Ok a [] a
  | status {t d b b' new} : Walk Ok a new b → (b ≠ b' → Ok b b') →
      Walk Ok a (.status t d b b' :: new) b'
  | other {e new b} : Walk Ok a new b → (∀ t d x y, e ≠ .status t d x y) → Walk Ok a (e :: new) b

/-- Two walks in a row are one walk. -/
theorem Walk.append {a b b' : DeviceStatus} {new new' : List Effect} (h : Walk Ok a new b)
    (h' : Walk Ok b new' b') : Walk Ok a (new' ++ new) b' := by
  induction h' with
  | start => exact h
  | status _ hOk ih => exact .status ih hOk
  | other _ hNot ih => exact .other ih hNot

/-- What was done with the device between the two states is a walk. -/
def Moves (Ok : DeviceStatus → DeviceStatus → Prop) (d : DevPtr) (s s' : State) : Prop :=
  ∃ new, history d s' = new ++ history d s ∧ Walk Ok (s.dev d).status new (s'.dev d).status

namespace Moves

theorem refl (d : DevPtr) (s : State) : Moves Ok d s s := ⟨[], rfl, .start⟩

/-- Composition: what the first step did and what the second did are the two halves of one walk.
-/
theorem trans (h : Moves Ok d s s') (h' : Moves Ok d s' s'') : Moves Ok d s s'' := by
  obtain ⟨new, hEq, hWalk⟩ := h
  obtain ⟨new', hEq', hWalk'⟩ := h'
  exact ⟨new' ++ new, by rw [hEq', hEq, List.append_assoc], hWalk.append hWalk'⟩

/-- Nothing was done with the device, and it has the status it had. -/
theorem same (hHistory : history d s' = history d s)
    (hStatus : (s'.dev d).status = (s.dev d).status) : Moves Ok d s s' :=
  ⟨[], hHistory, hStatus ▸ .start⟩

/-- One thing was done that assigns no status. -/
theorem one {e : Effect} (hHistory : history d s' = e :: history d s)
    (hNot : ∀ t d x y, e ≠ .status t d x y)
    (hStatus : (s'.dev d).status = (s.dev d).status) : Moves Ok d s s' :=
  ⟨[e], hHistory, .other (hStatus ▸ .start) hNot⟩

/-- An assignment along an edge, or of the status that the device has, is a walk of one step. -/
theorem setStatus {st : DeviceStatus} (hOk : (s.dev d).status ≠ st → Ok (s.dev d).status st) :
    Moves Ok d s (s.setStatus d st) := by
  refine ⟨[.status s.clock d (s.dev d).status st], history_setStatus d s st, ?_⟩
  rw [State.setStatus_dev, Function.update_self]
  exact .status .start hOk

end Moves

-- ---------------------------------------------------------------------------
-- The transitions
-- ---------------------------------------------------------------------------

section Transitions

variable (w : World) (cfg : Config) (d : DevPtr) (s : State)

theorem moves_forcedDown : Moves Ok d s (forcedDown w d s) :=
  .one (history_forcedDown w d s) (by simp) (forcedDown_status w d s)

theorem moves_setRetries (n : Int) : Moves Ok d s (s.setRetries d n) :=
  .same rfl (by simp)

theorem moves_setConnectTime : Moves Ok d s (setConnectTime w d s) :=
  .same rfl (by simp)

theorem moves_setClientsConnected (pp : List CliPtr) :
    Moves Ok d s (s.setClientsConnected d pp) :=
  .same rfl (by simp)

theorem moves_setErrno (e : Errno) : Moves Ok d s (s.setErrno e) :=
  .same rfl rfl

theorem moves_forgetDevice (c : CliPtr) : Moves Ok d s (forgetDevice d c s).2 :=
  .same (history_forgetDevice c d s) (by simp)

/-- Hanging up runs a command and leaves the assignment to its caller. -/
theorem moves_hungUp : Moves Ok d s (hungUp w d s) :=
  .one (history_hungUp w d s) (by simp) (hungUp_status w d s)

theorem moves_exhausted : Moves Ok d s (exhausted d s) :=
  .one (history_exhausted d s) (by simp) (exhausted_status d s)

theorem moves_undialled : Moves Ok d s (undialled w d s) :=
  .one (history_undialled w d s) (by simp) (undialled_status w d s)

/-- A dial that succeeds ends with the assignment of Connecting. -/
theorem moves_dialled
    (hOk : (s.dev d).status ≠ .connecting → Ok (s.dev d).status .connecting) :
    Moves Ok d s (dialled w d s) :=
  ((moves_undialled w d s).trans (moves_setConnectTime w d _)).trans
    (.setStatus (by simpa [undialled] using hOk))

/-- Getting ready for a dial assigns no status, also when the old connection is killed first. -/
theorem moves_readied : Moves Ok d s (readied w cfg d s) := by
  unfold readied
  split
  · have hSlept : Moves Ok d (forcedDown w d s) (sleep w 2 (forcedDown w d s)) := .same rfl rfl
    exact ((moves_forcedDown w d s).trans hSlept).trans (moves_setRetries d _ _)
  · exact moves_setRetries d s _

variable {w cfg d s}

/-- The request for Link Down assigns Link Down, or nothing if the command could not be run. -/
theorem moves_alterToDown (hOk : (s.dev d).status ≠ .down → Ok (s.dev d).status .down) :
    Moves Ok d s (alterToDown w d s).2 := by
  rcases alterToDown_cases w d s with ⟨-, hEq⟩ | ⟨-, -, hEq⟩ | ⟨-, -, hEq⟩ <;> rw [hEq]
  · exact .setStatus hOk
  · exact moves_forcedDown w d s
  · exact (moves_forcedDown w d s).trans (.setStatus (by simpa using hOk))

/-- A dial ends in Connecting, or in Link Down when the retries were used up. -/
theorem moves_redial (hOk : ∀ st, documented (s.dev d).status st = true → Ok (s.dev d).status st)
    (hNotUp : (s.dev d).status ≠ .up) : Moves Ok d s (redial w d s).2 := by
  have hTo : ∀ st, st = .connecting ∨ st = .down → (s.dev d).status ≠ st →
      Ok (s.dev d).status st := by
    intro st hSt hNe
    refine hOk st ?_
    rcases hSt with rfl | rfl <;> cases hStatus : (s.dev d).status <;> simp_all [documented]
  rcases redial_cases w d s with ⟨-, hEq⟩ | ⟨-, -, hEq⟩ | ⟨-, -, hEq⟩ <;> rw [hEq]
  · refine (moves_exhausted d s).trans (moves_alterToDown ?_)
    simpa using hTo .down (Or.inr rfl)
  · exact moves_undialled w d s
  · exact moves_dialled w d s (hTo .connecting (Or.inl rfl))

/-- The request for Connecting is refused in Link Up, and takes only edges of the table
elsewhere. -/
theorem moves_alterToConnecting (w : World) (cfg : Config)
    (hOk : ∀ st, documented (s.dev d).status st = true → Ok (s.dev d).status st) :
    Moves Ok d s (alterToConnecting w cfg d s).2 := by
  rcases alterToConnecting_cases w cfg d s with ⟨-, hEq⟩ | ⟨hStatus, hEq⟩ | ⟨-, -, hEq⟩ |
    ⟨hStatus, hEq⟩ <;> rw [hEq]
  · exact moves_setErrno d s _
  · exact moves_redial hOk (by simp [hStatus])
  · exact moves_forcedDown w d s
  · refine (moves_readied w cfg d s).trans (moves_redial (by simpa using hOk) ?_)
    rcases hStatus with hStatus | ⟨hStatus, -⟩ <;> simp [hStatus]

/-- The request for Disconnecting takes a device that is still connecting or up to
Disconnecting, and a device that has been disconnecting for too long to Link Down. -/
theorem moves_alterToDisconnecting
    (hOk : ∀ st, documented (s.dev d).status st = true → Ok (s.dev d).status st) :
    Moves Ok d s (alterToDisconnecting w d s).2 := by
  rcases alterToDisconnecting_cases w d s with ⟨-, hEq⟩ | ⟨-, -, hEq⟩ | ⟨hStatus, -, hEq⟩ |
    ⟨hStatus, -, hEq⟩ <;> rw [hEq]
  · exact moves_setErrno d s _
  · exact moves_hungUp w d s
  · refine (moves_forcedDown w d s).trans (.setStatus fun _ => ?_)
    simpa using hOk .down (by simp [hStatus, documented])
  · refine (moves_hungUp w d s).trans (.setStatus fun _ => ?_)
    rcases hStatus with hStatus | hStatus <;>
      simpa using hOk .disconnecting (by simp [hStatus, documented])

/-- The request for Link Up is granted to a device that is connecting, and refused otherwise. -/
theorem moves_alterToUp
    (hOk : ∀ st, documented (s.dev d).status st = true → Ok (s.dev d).status st) :
    Moves Ok d s (alterToUp w d s).2 := by
  rcases alterToUp_cases w d s with ⟨-, hEq⟩ | ⟨hStatus, hEq⟩ <;> rw [hEq]
  · exact moves_setErrno d s _
  · refine (moves_setConnectTime w d s).trans (.setStatus fun _ => ?_)
    simpa using hOk .up (by simp [hStatus, documented])

end Transitions

-- ---------------------------------------------------------------------------
-- Calls and events
-- ---------------------------------------------------------------------------

/-- What was done with a device since a state is told by the device and its past alone. -/
theorem local_moves (Ok : DevPtr → DeviceStatus → DeviceStatus → Prop) (s₀ : State) :
    Local fun d s => Moves (Ok d) d s₀ s := by
  intro d s s' hDev hHistory _ h
  exact h.trans (.same hHistory (by rw [hDev]))

theorem moves_noteClient (c : CliPtr) : Moves Ok d s (noteClient w c d s).2 :=
  .same (history_noteClient w c d s) (noted_noteClient w c d s).status

/-- Leaving a device is a walk along the table, whether or not somebody else is connected. -/
theorem moves_disconnect (c : CliPtr)
    (hOk : ∀ st, documented (s.dev d).status st = true → Ok (s.dev d).status st) :
    Moves Ok d s (disconnectClientFromDevice w cfg c d s).2 := by
  rw [disconnectClientFromDevice_eq]
  split
  · split
    · have hAlter := (moves_setClientsConnected d s []).trans
        (moves_alterToDisconnecting (w := w) (by simpa using hOk))
      exact unlessFails_post (fun _ => hAlter) fun _ => hAlter.trans (moves_forgetDevice d _ c)
    · exact (moves_setClientsConnected d s _).trans (moves_forgetDevice d _ c)
  · exact (moves_setErrno d s _).trans (moves_forgetDevice d _ c)

/-- **Call rule.** Every call walks along the table, but for the two that take a device down at
once: these may have to go from Link Up to Link Down. -/
theorem moves_run {o : Op} (hOk : ∀ a b, documented a b = true → Ok a b)
    (hDown : ∀ d, o = .isDown d ∨ o = .forceDown d → Ok .up .down) :
    Moves Ok o.device s (o.run w cfg s).2 := by
  have hDoc : ∀ {s : State} (st), documented (s.dev o.device).status st = true →
      Ok (s.dev o.device).status st := fun st h => hOk _ st h
  -- ISDOWN and FORCE_DOWN take the edge from Link Up that the table does not have
  have hAny : ∀ d, o = .isDown d ∨ o = .forceDown d →
      Moves Ok d s (alterToDown w d s).2 := by
    intro d ho
    refine moves_alterToDown fun hNe => ?_
    cases hStatus : (s.dev d).status with
    | up => exact hDown d ho
    | down => exact absurd hStatus hNe
    | connecting => exact hOk _ _ rfl
    | disconnecting => exact hOk _ _ rfl
  cases o with
  | connect c d =>
    have hDial := (moves_setRetries d s cfg.gRetries).trans
      (moves_alterToConnecting w cfg hDoc)
    rw [run_connect]
    rcases connectClientToDevice_cases w cfg c d s with ⟨-, hEq⟩ | ⟨-, -, hEq⟩ | ⟨-, -, hEq⟩ <;>
      rw [hEq]
    · exact moves_noteClient c
    · exact hDial
    · exact hDial.trans (moves_noteClient c)
  | disconnect c d => exact moves_disconnect c hDoc
  | expire c d =>
    rw [run_expire]
    exact moves_disconnect c hDoc
  | isUp d => exact moves_alterToUp hDoc
  | isDown d => exact hAny d (Or.inl rfl)
  | forceDown d =>
    have hAlter := hAny d (Or.inr rfl)
    exact unlessFails_post (fun _ => hAlter) fun _ =>
      hAlter.trans (moves_setClientsConnected d _ [])
  | timeout d =>
    show Moves Ok d s (alterDeviceStatus w cfg d (s.dev d).status s).2
    unfold alterDeviceStatus
    cases hStatus : (s.dev d).status with
    | connecting => exact moves_alterToConnecting w cfg hDoc
    | disconnecting => exact moves_alterToDisconnecting hDoc
    | up => exact moves_alterToUp hDoc
    | down => exact moves_alterToDown fun hNe => absurd hStatus hNe

/-- A message that asks for this device to be taken down at once. -/
def TakesDown (e : Event) (name : CStr) : Prop :=
  match e with
  | .client _ message => clientMessage message = .forceDown name
  | .peer message => peerMessage message = .isdown name
  | _ => False

/-- The changes an event may make to a device of this name. -/
def Edge (e : Event) (name : CStr) (old new : DeviceStatus) : Prop :=
  documented old new = true ∨ (old = .up ∧ new = .down ∧ TakesDown e name)

/-- Where a call comes from that takes a device down at once. -/
def Asked (e : Event) (s₀ : State) (o : Op) (_ : State) : Prop :=
  ∀ d, o = .isDown d ∨ o = .forceDown d → TakesDown e (s₀.dev d).deviceName

/-- A client's request takes a device down at once only when it is a FORCE_DOWN with its name.
-/
theorem clientOp_asked {message : CStr} {o : Op} (cli : SockAddr)
    (h : clientOp c message s = some o) : Asked (.client cli message) s o s := by
  rintro d (rfl | rfl) <;> unfold clientOp at h <;> split at h <;> simp at h
  rename_i name hMsg
  obtain ⟨-, hName, -⟩ := getDevice_some (Prod.ext h rfl)
  exact hMsg.trans (congrArg _ hName.symm)

/-- A notice takes a device down at once only when it is an ISDOWN with its name. -/
theorem peerOp_asked {message : CStr} {o : Op} (h : peerOp message s = some o) :
    Asked (.peer message) s o s := by
  rintro d (rfl | rfl) <;> unfold peerOp at h <;> split at h <;> simp at h
  rename_i name hMsg
  obtain ⟨-, hName, -⟩ := getDevice_some (Prod.ext h rfl)
  exact hMsg.trans (congrArg _ hName.symm)

/-- Only a message that says so makes such a call. -/
theorem stepCalls_asked (w : World) (cfg : Config) (e : Event) (s : State) :
    StepCalls w cfg (Asked e s) e s := by
  intro _
  cases e with
  | client cli message =>
    refine Calls.client fun c s' hKnown o ho d hd => ?_
    have hDev : s'.dev = s.dev := by
      have hSnd : s' = (knownClient w cli (advance w s)).2 := by rw [hKnown]
      rcases knownClient_cases w cli (advance w s) with ⟨c', hEq, -⟩ | ⟨c', s'', hEq, hj, -⟩ |
        ⟨s'', hEq, hq, -⟩ <;> rw [hSnd, hEq]
      · rfl
      · exact hj.dev
      · exact hq.dev
    have hName := clientOp_asked cli ho d hd
    rwa [updateClient_dev, advance_dev, hDev] at hName
  | peer message =>
    intro o ho
    have hAsked := peerOp_asked ho
    exact hAsked
  | timeoutOldClients =>
    exact visits_of_forall (fun c s _ => visits_of_forall (fun d s x hx => by simp at hx) _ _) _ _
  | timeoutOldDevices => exact visits_of_forall (fun d s _ x hx => by simp at hx) _ _

/-- Within one event, every device walks along the edges that the event may take. -/
theorem moves_kept (e : Event) (s₀ : State) :
    Kept w cfg (Asked e s₀) (Everywhere fun d s => Moves (Edge e (s₀.dev d).deviceName) d s₀ s)
      (fun _ => Everywhere fun d s => Moves (Edge e (s₀.dev d).deviceName) d s₀ s) := by
  refine Kept.ofLocal (local_moves _ s₀) fun {o s} h hApplies hAsked => ?_
  refine (h.all _ hApplies.device_mem).trans (moves_run (fun a b h => Or.inl h) ?_)
  intro d ho
  have hDevice : o.device = d := by rcases ho with rfl | rfl <;> rfl
  exact Or.inr ⟨rfl, rfl, hDevice ▸ hAsked d ho⟩

/-- **Every status change is an edge.** In every reachable state and for every event,
the statuses a device is given lead from the one it had to the one it has along edges
of `README.states`, or from Link Up to Link Down when the event is a FORCE_DOWN or
ISDOWN message for it; never from Link Up to Connecting or from Link Down to Link
Up. -/
theorem status_changes_documented (w : World) (cfg : Config) (sections : List DeviceSection)
    (es : List Event) (e : Event) :
    let s := serverRun w cfg es (boot w sections)
    let s' := (step w cfg e s).2
    ∀ d ∈ s.gDevices,
      (∃ new, history d s' = new ++ history d s ∧
        Walk (Edge e (s.dev d).deviceName) (s.dev d).status new (s'.dev d).status) ∧
      ¬ Edge e (s.dev d).deviceName .up .connecting ∧
      ¬ Edge e (s.dev d).deviceName .down .up := by
  intro s s' d hd
  have hStart : Everywhere (fun d s' => Moves (Edge e (s.dev d).deviceName) d s s') s :=
    ⟨wellFormed_run w cfg sections es, fun d _ => Moves.refl d s⟩
  have hAfter := (moves_kept e s).step hStart (stepCalls_asked w cfg e s)
  have hDevices : d ∈ s'.gDevices := gDevices_step hStart.wellFormed e ▸ hd
  exact ⟨hAfter.all d hDevices, by simp [Edge, documented], by simp [Edge, documented]⟩

/-- The peer reports a link down that was up: the device goes from Link Up to Link
Down in one event and by one assignment, which the table lists as impossible. -/
theorem up_to_down_at_once :
    let w := calmWorld 1 []
    let s := serverRun w defaultConfig [aboutPpp clientUp 1, noticeAboutPpp notifyIsup]
      (boot w [pppSection])
    let s' := (step w defaultConfig (noticeAboutPpp notifyIsdown) s).2
    (s.dev 0).status = .up ∧ (s'.dev 0).status = .down ∧ documented .up .down = false ∧
      ∃ t t' r, history 0 s' = [.status t 0 .up .down, .ran t' 0 .linkForceDown r] ++ history 0 s :=
  ⟨by decide +kernel, by decide +kernel, rfl, 1009, 1008, 0, by decide +kernel⟩

end LinkControl
