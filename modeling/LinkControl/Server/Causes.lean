import LinkControl.Server.Local

/-!
# Link server — every effect has a cause

`Calls` says what the calls of an event meet. Turned round, it says what the calls of an event
are: `Makes w cfg e s o s₁` — the event `e`, taken in `s`, makes the call `o` in the state `s₁`.

* `made_by_client` and its siblings — the calls that the four kinds of events make.
* `effect_made` — what an event leaves in the trace has been left by one of its calls.
* `commands_have_causes` — no command is run but for the reasons listed in `Cause`.
-/

namespace LinkControl

open ReturnCode

variable {w : World} {cfg : Config} {e : Event} {o : Op} {c : CliPtr} {d : DevPtr} {s s₁ : State}

/-- One of the calls of the event: it meets all that the calls of the event meet. -/
def Makes (w : World) (cfg : Config) (e : Event) (s : State) (o : Op) (s₁ : State) : Prop :=
  ∀ P : Op → State → Prop, StepCalls w cfg P e s → P o s₁

-- ---------------------------------------------------------------------------
-- The calls of an event
-- ---------------------------------------------------------------------------

/-- What the calls of an event are is met by the calls of the event. -/
theorem stepCalls_makes (w : World) (cfg : Config) (e : Event) (s : State) :
    StepCalls w cfg (Makes w cfg e s) e s := by
  have hAll : ∀ P : { P : Op → State → Prop // StepCalls w cfg P e s }, StepCalls w cfg P.1 e s :=
    fun P => P.2
  intro hAlive
  have hCalls : Calls w cfg (fun o s₁ => ∀ P : { P : Op → State → Prop // StepCalls w cfg P e s },
      P.1 o s₁) e (advance w s) := by
    cases e with
    | client cli message =>
      refine Calls.client fun c s' hKnown o hOp P => ?_
      have h := hAll P hAlive
      rw [Calls, hKnown] at h
      exact h o hOp
    | peer message => exact fun o hOp P => hAll P hAlive o hOp
    | timeoutOldClients =>
      have hLoop := visits_forall fun P => hAll P hAlive
      exact hLoop.mono fun c s' h hOverdue => visits_forall fun P => h P hOverdue
    | timeoutOldDevices =>
      have hLoop := visits_forall fun P => hAll P hAlive
      exact hLoop.mono fun d s' h hDue P => h P hDue
  have hEq : (fun o s₁ => ∀ P : { P : Op → State → Prop // StepCalls w cfg P e s }, P.1 o s₁) =
      Makes w cfg e s :=
    funext fun o => funext fun s₁ => propext ⟨fun h P hP => h ⟨P, hP⟩, fun h P => h P.1 P.2⟩
  exact hEq ▸ hCalls

/-- The calls of a client message. -/
theorem made_by_client {cli : SockAddr} {message : CStr}
    (h : Makes w cfg (.client cli message) s o s₁) : ∃ c s',
      knownClient w cli (advance w s) = (some c, s') ∧ s₁ = updateClient w c cli s' ∧
      clientOp c message s₁ = some o :=
  h (fun o s₁ => ∃ c s', knownClient w cli (advance w s) = (some c, s') ∧
      s₁ = updateClient w c cli s' ∧ clientOp c message s₁ = some o)
    fun _ => Calls.client fun c s' hKnown _ hOp => ⟨c, s', hKnown, rfl, hOp⟩

/-- The calls of a peer message. -/
theorem made_by_peer {message : CStr} (h : Makes w cfg (.peer message) s o s₁) :
    s₁ = advance w s ∧ peerOp message s₁ = some o :=
  h (fun o s₁ => s₁ = advance w s ∧ peerOp message s₁ = some o) fun _ _ hOp => ⟨rfl, hOp⟩

/-- The calls of a sweep over the devices. -/
theorem made_by_timeoutOldDevices (h : Makes w cfg .timeoutOldDevices s o s₁) :
    ∃ d, o = .timeout d ∧ Due cfg d s₁ :=
  h (fun o s₁ => ∃ d, o = .timeout d ∧ Due cfg d s₁)
    fun _ => visits_of_forall (fun d _ hDue => ⟨d, rfl, hDue⟩) _ _

/-- The calls of a sweep over the clients. -/
theorem made_by_timeoutOldClients (h : Makes w cfg .timeoutOldClients s o s₁) :
    ∃ c d, o = .expire c d ∧ Overdue cfg c s₁ := by
  refine h (fun o s₁ => ∃ c d, o = .expire c d ∧ Overdue cfg c s₁) fun _ => ?_
  refine visits_of_forall (fun c s' hOverdue => ?_) _ _
  -- the pass over the devices takes time, but it does not touch `last_heard_from`
  have hPass : Visits (removeClientFromDevice w cfg c) (fun d s₁ => d ∈ s'.gDevices ∧
      Overdue cfg c s₁ ∧ True) s'.gDevices (noteExpired w c s') := visits_invariant
    (P := fun _ _ => True) (I := fun s₁ => Overdue cfg c s₁) (fun d _ s₁ hc _ => ?_)
    (noteExpired w c s') hOverdue (visits_of_forall (fun _ _ => trivial) _ _)
  · exact hPass.mono fun d s₁ hd => ⟨c, d, rfl, hd.2.1⟩
  · have ht := touched_removeClientFromDevice w cfg d s₁ c
    have hClock := ht.clock
    have hHeard := ht.heard c
    unfold Overdue at hc ⊢
    omega

-- ---------------------------------------------------------------------------
-- The effects of an event
-- ---------------------------------------------------------------------------

/-- An effect that this call, made in this state, leaves in the trace. -/
def Leaves (w : World) (cfg : Config) (o : Op) (s : State) (x : Effect) : Prop :=
  ∃ new, (o.run w cfg s).2.trace = new ++ s.trace ∧ x ∈ new

/-- **Every effect of an event has been left by one of its calls**, apart from the notes that a
client has expired. -/
theorem effect_made (h : WellFormed s) (e : Event) {x : Effect}
    (hx : x ∈ (step w cfg e s).2.trace) : x ∈ s.trace ∨ (∃ t a, x = .expired t a) ∨
      ∃ o s₁, Makes w cfg e s o s₁ ∧ WellFormed s₁ ∧ o.Applies cfg s₁ ∧ Leaves w cfg o s₁ x := by
  set Known : State → Prop := fun s' => ∀ x ∈ s'.trace, x ∈ s.trace ∨ (∃ t a, x = .expired t a) ∨
    ∃ o s₁, Makes w cfg e s o s₁ ∧ WellFormed s₁ ∧ o.Applies cfg s₁ ∧ Leaves w cfg o s₁ x
  have hKept : Kept w cfg (Makes w cfg e s) (fun s' => WellFormed s' ∧ Known s')
      fun _ s' => WellFormed s' ∧ Known s' := by
    refine Kept.uniform And.left ?_ ?_ ?_ ?_ ?_
    · exact fun hq h' => ⟨h'.1.quiet hq, fun x hx => h'.2 x (hq.trace ▸ hx)⟩
    · exact fun hj h' => ⟨h'.1.joined hj, fun x hx => h'.2 x (hj.trace ▸ hx)⟩
    · intro s' t a h'
      refine ⟨h'.1.log _, fun x hx => ?_⟩
      rcases List.mem_cons.mp hx with rfl | hx
      · exact Or.inr (Or.inl ⟨t, a, rfl⟩)
      · exact h'.2 x hx
    · intro o s₁ h' hApplies hMade
      refine ⟨h'.1.run hApplies, fun x hx => ?_⟩
      obtain ⟨new, hTrace, -⟩ := (confined_run w cfg o s₁).trace
      rw [hTrace] at hx
      rcases List.mem_append.mp hx with hx | hx
      · exact Or.inr (Or.inr ⟨o, s₁, hMade, h'.1, hApplies, new, hTrace, hx⟩)
      · exact h'.2 x hx
    · exact fun h' _ hGone => ⟨h'.1.dropped hGone, h'.2⟩
  exact (hKept.step ⟨h, fun x hx => Or.inl hx⟩ (stepCalls_makes w cfg e s)).2 x hx

-- ---------------------------------------------------------------------------
-- The commands of a call
-- ---------------------------------------------------------------------------

/-- The call has the command run for its device. -/
def Orders (command : Command) (s : State) : Op → Prop
  | .connect _ d => (s.dev d).clientsConnected = [] ∧
      (command = .linkUp ∧ (s.dev d).status ≠ .up ∨
        command = .linkForceDown ∧ (s.dev d).status = .disconnecting)
  | .disconnect c d | .expire c d => (s.dev d).clientsConnected = [c] ∧
      (command = .linkDown ∧ (s.dev d).status = .up ∨
        command = .linkForceDown ∧ ((s.dev d).status = .connecting ∨
          (s.dev d).status = .disconnecting))
  | .isDown d | .forceDown d => command = .linkForceDown ∧ (s.dev d).status ≠ .disconnecting
  | .timeout d => (s.dev d).status = .connecting ∧
        (command = .linkUp ∧ 0 ≤ (s.dev d).retries ∨
          command = .linkForceDown ∧ (s.dev d).retries < 0) ∨
      (s.dev d).status = .disconnecting ∧ command = .linkForceDown
  | .isUp _ => False

/-- Between the two states commands were run for the device only, and only such as `P`
allows. -/
def Ran (d : DevPtr) (P : Command → Prop) (s s' : State) : Prop :=
  ∃ new, s'.trace = new ++ s.trace ∧
    ∀ t d' command r, .ran t d' command r ∈ new → d' = d ∧ P command

namespace Ran

variable {s' s'' : State} {P Q : Command → Prop}

/-- What was run in two steps. -/
theorem trans (h : Ran d P s s') (h' : Ran d P s' s'') : Ran d P s s'' := by
  obtain ⟨new, hTrace, hNew⟩ := h
  obtain ⟨new', hTrace', hNew'⟩ := h'
  refine ⟨new' ++ new, by rw [hTrace', hTrace, List.append_assoc], fun t d' command r hMem => ?_⟩
  rcases List.mem_append.mp hMem with hMem | hMem
  · exact hNew' t d' command r hMem
  · exact hNew t d' command r hMem

/-- Nothing is left in the trace. -/
theorem of_eq (h : s'.trace = s.trace) : Ran d P s s' := ⟨[], h, by simp⟩

/-- Something other than a command is left in the trace. -/
theorem of_cons {x : Effect} (h : s'.trace = x :: s.trace)
    (hx : ∀ t d command r, x ≠ .ran t d command r) : Ran d P s s' :=
  ⟨[x], h, fun t d' command r hMem => absurd (List.mem_singleton.mp hMem).symm (hx t d' command r)⟩

/-- One command is left in the trace. -/
theorem of_ran {t r : Int} {command : Command} (h : s'.trace = .ran t d command r :: s.trace)
    (hP : P command) : Ran d P s s' := by
  refine ⟨[.ran t d command r], h, fun t' d' command' r' hMem => ?_⟩
  cases List.mem_singleton.mp hMem
  exact ⟨rfl, hP⟩

/-- What a call has left is among the commands that were run. -/
theorem of_leaves {t r : Int} {d' : DevPtr} {command : Command}
    (h : Ran d P s (o.run w cfg s).2) (hx : Leaves w cfg o s (.ran t d' command r)) :
    d' = d ∧ P command := by
  obtain ⟨new, hTrace, hNew⟩ := h
  obtain ⟨new', hTrace', hx⟩ := hx
  rw [List.append_cancel_right (hTrace'.symm.trans hTrace)] at hx
  exact hNew t d' command r hx

end Ran

section Commands

variable (w cfg c d s) {P : Command → Prop}

/-- Killing a connection runs `link_force_down`. -/
theorem ran_forcedDown (hP : P .linkForceDown) : Ran d P s (forcedDown w d s) :=
  Ran.of_ran (forcedDown_trace w d s) hP

theorem ran_setStatus (st : DeviceStatus) : Ran d P s (s.setStatus d st) :=
  Ran.of_cons rfl (by simp)

/-- A dial runs `link_up`, also when it fails. -/
theorem ran_undialled (hP : P .linkUp) : Ran d P s (undialled w d s) :=
  Ran.of_ran (undialled_trace w d s) hP

theorem ran_dialled (hP : P .linkUp) : Ran d P s (dialled w d s) := by
  refine ⟨[.status _ d _ .connecting, .ran _ d .linkUp _], dialled_trace w d s,
    fun t d' command r hMem => ?_⟩
  rcases List.mem_cons.mp hMem with hMem | hMem
  · exact absurd hMem (by simp)
  · cases List.mem_singleton.mp hMem
    exact ⟨rfl, hP⟩

theorem ran_exhausted : Ran d P s (exhausted d s) :=
  Ran.of_cons (exhausted_trace d s) (by simp)

/-- Hanging up runs `link_down` in Link Up, and `link_force_down` elsewhere. -/
theorem ran_hungUp (hP : P (if (s.dev d).status = .up then .linkDown else .linkForceDown)) :
    Ran d P s (hungUp w d s) :=
  Ran.of_ran (hungUp_trace w d s) hP

/-- Getting ready for a dial runs `link_force_down` while disconnecting. -/
theorem ran_readied (hP : (s.dev d).status = .disconnecting → P .linkForceDown) :
    Ran d P s (readied w cfg d s) := by
  unfold readied
  split
  · rename_i hHang
    exact (ran_forcedDown w d s (hP hHang)).trans (Ran.of_eq rfl)
  · exact Ran.of_eq rfl

theorem ran_noteClient : Ran d P s (noteClient w c d s).2 :=
  Ran.of_eq (noted_noteClient w c d s).trace

theorem ran_forgetDevice : Ran d P s (forgetDevice d c s).2 :=
  Ran.of_eq (forgetDevice_trace d s)

end Commands

/-- Connecting dials for the first client, and kills an old connection before. -/
theorem connect_ran (hRetries : 0 ≤ cfg.gRetries) (w : World) (c : CliPtr) (d : DevPtr)
    (s : State) : Ran d (fun command => Orders command s (.connect c d)) s
      (connectClientToDevice w cfg c d s).2 := by
  set s₀ := s.setRetries d cfg.gRetries with hs₀
  have hReset : ∀ {P}, Ran d P s s₀ := Ran.of_eq rfl
  have hStatus : (s₀.dev d).status = (s.dev d).status := by simp [hs₀]
  rcases connect_cases hRetries w c d s with ⟨-, hEq⟩ | ⟨-, -, hEq⟩ | ⟨hFree, hHang, -, hEq⟩ |
    ⟨hFree, hNotUp, -, -, hEq⟩ | ⟨hFree, hNotUp, -, -, hEq⟩ <;> rw [hEq]
  · exact ran_noteClient w c d s
  · exact Ran.of_eq rfl
  · exact hReset.trans (ran_forcedDown w d s₀ ⟨hFree, Or.inr ⟨rfl, hHang⟩⟩)
  · have hReadied := ran_readied w cfg d s₀ (P := fun command => Orders command s (.connect c d))
      fun hHang => ⟨hFree, Or.inr ⟨rfl, hStatus ▸ hHang⟩⟩
    exact (hReset.trans hReadied).trans (ran_undialled w d _ ⟨hFree, Or.inl ⟨rfl, hNotUp⟩⟩)
  · have hReadied := ran_readied w cfg d s₀ (P := fun command => Orders command s (.connect c d))
      fun hHang => ⟨hFree, Or.inr ⟨rfl, hStatus ▸ hHang⟩⟩
    exact ((hReset.trans hReadied).trans
      (ran_dialled w d _ ⟨hFree, Or.inl ⟨rfl, hNotUp⟩⟩)).trans (ran_noteClient w c d _)

/-- Leaving a device hangs it up when nobody is left. -/
theorem disconnect_ran (w : World) (cfg : Config) (c : CliPtr) (d : DevPtr) (s : State) :
    Ran d (fun command => Orders command s (.disconnect c d)) s
      (disconnectClientFromDevice w cfg c d s).2 := by
  have hForget : ∀ {s₁ : State} {P}, Ran d P s₁ (forgetDevice d c s₁).2 :=
    ran_forgetDevice c d _
  set s₀ := s.setClientsConnected d [] with hs₀
  have hEmptied : ∀ {P}, Ran d P s s₀ := Ran.of_eq rfl
  have hStatus : (s₀.dev d).status = (s.dev d).status := by simp [hs₀]
  have hHungUp : (s.dev d).clientsConnected = [c] → (s.dev d).status ≠ .down →
      Ran d (fun command => Orders command s (.disconnect c d)) s (hungUp w d s₀) := by
    intro hAlone hNotDown
    refine hEmptied.trans (ran_hungUp w d s₀ ?_)
    rw [hStatus]
    cases hSt : (s.dev d).status with
    | down => exact absurd hSt hNotDown
    | up => exact ⟨hAlone, Or.inl ⟨rfl, hSt⟩⟩
    | connecting => exact ⟨hAlone, Or.inr ⟨rfl, Or.inl hSt⟩⟩
    | disconnecting => exact ⟨hAlone, Or.inr ⟨rfl, Or.inr hSt⟩⟩
  rcases disconnectClientFromDevice_cases w cfg c d s with ⟨-, hEq⟩ | ⟨-, -, hEq⟩ |
    ⟨-, -, hEq⟩ | ⟨hAlone, hNotDown, -, hEq⟩ | ⟨hAlone, hHang, -, hEq⟩ | ⟨hAlone, hLive, -, hEq⟩ <;>
    rw [hEq]
  · exact (Ran.of_eq rfl).trans hForget
  · exact (Ran.of_eq rfl).trans hForget
  · exact Ran.of_eq rfl
  · exact hHungUp hAlone hNotDown
  · have hKilled := hEmptied.trans (ran_forcedDown w d s₀
      (P := fun command => Orders command s (.disconnect c d)) ⟨hAlone, Or.inr ⟨rfl, Or.inr hHang⟩⟩)
    exact (hKilled.trans (ran_setStatus d _ _)).trans hForget
  · have hNotDown : (s.dev d).status ≠ .down := by rcases hLive with h | h <;> simp [h]
    exact ((hHungUp hAlone hNotDown).trans (ran_setStatus d _ _)).trans hForget

/-- Taking a device down kills it, unless it is disconnecting already. -/
theorem alterToDown_ran (w : World) (d : DevPtr) (s : State) :
    Ran d (fun command => command = .linkForceDown ∧ (s.dev d).status ≠ .disconnecting) s
      (alterToDown w d s).2 := by
  rcases alterToDown_cases w d s with ⟨-, hEq⟩ | ⟨hNot, -, hEq⟩ | ⟨hNot, -, hEq⟩ <;> rw [hEq]
  · exact ran_setStatus d s _
  · exact ran_forcedDown w d s ⟨rfl, hNot⟩
  · exact (ran_forcedDown w d s ⟨rfl, hNot⟩).trans (ran_setStatus d _ _)

/-- **The commands of a call.** They are run for the device of the call, and they are the ones
that it orders. -/
theorem op_ran (hRetries : 0 ≤ cfg.gRetries) (w : World) {o : Op} {s : State}
    (hApplies : o.Applies cfg s) :
    Ran o.device (fun command => Orders command s o) s (o.run w cfg s).2 := by
  cases o with
  | connect c d => exact connect_ran hRetries w c d s
  | disconnect c d => exact disconnect_ran w cfg c d s
  | expire c d =>
    rw [run_expire]
    exact disconnect_ran w cfg c d s
  | isUp d =>
    rw [run_isUp]
    rcases alterToUp_cases w d s with ⟨-, hEq⟩ | ⟨-, hEq⟩ <;> rw [hEq]
    · exact Ran.of_eq rfl
    · exact (Ran.of_eq rfl).trans (ran_setStatus d _ _)
  | isDown d => exact alterToDown_ran w d s
  | forceDown d =>
    have hDown := alterToDown_ran w d s
    exact unlessFails_post (I := fun s' => Ran d _ s s') (fun _ => hDown)
      fun _ => hDown.trans (Ran.of_eq rfl)
  | timeout d =>
    rcases timeout_cases w hApplies.2 with ⟨hSt, hNone, -, hEq⟩ | ⟨hSt, hNone, -, hEq⟩ |
      ⟨hSt, hSome, -, hEq⟩ | ⟨hSt, hSome, -, hEq⟩ | ⟨hSt, -, hEq⟩ | ⟨hSt, -, hEq⟩ <;> rw [hEq]
    · exact (ran_exhausted d s).trans
        (ran_forcedDown w d _ (Or.inl ⟨hSt, Or.inr ⟨rfl, hNone⟩⟩))
    · exact ((ran_exhausted d s).trans
        (ran_forcedDown w d _ (Or.inl ⟨hSt, Or.inr ⟨rfl, hNone⟩⟩))).trans (ran_setStatus d _ _)
    · exact ran_undialled w d s (Or.inl ⟨hSt, Or.inl ⟨rfl, hSome⟩⟩)
    · exact ran_dialled w d s (Or.inl ⟨hSt, Or.inl ⟨rfl, hSome⟩⟩)
    · exact ran_forcedDown w d s (Or.inr ⟨hSt, rfl⟩)
    · exact (ran_forcedDown w d s (Or.inr ⟨hSt, rfl⟩)).trans (ran_setStatus d _ _)

-- ---------------------------------------------------------------------------
-- Causes
-- ---------------------------------------------------------------------------

/-- What the event says asks for the call: a client or the peer names the device, or something
is overdue. -/
def Asks (cfg : Config) (s : State) : Event → Op → Prop
  | .client cli message, .connect c d =>
    clientMessage message = .up (s.dev d).deviceName ∧ (s.cli c).sa = cli
  | .client cli message, .disconnect c d =>
    clientMessage message = .down (s.dev d).deviceName ∧ (s.cli c).sa = cli
  | .client _ message, .forceDown d => clientMessage message = .forceDown (s.dev d).deviceName
  | .peer message, .isUp d => peerMessage message = .isup (s.dev d).deviceName
  | .peer message, .isDown d => peerMessage message = .isdown (s.dev d).deviceName
  | .timeoutOldClients, .expire c _ => Overdue cfg c s
  | .timeoutOldDevices, .timeout d => Due cfg d s
  | _, _ => False

/-- A request asks for its call by name, and for its sender. -/
theorem asks_of_clientOp {cli : SockAddr} {message : CStr} (hSa : (s.cli c).sa = cli)
    (h : clientOp c message s = some o) : Asks cfg s (.client cli message) o := by
  unfold clientOp at h
  split at h <;> rename_i hMessage
  · obtain ⟨d, hGet, rfl⟩ := Option.map_eq_some_iff.mp h
    obtain ⟨-, hName, -⟩ := getDevice_some (Prod.ext hGet rfl)
    exact ⟨hName ▸ hMessage, hSa⟩
  · obtain ⟨d, hGet, rfl⟩ := Option.map_eq_some_iff.mp h
    obtain ⟨-, hName, -⟩ := getDevice_some (Prod.ext hGet rfl)
    exact ⟨hName ▸ hMessage, hSa⟩
  · obtain ⟨d, hGet, rfl⟩ := Option.map_eq_some_iff.mp h
    obtain ⟨-, hName, -⟩ := getDevice_some (Prod.ext hGet rfl)
    exact show clientMessage message = _ from hName ▸ hMessage
  · exact absurd h (by simp)

/-- A notice asks for its call by name. -/
theorem asks_of_peerOp {message : CStr} (h : peerOp message s = some o) :
    Asks cfg s (.peer message) o := by
  unfold peerOp at h
  split at h <;> rename_i hMessage
  · obtain ⟨d, hGet, rfl⟩ := Option.map_eq_some_iff.mp h
    obtain ⟨-, hName, -⟩ := getDevice_some (Prod.ext hGet rfl)
    exact show peerMessage message = _ from hName ▸ hMessage
  · obtain ⟨d, hGet, rfl⟩ := Option.map_eq_some_iff.mp h
    obtain ⟨-, hName, -⟩ := getDevice_some (Prod.ext hGet rfl)
    exact show peerMessage message = _ from hName ▸ hMessage
  · exact absurd h (by simp)

/-- **No call is made unasked.** -/
theorem Makes.asks (h : Makes w cfg e s o s₁) : Asks cfg s₁ e o := by
  cases e with
  | client cli message =>
    obtain ⟨c, s', -, rfl, hOp⟩ := made_by_client h
    exact asks_of_clientOp (by simp) hOp
  | peer message =>
    obtain ⟨-, hOp⟩ := made_by_peer h
    exact asks_of_peerOp hOp
  | timeoutOldClients =>
    obtain ⟨c, d, rfl, hOverdue⟩ := made_by_timeoutOldClients h
    exact hOverdue
  | timeoutOldDevices =>
    obtain ⟨d, rfl, hDue⟩ := made_by_timeoutOldDevices h
    exact hDue

end LinkControl
