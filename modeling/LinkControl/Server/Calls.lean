import LinkControl.Server.WellFormed

/-!
# Link server — the calls behind an event

However an event reaches the lists, it does so through one of seven calls (`Op`):
connecting or disconnecting a client, the three transitions that a message can ask
for directly, the transition of a device whose timeout has passed, and the
disconnection of a client that has expired. A message makes at most one such call; a
sweep makes one for every device, or client and device, that is due.

`Calls w cfg P e s` says that every call made while event `e` is processed from `s`
meets `P` in the state it is made in. It follows the loops of the source, so it
speaks about the calls that really happen, also when a sweep ends early.

`Kept` collects what an invariant has to satisfy, and `Kept.step` and `Kept.run`
are the two inductions over the branches of an event and over a run, done once.
-/

namespace LinkControl

open ReturnCode

/-- The calls that change devices and membership lists. -/
inductive Op where
  | connect (c : CliPtr) (d : DevPtr)
  | disconnect (c : CliPtr) (d : DevPtr)
  | isUp (d : DevPtr)
  | isDown (d : DevPtr)
  | forceDown (d : DevPtr)
  | timeout (d : DevPtr)
  | expire (c : CliPtr) (d : DevPtr)
deriving DecidableEq, Repr

/-- What a call does. -/
def Op.run (w : World) (cfg : Config) : Op → State → Int × State
  | .connect c d, s => connectClientToDevice w cfg c d s
  | .disconnect c d, s => disconnectClientFromDevice w cfg c d s
  | .isUp d, s => alterDeviceStatus w cfg d .up s
  | .isDown d, s => alterDeviceStatus w cfg d .down s
  | .forceDown d, s => unlessFails (alterDeviceStatus w cfg d .down s)
      (removeAllClientsFromDevice d)
  | .timeout d, s => alterDeviceStatus w cfg d (s.dev d).status s
  | .expire c d, s => removeClientFromDevice w cfg c d s

/-- The device a call is about. -/
def Op.device : Op → DevPtr
  | .connect _ d | .disconnect _ d | .expire _ d => d
  | .isUp d | .isDown d | .forceDown d | .timeout d => d

/-- The call a client message makes, if it makes one. -/
def clientOp (c : CliPtr) (message : CStr) (s : State) : Option Op :=
  match clientMessage message with
  | .up name => (getDevice s.gDevices name s).1.map (.connect c)
  | .down name => (getDevice (s.cli c).devicesConnected name s).1.map (.disconnect c)
  | .forceDown name => (getDevice s.gDevices name s).1.map .forceDown
  | _ => none

/-- The call a peer message makes, if it makes one. -/
def peerOp (message : CStr) (s : State) : Option Op :=
  match peerMessage message with
  | .isup name => (getDevice s.gDevices name s).1.map .isUp
  | .isdown name => (getDevice s.gDevices name s).1.map .isDown
  | .unknown => none

/-- The device has been connecting, or disconnecting, for longer than it may. -/
def Due (cfg : Config) (d : DevPtr) (s : State) : Prop :=
  ((s.dev d).status = .connecting ∧ (s.dev d).connectTime + cfg.gConnectTimeout < s.clock) ∨
  ((s.dev d).status = .disconnecting ∧
    (s.dev d).connectTime + cfg.gDisconnectTimeout < s.clock)

/-- The client has not been heard from for longer than it may. -/
def Overdue (cfg : Config) (c : CliPtr) (s : State) : Prop :=
  s.clock > (s.cli c).lastHeardFrom + cfg.gClientTimeout

instance (cfg : Config) (d : DevPtr) (s : State) : Decidable (Due cfg d s) :=
  inferInstanceAs (Decidable (_ ∨ _))

instance (cfg : Config) (c : CliPtr) (s : State) : Decidable (Overdue cfg c s) :=
  inferInstanceAs (Decidable (_ > _))

/-- The state in which the devices of an overdue client are gone through. -/
def noteExpired (w : World) (c : CliPtr) (s : State) : State :=
  (advance w s).log (.expired (advance w s).clock (s.cli c).sa.addr)

/-- The call that a message makes once its sender is known, if there is memory to know
it, meets `P`. -/
def ClientCalls (w : World) (P : Op → State → Prop) (cli : SockAddr) (message : CStr) :
    Option CliPtr × State → Prop
  | (none, _) => True
  | (some c, s) => ∀ o, clientOp c message (updateClient w c cli s) = some o →
      P o (updateClient w c cli s)

/-- Every call made by `handle w cfg e s` meets `P` in the state it is made in. -/
def Calls (w : World) (cfg : Config) (P : Op → State → Prop) : Event → State → Prop
  | .client cli message, s => ClientCalls w P cli message (knownClient w cli s)
  | .peer message, s => ∀ o, peerOp message s = some o → P o s
  | .timeoutOldClients, s =>
    Visits (timeoutOldClient w cfg) (fun c s => Overdue cfg c (advance w s) →
      Visits (removeClientFromDevice w cfg c) (fun d s => P (.expire c d) s)
        s.gDevices (noteExpired w c s)) s.gClients s
  | .timeoutOldDevices, s =>
    Visits (timeoutOldDevice w cfg) (fun d s => Due cfg d (advance w s) →
      P (.timeout d) (advance w s)) s.gDevices s

/-- A condition on the call that is made, if one is. -/
instance {p : Op → Prop} [∀ o, Decidable (p o)] :
    ∀ called : Option Op, Decidable (∀ o, called = some o → p o)
  | none => isTrue nofun
  | some o => decidable_of_iff (p o) ⟨fun h _ hEq => Option.some.inj hEq ▸ h, fun h => h o rfl⟩

instance (w : World) {P : Op → State → Prop} [∀ o s, Decidable (P o s)] (cli : SockAddr)
    (message : CStr) : ∀ known, Decidable (ClientCalls w P cli message known)
  | (none, _) => isTrue trivial
  | (some c, s) => inferInstanceAs
    (Decidable (∀ o, clientOp c message (updateClient w c cli s) = some o → P o _))

instance Calls.decidable (w : World) (cfg : Config) {P : Op → State → Prop}
    [∀ o s, Decidable (P o s)] : ∀ e s, Decidable (Calls w cfg P e s)
  | .client cli message, s =>
    inferInstanceAs (Decidable (ClientCalls w P cli message (knownClient w cli s)))
  | .peer message, s =>
    inferInstanceAs (Decidable (∀ o, peerOp message s = some o → P o s))
  | .timeoutOldClients, s => inferInstanceAs (Decidable (Visits _ _ s.gClients s))
  | .timeoutOldDevices, s => inferInstanceAs (Decidable (Visits _ _ s.gDevices s))

/-- A client message makes its call as the client it comes from. -/
theorem Calls.client {w : World} {cfg : Config} {P : Op → State → Prop} {cli : SockAddr}
    {message : CStr} {s : State}
    (h : ∀ c s', knownClient w cli s = (some c, s') → ∀ o,
      clientOp c message (updateClient w c cli s') = some o → P o (updateClient w c cli s')) :
    Calls w cfg P (.client cli message) s := by
  rw [Calls]
  rcases hKnown : knownClient w cli s with ⟨_ | c, s'⟩
  · trivial
  · exact h c s' hKnown

/-- Every call made in one step meets `P`. -/
def StepCalls (w : World) (cfg : Config) (P : Op → State → Prop) (e : Event) (s : State) : Prop :=
  s.crashed = false → Calls w cfg P e (advance w s)

instance (w : World) (cfg : Config) {P : Op → State → Prop} [∀ o s, Decidable (P o s)]
    (e : Event) (s : State) : Decidable (StepCalls w cfg P e s) :=
  inferInstanceAs (Decidable (s.crashed = false → Calls w cfg P e (advance w s)))

/-- The pointers of a call are listed, and a timeout call comes when it is due. -/
def Op.Applies (cfg : Config) (s : State) : Op → Prop
  | .connect c d | .disconnect c d | .expire c d => c ∈ s.gClients ∧ d ∈ s.gDevices
  | .isUp d | .isDown d | .forceDown d => d ∈ s.gDevices
  | .timeout d => d ∈ s.gDevices ∧ Due cfg d s

-- ---------------------------------------------------------------------------
-- Each function in terms of its call
-- ---------------------------------------------------------------------------

section Branches

variable (w : World) (cfg : Config)

/-- A client message that makes a call does nothing else, and fails when it does. -/
theorem clientRequest_of_op {c : CliPtr} {message : CStr} {s : State} {o : Op}
    (h : clientOp c message s = some o) :
    clientRequest w cfg c message s = unlessFails (o.run w cfg s) fun s => (0, s) := by
  unfold clientOp at h
  unfold clientRequest
  cases hMsg : clientMessage message with
  | up name =>
    simp only [hMsg] at h ⊢
    rcases hGet : getDevice s.gDevices name s with ⟨_ | d, s'⟩
    · simp [hGet] at h
    · obtain ⟨-, -, rfl⟩ := getDevice_some hGet
      obtain rfl : Op.connect c d = o := by simpa [hGet] using h
      rfl
  | down name =>
    simp only [hMsg] at h ⊢
    rcases hGet : getDevice (s.cli c).devicesConnected name s with ⟨_ | d, s'⟩
    · simp [hGet] at h
    · obtain ⟨-, -, rfl⟩ := getDevice_some hGet
      obtain rfl : Op.disconnect c d = o := by simpa [hGet] using h
      rfl
  | forceDown name =>
    simp only [hMsg] at h ⊢
    rcases hGet : getDevice s.gDevices name s with ⟨_ | d, s'⟩
    · simp [hGet] at h
    · obtain ⟨-, -, rfl⟩ := getDevice_some hGet
      obtain rfl : Op.forceDown d = o := by simpa [hGet] using h
      dsimp only [Op.run, unlessFails]
      split
      · simp
      · rfl
  | _ => simp [hMsg] at h

/-- A client message that makes no call is quiet. -/
theorem clientRequest_of_none {c : CliPtr} {message : CStr} {s : State}
    (h : clientOp c message s = none) : Quiet s (clientRequest w cfg c message s).2 := by
  unfold clientOp at h
  unfold clientRequest
  cases hMsg : clientMessage message with
  | ping => exact Quiet.refl s
  | devices => exact quiet_sendDeviceList w c s
  | up name =>
    have hq := quiet_getDevice s.gDevices name s
    rcases hGet : getDevice s.gDevices name s with ⟨_ | d, s'⟩
    · rw [hGet] at hq
      simpa only [hGet] using hq
    · simp [hMsg, hGet] at h
  | down name =>
    have hq := quiet_getDevice (s.cli c).devicesConnected name s
    rcases hGet : getDevice (s.cli c).devicesConnected name s with ⟨_ | d, s'⟩
    · rw [hGet] at hq
      simpa only [hGet] using hq
    · simp [hMsg, hGet] at h
  | forceDown name =>
    have hq := quiet_getDevice s.gDevices name s
    rcases hGet : getDevice s.gDevices name s with ⟨_ | d, s'⟩
    · rw [hGet] at hq
      simpa only [hGet] using hq.trans (quiet_setErrno s' .enodev)
    · simp [hMsg, hGet] at h
  | status name =>
    have hq := quiet_getDevice s.gDevices name s
    dsimp only
    rcases hGet : getDevice s.gDevices name s with ⟨_ | d, s'⟩ <;> rw [hGet] at hq
    · exact hq
    · exact hq.trans (quiet_sendDeviceStatus w c d s')
  | clientStatus => exact quiet_sendClientStatus w c s
  | unknown => exact quiet_setErrno s _

/-- A peer message that makes a call leaves the state of the call. -/
theorem processPeer_of_op {message : CStr} {s : State} {o : Op}
    (h : peerOp message s = some o) :
    (processPeer w cfg message s).2 = (o.run w cfg s).2 := by
  unfold peerOp at h
  unfold processPeer
  cases hMsg : peerMessage message with
  | isup name =>
    simp only [hMsg] at h ⊢
    rcases hGet : getDevice s.gDevices name s with ⟨_ | d, s'⟩
    · simp [hGet] at h
    · obtain ⟨-, -, rfl⟩ := getDevice_some hGet
      obtain rfl : Op.isUp d = o := by simpa [hGet] using h
      rfl
  | isdown name =>
    simp only [hMsg] at h ⊢
    rcases hGet : getDevice s.gDevices name s with ⟨_ | d, s'⟩
    · simp [hGet] at h
    · obtain ⟨-, -, rfl⟩ := getDevice_some hGet
      obtain rfl : Op.isDown d = o := by simpa [hGet] using h
      rfl
  | unknown => simp [hMsg] at h

/-- A peer message that makes no call is quiet. -/
theorem processPeer_of_none {message : CStr} {s : State} (h : peerOp message s = none) :
    Quiet s (processPeer w cfg message s).2 := by
  unfold peerOp at h
  unfold processPeer
  cases hMsg : peerMessage message with
  | isup name =>
    have hq := quiet_getDevice s.gDevices name s
    rcases hGet : getDevice s.gDevices name s with ⟨_ | d, s'⟩
    · rw [hGet] at hq
      simpa only [hGet] using hq
    · simp [hMsg, hGet] at h
  | isdown name =>
    have hq := quiet_getDevice s.gDevices name s
    rcases hGet : getDevice s.gDevices name s with ⟨_ | d, s'⟩
    · rw [hGet] at hq
      simpa only [hGet] using hq
    · simp [hMsg, hGet] at h
  | unknown => exact quiet_setErrno s _

/-- A sweep acts on a device exactly when it is due. -/
theorem timeoutOldDevice_of_due {d : DevPtr} {s : State} (h : Due cfg d (advance w s)) :
    timeoutOldDevice w cfg d s =
      unlessFails ((Op.timeout d).run w cfg (advance w s)) fun s => (0, s) := by
  unfold timeoutOldDevice
  rcases h with ⟨hStatus, hLate⟩ | ⟨hStatus, hLate⟩ <;> rw [advance_dev] at hStatus hLate <;>
    simp only [hStatus, if_pos hLate, Op.run, advance_dev]

theorem timeoutOldDevice_snd_of_due {d : DevPtr} {s : State} (h : Due cfg d (advance w s)) :
    (timeoutOldDevice w cfg d s).2 = ((Op.timeout d).run w cfg (advance w s)).2 := by
  rw [timeoutOldDevice_of_due w cfg h, unlessFails_done]

theorem timeoutOldDevice_of_not_due {d : DevPtr} {s : State} (h : ¬ Due cfg d (advance w s)) :
    (timeoutOldDevice w cfg d s).1 = 0 ∧ Quiet s (timeoutOldDevice w cfg d s).2 := by
  unfold timeoutOldDevice
  cases hStatus : (s.dev d).status with
  | connecting =>
    have hLate : ¬ ((advance w s).dev d).connectTime + cfg.gConnectTimeout < (advance w s).clock :=
      fun hLate => h (Or.inl ⟨hStatus, hLate⟩)
    simp only [if_neg hLate, true_and]
    exact quiet_advance w s
  | disconnecting =>
    have hLate : ¬ ((advance w s).dev d).connectTime + cfg.gDisconnectTimeout <
        (advance w s).clock := fun hLate => h (Or.inr ⟨hStatus, hLate⟩)
    simp only [if_neg hLate, true_and]
    exact quiet_advance w s
  | _ => exact ⟨rfl, Quiet.refl s⟩

/-- One round of the sweep over the devices touches its own device only. -/
theorem touched_timeoutOldDevice (d : DevPtr) (s : State) :
    Touched d s (timeoutOldDevice w cfg d s).2 := by
  by_cases hDue : Due cfg d (advance w s)
  · have ht := (touched_advance w d s).trans
      (touched_alterDeviceStatus w cfg d (advance w s) ((advance w s).dev d).status)
    rw [timeoutOldDevice_of_due w cfg hDue]
    exact unlessFails_post (fun _ => ht) fun _ => ht
  · unfold timeoutOldDevice
    split
    · dsimp only
      split
      · rename_i hStatus hLate
        exact absurd (Or.inl ⟨hStatus, hLate⟩) hDue
      · exact touched_advance w d s
    · dsimp only
      split
      · rename_i hStatus hLate
        exact absurd (Or.inr ⟨hStatus, hLate⟩) hDue
      · exact touched_advance w d s
    · exact Touched.refl d s
    · exact Touched.refl d s

/-- A sweep drops a client exactly when it is overdue, after its devices. -/
theorem timeoutOldClient_of_overdue {c : CliPtr} {s : State}
    (h : Overdue cfg c (advance w s)) :
    timeoutOldClient w cfg c s =
      unlessFails (removeClientFromAllDevices w cfg c (noteExpired w c s)) (dropClient c) :=
  if_pos h

theorem timeoutOldClient_of_not_overdue {c : CliPtr} {s : State}
    (h : ¬ Overdue cfg c (advance w s)) :
    timeoutOldClient w cfg c s = (0, advance w s) :=
  if_neg h

/-- Dropping a listed client. -/
theorem dropClient_of_mem {c : CliPtr} {s : State} (h : c ∈ s.gClients) :
    dropClient c s = (0, { s with gClients := s.gClients.erase c }) := by
  unfold dropClient rmClient
  rw [rmCell_eq, if_pos h]

/-- The first part of `process_client` finds the client, enters it, or runs out of
memory. -/
theorem knownClient_cases (cli : SockAddr) (s : State) :
    (∃ c, knownClient w cli s = (some c, s) ∧ c ∈ s.gClients ∧
      (s.cli c).sa.addr = cli.addr) ∨
    (∃ c s', knownClient w cli s = (some c, s') ∧ Joined c s s' ∧ (s'.cli c).sa = cli ∧
      s'.commands = s.commands ∧ s'.mallocs = s.mallocs + 2) ∨
    (∃ s', knownClient w cli s = (none, s') ∧ Quiet s s' ∧
      ∃ k, s.mallocs ≤ k ∧ k < s'.mallocs ∧ w.malloc k = none) := by
  unfold knownClient
  rcases hGet : getClient s.gClients cli.addr s with ⟨_ | c, s'⟩
  · obtain ⟨hNone, rfl⟩ := getClient_none hGet
    dsimp only
    unfold malloc
    cases hm : w.malloc (s.setErrno .enodev).mallocs with
    | none =>
      exact Or.inr (Or.inr ⟨_, rfl, { Quiet.refl s with }, s.mallocs, le_rfl,
        Nat.lt_succ_self _, hm⟩)
    | some p =>
      dsimp only
      set s₁ : State := { s.setErrno .enodev with
        mallocs := (s.setErrno .enodev).mallocs + 1 } with hs₁
      set c := freshClient s₁ p with hc
      set s₂ : State := { s₁ with cli := Function.update s₁.cli c ⟨cli, 0, []⟩ } with hs₂
      have hFresh : c ∉ s.gClients := freshClient_not_mem s₁ p
      have hOld : ∀ x ∈ s.gClients, s₂.cli x = s.cli x := fun x hx =>
        Function.update_of_ne (fun hEq : x = c => hFresh (hEq ▸ hx)) _ _
      have hSelf : s₂.cli c = ⟨cli, 0, []⟩ := Function.update_self ..
      have hAdd : addClient w s₂.gClients c s₂ =
          appendCell w s₂.gClients c (s₂.setErrno .enodev) := by
        unfold addClient
        rcases hGet' : getClient s₂.gClients (s₂.cli c).sa.addr s₂ with ⟨_ | c', s'⟩
        · obtain ⟨-, rfl⟩ := getClient_none hGet'
          rfl
        · obtain ⟨hMem, hAddr, -⟩ := getClient_some hGet'
          rw [hSelf, hOld c' hMem] at hAddr
          exact absurd hAddr (hNone c' hMem)
      rw [hAdd]
      rcases appendCell_cases w (s₂.setErrno .enodev) (show c ∉ s₂.gClients from hFresh) with
        ⟨hm', hEq⟩ | ⟨hm', hEq⟩ <;> rw [hEq]
      · refine Or.inr (Or.inr ⟨_, rfl, ?_, s.mallocs + 1, Nat.le_succ _, Nat.lt_succ_self _, hm'⟩)
        exact { Quiet.refl s with
          addr := fun x hx => by simp only [State.setErrno_cli, hOld x hx]
          devices := fun x hx => by simp only [State.setErrno_cli, hOld x hx] }
      · refine Or.inr (Or.inl ⟨c, _, rfl, ?_, congrArg Client.sa hSelf, rfl, rfl⟩)
        exact {
          dev := rfl
          gDevices := rfl
          gClients := rfl
          fresh := hFresh
          trace := rfl
          clock := le_rfl
          old := hOld
          addr := fun x hx => by
            show (s.cli x).sa.addr ≠ (s₂.cli c).sa.addr
            rw [hSelf]
            exact hNone x hx
          devices := congrArg Client.devicesConnected hSelf }
  · obtain ⟨hMem, hAddr, rfl⟩ := getClient_some hGet
    exact Or.inl ⟨c, rfl, hMem, hAddr⟩

end Branches

end LinkControl
