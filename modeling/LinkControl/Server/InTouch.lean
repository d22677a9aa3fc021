import LinkControl.Server.Sending
import LinkControl.Server.Integrity

/-!
# Link server — clients that keep in touch

A client says PING now and then "to let the server know it's still alive". `expired_after_silence`
is what it gets for it: a client that the server gives up has not been heard of for longer than
the client timeout, counted from the last of its datagrams, whatever it asked for and whatever
came of it.

A datagram brings the entry of its sender up to date, or makes one, and leaves the others as they
are (`Heard`). Everything else leaves all of them as they are, and makes no entries (`Steady`),
but for the sweep, which looks at what is there (`InTouch`).
-/

namespace LinkControl

open ReturnCode

variable {w : World} {cfg : Config} {c : CliPtr} {d : DevPtr} {a : Nat} {T : Int}
  {past : List Effect} {cs : List CliPtr} {s s' s'' : State}

/-- What has been done since then, without the expiry of a client. -/
def Unexpired (s s' : State) : Prop :=
  ∃ new, s'.trace = new ++ s.trace ∧ ∀ t a, .expired t a ∉ new

/-- No client is made, heard of, or given up. -/
structure Steady (s s' : State) : Prop where
  gClients : s'.gClients.Sublist s.gClients
  sa : ∀ c, (s'.cli c).sa = (s.cli c).sa
  heard : ∀ c, (s'.cli c).lastHeardFrom = (s.cli c).lastHeardFrom
  clock : s.clock ≤ s'.clock
  unexpired : Unexpired s s'

/-- A datagram from this address has been read: the clients that are there are the sender, who
has just been heard of, and others, who were there before and have not been heard of since. -/
structure Heard (a : Nat) (s s' : State) : Prop where
  clock : s.clock ≤ s'.clock
  unexpired : Unexpired s s'
  sender : ∀ c ∈ s'.gClients, (s'.cli c).sa.addr = a → s.clock ≤ (s'.cli c).lastHeardFrom
  others : ∀ c ∈ s'.gClients, (s'.cli c).sa.addr ≠ a → c ∈ s.gClients ∧
    (s.cli c).sa.addr = (s'.cli c).sa.addr ∧ (s.cli c).lastHeardFrom = (s'.cli c).lastHeardFrom

/-- The client at this address was last heard of at `T` or later, as far as it is one of `cs`, and
if it has been given up since `past`, more time than the client timeout has passed by then. -/
structure InTouch (cfg : Config) (a : Nat) (T : Int) (past : List Effect) (cs : List CliPtr)
    (s : State) : Prop where
  clock : T ≤ s.clock
  heard : ∀ c ∈ cs, (s.cli c).sa.addr = a → T ≤ (s.cli c).lastHeardFrom
  expired : ∃ new, s.trace = new ++ past ∧ ∀ t, .expired t a ∈ new → T + cfg.gClientTimeout < t

-- ---------------------------------------------------------------------------
-- Steady changes
-- ---------------------------------------------------------------------------

/-- Where nothing was done, nobody has expired. -/
theorem Unexpired.of_eq (h : s'.trace = s.trace) : Unexpired s s' := ⟨[], h, by simp⟩

/-- Composition. -/
theorem Unexpired.trans (h : Unexpired s s') (h' : Unexpired s' s'') : Unexpired s s'' := by
  obtain ⟨new, hTrace, hNew⟩ := h
  obtain ⟨new', hTrace', hNew'⟩ := h'
  refine ⟨new' ++ new, by rw [hTrace', hTrace, List.append_assoc], fun t a hMem => ?_⟩
  rcases List.mem_append.mp hMem with hMem | hMem
  · exact hNew' t a hMem
  · exact hNew t a hMem

namespace Steady

theorem refl (s : State) : Steady s s :=
  ⟨List.Sublist.refl _, fun _ => rfl, fun _ => rfl, le_rfl, .of_eq rfl⟩

theorem trans (h : Steady s s') (h' : Steady s' s'') : Steady s s'' where
  gClients := h'.gClients.trans h.gClients
  sa c := (h'.sa c).trans (h.sa c)
  heard c := (h'.heard c).trans (h.heard c)
  clock := h.clock.trans h'.clock
  unexpired := h.unexpired.trans h'.unexpired

end Steady

/-- What touches one device expires nobody. -/
theorem Touched.steady (h : Touched d s s') : Steady s s' := by
  obtain ⟨new, hTrace, hNew⟩ := h.trace
  refine ⟨h.gClients ▸ List.Sublist.refl _, h.sa, h.heard, h.clock, new, hTrace, ?_⟩
  intro t a hMem
  exact absurd (hNew _ hMem).1 (by simp [Effect.device])

/-- Neither does a quiet change that leaves the clients as they are. -/
theorem Quiet.steady (h : Quiet s s') (hCli : s'.cli = s.cli) : Steady s s' :=
  ⟨h.gClients ▸ List.Sublist.refl _, fun c => by rw [hCli], fun c => by rw [hCli], h.clock,
    .of_eq h.trace⟩

theorem steady_noteDevice (w : World) (c : CliPtr) (d : DevPtr) (s : State) :
    Steady s (noteDevice w c d s).2 := by
  rcases noteDevice_cases w c d s with ⟨-, hEq⟩ | ⟨-, -, hEq⟩ | ⟨-, -, hEq⟩ <;> rw [hEq]
  · exact { Steady.refl s with }
  · exact { Steady.refl s with }
  · refine ⟨List.Sublist.refl _, fun x => ?_, fun x => ?_, le_rfl, .of_eq rfl⟩ <;>
      rcases eq_or_ne x c with rfl | hOther
    · simp
    · simp [hOther]
    · simp
    · simp [hOther]

/-- Noting a client at a device expires nobody. -/
theorem steady_noteClient (w : World) (c : CliPtr) (d : DevPtr) (s : State) :
    Steady s (noteClient w c d s).2 := by
  rcases noteClient_cases w c d s with ⟨-, hEq⟩ | ⟨-, -, hEq⟩ | ⟨-, -, hEq⟩ <;> rw [hEq]
  · exact (touched_setErrno d s _).steady.trans (steady_noteDevice w c d _)
  · exact { Steady.refl s with }
  · refine Steady.trans ?_ (steady_noteDevice w c d _)
    exact { Steady.refl s with }

/-- Calls are steady. -/
theorem steady_run (w : World) (cfg : Config) (o : Op) (s : State) :
    Steady s (o.run w cfg s).2 := by
  cases o with
  | connect c d =>
    have hDial := (touched_setRetries d s cfg.gRetries).trans
      (touched_alterDeviceStatus w cfg d (s.setRetries d cfg.gRetries) .connecting)
    rcases connectClientToDevice_cases w cfg c d s with ⟨-, hEq⟩ | ⟨-, -, hEq⟩ | ⟨-, -, hEq⟩ <;>
      rw [run_connect, hEq]
    · exact steady_noteClient w c d s
    · exact hDial.steady
    · exact hDial.steady.trans (steady_noteClient w c d _)
  | _ => exact (touched_run (by simp)).steady

-- ---------------------------------------------------------------------------
-- Requests
-- ---------------------------------------------------------------------------

theorem sendReply_cli (w : World) (c : CliPtr) (text : CStr) (s : State) :
    (sendReply w c text s).2.cli = s.cli := by
  unfold sendReply
  split <;> rfl

theorem sendDeviceList_cli (w : World) (c : CliPtr) (s : State) :
    (sendDeviceList w c s).2.cli = s.cli := by
  have hMalloc := malloc_cli w s
  unfold sendDeviceList
  split <;> rename_i hEq <;> rw [hEq] at hMalloc
  · exact hMalloc
  · rename_i s₁
    have hLoop := (appendDevices_cli w s₁.gDevices serverDevices s₁).trans hMalloc
    split <;> rename_i hEq' <;> rw [hEq'] at hLoop
    · exact hLoop
    · exact (sendReply_cli w c _ _).trans hLoop

theorem sendDeviceStatus_cli (w : World) (c : CliPtr) (d : DevPtr) (s : State) :
    (sendDeviceStatus w c d s).2.cli = s.cli := by
  have hMalloc := malloc_cli w s
  unfold sendDeviceStatus
  split <;> rename_i hEq <;> rw [hEq] at hMalloc
  · exact hMalloc
  · rename_i s₁
    have hPrint := (printDeviceStatus_cli w d s₁).trans hMalloc
    split <;> rename_i hEq' <;> rw [hEq'] at hPrint
    · exact hPrint
    · exact (sendReply_cli w c _ _).trans hPrint

theorem sendClientStatus_cli (w : World) (c : CliPtr) (s : State) :
    (sendClientStatus w c s).2.cli = s.cli := by
  have hMalloc := malloc_cli w s
  unfold sendClientStatus
  split <;> rename_i hEq <;> rw [hEq] at hMalloc
  · exact hMalloc
  · rename_i s₁
    split
    · exact (sendReply_cli w c _ _).trans hMalloc
    · rename_i d rest hDevices
      have hAgain := (malloc_cli w s₁).trans hMalloc
      rcases hSecond : malloc w s₁ with ⟨_ | p, s₂⟩ <;> rw [hSecond] at hAgain
      · exact hAgain
      · have hLoop := (appendNames_cli w rest (serverClientStatus ++ (s₂.dev d).deviceName)
          s₂).trans hAgain
        dsimp only
        split <;> rename_i hEq' <;> rw [hEq'] at hLoop
        · exact hLoop
        · exact (sendReply_cli w c _ _).trans hLoop

theorem getDevice_cli (pp : List DevPtr) (name : CStr) (s : State) :
    (getDevice pp name s).2.cli = s.cli := by
  unfold getDevice
  split <;> rfl

/-- A request that makes no call leaves the clients as they are. -/
theorem clientRequest_cli (w : World) (cfg : Config) {message : CStr}
    (h : clientOp c message s = none) : (clientRequest w cfg c message s).2.cli = s.cli := by
  unfold clientOp at h
  unfold clientRequest
  cases hMsg : clientMessage message with
  | ping => rfl
  | unknown => rfl
  | devices => exact sendDeviceList_cli w c s
  | clientStatus => exact sendClientStatus_cli w c s
  | status name =>
    have hGet := getDevice_cli s.gDevices name s
    dsimp only
    rcases hDevice : getDevice s.gDevices name s with ⟨_ | d, s₁⟩ <;> rw [hDevice] at hGet
    · exact hGet
    · exact (sendDeviceStatus_cli w c d s₁).trans hGet
  | up name =>
    have hGet := getDevice_cli s.gDevices name s
    rcases hDevice : getDevice s.gDevices name s with ⟨_ | d, s₁⟩ <;> rw [hDevice] at hGet
    · simpa only [hDevice] using hGet
    · simp [hMsg, hDevice] at h
  | down name =>
    have hGet := getDevice_cli (s.cli c).devicesConnected name s
    rcases hDevice : getDevice (s.cli c).devicesConnected name s with ⟨_ | d, s₁⟩ <;>
      rw [hDevice] at hGet
    · simpa only [hDevice] using hGet
    · simp [hMsg, hDevice] at h
  | forceDown name =>
    have hGet := getDevice_cli s.gDevices name s
    rcases hDevice : getDevice s.gDevices name s with ⟨_ | d, s₁⟩ <;> rw [hDevice] at hGet
    · have hErrno : (s₁.setErrno .enodev).cli = s.cli := hGet
      simpa only [hDevice] using hErrno
    · simp [hMsg, hDevice] at h

/-- No request makes, hears of or expires a client. -/
theorem steady_clientRequest (w : World) (cfg : Config) (c : CliPtr) (message : CStr) (s : State) :
    Steady s (clientRequest w cfg c message s).2 := by
  cases hOp : clientOp c message s with
  | none => exact (clientRequest_of_none w cfg hOp).steady (clientRequest_cli w cfg hOp)
  | some o =>
    rw [clientRequest_of_op w cfg hOp, unlessFails_done]
    exact steady_run w cfg o s

/-- Neither does a notice of the peer. -/
theorem steady_processPeer (w : World) (cfg : Config) (message : CStr) (s : State) :
    Steady s (processPeer w cfg message s).2 := by
  cases hOp : peerOp message s with
  | none =>
    obtain ⟨e, hErrno⟩ := processPeer_errno w cfg hOp
    rw [hErrno]
    exact (touched_setErrno 0 s e).steady
  | some o =>
    rw [processPeer_of_op w cfg hOp]
    exact steady_run w cfg o s

-- ---------------------------------------------------------------------------
-- The sender of a datagram
-- ---------------------------------------------------------------------------

theorem getClient_cli (pp : List CliPtr) (addr : Nat) (s : State) :
    (getClient pp addr s).2.cli = s.cli := by
  unfold getClient
  split <;> rfl

theorem appendCell_cli (w : World) (pp : List Nat) (p : Nat) (s : State) :
    (appendCell w pp p s).2.cli = s.cli := by
  have hMalloc := malloc_cli w s
  unfold appendCell
  split <;> rename_i hEq <;> rw [hEq] at hMalloc
  · exact hMalloc
  · split <;> exact hMalloc

theorem addClient_cli (w : World) (pp : List CliPtr) (new : CliPtr) (s : State) :
    (addClient w pp new s).2.cli = s.cli := by
  have hGet := getClient_cli pp (s.cli new).sa.addr s
  unfold addClient
  split <;> rename_i hEq <;> rw [hEq] at hGet
  · exact hGet
  · exact (appendCell_cli w pp new _).trans hGet

/-- Without memory the sender is not known, and the clients that are stay as they are. -/
theorem knownClient_none {cli : SockAddr} (h : (knownClient w cli s).1 = none) :
    ∀ c ∈ s.gClients, (s.cli c).sa.addr ≠ cli.addr ∧
      (knownClient w cli s).2.cli c = s.cli c := by
  unfold knownClient at h ⊢
  rcases hGet : getClient s.gClients cli.addr s with ⟨_ | c, s₁⟩ <;> rw [hGet] at h
  · obtain ⟨hNobody, rfl⟩ := getClient_none hGet
    intro x hx
    refine ⟨hNobody x hx, ?_⟩
    dsimp only
    have hMalloc := malloc_cli w (s.setErrno .enodev)
    have hSame := (quiet_malloc w (s.setErrno .enodev)).gClients
    rcases hFirst : malloc w (s.setErrno .enodev) with ⟨_ | p, s₂⟩ <;>
      rw [hFirst] at hMalloc hSame
    · exact congrFun hMalloc x
    · -- the entry that is filled in is none of the old ones
      have hFresh : x ≠ freshClient s₂ p := by
        rintro rfl
        exact freshClient_not_mem s₂ p (show _ ∈ s₂.gClients from hSame ▸ hx)
      have hAdd := addClient_cli w s₂.gClients (freshClient s₂ p)
        { s₂ with cli := Function.update s₂.cli (freshClient s₂ p) ⟨cli, 0, []⟩ }
      have hOld : Function.update s₂.cli (freshClient s₂ p) ⟨cli, 0, []⟩ x = s.cli x :=
        (Function.update_of_ne hFresh _ _).trans (congrFun hMalloc x)
      dsimp only
      split <;> rename_i hEq <;> rw [hEq] at hAdd
      · exact (congrFun hAdd x).trans hOld
      · exact (congrFun hAdd x).trans hOld
  · exact absurd h (by simp)

/-- What comes after the datagram has been read does not change who was heard. -/
theorem Heard.steady (h : Heard a s s') (hSteady : Steady s' s'') : Heard a s s'' where
  clock := h.clock.trans hSteady.clock
  unexpired := h.unexpired.trans hSteady.unexpired
  sender c hc hAddr := by
    rw [hSteady.sa] at hAddr
    rw [hSteady.heard]
    exact h.sender c (hSteady.gClients.subset hc) hAddr
  others c hc hAddr := by
    rw [hSteady.sa] at hAddr ⊢
    rw [hSteady.heard]
    exact h.others c (hSteady.gClients.subset hc) hAddr

/-- Bringing the entry of the sender up to date. -/
theorem heard_updateClient (w : World) {cli : SockAddr} (hClock : s.clock ≤ s'.clock)
    (hTrace : s'.trace = s.trace) (hOld : ∀ x ∈ s'.gClients, x ≠ c →
      x ∈ s.gClients ∧ s'.cli x = s.cli x ∧ (s.cli x).sa.addr ≠ cli.addr) :
    Heard cli.addr s (updateClient w c cli s') where
  clock := hClock.trans (quiet_advance w s').clock
  unexpired := .of_eq hTrace
  sender x hx hAddr := by
    rcases eq_or_ne x c with rfl | hOther
    · simpa using hClock.trans (quiet_advance w s').clock
    · obtain ⟨-, hSame, hNot⟩ := hOld x hx hOther
      exact absurd (by simpa [hOther, hSame] using hAddr) hNot
  others x hx hAddr := by
    have hOther : x ≠ c := by
      rintro rfl
      exact hAddr (by simp)
    obtain ⟨hMem, hSame, -⟩ := hOld x hx hOther
    refine ⟨hMem, ?_, ?_⟩ <;> simp [hOther, hSame]

/-- **A datagram is heard**, whatever it says, and even if its sender cannot be entered. -/
theorem heard_processClient (h : WellFormed s) (w : World) (cfg : Config) (cli : SockAddr)
    (message : CStr) : Heard cli.addr s (processClient w cfg cli message s).2 := by
  unfold processClient
  rcases knownClient_cases w cli s with ⟨c, hEq, hc, hAddr⟩ | ⟨c, s', hEq, hj, hSa, -, -⟩ |
    ⟨s', hEq, hq, -⟩
  · rw [hEq]
    refine (heard_updateClient w le_rfl rfl fun x hx hOther => ⟨hx, rfl, fun hSame => ?_⟩).steady
      (steady_clientRequest w cfg c message _)
    exact hOther (h.client_ext hx hc (hSame.trans hAddr.symm))
  · rw [hEq]
    refine (heard_updateClient w hj.clock hj.trace fun x hx hOther => ?_).steady
      (steady_clientRequest w cfg c message _)
    rw [hj.gClients, List.mem_append, List.mem_singleton] at hx
    have hMem : x ∈ s.gClients := hx.resolve_right hOther
    exact ⟨hMem, hj.old x hMem, hSa ▸ hj.addr x hMem⟩
  · have hNone : (knownClient w cli s).1 = none := by rw [hEq]
    have hKnown := knownClient_none hNone
    rw [hEq] at hKnown ⊢
    refine ⟨hq.clock, .of_eq hq.trace, fun x hx hAddr => ?_, fun x hx _ => ?_⟩
    · have hMem : x ∈ s.gClients := hq.gClients ▸ hx
      exact absurd ((congrArg (·.sa.addr) (hKnown x hMem).2).symm.trans hAddr) (hKnown x hMem).1
    · have hMem : x ∈ s.gClients := hq.gClients ▸ hx
      have hSame : s'.cli x = s.cli x := (hKnown x hMem).2
      exact ⟨hMem, by rw [hSame], by rw [hSame]⟩

-- ---------------------------------------------------------------------------
-- Staying in touch
-- ---------------------------------------------------------------------------

/-- Fewer clients are no less in touch. -/
theorem InTouch.mono (h : InTouch cfg a T past cs s) {cs' : List CliPtr} (hSub : cs' ⊆ cs) :
    InTouch cfg a T past cs' s :=
  ⟨h.clock, fun c hc => h.heard c (hSub hc), h.expired⟩

/-- A steady change keeps in touch. -/
theorem InTouch.steady (h : InTouch cfg a T past cs s) (hSteady : Steady s s') :
    InTouch cfg a T past cs s' where
  clock := h.clock.trans hSteady.clock
  heard c hc hAddr := by
    rw [hSteady.sa] at hAddr
    rw [hSteady.heard]
    exact h.heard c hc hAddr
  expired := by
    obtain ⟨new, hTrace, hNew⟩ := h.expired
    obtain ⟨new', hTrace', hNone⟩ := hSteady.unexpired
    refine ⟨new' ++ new, by rw [hTrace', hTrace, List.append_assoc], fun t hMem => ?_⟩
    exact hNew t ((List.mem_append.mp hMem).resolve_left (hNone t a))

/-- A datagram from anybody. -/
theorem InTouch.heard_of (h : InTouch cfg a T past s.gClients s) {b : Nat} (hHeard : Heard b s s') :
    InTouch cfg a T past s'.gClients s' where
  clock := h.clock.trans hHeard.clock
  heard c hc hAddr := by
    by_cases hSender : (s'.cli c).sa.addr = b
    · exact h.clock.trans (hHeard.sender c hc hSender)
    · obtain ⟨hMem, hSame, hBefore⟩ := hHeard.others c hc hSender
      rw [← hBefore]
      exact h.heard c hMem (hSame.trans hAddr)
  expired := by
    obtain ⟨new, hTrace, hNew⟩ := h.expired
    obtain ⟨new', hTrace', hNone⟩ := hHeard.unexpired
    refine ⟨new' ++ new, by rw [hTrace', hTrace, List.append_assoc], fun t hMem => ?_⟩
    exact hNew t ((List.mem_append.mp hMem).resolve_left (hNone t a))

/-- **The sender of a datagram is in touch** from then on. -/
theorem Heard.inTouch (h : Heard a s s') (cfg : Config) :
    InTouch cfg a s.clock s'.trace s'.gClients s' :=
  ⟨h.clock, h.sender, [], rfl, by simp⟩

/-- Taking a client off its devices expires nobody else. -/
theorem steady_removeClientFromAllDevices (w : World) (cfg : Config) (c : CliPtr) (s : State) :
    Steady s (removeClientFromAllDevices w cfg c s).2 :=
  untilFailure_invariant' (I := Steady s)
    (fun d _ s' h => h.trans (touched_removeClientFromDevice w cfg d s' c).steady) _
    (Steady.refl s)

/-- Dropping a client from the list is not what makes it expire. -/
theorem steady_dropClient (c : CliPtr) (s : State) : Steady s (dropClient c s).2 := by
  unfold dropClient rmClient
  rcases hCell : rmCell c s.gClients with _ | pp
  · exact { Steady.refl s with }
  · refine { Steady.refl s with gClients := ?_ }
    rw [rmCell_eq] at hCell
    split at hCell
    · exact Option.some.inj hCell ▸ List.erase_sublist
    · exact absurd hCell (by simp)

/-- A client is given up only if it has been silent for too long. -/
theorem InTouch.noteExpired (h : InTouch cfg a T past cs s) (hc : c ∈ cs)
    (hOverdue : Overdue cfg c (advance w s)) : InTouch cfg a T past cs (noteExpired w c s) := by
  have hNow : InTouch cfg a T past cs (advance w s) := h.steady (touched_advance w 0 s).steady
  obtain ⟨new, hTrace, hNew⟩ := hNow.expired
  refine ⟨hNow.clock, hNow.heard, .expired (advance w s).clock (s.cli c).sa.addr :: new,
    congrArg (_ :: ·) hTrace, fun t hMem => ?_⟩
  rcases List.mem_cons.mp hMem with hThis | hMem
  · obtain ⟨rfl, hAddr⟩ := Effect.expired.inj hThis
    have hHeard := hNow.heard c hc hAddr.symm
    unfold Overdue at hOverdue
    omega
  · exact hNew t hMem

/-- A round that gives a client up does so after the client timeout. -/
theorem InTouch.timeoutOldClient (h : InTouch cfg a T past cs s) (hc : c ∈ cs) :
    InTouch cfg a T past cs (timeoutOldClient w cfg c s).2 := by
  by_cases hOverdue : Overdue cfg c (advance w s)
  · have hDevices := (h.noteExpired hc hOverdue).steady
      (steady_removeClientFromAllDevices w cfg c (LinkControl.noteExpired w c s))
    rw [timeoutOldClient_of_overdue w cfg hOverdue]
    exact unlessFails_post (fun _ => hDevices) fun _ => hDevices.steady (steady_dropClient c _)
  · rw [timeoutOldClient_of_not_overdue w cfg hOverdue]
    exact h.steady (touched_advance w 0 s).steady

/-- The sweep over the clients. -/
theorem InTouch.timeoutOldClients (h : InTouch cfg a T past s.gClients s) :
    InTouch cfg a T past (timeoutOldClients w cfg s).2.gClients (timeoutOldClients w cfg s).2 := by
  have hStep : ∀ c ∈ s.gClients, ∀ s', InTouch cfg a T past s.gClients s' ∧
      s'.gClients ⊆ s.gClients →
      InTouch cfg a T past s.gClients (LinkControl.timeoutOldClient w cfg c s').2 ∧
      (LinkControl.timeoutOldClient w cfg c s').2.gClients ⊆ s.gClients := by
    intro c hc s' h'
    refine ⟨h'.1.timeoutOldClient hc, ?_⟩
    rcases Kept.timeoutOldClient_gClients w cfg c s' with hSame | hErased
    · exact hSame ▸ h'.2
    · exact fun x hx => h'.2 (List.mem_of_mem_erase (hErased ▸ hx))
  obtain ⟨hTouch, hSub⟩ := untilFailure_invariant' hStep s ⟨h, fun _ hc => hc⟩
  exact hTouch.mono hSub

/-- **One event.** -/
theorem InTouch.step (h : InTouch cfg a T past s.gClients s) (hWellFormed : WellFormed s)
    (e : Event) : InTouch cfg a T past (step w cfg e s).2.gClients (step w cfg e s).2 := by
  have hWait := touched_advance w 0 s
  unfold LinkControl.step
  split
  · exact h
  · have hNow : InTouch cfg a T past (advance w s).gClients (advance w s) := h.steady hWait.steady
    have hWellFormed' : WellFormed (advance w s) := hWellFormed.quiet (quiet_advance w s)
    cases e with
    | client cli message => exact hNow.heard_of (heard_processClient hWellFormed' w cfg cli message)
    | peer message =>
      have hSteady := steady_processPeer w cfg message (advance w s)
      exact (hNow.steady hSteady).mono hSteady.gClients.subset
    | timeoutOldClients => exact hNow.timeoutOldClients
    | timeoutOldDevices =>
      have hSteady : Steady (advance w s) (timeoutOldDevices w cfg (advance w s)).2 :=
        untilFailure_invariant' (I := Steady (advance w s))
          (fun d _ s' h' => h'.trans (touched_timeoutOldDevice w cfg d s').steady) _ (Steady.refl _)
      exact (hNow.steady hSteady).mono hSteady.gClients.subset

/-- **Run rule.** From then on, every event keeps in touch. -/
theorem InTouch.run (h : InTouch cfg a T past s.gClients s) (hWellFormed : WellFormed s)
    (es : List Event) :
    InTouch cfg a T past (serverRun w cfg es s).gClients (serverRun w cfg es s) :=
  (Runs.run_invariant (P := fun _ _ => True)
    (I := fun s => WellFormed s ∧ InTouch cfg a T past s.gClients s)
    (fun e s h _ => ⟨wellFormed_kept.step h.1 (calls_of_forall (fun _ _ => trivial) e s),
      h.2.step h.1 e⟩) es s ⟨hWellFormed, h⟩ (Runs.along_of_forall (fun _ _ => trivial) es s)).2

/-- A server that has crashed takes no further event. -/
theorem serverRun_of_crashed (h : s.crashed) (es : List Event) : serverRun w cfg es s = s := by
  induction es with
  | nil => rfl
  | cons e es ih =>
    have hStop : (LinkControl.step w cfg e s).2 = s := by rw [LinkControl.step, if_pos h]
    exact (congrArg (serverRun w cfg es) hStop).trans ih

/-- **Expired after silence.** In every run of the server, whatever commands return and
allocations fail: once a datagram has been read, its sender is not given up, in any event that
follows, before more time than the client timeout has passed since then. -/
theorem expired_after_silence (w : World) (cfg : Config) (sections : List DeviceSection)
    (before after : List Event) (cli : SockAddr) (message : CStr) :
    ∃ new, (serverRun w cfg (before ++ .client cli message :: after) (boot w sections)).trace =
        new ++ (serverRun w cfg (before ++ [.client cli message]) (boot w sections)).trace ∧
      ∀ t, .expired t cli.addr ∈ new →
        (advance w (serverRun w cfg before (boot w sections))).clock + cfg.gClientTimeout < t := by
  have hWellFormed := wellFormed_run w cfg sections
  have hOne : serverRun w cfg (before ++ [.client cli message]) (boot w sections) =
      (step w cfg (.client cli message) (serverRun w cfg before (boot w sections))).2 :=
    Runs.run_append ..
  have hAll : serverRun w cfg (before ++ .client cli message :: after) (boot w sections) =
      serverRun w cfg after
        (step w cfg (.client cli message) (serverRun w cfg before (boot w sections))).2 :=
    Runs.run_append ..
  have hNext := hWellFormed (before ++ [.client cli message])
  rw [hAll, hOne]
  rw [hOne] at hNext
  set s := serverRun w cfg before (boot w sections) with hs
  by_cases hCrashed : s.crashed
  · have hStop : step w cfg (.client cli message) s = (-1, s) := if_pos hCrashed
    rw [hStop, serverRun_of_crashed hCrashed]
    exact ⟨[], rfl, by simp⟩
  · have hStep : step w cfg (.client cli message) s =
        processClient w cfg cli message (advance w s) := if_neg hCrashed
    have hHeard := heard_processClient ((hWellFormed before).quiet (quiet_advance w s)) w cfg cli
      message
    rw [← hStep] at hHeard
    exact ((hHeard.inTouch cfg).run hNext after).expired

end LinkControl
