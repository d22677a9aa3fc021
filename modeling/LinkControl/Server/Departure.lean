import LinkControl.Server.Local

/-!
# Link server — one client's departure

The server counts references: a link goes down when its last client leaves, by a DOWN
message or because it has expired. `Spares c s s'` is what the departure of `c` leaves
to the others: a device that `c` was not alone on loses `c` and is otherwise the
device it was, and nothing was done with it.

Hanging up goes through `link_force_down`, which clears the whole list of a device, in
a loop over all devices within a loop over all clients. Each of these loops preserves
`Spares`, however the commands end.
-/

namespace LinkControl

open ReturnCode

variable {w : World} {cfg : Config} {c : CliPtr} {d : DevPtr} {s s' s'' : State}

/-- Where `c` was not alone, at most `c` is gone and nothing was done. -/
structure Spares (c : CliPtr) (s s' : State) : Prop where
  gDevices : s'.gDevices = s.gDevices
  device : ∀ d ∈ s.gDevices, (s.dev d).clientsConnected ≠ [c] →
    s'.dev d = s.dev d ∨
      s'.dev d = { s.dev d with clientsConnected := (s.dev d).clientsConnected.erase c }
  past : ∀ d ∈ s.gDevices, (s.dev d).clientsConnected ≠ [c] → history d s' = history d s

namespace Spares

theorem refl (c : CliPtr) (s : State) : Spares c s s :=
  ⟨rfl, fun _ _ _ => Or.inl rfl, fun _ _ _ => rfl⟩

/-- Two departures of the same client: its place may be gone after the first. -/
theorem trans (hNodup : ∀ d ∈ s.gDevices, (s.dev d).clientsConnected.Nodup)
    (h : Spares c s s') (h' : Spares c s' s'') : Spares c s s'' := by
  have hNext : ∀ d ∈ s.gDevices, (s.dev d).clientsConnected ≠ [c] →
      d ∈ s'.gDevices ∧ (s'.dev d).clientsConnected ≠ [c] := by
    intro d hd hMore
    refine ⟨h.gDevices ▸ hd, ?_⟩
    rcases h.device d hd hMore with hEq | hEq <;> rw [hEq]
    · exact hMore
    · -- a list that lost `c` does not consist of `c`
      intro hAlone
      have hGone := (hNodup d hd).not_mem_erase (a := c)
      rw [show (s.dev d).clientsConnected.erase c = [c] from hAlone] at hGone
      exact hGone (List.mem_singleton_self c)
  refine ⟨h'.gDevices.trans h.gDevices, fun d hd hMore => ?_, fun d hd hMore => ?_⟩
  · obtain ⟨hd', hMore'⟩ := hNext d hd hMore
    rcases h.device d hd hMore with hEq | hEq <;> rcases h'.device d hd' hMore' with hEq' | hEq' <;>
      rw [hEq', hEq]
    · exact Or.inl rfl
    · exact Or.inr rfl
    · exact Or.inr rfl
    · exact Or.inr (by rw [List.erase_of_not_mem (hNodup d hd).not_mem_erase])
  · obtain ⟨hd', hMore'⟩ := hNext d hd hMore
    exact (h'.past d hd' hMore').trans (h.past d hd hMore)

/-- What another client has on a device. -/
theorem other (h : Spares c s s') (hd : d ∈ s.gDevices) {c' : CliPtr}
    (hc' : c' ∈ (s.dev d).clientsConnected) (hNe : c' ≠ c) :
    c' ∈ (s'.dev d).clientsConnected ∧ (s'.dev d).status = (s.dev d).status ∧
      (s'.dev d).connectTime = (s.dev d).connectTime ∧
      (s'.dev d).retries = (s.dev d).retries ∧ history d s' = history d s := by
  have hMore : (s.dev d).clientsConnected ≠ [c] := by
    intro hAlone
    rw [hAlone, List.mem_singleton] at hc'
    exact hNe hc'
  have hPast := h.past d hd hMore
  rcases h.device d hd hMore with hEq | hEq <;> rw [hEq]
  · exact ⟨hc', rfl, rfl, rfl, hPast⟩
  · exact ⟨(List.mem_erase_of_ne hNe).mpr hc', rfl, rfl, rfl, hPast⟩

/-- Something is done only with a device that `c` was alone on. -/
theorem alone (h : Spares c s s') (hd : d ∈ s.gDevices) (hDone : history d s' ≠ history d s) :
    (s.dev d).clientsConnected = [c] := by
  by_contra hMore
  exact hDone (h.past d hd hMore)

/-- The same devices with the same past. -/
theorem of_same (hDevices : s'.gDevices = s.gDevices) (hDev : s'.dev = s.dev)
    (hPast : ∀ d, history d s' = history d s) : Spares c s s' :=
  ⟨hDevices, fun d _ _ => Or.inl (by rw [hDev]), fun d _ _ => hPast d⟩

end Spares

/-- A quiet change spares everybody. -/
theorem Quiet.spares (h : Quiet s s') : Spares c s s' :=
  .of_same h.gDevices h.dev fun d => history_eq d h.trace

-- ---------------------------------------------------------------------------
-- Leaving one device, and all of them
-- ---------------------------------------------------------------------------

/-- **Leaving one device.** It is hung up only if the client was alone on it. -/
theorem spares_disconnect (w : World) (cfg : Config) (c : CliPtr) (d : DevPtr) (s : State) :
    Spares c s (disconnectClientFromDevice w cfg c d s).2 := by
  have hConfined := (touched_disconnectClientFromDevice w cfg d s c).confined
  have hOwn : (s.dev d).clientsConnected ≠ [c] →
      (disconnectClientFromDevice w cfg c d s).2.dev d =
        { s.dev d with clientsConnected := (s.dev d).clientsConnected.erase c } ∧
      history d (disconnectClientFromDevice w cfg c d s).2 = history d s := by
    intro hMore
    rcases disconnectClientFromDevice_cases w cfg c d s with ⟨hNot, hEq⟩ | ⟨-, -, hEq⟩ |
      ⟨hAlone, -⟩ | ⟨hAlone, -⟩ | ⟨hAlone, -⟩ | ⟨hAlone, -⟩
    · rw [hEq, List.erase_of_not_mem hNot]
      exact ⟨by simp, by simp⟩
    · rw [hEq]
      exact ⟨by simp, by simp⟩
    all_goals exact absurd hAlone hMore
  refine ⟨hConfined.gDevices, fun d' hd' hMore => ?_, fun d' hd' hMore => ?_⟩
  · rcases eq_or_ne d' d with rfl | hOther
    · exact Or.inr (hOwn hMore).1
    · exact Or.inl (hConfined.other d' hOther)
  · rcases eq_or_ne d' d with rfl | hOther
    · exact (hOwn hMore).2
    · exact hConfined.history_other hOther

/-- The loop over all devices, however it ends. -/
theorem spares_removeClientFromAllDevices (w : World) (cfg : Config) (c : CliPtr)
    (h : WellFormed s) : Spares c s (removeClientFromAllDevices w cfg c s).2 := by
  refine untilFailure_invariant' (I := Spares c s) (fun d _ s' hs' => ?_) s (Spares.refl c s)
  refine hs'.trans h.clientsNodup ?_
  rw [removeClientFromDevice_snd]
  exact spares_disconnect w cfg c d s'

/-- Dropping the client from the list of clients. -/
theorem spares_dropClient (c : CliPtr) (s : State) : Spares c s (dropClient c s).2 := by
  unfold dropClient rmClient
  cases rmCell c s.gClients <;> exact .of_same rfl rfl fun _ => rfl

/-- One round of the sweep. -/
theorem spares_timeoutOldClient (w : World) (cfg : Config) (c : CliPtr) (h : WellFormed s) :
    Spares c s (timeoutOldClient w cfg c s).2 := by
  by_cases hOver : Overdue cfg c (advance w s)
  · rw [timeoutOldClient_of_overdue w cfg hOver]
    have hNoted : Spares c s (noteExpired w c s) := .of_same rfl rfl fun d =>
      List.filter_cons_of_neg (by simp [Effect.device])
    have hWF : WellFormed (noteExpired w c s) := (h.quiet (quiet_advance w s)).log _
    have hLeft := hNoted.trans h.clientsNodup (spares_removeClientFromAllDevices w cfg c hWF)
    exact unlessFails_post (I := Spares c s) (fun _ => hLeft) fun _ =>
      hLeft.trans h.clientsNodup (spares_dropClient c _)
  · rw [timeoutOldClient_of_not_overdue w cfg hOver]
    exact (quiet_advance w s).spares

-- ---------------------------------------------------------------------------
-- The whole sweep
-- ---------------------------------------------------------------------------

/-- The sweep comes to the client, and by then nothing has been heard of it for too long. -/
def Expires (w : World) (cfg : Config) (c : CliPtr) (s : State) : Prop :=
  let n := s.gClients.idxOf c
  0 ≤ (untilFailure (timeoutOldClient w cfg) (s.gClients.take n) s).1 ∧
    Overdue cfg c (advance w (reached (timeoutOldClient w cfg) s.gClients n s))

/-- A client stands in the list where the sweep comes to it. -/
theorem expires_iff {before after : List CliPtr} (h : WellFormed s)
    (hSplit : s.gClients = before ++ c :: after) :
    Expires w cfg c s ↔ 0 ≤ (untilFailure (timeoutOldClient w cfg) before s).1 ∧
      Overdue cfg c (advance w (reached (timeoutOldClient w cfg) s.gClients before.length s)) := by
  have hNew : c ∉ before := not_mem_of_append h.clients_nodup hSplit
  have hPlace : s.gClients.idxOf c = before.length := by
    rw [hSplit, List.idxOf_append_of_notMem hNew, List.idxOf_cons_self, Nat.add_zero]
  have hTake : s.gClients.take before.length = before := by rw [hSplit, List.take_left]
  unfold Expires
  simp only [hPlace, hTake]

/-- A client that has not expired keeps its devices, which stay what they were. -/
def Untouched (s s' : State) (c' : CliPtr) : Prop :=
  ∀ d ∈ s.gDevices, c' ∈ (s.dev d).clientsConnected →
    c' ∈ (s'.dev d).clientsConnected ∧ (s'.dev d).status = (s.dev d).status ∧
      (s'.dev d).connectTime = (s.dev d).connectTime ∧
      (s'.dev d).retries = (s.dev d).retries ∧ history d s' = history d s

/-- Composition. -/
theorem Untouched.trans {c' : CliPtr} (hDevices : s'.gDevices = s.gDevices)
    (h : Untouched s s' c') (h' : Untouched s' s'' c') : Untouched s s'' c' := by
  intro d hd hc'
  obtain ⟨hMem, hStatus, hConnect, hRetries, hPast⟩ := h d hd hc'
  obtain ⟨hMem', hStatus', hConnect', hRetries', hPast'⟩ := h' d (hDevices ▸ hd) hMem
  exact ⟨hMem', hStatus'.trans hStatus, hConnect'.trans hConnect, hRetries'.trans hRetries,
    hPast'.trans hPast⟩

theorem Untouched.refl (s : State) (c' : CliPtr) : Untouched s s c' :=
  fun _ _ hc' => ⟨hc', rfl, rfl, rfl, rfl⟩

/-- What the sweep has done when it has been through the clients `before`. -/
structure Spared (w : World) (cfg : Config) (s : State) (before : List CliPtr) (s' : State) :
    Prop where
  wellFormed : WellFormed s'
  gDevices : s'.gDevices = s.gDevices
  left : ∀ c ∈ s.gClients, c ∉ before → c ∈ s'.gClients
  untouched : ∀ c', (c' ∈ before → ¬ Expires w cfg c' s) → Untouched s s' c'

/-- The next round. Its client loses its devices only if it expires, and the departure of one
client spares the others. -/
theorem Spared.next {before : List CliPtr} (h : Spared w cfg s before s') (hc : c ∈ s'.gClients)
    (hExpires : Overdue cfg c (advance w s') → Expires w cfg c s) :
    Spared w cfg s (before ++ [c]) (timeoutOldClient w cfg c s').2 where
  wellFormed := wellFormed_kept.timeoutOldClient h.wellFormed hc fun _ =>
    visits_of_forall (P := fun _ _ => True) (fun _ _ => trivial) _ _
  gDevices := (spares_timeoutOldClient w cfg c h.wellFormed).gDevices.trans h.gDevices
  left x hx hNot := by
    rw [List.mem_append, List.mem_singleton, not_or] at hNot
    exact Kept.timeoutOldClient_others w cfg (h.left x hx hNot.1) hNot.2
  untouched c' hc' := by
    have hBefore := h.untouched c' fun hMem => hc' (List.mem_append_left _ hMem)
    refine hBefore.trans h.gDevices fun d hd hMem => ?_
    by_cases hOver : Overdue cfg c (advance w s')
    · have hNe : c' ≠ c := by
        rintro rfl
        exact hc' (List.mem_append_right _ (List.mem_singleton_self _)) (hExpires hOver)
      exact (spares_timeoutOldClient w cfg c h.wellFormed).other hd hMem hNe
    · rw [timeoutOldClient_of_not_overdue w cfg hOver]
      exact ⟨hMem, rfl, rfl, rfl, rfl⟩

/-- The sweep leaves the clients that do not expire in it untouched, also when it ends early. -/
theorem untouched_timeoutOldClients (w : World) (cfg : Config) (h : WellFormed s) (c' : CliPtr)
    (hc' : ¬ Expires w cfg c' s) : Untouched s (timeoutOldClients w cfg s).2 c' := by
  have hStart : Spared w cfg s [] s := ⟨h, rfl, fun _ hc _ => hc, fun c' _ => .refl s c'⟩
  have hRounds : ∀ before c after, s.gClients = before ++ c :: after →
      0 ≤ (untilFailure (timeoutOldClient w cfg) before s).1 →
      Spared w cfg s before (reached (timeoutOldClient w cfg) s.gClients before.length s) →
      Spared w cfg s (before ++ [c]) (timeoutOldClient w cfg c
        (reached (timeoutOldClient w cfg) s.gClients before.length s)).2 := by
    intro before c after hSplit hRet hI
    have hNew : c ∉ before := not_mem_of_append h.clients_nodup hSplit
    refine hI.next (hI.left c (by simp [hSplit]) hNew) fun hOver => ?_
    exact (expires_iff h hSplit).mpr ⟨hRet, hOver⟩
  obtain ⟨before, -, -, hSpared⟩ := untilFailure_passed (I := Spared w cfg s) hStart hRounds
  exact hSpared.untouched c' fun _ => hc'

-- ---------------------------------------------------------------------------
-- DOWN messages
-- ---------------------------------------------------------------------------

/-- A DOWN message is the departure of its sender. -/
theorem spares_down (w : World) (cfg : Config) (cli : SockAddr) {message name : CStr}
    (h : WellFormed s) (hMsg : clientMessage message = .down name) :
    ∃ c, Spares c s (processClient w cfg cli message s).2 ∧
      ∀ c' ∈ s.gClients, c' = c → (s.cli c').sa.addr = cli.addr := by
  have hRequest : ∀ (c : CliPtr) (s : State), Spares c s (clientRequest w cfg c message s).2 := by
    intro c s
    cases hOp : clientOp c message s with
    | none => exact (clientRequest_of_none w cfg hOp).spares
    | some o =>
      rw [clientRequest_of_op w cfg hOp, unlessFails_done]
      unfold clientOp at hOp
      rw [hMsg] at hOp
      obtain ⟨d, -, rfl⟩ := Option.map_eq_some_iff.mp hOp
      exact spares_disconnect w cfg c d s
  unfold processClient
  rcases knownClient_cases w cli s with ⟨c, hEq, -, hAddr⟩ | ⟨c, s', hEq, hj, -⟩ |
    ⟨s', hEq, hq, -⟩ <;> rw [hEq]
  · have hKnown : Spares c s (updateClient w c cli s) := .of_same rfl rfl fun _ => rfl
    exact ⟨c, hKnown.trans h.clientsNodup (hRequest c _), by rintro c' - rfl; exact hAddr⟩
  · have hKnown : Spares c s (updateClient w c cli s') :=
      .of_same hj.gDevices hj.dev fun d => history_eq d hj.trace
    refine ⟨c, hKnown.trans h.clientsNodup (hRequest c _), ?_⟩
    intro c' hc' hEq
    obtain rfl := hEq
    exact absurd hc' hj.fresh
  · refine ⟨freshClient s 0, hq.spares, ?_⟩
    intro c' hc' hEq
    obtain rfl := hEq
    exact absurd hc' (freshClient_not_mem s 0)

/-- **One client's departure never hurts another.** In every reachable state and
whatever the commands return: a DOWN message leaves every other client the devices it
has, with their status, connect time, retries and past, and does something only with a
device that its sender was alone on; a sweep over the clients does the same for every
client that it does not find silent for too long when it comes to it, and while it removes a
client it does something only with a device that this client was alone on. -/
theorem departure_spares (w : World) (cfg : Config) (sections : List DeviceSection)
    (es : List Event) :
    let s := serverRun w cfg es (boot w sections)
    (∀ cli message name, clientMessage message = .down name →
      let s' := (step w cfg (.client cli message) s).2
      (∀ c' ∈ s.gClients, (s.cli c').sa.addr ≠ cli.addr → Untouched s s' c') ∧
      ∀ d ∈ s.gDevices, history d s' ≠ history d s →
        ∃ c, (s.dev d).clientsConnected = [c] ∧ (s.cli c).sa.addr = cli.addr) ∧
    (∀ c' ∈ s.gClients, ¬ Expires w cfg c' (advance w s) →
      Untouched s (step w cfg .timeoutOldClients s).2 c') ∧
    Visits (timeoutOldClient w cfg) (fun c s₁ => ∀ d ∈ s₁.gDevices,
      history d (timeoutOldClient w cfg c s₁).2 ≠ history d s₁ →
        (s₁.dev d).clientsConnected = [c]) s.gClients (advance w s) := by
  intro s
  have h : WellFormed s := wellFormed_run w cfg sections es
  have hNow : WellFormed (advance w s) := h.quiet (quiet_advance w s)
  refine ⟨fun cli message name hMsg => ?_, ?_, ?_⟩
  · have hSpares : ∃ c, Spares c s (step w cfg (.client cli message) s).2 ∧
        ∀ c' ∈ s.gClients, c' = c → (s.cli c').sa.addr = cli.addr := by
      unfold step
      split
      · refine ⟨freshClient s 0, Spares.refl _ s, ?_⟩
        intro c' hc' hEq
        obtain rfl := hEq
        exact absurd hc' (freshClient_not_mem s 0)
      · obtain ⟨c, hSpares, hAddr⟩ := spares_down w cfg cli hNow hMsg
        exact ⟨c, (Quiet.spares (quiet_advance w s)).trans h.clientsNodup hSpares, hAddr⟩
    obtain ⟨c, hSpares, hAddr⟩ := hSpares
    refine ⟨fun c' hc' hNe d hd hMem => ?_, fun d hd hDone => ⟨c, hSpares.alone hd hDone, ?_⟩⟩
    · exact hSpares.other hd hMem fun hEq => hNe (hAddr c' hc' hEq)
    · have hMem : c ∈ (s.dev d).clientsConnected := by simp [hSpares.alone hd hDone]
      exact hAddr c (h.clientsKnown d hd c hMem) rfl
  · intro c' _ hc'
    unfold step
    split
    · exact Untouched.refl s c'
    · exact untouched_timeoutOldClients w cfg hNow c' hc'
  · have hKept : Kept w cfg (fun _ _ => True) WellFormed (fun _ => WellFormed) := wellFormed_kept
    refine (hKept.visits_clients hNow ?_).mono ?_
    · exact visits_of_forall (fun _ _ _ => visits_of_forall (fun _ _ => trivial) _ _) _ _
    · intro c s₁ h d hd hDone
      obtain ⟨hWF, -, -⟩ := h
      exact (spares_timeoutOldClient w cfg c hWF).alone hd hDone

end LinkControl
