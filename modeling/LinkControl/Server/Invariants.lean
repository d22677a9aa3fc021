import LinkControl.Server.Calls

/-!
# Link server — the invariant rule

`Kept w cfg P I M` is what it takes for `I` to be an invariant of the server along
runs whose calls meet `P`: it is indifferent to quiet changes, it survives a new
client, and every call that meets `P` keeps it. While the devices of an expired
client `c` are gone through, the weaker `M c` may take its place: every
disconnection that meets `P` keeps `M c`, or ends the sweep with `I`, and when the
client is dropped, after every device has lost it, `I` holds again.

`Kept.step` and `Kept.run` carry `I` through the branches of an event and through a
run. Most invariants need no `M` of their own (`Kept.uniform`).
-/

namespace LinkControl

open ReturnCode

variable {w : World} {cfg : Config} {P : Op → State → Prop} {I : State → Prop}
  {M : CliPtr → State → Prop}

/-- What an invariant of the server has to satisfy. -/
structure Kept (w : World) (cfg : Config) (P : Op → State → Prop) (I : State → Prop)
    (M : CliPtr → State → Prop) : Prop where
  wellFormed : ∀ {s}, I s → WellFormed s
  quiet : ∀ {s s'}, Quiet s s' → I s → I s'
  joined : ∀ {c s s'}, Joined c s s' → I s → I s'
  op : ∀ {o s}, I s → o.Applies cfg s → P o s → (∀ c d, o ≠ .expire c d) → I (o.run w cfg s).2
  expired : ∀ {c s} (t : Int) (a : Nat), I s → M c (s.log (.expired t a))
  expiring : ∀ {c s}, M c s → WellFormed s
  expire : ∀ {c d s}, M c s → c ∈ s.gClients → d ∈ s.gDevices → P (.expire c d) s →
    0 ≤ (removeClientFromDevice w cfg c d s).1 → M c (removeClientFromDevice w cfg c d s).2
  expireFailed : ∀ {c d s}, M c s → c ∈ s.gClients → d ∈ s.gDevices → P (.expire c d) s →
    (removeClientFromDevice w cfg c d s).1 < 0 → I (removeClientFromDevice w cfg c d s).2
  dropped : ∀ {c s}, M c s → c ∈ s.gClients →
    (∀ d ∈ s.gDevices, c ∉ (s.dev d).clientsConnected) →
    I { s with gClients := s.gClients.erase c }

/-- An invariant that also holds between the disconnections of an expired client. -/
theorem Kept.uniform (hWF : ∀ {s}, I s → WellFormed s) (hQuiet : ∀ {s s'}, Quiet s s' → I s → I s')
    (hJoined : ∀ {c s s'}, Joined c s s' → I s → I s')
    (hExpired : ∀ {s} (t : Int) (a : Nat), I s → I (s.log (.expired t a)))
    (hOp : ∀ {o s}, I s → o.Applies cfg s → P o s → I (o.run w cfg s).2)
    (hDropped : ∀ {c s}, I s → c ∈ s.gClients →
      (∀ d ∈ s.gDevices, c ∉ (s.dev d).clientsConnected) →
      I { s with gClients := s.gClients.erase c }) :
    Kept w cfg P I (fun _ => I) where
  wellFormed := hWF
  quiet := hQuiet
  joined := hJoined
  op h hApplies hP _ := hOp h hApplies hP
  expired := hExpired
  expiring := hWF
  expire h hc hd hP _ := hOp (o := .expire _ _) h ⟨hc, hd⟩ hP
  expireFailed h hc hd hP _ := hOp (o := .expire _ _) h ⟨hc, hd⟩ hP
  dropped := hDropped

-- ---------------------------------------------------------------------------
-- Expired clients
-- ---------------------------------------------------------------------------

/-- Once a client has been disconnected from a device the device does not list it,
also when hanging up failed. -/
theorem disconnectClientFromDevice_gone (w : World) (cfg : Config) (c : CliPtr) (d : DevPtr)
    {s : State} (hNodup : (s.dev d).clientsConnected.Nodup) :
    c ∉ ((disconnectClientFromDevice w cfg c d s).2.dev d).clientsConnected := by
  have hErased : c ∉ (s.dev d).clientsConnected.erase c := hNodup.not_mem_erase
  rw [disconnectClientFromDevice_eq]
  split
  · split
    · have hAlter := touched_alterToDisconnecting w d (s.setClientsConnected d [])
      have hNil : c ∉ ((s.setClientsConnected d []).dev d).clientsConnected := by simp
      refine unlessFails_post (I := fun s' : State => c ∉ (s'.dev d).clientsConnected) ?_ ?_
      · exact fun _ hMem => hNil (hAlter.clients.subset hMem)
      · exact fun _ hMem =>
          hNil ((hAlter.trans (touched_forgetDevice d _ c)).clients.subset hMem)
    · intro hMem
      have := (touched_forgetDevice d _ c).clients.subset hMem
      exact hErased (by simpa using this)
  · rename_i hNot
    intro hMem
    exact hNot ((touched_forgetDevice d (s.setErrno .enodev) c).clients.subset hMem)

theorem removeClientFromDevice_gone (w : World) (cfg : Config) (c : CliPtr) (d : DevPtr)
    {s : State} (hNodup : (s.dev d).clientsConnected.Nodup) :
    c ∉ ((removeClientFromDevice w cfg c d s).2.dev d).clientsConnected := by
  rw [removeClientFromDevice_snd]
  exact disconnectClientFromDevice_gone w cfg c d hNodup

/-- A loop over devices that disconnects a client adds no client to any device. -/
theorem removeClientFromDevices_shrinks (w : World) (cfg : Config) (c : CliPtr)
    (ds : List DevPtr) (s : State) (d : DevPtr) :
    ((untilFailure (removeClientFromDevice w cfg c) ds s).2.dev d).clientsConnected.Sublist
      (s.dev d).clientsConnected :=
  untilFailure_invariant'
    (I := fun s' => (s'.dev d).clientsConnected.Sublist (s.dev d).clientsConnected)
    (fun x _ s' h => ((touched_removeClientFromDevice w cfg x s' c).clientsConnected d).trans h)
    s (List.Sublist.refl _)

/-- After a complete pass over the devices no device lists the client. -/
theorem removeClientFromDevices_gone (c : CliPtr) :
    ∀ {ds : List DevPtr} {s : State}, (∀ d ∈ ds, (s.dev d).clientsConnected.Nodup) →
      0 ≤ (untilFailure (removeClientFromDevice w cfg c) ds s).1 →
      ∀ d ∈ ds,
        c ∉ ((untilFailure (removeClientFromDevice w cfg c) ds s).2.dev d).clientsConnected := by
  intro ds
  induction ds with
  | nil => exact fun _ _ d hd => absurd hd List.not_mem_nil
  | cons x rest ih =>
    intro s hNodup hRet d hd
    have hx := removeClientFromDevice_gone w cfg c x
      (hNodup x (List.mem_cons_self ..))
    have hTouched := touched_removeClientFromDevice w cfg x s c
    rw [untilFailure] at hRet ⊢
    by_cases hFail : (removeClientFromDevice w cfg c x s).1 < 0
    · rw [unlessFails_of_neg hFail] at hRet
      exact absurd hRet (by simp)
    · rw [unlessFails_of_nonneg (Int.not_lt.mp hFail)] at hRet ⊢
      rcases List.mem_cons.mp hd with rfl | hd
      · exact fun hMem => hx ((removeClientFromDevices_shrinks w cfg c rest _ d).subset hMem)
      · refine ih (fun y hy => ?_) hRet d hd
        exact (hNodup y (List.mem_cons_of_mem _ hy)).sublist (hTouched.clientsConnected y)

/-- The pass over the devices of a client leaves the two global lists alone. -/
theorem removeClientFromDevices_globals (w : World) (cfg : Config) (c : CliPtr)
    (ds : List DevPtr) (s : State) :
    (untilFailure (removeClientFromDevice w cfg c) ds s).2.gDevices = s.gDevices ∧
      (untilFailure (removeClientFromDevice w cfg c) ds s).2.gClients = s.gClients :=
  untilFailure_invariant' (I := fun s' => s'.gDevices = s.gDevices ∧ s'.gClients = s.gClients)
    (fun x _ s' h =>
      have ht := touched_removeClientFromDevice w cfg x s' c
      ⟨ht.gDevices.trans h.1, ht.gClients.trans h.2⟩)
    s ⟨rfl, rfl⟩

-- ---------------------------------------------------------------------------
-- The rule
-- ---------------------------------------------------------------------------

namespace Kept

/-- A call named by a client message has listed pointers. -/
theorem applies_of_clientOp {c : CliPtr} {message : CStr} {s : State} {o : Op}
    (hWF : WellFormed s) (hc : c ∈ s.gClients) (h : clientOp c message s = some o) :
    o.Applies cfg s := by
  unfold clientOp at h
  split at h
  · obtain ⟨d, hGet, rfl⟩ := Option.map_eq_some_iff.mp h
    exact ⟨hc, (getDevice_some (Prod.ext hGet rfl)).1⟩
  · obtain ⟨d, hGet, rfl⟩ := Option.map_eq_some_iff.mp h
    exact ⟨hc, hWF.devicesKnown c hc d (getDevice_some (Prod.ext hGet rfl)).1⟩
  · obtain ⟨d, hGet, rfl⟩ := Option.map_eq_some_iff.mp h
    exact (getDevice_some (Prod.ext hGet rfl)).1
  · exact absurd h (by simp)

theorem applies_of_peerOp {message : CStr} {s : State} {o : Op}
    (h : peerOp message s = some o) : o.Applies cfg s := by
  unfold peerOp at h
  split at h
  · obtain ⟨d, hGet, rfl⟩ := Option.map_eq_some_iff.mp h
    exact (getDevice_some (Prod.ext hGet rfl)).1
  · obtain ⟨d, hGet, rfl⟩ := Option.map_eq_some_iff.mp h
    exact (getDevice_some (Prod.ext hGet rfl)).1
  · exact absurd h (by simp)

theorem clientOp_ne_expire {c c' : CliPtr} {d : DevPtr} {message : CStr} {s : State} :
    clientOp c message s ≠ some (.expire c' d) := by
  unfold clientOp
  split <;> simp

theorem peerOp_ne_expire {c : CliPtr} {d : DevPtr} {message : CStr} {s : State} :
    peerOp message s ≠ some (.expire c d) := by
  unfold peerOp
  split <;> simp

theorem processClient (hI : Kept w cfg P I M) {cli : SockAddr} {message : CStr} {s : State}
    (h : I s) (hCalls : Calls w cfg P (.client cli message) s) :
    I (processClient w cfg cli message s).2 := by
  -- from the moment the client is known, the rest of the function runs the same way
  have hRest : ∀ {c : CliPtr} {s : State}, I s → c ∈ s.gClients →
      (s.cli c).sa.addr = cli.addr →
      (∀ o, clientOp c message (updateClient w c cli s) = some o →
        P o (updateClient w c cli s)) →
      I (clientRequest w cfg c message (updateClient w c cli s)).2 := by
    intro c s h hc hAddr hOp
    have hUp := hI.quiet (quiet_updateClient w hAddr) h
    have hc' : c ∈ (updateClient w c cli s).gClients := hc
    cases hEq : clientOp c message (updateClient w c cli s) with
    | none => exact hI.quiet (clientRequest_of_none w cfg hEq) hUp
    | some o =>
      have hRun := hI.op hUp (applies_of_clientOp (hI.wellFormed hUp) hc' hEq) (hOp o hEq)
        fun c d hExpire => clientOp_ne_expire (hExpire ▸ hEq)
      rw [clientRequest_of_op w cfg hEq]
      exact unlessFails_post (fun _ => hRun) fun _ => hRun
  unfold LinkControl.processClient
  rw [Calls] at hCalls
  rcases knownClient_cases w cli s with ⟨c, hEq, hc, hAddr⟩ | ⟨c, s', hEq, hj, hSa, -, -⟩ |
    ⟨s', hEq, hq, -⟩ <;> rw [hEq] at hCalls ⊢
  · exact hRest h hc hAddr hCalls
  · have hc : c ∈ s'.gClients := by rw [hj.gClients]; simp
    exact hRest (hI.joined hj h) hc (congrArg SockAddr.addr hSa) hCalls
  · exact hI.quiet hq h

theorem processPeer (hI : Kept w cfg P I M) {message : CStr} {s : State}
    (h : I s) (hCalls : Calls w cfg P (.peer message) s) :
    I (processPeer w cfg message s).2 := by
  cases hEq : peerOp message s with
  | none => exact hI.quiet (processPeer_of_none w cfg hEq) h
  | some o =>
    rw [processPeer_of_op w cfg hEq]
    exact hI.op h (applies_of_peerOp hEq) (hCalls o hEq)
      fun c d hExpire => peerOp_ne_expire (hExpire ▸ hEq)

theorem timeoutOldDevice (hI : Kept w cfg P I M) {d : DevPtr} {s : State} (h : I s)
    (hd : d ∈ s.gDevices) (hP : Due cfg d (advance w s) → P (.timeout d) (advance w s)) :
    I (timeoutOldDevice w cfg d s).2 := by
  by_cases hDue : Due cfg d (advance w s)
  · have hRun := hI.op (o := .timeout d) (hI.quiet (quiet_advance w s) h) ⟨hd, hDue⟩ (hP hDue)
      (by simp)
    rw [timeoutOldDevice_of_due w cfg hDue]
    exact unlessFails_post (fun _ => hRun) fun _ => hRun
  · exact hI.quiet (timeoutOldDevice_of_not_due w cfg hDue).2 h

/-- The invariant holds at every device the sweep comes to. -/
theorem visits_devices (hI : Kept w cfg P I M) {s : State} (h : I s)
    (hCalls : Calls w cfg P .timeoutOldDevices s) :
    Visits (LinkControl.timeoutOldDevice w cfg) (fun d s' => I s' ∧ d ∈ s'.gDevices ∧
      (Due cfg d (advance w s') → P (.timeout d) (advance w s'))) s.gDevices s := by
  refine (visits_invariant (I := fun s' => I s' ∧ s'.gDevices = s.gDevices) ?_ s
    ⟨h, rfl⟩ hCalls).mono ?_
  · intro d hd s' h hP
    obtain ⟨h', hDevices⟩ := h
    exact ⟨hI.timeoutOldDevice h' (hDevices ▸ hd) hP,
      (touched_timeoutOldDevice w cfg d s').gDevices.trans hDevices⟩
  · intro d s' h
    obtain ⟨hd, ⟨h', hDevices⟩, hP⟩ := h
    exact ⟨h', hDevices ▸ hd, hP⟩

theorem timeoutOldDevices (hI : Kept w cfg P I M) {s : State}
    (h : I s) (hCalls : Calls w cfg P .timeoutOldDevices s) :
    I (timeoutOldDevices w cfg s).2 :=
  untilFailure_invariant (fun _ _ _ h' hP => hI.timeoutOldDevice h' hP.2.1 hP.2.2) s h
    (hI.visits_devices h hCalls)

/-- The devices of an overdue client. -/
theorem removeClientFromDevices (hI : Kept w cfg P I M) {c : CliPtr} :
    ∀ {ds : List DevPtr} {s : State}, M c s → c ∈ s.gClients → (∀ d ∈ ds, d ∈ s.gDevices) →
      Visits (removeClientFromDevice w cfg c) (fun d s => P (.expire c d) s) ds s →
      (0 ≤ (untilFailure (removeClientFromDevice w cfg c) ds s).1 →
        M c (untilFailure (removeClientFromDevice w cfg c) ds s).2) ∧
      ((untilFailure (removeClientFromDevice w cfg c) ds s).1 < 0 →
        I (untilFailure (removeClientFromDevice w cfg c) ds s).2) := by
  intro ds
  induction ds with
  | nil => exact fun h _ _ _ => ⟨fun _ => h, fun hRet => absurd hRet (by simp [untilFailure])⟩
  | cons d rest ih =>
    intro s h hc hKnown hVisits
    have hd := hKnown d (List.mem_cons_self ..)
    have ht := touched_removeClientFromDevice w cfg d s c
    rw [untilFailure]
    by_cases hFail : (removeClientFromDevice w cfg c d s).1 < 0
    · rw [unlessFails_of_neg hFail]
      exact ⟨fun hRet => absurd hRet (by simp),
        fun _ => hI.expireFailed h hc hd hVisits.1 hFail⟩
    · have hRet := Int.not_lt.mp hFail
      rw [unlessFails_of_nonneg hRet]
      exact ih (hI.expire h hc hd hVisits.1 hRet) (ht.gClients ▸ hc)
        (fun x hx => ht.gDevices ▸ hKnown x (List.mem_cons_of_mem _ hx)) (hVisits.2 hRet)

theorem timeoutOldClient (hI : Kept w cfg P I M) {c : CliPtr} {s : State} (h : I s)
    (hc : c ∈ s.gClients)
    (hCalls : Overdue cfg c (advance w s) →
      Visits (removeClientFromDevice w cfg c) (fun d s => P (.expire c d) s)
        s.gDevices (noteExpired w c s)) :
    I (timeoutOldClient w cfg c s).2 := by
  have hNow : I (advance w s) := hI.quiet (quiet_advance w s) h
  by_cases hOver : Overdue cfg c (advance w s)
  · rw [timeoutOldClient_of_overdue w cfg hOver]
    have hNoted : M c (noteExpired w c s) := hI.expired _ _ hNow
    obtain ⟨hSwept, hFailed⟩ :=
      hI.removeClientFromDevices hNoted hc (fun _ hd => hd) (hCalls hOver)
    obtain ⟨hDevices, hClients⟩ :=
      removeClientFromDevices_globals w cfg c (noteExpired w c s).gDevices (noteExpired w c s)
    refine unlessFails_post hFailed fun hRet => ?_
    have hc' : c ∈ (removeClientFromAllDevices w cfg c (noteExpired w c s)).2.gClients :=
      hClients.symm ▸ hc
    rw [dropClient_of_mem hc']
    refine hI.dropped (hSwept hRet) hc' fun d hd => ?_
    exact removeClientFromDevices_gone c (hI.expiring hNoted).clientsNodup hRet d
      (hDevices ▸ hd)
  · rw [timeoutOldClient_of_not_overdue w cfg hOver]
    exact hNow

/-- One round of the sweep over the clients drops at most its own client. -/
theorem timeoutOldClient_gClients (w : World) (cfg : Config) (c : CliPtr) (s : State) :
    (LinkControl.timeoutOldClient w cfg c s).2.gClients = s.gClients ∨
      (LinkControl.timeoutOldClient w cfg c s).2.gClients = s.gClients.erase c := by
  by_cases hOver : Overdue cfg c (advance w s)
  · rw [timeoutOldClient_of_overdue w cfg hOver]
    obtain ⟨-, hClients⟩ :=
      removeClientFromDevices_globals w cfg c (noteExpired w c s).gDevices (noteExpired w c s)
    have hSame : (removeClientFromAllDevices w cfg c (noteExpired w c s)).2.gClients =
        s.gClients := hClients
    refine unlessFails_post (I := fun s' : State => s'.gClients = s.gClients ∨
      s'.gClients = s.gClients.erase c) (fun _ => Or.inl hSame) fun _ => ?_
    by_cases hc : c ∈ s.gClients
    · rw [dropClient_of_mem (hSame ▸ hc)]
      exact Or.inr (congrArg (List.erase · c) hSame)
    · unfold dropClient rmClient
      rw [rmCell_eq, if_neg (hSame ▸ hc)]
      exact Or.inl hSame
  · rw [timeoutOldClient_of_not_overdue w cfg hOver]
    exact Or.inl rfl

/-- The other clients are still listed. -/
theorem timeoutOldClient_others (w : World) (cfg : Config) {c c' : CliPtr} {s : State}
    (hc' : c' ∈ s.gClients) (hOther : c' ≠ c) :
    c' ∈ (LinkControl.timeoutOldClient w cfg c s).2.gClients := by
  rcases timeoutOldClient_gClients w cfg c s with hEq | hEq <;> rw [hEq]
  · exact hc'
  · exact (List.mem_erase_of_ne hOther).mpr hc'

/-- The invariant holds at every client the sweep comes to, and the client is still
listed: the walk goes over the list as it was, and only its own client can leave. -/
theorem visits_clients (hI : Kept w cfg P I M) {s : State} (h : I s)
    (hCalls : Calls w cfg P .timeoutOldClients s) :
    Visits (LinkControl.timeoutOldClient w cfg) (fun c s' => I s' ∧ c ∈ s'.gClients ∧
      (Overdue cfg c (advance w s') →
        Visits (removeClientFromDevice w cfg c) (fun d s => P (.expire c d) s)
          s'.gDevices (noteExpired w c s'))) s.gClients s := by
  have hLoop : ∀ (cs : List CliPtr) (s' : State), cs.Nodup → (∀ c ∈ cs, c ∈ s'.gClients) → I s' →
      Visits (LinkControl.timeoutOldClient w cfg) (fun c s => Overdue cfg c (advance w s) →
        Visits (removeClientFromDevice w cfg c) (fun d s => P (.expire c d) s)
          s.gDevices (noteExpired w c s)) cs s' →
      Visits (LinkControl.timeoutOldClient w cfg) (fun c s' => I s' ∧ c ∈ s'.gClients ∧
        (Overdue cfg c (advance w s') →
          Visits (removeClientFromDevice w cfg c) (fun d s => P (.expire c d) s)
            s'.gDevices (noteExpired w c s'))) cs s' := by
    intro cs
    induction cs with
    | nil => exact fun s' _ _ _ _ => trivial
    | cons c rest ih =>
      intro s' hNodup hMem h' hVisits
      obtain ⟨hc, hRest⟩ := List.nodup_cons.mp hNodup
      have hListed := hMem c (List.mem_cons_self ..)
      refine ⟨⟨h', hListed, hVisits.1⟩, fun hRet => ?_⟩
      refine ih _ hRest (fun x hx => ?_) (hI.timeoutOldClient h' hListed hVisits.1)
        (hVisits.2 hRet)
      have hx' : x ∈ s'.gClients := hMem x (List.mem_cons_of_mem _ hx)
      exact timeoutOldClient_others w cfg hx' fun hEq => hc (hEq ▸ hx)
  exact hLoop s.gClients s (hI.wellFormed h).clients_nodup (fun c hc => hc) h hCalls

theorem timeoutOldClients (hI : Kept w cfg P I M) {s : State}
    (h : I s) (hCalls : Calls w cfg P .timeoutOldClients s) :
    I (timeoutOldClients w cfg s).2 :=
  untilFailure_invariant (fun _ _ _ h' hP => hI.timeoutOldClient h' hP.2.1 hP.2.2) s h
    (hI.visits_clients h hCalls)

/-- **Step rule.** -/
theorem step (hI : Kept w cfg P I M) {e : Event} {s : State} (h : I s)
    (hCalls : StepCalls w cfg P e s) : I (step w cfg e s).2 := by
  unfold LinkControl.step
  split
  · exact h
  · rename_i hLive
    have hNow : I (advance w s) := hI.quiet (quiet_advance w s) h
    have hCalls' := hCalls (by simpa using hLive)
    cases e with
    | client cli message => exact hI.processClient hNow hCalls'
    | peer message => exact hI.processPeer hNow hCalls'
    | timeoutOldClients => exact hI.timeoutOldClients hNow hCalls'
    | timeoutOldDevices => exact hI.timeoutOldDevices hNow hCalls'

/-- **Run rule.** -/
theorem run (hI : Kept w cfg P I M) {es : List Event} {s : State} (h : I s)
    (hCalls : Runs.Along (fun e s => (LinkControl.step w cfg e s).2)
      (StepCalls w cfg P) es s) : I (serverRun w cfg es s) :=
  Runs.run_invariant (fun _ _ h hP => hI.step h hP) es s h hCalls

end Kept

/-- A condition that every call meets anywhere is met by the calls of every step. -/
theorem calls_of_forall (h : ∀ o s, P o s) (e : Event) (s : State) : StepCalls w cfg P e s := by
  intro _
  cases e with
  | client cli message =>
    exact Calls.client fun _ _ _ o _ => h o _
  | peer message => exact fun o _ => h o _
  | timeoutOldClients =>
    exact visits_of_forall (fun c s _ => visits_of_forall (fun d s => h _ s) _ _) _ _
  | timeoutOldDevices => exact visits_of_forall (fun d s _ => h _ _) _ _

end LinkControl
