import LinkControl.Server.Traffic

/-!
# Link server — questions over the network

Datagrams are posted to the server, from any sockets, and the network brings them there: some
time later, once, often, or never (`Genuine`). In between the server makes the turns of its main
loop. What it replies goes back the same way.

`reply_origin` is about a socket that has posted one datagram only. Whatever reply is ever
seen there was given in a turn that came after, and it answers this datagram in the state in
which the turn began.
-/

namespace LinkControl

open ReturnCode

/-- The server process, and what has been posted to it, oldest first. -/
structure Exchange where
  process : Process
  posted : List (SockAddr × CStr)

/-- What happens next: somebody posts a datagram, or the server makes a turn. -/
inductive Hop where
  | post (m : SockAddr × CStr)
  | turn (t : LoopTurn)

def hop (w : World) (cfg : Config) (group : Option SockAddr) : Hop → Exchange → Exchange
  | .post m, x => { x with posted := x.posted ++ [m] }
  | .turn t, x => { x with process := loopTurn w cfg group t x.process }

/-- What the server reads has been posted. -/
def Genuine (h : Hop) (x : Exchange) : Prop :=
  ∀ m terminated, h = .turn ⟨.readable (some m), terminated⟩ → m ∈ x.posted

/-- The server has started, and nothing has been posted. -/
def opened (w : World) (group : Option SockAddr) (terminated : Bool)
    (sections : List DeviceSection) : Exchange :=
  ⟨started w group terminated (boot w sections), []⟩

variable {w : World} {cfg : Config} {group : Option SockAddr} {terminated : Bool}
  {sections : List DeviceSection}

/-- What these hops lead to. -/
def exchange (w : World) (cfg : Config) (group : Option SockAddr) (terminated : Bool)
    (sections : List DeviceSection) (hops : List Hop) : Exchange :=
  Runs.run (hop w cfg group) hops (opened w group terminated sections)

theorem posted_run (hops : List Hop) (x : Exchange) {m : SockAddr × CStr} :
    m ∈ (Runs.run (hop w cfg group) hops x).posted ↔ m ∈ x.posted ∨ .post m ∈ hops := by
  induction hops generalizing x with
  | nil => simp [Runs.run]
  | cons h hops ih =>
    rw [Runs.run_cons, ih]
    cases h with
    | post m' => simp [hop, or_assoc]
    | turn t => simp [hop]

/-- What the server keeps in its turns, it keeps in an exchange. -/
theorem exchange_invariant {I : State → Prop} (hQuiet : ∀ {s s'}, Quiet s s' → I s → I s')
    (hStep : ∀ {s} e, I s → I (step w cfg e s).2) (h : I (boot w sections)) (hops : List Hop) :
    I (exchange w cfg group terminated sections hops).process.server := by
  refine Runs.run_invariant (P := fun _ _ => True) (I := fun x : Exchange => I x.process.server)
    (fun h x hx _ => ?_) hops _ (hQuiet (quiet_broadcastCopy w group broadcastInit _) h)
    (Runs.along_of_forall (fun _ _ => trivial) hops _)
  cases h with
  | post m => exact hx
  | turn t =>
    exact loopTurn_invariant (E := fun _ => True) trivial trivial hQuiet (fun e _ => hStep e)
      (fun _ _ => trivial) hx

/-- **Where a reply comes from.** If a socket has posted one datagram only, a reply to it was given
in a turn that came after that, to this datagram. -/
theorem reply_origin {before after : List Hop} {me : SockAddr} {request text : CStr}
    (hOnce : ∀ m, .post (me, m) ∉ before ++ after)
    (hGenuine : Runs.Along (hop w cfg group) Genuine (before ++ .post (me, request) :: after)
      (opened w group terminated sections))
    (hReply : (me, text) ∈ replies (exchange w cfg group terminated sections
      (before ++ .post (me, request) :: after)).process.server) :
    ∃ middle t rest, after = middle ++ .turn t :: rest ∧
      Answers w (exchange w cfg group terminated sections
        (before ++ .post (me, request) :: middle)).process.server
        (.readable (some (me, request))) (me, text) := by
  have hNone : (me, text) ∉ replies (opened w group terminated sections).process.server := by
    rw [opened, started_replies]
    exact List.not_mem_nil
  obtain ⟨pre, h, post, hHops, hNot, hNow⟩ := Runs.exists_change
    (A := fun x : Exchange => (me, text) ∈ replies x.process.server) hNone hReply
  cases h with
  | post m => exact absurd hNow hNot
  | turn t =>
    set x := Runs.run (hop w cfg group) pre (opened w group terminated sections) with hx
    -- the turn has replied to a datagram of this socket, which must have been posted before it
    have hAnswers : Answers w x.process.server t.selected (me, text) := by
      have hNow' : (me, text) ∈ replies (loopTurn w cfg group t x.process).server := hNow
      rcases (loopTurn_said w cfg group t x.process).2 with hSame | ⟨m, hm, hOne⟩
      · exact absurd (hSame ▸ hNow') hNot
      · rw [hOne, List.mem_append, List.mem_singleton] at hNow'
        exact hNow'.resolve_left hNot ▸ hm
    obtain ⟨datagram, c, s₁, hSelected, hAsked⟩ := hAnswers
    have hPosted : .post (me, datagram) ∈ pre := by
      rw [hHops] at hGenuine
      have hMem := hGenuine.at (me, datagram) t.terminated (by rw [← hSelected])
      exact ((posted_run pre _).mp hMem).resolve_left List.not_mem_nil
    have hNever : ∀ {l}, l ⊆ before ++ after → .post (me, datagram) ∉ l := fun hSub hMem =>
      hOnce datagram (hSub hMem)
    rcases List.append_eq_append_iff.mp hHops with ⟨middle, rfl, hRest⟩ | ⟨missing, rfl, -⟩
    · cases middle with
      | nil => exact absurd (List.cons.inj hRest).1 (by simp)
      | cons first middle =>
        obtain ⟨rfl, rfl⟩ := List.cons.inj hRest
        refine ⟨middle, t, post, rfl, datagram, c, s₁, ?_, hAsked⟩
        rcases List.mem_append.mp hPosted with hMem | hMem
        · exact absurd hMem (hNever (List.subset_append_left ..))
        · rcases List.mem_cons.mp hMem with hThis | hMem
          · rw [(Prod.mk.inj (Hop.post.inj hThis)).2]
          · exact absurd hMem (hNever fun y hy => by simp [hy])
    · exact absurd hPosted (hNever fun y hy => by simp [hy])

end LinkControl
