import LinkControl.JavaClient.Agreement
import LinkControl.Server.Static
import LinkControl.Server.Sending

/-!
# Java client — the listener and its servers

Servers that start, serve, broadcast and quit, a network that loses, repeats and reorders
their broadcasts, and the thread of the client that listens to it (`Net`, `netStep`). A
server may be started again at its address with other devices; its earlier broadcasts are
still on their way.

What ends the thread is a status message about a device that is not in the list the listener
holds for the server: `updateDeviceStatus ()` takes this for impossible and throws an
`Error`, and `run ()` catches a `NoSuchServerException` only. `listener_survives_iff` says
that nothing else does.
-/

namespace LinkControl.JavaClient

open Tokens

-- ---------------------------------------------------------------------------
-- Servers, network, listener
-- ---------------------------------------------------------------------------

/-- A server that is running, and the group it broadcasts to. -/
structure Node where
  w : World
  cfg : Config
  group : Option SockAddr
  s : State

/-- A broadcast: where it comes from, its text, and the names that a status message is
about. -/
structure Datagram where
  sa : SockAddr
  text : CStr
  named : List CStr
deriving DecidableEq, Repr

/-- The servers that are running, all that has been broadcast so far, the listener, and what
has ended its thread. -/
structure Net where
  nodes : SockAddr → Option Node
  sent : List Datagram
  listener : Listener
  thrown : Option Thrown

/-- The texts a call has sent. -/
def sentBy (s s' : State) : List CStr :=
  (s'.sent.take (s'.sent.length - s.sent.length)).map Prod.snd

/-- A server broadcasts. -/
def Net.broadcast (net : Net) (sa : SockAddr) (node : Node) (named : List CStr) (s' : State) :
    Net :=
  { net with
    nodes := Function.update net.nodes sa (some { node with s := s' })
    sent := net.sent ++ (sentBy node.s s').map fun text => ⟨sa, text, named⟩ }

inductive NetEvent where
  /-- a server starts, in place of one that may have been running there -/
  | start (sa : SockAddr) (w : World) (cfg : Config) (group : Option SockAddr)
      (sections : List DeviceSection)
  /-- a turn of the main loop of a server -/
  | serve (sa : SockAddr) (e : Event)
  /-- a server polls its clients -/
  | poll (sa : SockAddr)
  | quit (sa : SockAddr)
  /-- a broadcast reaches the listener, whose requests are answered like this -/
  | deliver (k : Nat) (request : Request)

/-- A broadcast that is delivered stays where it is: it may come again, or never. -/
def netStep (J : JavaLang) : NetEvent → Net → Net
  | .start sa w cfg group sections, net =>
    let node : Node := ⟨w, cfg, group, boot w sections⟩
    net.broadcast sa node [] (broadcastInitMessage w group node.s).2
  | .serve sa e, net =>
    match net.nodes sa with
    | none => net
    | some node =>
      let s := (step node.w node.cfg e node.s).2
      { net with nodes := Function.update net.nodes sa (some { node with s }) }
  | .poll sa, net =>
    match net.nodes sa with
    | none => net
    | some node =>
      if node.s.crashed then net
      else net.broadcast sa node (deviceNames node.s)
        (broadcastStatusMessage node.w node.group node.s).2
  | .quit sa, net =>
    match net.nodes sa with
    | none => net
    | some node =>
      if node.s.crashed then net
      else
        let net := net.broadcast sa node [] (broadcastQuitMessage node.w node.group node.s).2
        { net with nodes := Function.update net.nodes sa none }
  | .deliver k request, net =>
    match net.thrown, net.sent[k]? with
    | none, some m =>
      let (thrown, listener) := run J request m.sa m.text net.listener
      { net with listener, thrown }
    | _, _ => net

/-- No server has been started, and the listener knows none. -/
def quietNet : Net := ⟨fun _ => none, [], ⟨[], 0⟩, none⟩

-- ---------------------------------------------------------------------------
-- What servers and network are trusted with
-- ---------------------------------------------------------------------------

/-- Names that are not empty and have no white space in them. -/
def PlainNames (names : List CStr) : Prop :=
  ∀ name ∈ names, LinuxClient.Sendable name ∧ ' ' ∉ name

/-- A request gets no answer, or the server that is running there has answered it and the
client has decoded its device list. -/
def Answers (J : JavaLang) (net : Net) (request : Request) : Prop :=
  ∀ sa talks, (request sa talks).1 = some .noSuchServer ∨
    (request sa talks).1 = none ∧ ∃ node, net.nodes sa = some node ∧
      (request sa talks).2.1.map LinkDevice.name = decodedNames J node.s

/-- Servers have plain names and messages that fit a packet, and requests are answered
properly. -/
def Lawful (J : JavaLang) : NetEvent → Net → Prop
  | .start _ w _ _ sections, _ => PlainNames (deviceNames (boot w sections))
  | .serve _ _, _ => True
  | .poll sa, net => ∀ text ∈ (net.nodes sa).bind fun node => (statusMessage node.w node.s).1,
      text.length ≤ Protocol.maxPacketSize
  | .quit _, _ => True
  | .deliver _ request, net => Answers J net request

/-- The names are those of devices in the list. -/
def Known (J : JavaLang) (names : List CStr) (devices : List LinkDevice) : Prop :=
  ∀ name ∈ names, (getDevice J (J.decode name) devices).isSome

/-- What the listener holds for the server at an address. -/
def Listener.held (l : Listener) (sa : SockAddr) : Option LinkServer :=
  l.linkServers.find? fun server => server.sa.addr = sa.addr

/-- The names a broadcast is about are known: to the list held for the server, or, if the
server is not listed, to the one it is listed with now, if it answers. -/
def Expected (J : JavaLang) (request : Request) (m : Datagram) (talks : Nat) :
    Option LinkServer → Prop
  | some server => Known J m.named server.devicesControlled
  | none => (request m.sa talks).1 = none → Known J m.named (request m.sa talks).2.1

/-- A delivery brings no broadcast about a device that is not known. -/
def Heralded (J : JavaLang) : NetEvent → Net → Prop
  | .deliver k request, net =>
    ∀ m ∈ net.sent[k]?, Expected J request m net.listener.talks (net.listener.held m.sa)
  | .start .., _ | .serve .., _ | .poll _, _ | .quit _, _ => True

instance (names : List CStr) : Decidable (PlainNames names) :=
  inferInstanceAs (Decidable (∀ name ∈ names, _))

instance (J : JavaLang) (names : List CStr) (devices : List LinkDevice) :
    Decidable (Known J names devices) :=
  inferInstanceAs (Decidable (∀ name ∈ names, _))

instance (J : JavaLang) (request : Request) (m : Datagram) (talks : Nat) :
    ∀ server, Decidable (Expected J request m talks server)
  | some server => inferInstanceAs (Decidable (Known J m.named server.devicesControlled))
  | none => inferInstanceAs (Decidable (_ = none → Known J m.named _))

instance (J : JavaLang) : ∀ e net, Decidable (Heralded J e net)
  | .deliver k request, net => inferInstanceAs (Decidable (∀ m ∈ net.sent[k]?,
      Expected J request m net.listener.talks (net.listener.held m.sa)))
  | .start .., _ | .serve .., _ | .poll _, _ | .quit _, _ => isTrue trivial

/-- The thread is running, and what is delivered is dealt with. -/
def Listens (J : JavaLang) (net : Net) : Prop :=
  net.thrown = none ∧ ∀ k request, ∀ m ∈ net.sent[k]?,
    (netStep J (.deliver k request) net).listener = (run J request m.sa m.text net.listener).2

-- ---------------------------------------------------------------------------
-- What a server sends
-- ---------------------------------------------------------------------------

section Sending

variable {w : World} {group : Option SockAddr} {s s' : State}

/-- Nothing has been sent where the log of what was sent is the same. -/
theorem not_mem_sentBy (h : s'.sent = s.sent) (text : CStr) : text ∉ sentBy s s' := by
  simp [sentBy, h]

/-- A broadcast sends its text or nothing. -/
theorem sentBy_broadcastMessage {text sendBuffer : CStr} (hSame : s'.sent = s.sent)
    (h : text ∈ sentBy s (broadcastMessage w group sendBuffer s').2) : text = sendBuffer := by
  unfold broadcastMessage at h
  split at h
  · exact absurd h (not_mem_sentBy hSame text)
  · split at h
    · simp only [sentBy, hSame, List.length_cons] at h
      rw [Nat.add_sub_cancel_left] at h
      simpa using h
    · exact absurd h (not_mem_sentBy hSame text)

theorem sentBy_broadcastCopy {text sendBuffer : CStr}
    (h : text ∈ sentBy s (broadcastCopy w group sendBuffer s).2) : text = sendBuffer := by
  have hMalloc := malloc_sent w s
  unfold broadcastCopy at h
  split at h <;> rename_i hEq <;> rw [hEq] at hMalloc
  · exact absurd h (not_mem_sentBy hMalloc text)
  · exact sentBy_broadcastMessage hMalloc h

/-- A status broadcast sends the text of its reports. -/
theorem sentBy_broadcastStatusMessage {text : CStr}
    (h : text ∈ sentBy s (broadcastStatusMessage w group s).2) :
    (∃ s', statusMessage w s = (some text, s')) ∧
      text = broadcastStatus ++ reportText (reports w s) := by
  have hSent := statusMessage_sent w s
  unfold broadcastStatusMessage at h
  split at h <;> rename_i hEq <;> rw [hEq] at hSent
  · exact absurd h (not_mem_sentBy hSent text)
  · rename_i message s₁
    obtain rfl := sentBy_broadcastMessage hSent h
    exact ⟨⟨s₁, hEq⟩, reports_text hEq⟩

end Sending

-- ---------------------------------------------------------------------------
-- What the listener makes of it
-- ---------------------------------------------------------------------------

variable {J : JavaLang} {request : Request} {m : Datagram} {l : Listener}

/-- What a server broadcasts: one of the two short messages, or a status message about the
devices it names. -/
inductive Sound (J : JavaLang) : Datagram → Prop where
  | init (sa : SockAddr) : Sound J ⟨sa, broadcastInit, []⟩
  | quit (sa : SockAddr) : Sound J ⟨sa, broadcastQuit, []⟩
  | status (sa : SockAddr) (rs : List Report) :
      (∀ r ∈ rs, IsToken (J.decode r.name)) →
      (broadcastStatus ++ reportText rs).length ≤ Protocol.maxPacketSize →
      Sound J ⟨sa, broadcastStatus ++ reportText rs, rs.map Report.name⟩

/-- Either the request is answered, or it fails in the one way that is caught. -/
def Caught (request : Request) : Prop :=
  ∀ sa talks, (request sa talks).1 = some .noSuchServer ∨ (request sa talks).1 = none

/-- An INIT is two words for the client. -/
theorem tokens_init (J : JavaLang) : tokens delims (trim (J.decode (packetData broadcastInit))) =
    [Protocol.broadcastPrefix, Protocol.broadcastInit] := by
  rw [trim_decode_packetData J (by decide), decode_of_ascii J (by decide)]
  decide +kernel

/-- So is a QUIT. -/
theorem tokens_quit (J : JavaLang) : tokens delims (trim (J.decode (packetData broadcastQuit))) =
    [Protocol.broadcastPrefix, Protocol.broadcastQuit] := by
  rw [trim_decode_packetData J (by decide), decode_of_ascii J (by decide)]
  decide +kernel

/-- INIT ends nothing: a request that fails has the server removed. -/
theorem parseMessage_init (hCaught : Caught request) (server : LinkServer) :
    (parseMessage J request (packetData broadcastInit) server l).1 = none := by
  have hRequest := hCaught server.sa l.talks
  unfold parseMessage
  rw [tokens_init]
  rcases hReply : request server.sa l.talks with ⟨thrown, devices, talks⟩
  rw [hReply] at hRequest
  rcases hRequest with hFail | hDone
  · obtain rfl : thrown = some .noSuchServer := hFail
    rfl
  · obtain rfl : thrown = none := hDone
    rfl

/-- A QUIT never throws. -/
theorem parseMessage_quit (server : LinkServer) :
    (parseMessage J request (packetData broadcastQuit) server l).1 = none := by
  unfold parseMessage
  rw [tokens_quit]
  rfl

/-- A status message ends the thread if it is about a device that is not known. -/
theorem parseMessage_status_iff {rs : List Report} (hTokens : ∀ r ∈ rs, IsToken (J.decode r.name))
    (hLength : (broadcastStatus ++ reportText rs).length ≤ Protocol.maxPacketSize)
    (server : LinkServer) :
    (parseMessage J request (packetData (broadcastStatus ++ reportText rs)) server l).1 = none ↔
      Known J (rs.map Report.name) server.devicesControlled := by
  have hText : tokens delims (reportText (rs.map (decoded J))) =
      (rs.map (decoded J)).flatMap reportTokens := by
    refine tokens_reportText fun x hx => ?_
    obtain ⟨r, hr, rfl⟩ := List.mem_map.mp hx
    exact hTokens r hr
  rw [parseMessage_status request server l hLength, hText]
  constructor
  · intro hNone name hName
    by_contra hUnknown
    obtain ⟨r, hr, rfl⟩ := List.mem_map.mp hName
    have hError : (updateDeviceStatus J ((rs.map (decoded J)).flatMap reportTokens)
        server.devicesControlled).1 = some .error :=
      updateDeviceStatus_unknown ⟨decoded J r, List.mem_map_of_mem hr,
        by simpa [decoded] using hUnknown⟩
    rw [show _ = none from hNone] at hError
    exact absurd hError (by simp)
  · intro hKnown
    have hAll : ∀ x ∈ rs.map (decoded J), (getDevice J x.name server.devicesControlled).isSome := by
      intro x hx
      obtain ⟨r, hr, rfl⟩ := List.mem_map.mp hx
      exact hKnown r.name (List.mem_map_of_mem hr)
    exact congrArg Prod.fst (updateDeviceStatus_reports hAll)

/-- One message of a server. -/
theorem parseMessage_sound (hm : Sound J m) (hCaught : Caught request) (server : LinkServer) :
    (parseMessage J request (packetData m.text) server l).1 = none ↔
      Known J m.named server.devicesControlled := by
  cases hm with
  | init sa => exact iff_of_true (parseMessage_init hCaught server) (by simp [Known])
  | quit sa => exact iff_of_true (parseMessage_quit server) (by simp [Known])
  | status sa rs hTokens hLength => exact parseMessage_status_iff hTokens hLength server

/-- **One round of the loop**: the thread goes on exactly if the broadcast is about devices
that are known. -/
theorem run_iff (hm : Sound J m) (hCaught : Caught request) :
    (run J request m.sa m.text l).1 = none ↔
      Expected J request m l.talks (l.held m.sa) := by
  unfold run getServer Listener.held
  cases hFind : l.linkServers.find? fun server => server.sa.addr = m.sa.addr with
  | some server => exact parseMessage_sound hm hCaught server
  | none =>
    have hRequest := hCaught m.sa l.talks
    have hNew : l.linkServers.any (fun server => server.sa.addr = m.sa.addr) = false := by
      rw [List.any_eq_false]
      exact List.find?_eq_none.mp hFind
    unfold Expected
    rcases hReply : request m.sa l.talks with ⟨thrown, devices, talks⟩
    rw [hReply] at hRequest
    rcases hRequest with hFail | hDone
    · obtain rfl : thrown = some .noSuchServer := hFail
      simp
    · obtain rfl : thrown = none := hDone
      have hAdd : addServer ⟨m.sa, devices⟩ l.linkServers = some (l.linkServers ++ [⟨m.sa, devices⟩]) :=
        if_neg (by simp [hNew])
      simp only [hAdd, true_imp_iff]
      exact parseMessage_sound hm hCaught ⟨m.sa, devices⟩

-- ---------------------------------------------------------------------------
-- Steps and runs
-- ---------------------------------------------------------------------------

variable {net : Net} {e : NetEvent}

/-- A server whose names are plain. -/
structure PlainServer (s : State) : Prop where
  wellFormed : WellFormed s
  names : PlainNames (deviceNames s)

theorem PlainServer.quiet {s s' : State} (h : PlainServer s) (hq : Quiet s s') :
    PlainServer s' := by
  refine ⟨h.wellFormed.quiet hq, ?_⟩
  have hNames : deviceNames s' = deviceNames s := by
    rw [deviceNames, hq.gDevices, hq.dev, deviceNames]
  rw [hNames]
  exact h.names

/-- A plain server stays one, whatever it is told. -/
theorem PlainServer.step {w : World} {cfg : Config} {s : State} (h : PlainServer s) (e : Event) :
    PlainServer (LinkControl.step w cfg e s).2 := by
  obtain ⟨hWellFormed, hNames⟩ := deviceNames_step w cfg h.wellFormed e
  exact ⟨hWellFormed, hNames.symm ▸ h.names⟩

/-- Another server at one address. -/
theorem plain_update {nodes : SockAddr → Option Node} {sa : SockAddr} {new : Option Node}
    (h : ∀ sa node, nodes sa = some node → PlainServer node.s)
    (hNew : ∀ node, new = some node → PlainServer node.s) :
    ∀ sa' node, Function.update nodes sa new sa' = some node → PlainServer node.s := by
  intro sa' node hAt
  rcases eq_or_ne sa' sa with rfl | hOther
  · rw [Function.update_self] at hAt
    exact hNew node hAt
  · rw [Function.update_of_ne hOther] at hAt
    exact h sa' node hAt

/-- The servers have plain names, and all that is on its way is what servers broadcast. -/
structure Trusted (J : JavaLang) (net : Net) : Prop where
  nodes : ∀ sa node, net.nodes sa = some node → PlainServer node.s
  sent : ∀ m ∈ net.sent, Sound J m

/-- What has been sent since adds packets that the client may rely on, if each of them is sound.
-/
theorem Trusted.broadcast (h : Trusted J net) {sa : SockAddr} {node : Node} {named : List CStr}
    {s' : State} (hNode : PlainServer s')
    (hSent : ∀ text ∈ sentBy node.s s', Sound J ⟨sa, text, named⟩) :
    Trusted J (net.broadcast sa node named s') := by
  refine ⟨plain_update h.nodes ?_, fun m hm => ?_⟩
  · intro node' hNew
    rw [← Option.some.inj hNew]
    exact hNode
  · rcases List.mem_append.mp hm with hm | hm
    · exact h.sent m hm
    · obtain ⟨text, hText, rfl⟩ := List.mem_map.mp hm
      exact hSent text hText

/-- A status message about plain names. -/
theorem sound_status {w : World} {group : Option SockAddr} {s : State} (h : PlainServer s)
    (hLength : ∀ text ∈ (statusMessage w s).1, text.length ≤ Protocol.maxPacketSize)
    (sa : SockAddr) :
    ∀ text ∈ sentBy s (broadcastStatusMessage w group s).2,
      Sound J ⟨sa, text, deviceNames s⟩ := by
  intro text hText
  obtain ⟨⟨s', hMessage⟩, hReports⟩ := sentBy_broadcastStatusMessage hText
  have hFits := hLength text (congrArg Prod.fst hMessage)
  have hNames : deviceNames s = (reports w s).map Report.name := (reports_names w s).symm
  rw [hReports] at hFits ⊢
  rw [hNames]
  refine .status sa (reports w s) (fun r hr => ?_) hFits
  obtain ⟨hSendable, hBlank⟩ := h.names r.name (hNames ▸ List.mem_map_of_mem hr)
  exact isToken_decode hSendable hBlank

theorem Answers.caught (h : Answers J net request) : Caught request := by
  intro sa talks
  rcases h sa talks with hFail | ⟨hDone, -⟩
  · exact Or.inl hFail
  · exact Or.inr hDone

/-- **What a step keeps.** -/
theorem trusted_step (h : Trusted J net) (hLawful : Lawful J e net) :
    Trusted J (netStep J e net) := by
  cases e with
  | start sa w cfg group sections =>
    have hBoot : PlainServer (boot w sections) := ⟨(booted_boot w sections).wellFormed, hLawful⟩
    refine h.broadcast (hBoot.quiet (quiet_broadcastCopy w group _ _)) fun text hText => ?_
    obtain rfl := sentBy_broadcastCopy hText
    exact .init sa
  | serve sa e =>
    cases hNode : net.nodes sa with
    | none => simpa only [netStep, hNode] using h
    | some node =>
      simp only [netStep, hNode]
      refine ⟨plain_update h.nodes ?_, h.sent⟩
      intro node' hNew
      rw [← Option.some.inj hNew]
      exact (h.nodes sa node hNode).step e
  | poll sa =>
    cases hNode : net.nodes sa with
    | none => simpa only [netStep, hNode] using h
    | some node =>
      simp only [netStep, hNode]
      have hPlain := h.nodes sa node hNode
      split
      · exact h
      · exact h.broadcast (hPlain.quiet (quiet_broadcastStatusMessage _ _ _))
          (sound_status hPlain (fun text hText => hLawful text (by simpa [hNode] using hText)) sa)
  | quit sa =>
    cases hNode : net.nodes sa with
    | none => simpa only [netStep, hNode] using h
    | some node =>
      simp only [netStep, hNode]
      have hPlain := h.nodes sa node hNode
      split
      · exact h
      · have hSaid : Trusted J (net.broadcast sa node []
            (broadcastQuitMessage node.w node.group node.s).2) := by
          refine h.broadcast (hPlain.quiet (quiet_broadcastCopy _ _ _ _)) fun text hText => ?_
          obtain rfl := sentBy_broadcastCopy hText
          exact .quit sa
        exact ⟨plain_update hSaid.nodes (by simp), hSaid.sent⟩
  | deliver k request =>
    simp only [netStep]
    split <;> exact ⟨h.nodes, h.sent⟩

/-- **What ends the thread in a step.** -/
theorem thrown_step_iff (h : Trusted J net) (hLawful : Lawful J e net) (hThrown : net.thrown = none) :
    (netStep J e net).thrown = none ↔ Heralded J e net := by
  cases e with
  | start sa w cfg group sections => exact iff_of_true hThrown trivial
  | serve sa e =>
    refine iff_of_true ?_ trivial
    simp only [netStep]
    split <;> exact hThrown
  | poll sa =>
    refine iff_of_true ?_ trivial
    simp only [netStep]
    split
    · exact hThrown
    · split <;> exact hThrown
  | quit sa =>
    refine iff_of_true ?_ trivial
    simp only [netStep]
    split
    · exact hThrown
    · split <;> exact hThrown
  | deliver k request =>
    cases hAt : net.sent[k]? with
    | none => simp [netStep, Heralded, hThrown, hAt]
    | some m =>
      have hm : Sound J m := h.sent m (List.mem_of_getElem? hAt)
      have hRound := run_iff (l := net.listener) hm (Answers.caught hLawful)
      simpa [netStep, Heralded, hThrown, hAt] using hRound

/-- A thread that has ended stays so. -/
theorem thrown_step (J : JavaLang) (e : NetEvent) (net : Net) (h : ¬ net.thrown = none) :
    ¬ (netStep J e net).thrown = none := by
  cases e with
  | start sa w cfg group sections => exact h
  | serve sa e =>
    simp only [netStep]
    split <;> exact h
  | poll sa =>
    simp only [netStep]
    split
    · exact h
    · split <;> exact h
  | quit sa =>
    simp only [netStep]
    split
    · exact h
    · split <;> exact h
  | deliver k request =>
    simp only [netStep]
    split
    · rename_i hThrown _
      exact absurd hThrown h
    · exact h

/-- The thread listens until something has been thrown. -/
theorem listens_iff : Listens J net ↔ net.thrown = none := by
  refine ⟨And.left, fun hThrown => ⟨hThrown, fun k request m hAt => ?_⟩⟩
  have hAt : net.sent[k]? = some m := hAt
  simp only [netStep, hThrown, hAt]

theorem trusted_quietNet (J : JavaLang) : Trusted J quietNet :=
  ⟨fun sa node h => by simp [quietNet] at h, fun m hm => by simp [quietNet] at hm⟩

/-- **When the listener survives its servers.** Whatever the order in which servers start,
serve, broadcast and quit, and however their broadcasts are lost, repeated and delayed: the
thread is running at the end, and deals with whatever is delivered, if and only if every
broadcast that was delivered was about devices that are in the list held for its server, or
in the one the server was listed with then. -/
theorem listener_survives_iff (J : JavaLang) (es : List NetEvent)
    (h : Runs.Along (netStep J) (Lawful J) es quietNet) :
    Listens J (Runs.run (netStep J) es quietNet) ↔
      Runs.Along (netStep J) (Heralded J) es quietNet := by
  rw [listens_iff]
  exact Runs.run_survives_iff (I := Trusted J) (A := fun net => net.thrown = none)
    (fun _ _ hTrusted hLawful => trusted_step hTrusted hLawful)
    (fun _ _ hTrusted hLawful hThrown => thrown_step_iff hTrusted hLawful hThrown)
    (thrown_step J) es quietNet (trusted_quietNet J) rfl h

-- ---------------------------------------------------------------------------
-- A restart
-- ---------------------------------------------------------------------------

/-- Every request is answered by the server that is running. -/
def askNode (J : JavaLang) (net : Net) : Request := fun sa talks =>
  match net.nodes sa with
  | none => (some .noSuchServer, [], talks + 1)
  | some node => (none, (decodedNames J node.s).map unheard, talks + 1)

/-- A server that is asked where it runs answers as the client expects. -/
theorem answers_askNode (J : JavaLang) (net : Net) : Answers J net (askNode J net) := by
  intro sa talks
  unfold askNode
  cases net.nodes sa with
  | none => exact Or.inl rfl
  | some node =>
    refine Or.inr ⟨rfl, node, rfl, ?_⟩
    show ((decodedNames J node.s).map unheard).map LinkDevice.name = decodedNames J node.s
    rw [List.map_map]
    exact List.map_id _

/-- A server with one device, at the address all the servers of this example have. -/
def startOne (name : CStr) : NetEvent :=
  .start ⟨1, 9876⟩ (calmWorld 1 []) defaultConfig (some ⟨9, 6789⟩)
    [{ pppSection with name := some name }]

/-- The listener as it is after the server with `ppp0` has started. -/
def started : Net := netStep asciiJava (startOne "ppp0".toList) quietNet

/-- A server starts, and the listener hears of it and of the status of its device. -/
def greeted : List NetEvent :=
  [startOne "ppp0".toList, .deliver 0 (askNode asciiJava started), .poll ⟨1, 9876⟩,
    .deliver 1 fun _ talks => (some .noSuchServer, [], talks)]

/-- What the listener hears is lawful, and it goes on listening. -/
theorem listener_survives_start :
    Listens asciiJava (Runs.run (netStep asciiJava) greeted quietNet) :=
  (listener_survives_iff asciiJava greeted ⟨by show PlainNames _; decide +kernel,
    answers_askNode asciiJava started, by show ∀ _ ∈ _, _; decide +kernel,
    fun _ _ => Or.inl rfl, trivial⟩).mpr (by decide +kernel)

/-- The server is started again with another device, and the listener does not hear of
that: its INIT is lost. The status message that comes next ends the thread. -/
def restarted : List NetEvent :=
  [startOne "ppp0".toList, .deliver 0 (askNode asciiJava started), startOne "ppp1".toList,
    .poll ⟨1, 9876⟩, .deliver 2 fun _ talks => (some .noSuchServer, [], talks)]

/-- Everything that is sent is lawful, and the thread ends with an Error all the same. -/
theorem listener_dies :
    Runs.Along (netStep asciiJava) (Lawful asciiJava) restarted quietNet ∧
    (Runs.run (netStep asciiJava) restarted quietNet).thrown = some .error ∧
    ¬ Listens asciiJava (Runs.run (netStep asciiJava) restarted quietNet) := by
  have hError : (Runs.run (netStep asciiJava) restarted quietNet).thrown = some .error := by
    decide +kernel
  refine ⟨⟨by show PlainNames _; decide +kernel, answers_askNode asciiJava started,
    by show PlainNames _; decide +kernel, by show ∀ _ ∈ _, _; decide +kernel,
    fun _ _ => Or.inl rfl, trivial⟩, hError, fun hListens => ?_⟩
  rw [listens_iff, hError] at hListens
  exact absurd hListens (by simp)

end LinkControl.JavaClient
