import LinkControl.Server.ListFns
import LinkControl.Lib.CString
import LinkControl.Lib.Run

/-!
# Link server — messages, events and runs

`send_message.c`, `process_client.c` and `process_peer.c`, the state in which
`read_config` leaves the server, and its runs.

The main loop of `server.c` waits for a datagram, hands it to `process_client` or
`process_peer`, and sweeps old clients and old devices. `Event` lists these four
things; a run (`serverRun`) takes any finite list of them, in any order and with
any amount of time before each. Two things end the process: nothing that a message
can say, and the NULL description that `send_device_list` passes to `strlen`
(`State.crashed`); a crashed server takes no further event.
-/

namespace LinkControl

open ReturnCode CString

-- ---------------------------------------------------------------------------
-- Replies (send_message.c)
-- ---------------------------------------------------------------------------

/-- The `sendto` that ends each of the three reply functions: a client that does
not listen is no failure. -/
def sendReply (w : World) (client : CliPtr) (text : CStr) (s : State) : Int × State :=
  match w.sendto s.sends with
  | none => (0, { s with
      sends := s.sends + 1
      sent := ((s.cli client).sa, text) :: s.sent })
  | some e =>
    (if e ≠ .econnrefused then -1 else 0, { s with sends := s.sends + 1, errno := e })

/-- The loop of `send_device_list`. -/
def appendDevices (w : World) : List DevPtr → CStr → State → Option CStr × State
  | [], text, s => (some text, s)
  | d :: rest, text, s =>
    match (s.dev d).deviceDescription with
    | none => (none, { s with crashed := true })
    | some description =>
      match malloc w s with
      | (none, s) => (none, s)
      | (some _, s) => appendDevices w rest
          (text ++ (s.dev d).deviceName ++ ['\t'] ++ description ++ ['\n']) s

/-- `send_device_list` -/
def sendDeviceList (w : World) (client : CliPtr) (s : State) : Int × State :=
  match malloc w s with
  | (none, s) => (-1, s)
  | (some _, s) =>
    match appendDevices w s.gDevices serverDevices s with
    | (none, s) => (-1, s)
    | (some text, s) => sendReply w client text s

/-- `%d` -/
def decimal (n : Int) : CStr :=
  if n < 0 then '-' :: Nat.toDigits 10 n.natAbs else Nat.toDigits 10 n.natAbs

/-- `print_device_status` -/
def printDeviceStatus (w : World) (device : DevPtr) (s : State) : Option CStr × State :=
  match malloc w s with
  | (none, s) => (none, s)
  | (some _, s) =>
    let text := (s.dev device).deviceName ++ gLinkStatusMessage (s.dev device).status
    if (s.dev device).status = .up then
      let s := advance w s
      let params := decimal (toInt (s.clock - (s.dev device).connectTime)) ++ [' '] ++
        decimal (toInt (s.dev device).clientsConnected.length)
      match malloc w s with
      | (none, s) => (none, s)
      | (some _, s) => (some (text ++ params), s)
    else (some text, s)

/-- `send_device_status` -/
def sendDeviceStatus (w : World) (client : CliPtr) (device : DevPtr) (s : State) : Int × State :=
  match malloc w s with
  | (none, s) => (-1, s)
  | (some _, s) =>
    match printDeviceStatus w device s with
    | (none, s) => (-1, s)
    | (some text, s) => sendReply w client (serverStatusPrefix ++ text) s

/-- The loop of `send_client_status`; the first name comes without a tab. -/
def appendNames (w : World) : List DevPtr → CStr → State → Option CStr × State
  | [], text, s => (some text, s)
  | d :: rest, text, s =>
    match malloc w s with
    | (none, s) => (none, s)
    | (some _, s) => appendNames w rest (text ++ ['\t'] ++ (s.dev d).deviceName) s

/-- `send_client_status` -/
def sendClientStatus (w : World) (client : CliPtr) (s : State) : Int × State :=
  match malloc w s with
  | (none, s) => (-1, s)
  | (some _, s) =>
    match (s.cli client).devicesConnected with
    | [] => sendReply w client serverClientStatus s
    | d :: rest =>
      match malloc w s with
      | (none, s) => (-1, s)
      | (some _, s) =>
        match appendNames w rest (serverClientStatus ++ (s.dev d).deviceName) s with
        | (none, s) => (-1, s)
        | (some text, s) => sendReply w client text s

-- ---------------------------------------------------------------------------
-- Client messages (process_client.c)
-- ---------------------------------------------------------------------------

/-- What a client message asks for. -/
inductive ClientMessage where
  | ping
  | devices
  | up (dev : CStr)
  | down (dev : CStr)
  | forceDown (dev : CStr)
  | status (dev : CStr)
  | clientStatus
  | unknown
deriving DecidableEq, Repr

/-- The chain of `strncmp` tests in `process_client`, in its order. -/
def clientMessage (message : CStr) : ClientMessage :=
  if strncmpEq message clientPing clientPing.length then .ping
  else if strncmpEq message clientDevices clientDevices.length then .devices
  else if strncmpEq message clientUp clientUp.length then
    .up (message.drop clientUp.length)
  else if strncmpEq message clientDown clientDown.length then
    .down (message.drop clientDown.length)
  else if strncmpEq message clientForceDown clientForceDown.length then
    .forceDown (message.drop clientForceDown.length)
  else if strncmpEq message clientStatus clientStatus.length then
    .status (message.drop clientStatus.length)
  else if strncmpEq message clientClientStatus clientClientStatus.length then .clientStatus
  else .unknown

/-- The first part of `process_client`: the client of this address, entered into
`g_clients` if it is not there. A failed `get_client` always leaves `ENODEV`, so
the test of `errno` in the source is always met. -/
def knownClient (w : World) (cli : SockAddr) (s : State) : Option CliPtr × State :=
  match getClient s.gClients cli.addr s with
  | (some client, s) => (some client, s)
  | (none, s) =>
    match malloc w s with
    | (none, s) => (none, s)
    | (some p, s) =>
      let client := freshClient s p
      let s := { s with cli := Function.update s.cli client ⟨cli, 0, []⟩ }
      match addClient w s.gClients client s with
      | (none, s) => (none, s)
      | (some pp, s) => (some client, { s with gClients := pp })

/-- The branches of `process_client`. -/
def clientRequest (w : World) (cfg : Config) (client : CliPtr) (message : CStr) (s : State) :
    Int × State :=
  match clientMessage message with
  | .ping => (0, s)
  | .devices => sendDeviceList w client s
  | .up name =>
    match getDevice s.gDevices name s with
    | (none, s) => (-1, s)
    | (some device, s) =>
      unlessFails (connectClientToDevice w cfg client device s) fun s => (0, s)
  | .down name =>
    match getDevice (s.cli client).devicesConnected name s with
    | (none, s) => (-1, s)
    | (some device, s) =>
      unlessFails (disconnectClientFromDevice w cfg client device s) fun s => (0, s)
  | .forceDown name =>
    match getDevice s.gDevices name s with
    | (none, s) => (-1, s.setErrno .enodev)
    | (some device, s) =>
      unlessFails (alterDeviceStatus w cfg device .down s) fun s =>
        unlessFails (removeAllClientsFromDevice device s) fun s => (0, s)
  | .status name =>
    match getDevice s.gDevices name s with
    | (none, s) => (-1, s)
    | (some device, s) => sendDeviceStatus w client device s
  | .clientStatus => sendClientStatus w client s
  | .unknown => (-1, s.setErrno .enotsup)

/-- `process_client` -/
def processClient (w : World) (cfg : Config) (cli : SockAddr) (message : CStr) (s : State) :
    Int × State :=
  match knownClient w cli s with
  | (none, s) => (-1, s)
  | (some client, s) => clientRequest w cfg client message (updateClient w client cli s)

-- ---------------------------------------------------------------------------
-- Peer messages (process_peer.c)
-- ---------------------------------------------------------------------------

/-- What a message of the notification peer says. -/
inductive PeerMessage where
  | isup (dev : CStr)
  | isdown (dev : CStr)
  | unknown
deriving DecidableEq, Repr

/-- The chain of `strncmp` tests in `process_peer`. -/
def peerMessage (message : CStr) : PeerMessage :=
  if strncmpEq message notifyIsup notifyIsup.length then
    .isup (message.drop notifyIsup.length)
  else if strncmpEq message notifyIsdown notifyIsdown.length then
    .isdown (message.drop notifyIsdown.length)
  else .unknown

/-- `process_peer`. The result of the transition is ignored for ISUP. -/
def processPeer (w : World) (cfg : Config) (message : CStr) (s : State) : Int × State :=
  match peerMessage message with
  | .isup name =>
    match getDevice s.gDevices name s with
    | (none, s) => (-1, s)
    | (some device, s) => (0, (alterDeviceStatus w cfg device .up s).2)
  | .isdown name =>
    match getDevice s.gDevices name s with
    | (none, s) => (-1, s)
    | (some device, s) => alterDeviceStatus w cfg device .down s
  | .unknown => (-1, s.setErrno .enotsup)

-- ---------------------------------------------------------------------------
-- The server as it starts
-- ---------------------------------------------------------------------------

/-- The options of one `[Device]` section, as `parse_device_section` collects them. -/
structure DeviceSection where
  name : Option CStr
  description : Option CStr
  linkUp : Option CStr
  linkDown : Option CStr
  linkForceDown : Option CStr

/-- The `device_t` of a section: the `memset` leaves it down, with no client. -/
def DeviceSection.device (sec : DeviceSection) (name : CStr) : Device where
  deviceName := name
  deviceDescription := sec.description
  linkUpCommand := sec.linkUp
  linkDownCommand := sec.linkDown
  linkForceDownCommand := sec.linkForceDown
  status := .down
  connectTime := 0
  clientsConnected := []
  retries := 0

/-- The end of `parse_device_section`: a device with a name goes to `g_devices`,
unless `add_device` refuses it. -/
def loadDevice (w : World) (p : DevPtr) (sec : DeviceSection) (s : State) : State :=
  match sec.name with
  | none => s
  | some name =>
    let s := { s with dev := Function.update s.dev p (sec.device name) }
    match addDevice w s.gDevices p s with
    | (some pp, s) => { s with gDevices := pp }
    | (none, s) => s

/-- The sections in file order; each `device_t` is a block of its own. -/
def loadDevices (w : World) : DevPtr → List DeviceSection → State → State
  | _, [], s => s
  | p, sec :: rest, s => loadDevices w (p + 1) rest (loadDevice w p sec s)

/-- The memory before any device is read. -/
def emptyState (w : World) : State where
  dev := fun _ => DeviceSection.device ⟨none, none, none, none, none⟩ []
  cli := fun _ => ⟨⟨0, 0⟩, 0, []⟩
  gDevices := []
  gClients := []
  errno := .other 0
  clock := w.epoch
  ticks := 0
  commands := 0
  mallocs := 0
  sends := 0
  sent := []
  crashed := false
  trace := []

/-- The server after `read_config`, before the first turn of the main loop. -/
def boot (w : World) (sections : List DeviceSection) : State :=
  loadDevices w 0 sections (emptyState w)

-- ---------------------------------------------------------------------------
-- Events and runs
-- ---------------------------------------------------------------------------

/-- What the main loop does with the lists. -/
inductive Event where
  | client (cli : SockAddr) (message : CStr)
  | peer (message : CStr)
  | timeoutOldClients
  | timeoutOldDevices

/-- The function the main loop calls for an event. -/
def handle (w : World) (cfg : Config) : Event → State → Int × State
  | .client cli message, s => processClient w cfg cli message s
  | .peer message, s => processPeer w cfg message s
  | .timeoutOldClients, s => timeoutOldClients w cfg s
  | .timeoutOldDevices, s => timeoutOldDevices w cfg s

/-- An event, with the time that passes before it: the result of the call and the
state it leaves. -/
def step (w : World) (cfg : Config) (e : Event) (s : State) : Int × State :=
  if s.crashed then (-1, s) else handle w cfg e (advance w s)

/-- The state after a list of events. -/
def serverRun (w : World) (cfg : Config) (es : List Event) (s : State) : State :=
  Runs.run (fun e s => (step w cfg e s).2) es s

-- ---------------------------------------------------------------------------
-- A small server
-- ---------------------------------------------------------------------------

/-- One complete `[Device]` section, named `ppp0`. -/
def pppSection : DeviceSection :=
  ⟨some "ppp0".toList, some "ISP".toList, some "pon".toList, some "poff".toList,
    some "pkill".toList⟩

/-- The defaults of `server/server.h`. -/
def defaultConfig : Config := ⟨2, 2400, 60, 60⟩

/-- Surroundings in which `tick` seconds pass every time, memory never runs out,
every client listens, and the commands return `results` in order, then 0. -/
def calmWorld (tick : Nat) (results : List Int) : World where
  epoch := 1000
  tick := fun _ => tick
  system := fun k => ⟨results.getD k 0, none⟩
  malloc := fun k => some k
  sendto := fun _ => none

/-- What a client says about `ppp0`. -/
def aboutPpp (request : CStr) (addr : Nat) : Event :=
  .client ⟨addr, 1026⟩ (request ++ "ppp0".toList)

/-- What the peer says about `ppp0`. -/
def noticeAboutPpp (notice : CStr) : Event := .peer (notice ++ "ppp0".toList)

end LinkControl
