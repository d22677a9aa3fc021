import LinkControl.Server.Definitions
import LinkControl.Lib.ReturnCode

/-!
# Link server — `list_fns.c`

The list management, the link commands and the transition function
`alter_device_status`, function by function. A function that returns an `int`
returns `Int × State` here; a list function that is handed a `client_list_t **` or
`device_list_t **` returns the new list, or `none` where the source returns `-1`
(with `errno` set in the state).

The `device == NULL` checks of `link_up` and its siblings are not modelled: their
callers pass a pointer they have just followed.
-/

namespace LinkControl

open ReturnCode

-- ---------------------------------------------------------------------------
-- Device and client lists
-- ---------------------------------------------------------------------------

/-- The walk `rm_device` and `rm_client` share: unlink the first cell that holds
this pointer. -/
def rmCell (p : Nat) : List Nat → Option (List Nat)
  | [] => none
  | q :: rest => if q = p then some rest else (rmCell p rest).map (q :: ·)

/-- `get_device` -/
def getDevice (pp : List DevPtr) (name : CStr) (s : State) : Option DevPtr × State :=
  match pp.find? fun d => (s.dev d).deviceName == name with
  | some d => (some d, s)
  | none => (none, s.setErrno .enodev)

/-- `get_client` -/
def getClient (pp : List CliPtr) (addr : Nat) (s : State) : Option CliPtr × State :=
  match pp.find? fun c => (s.cli c).sa.addr == addr with
  | some c => (some c, s)
  | none => (none, s.setErrno .enodev)

/-- What `add_device` and `add_client` do once the key is known to be new: allocate
a cell, check every cell but the last for the pointer, append. -/
def appendCell (w : World) (pp : List Nat) (p : Nat) (s : State) : Option (List Nat) × State :=
  match malloc w s with
  | (none, s) => (none, s)
  | (some _, s) =>
    if p ∈ pp.dropLast then (none, s.setErrno .ealready) else (some (pp ++ [p]), s)

/-- `add_device` -/
def addDevice (w : World) (pp : List DevPtr) (new : DevPtr) (s : State) :
    Option (List DevPtr) × State :=
  match getDevice pp (s.dev new).deviceName s with
  | (some _, s) => (none, s.setErrno .ealready)
  | (none, s) => appendCell w pp new s

/-- `add_client` -/
def addClient (w : World) (pp : List CliPtr) (new : CliPtr) (s : State) :
    Option (List CliPtr) × State :=
  match getClient pp (s.cli new).sa.addr s with
  | (some _, s) => (none, s.setErrno .ealready)
  | (none, s) => appendCell w pp new s

/-- `rm_device` -/
def rmDevice (pp : List DevPtr) (device : DevPtr) (s : State) : Option (List DevPtr) × State :=
  match rmCell device pp with
  | some pp => (some pp, s)
  | none => (none, s.setErrno .enodev)

/-- `rm_client` -/
def rmClient (pp : List CliPtr) (client : CliPtr) (s : State) : Option (List CliPtr) × State :=
  match rmCell client pp with
  | some pp => (some pp, s)
  | none => (none, s.setErrno .enodev)

/-- The loop that frees a detached list, cell by cell from the head. -/
def freeCells : List Nat → Int
  | [] => 0
  | p :: rest => if (rmCell p (p :: rest)).isNone then -1 else freeCells rest

/-- `remove_all_clients_from_device` -/
def removeAllClientsFromDevice (device : DevPtr) (s : State) : Int × State :=
  (freeCells (s.dev device).clientsConnected, s.setClientsConnected device [])

/-- Forget the device at one client; a client that does not list it is no failure.
This is the step of the loop of `remove_device_from_all_clients` and the last part
of `disconnect_client_from_device`. -/
def forgetDevice (device : DevPtr) (client : CliPtr) (s : State) : Int × State :=
  match rmDevice (s.cli client).devicesConnected device s with
  | (some pp, s) => (0, s.setDevicesConnected client pp)
  | (none, s) => if s.errno ≠ .enodev then (-1, s) else (0, s)

/-- `remove_device_from_all_clients` -/
def removeDeviceFromAllClients (device : DevPtr) (s : State) : Int × State :=
  untilFailure (forgetDevice device) s.gClients s

/-- `update_client` -/
@[simps] def updateClient (w : World) (client : CliPtr) (cli : SockAddr) (s : State) : State :=
  { advance w s with
    cli := Function.update s.cli client
      { s.cli client with lastHeardFrom := (advance w s).clock, sa := cli } }

-- ---------------------------------------------------------------------------
-- Link commands
-- ---------------------------------------------------------------------------

/-- Run a command; 127 means that no shell could run it. -/
def launch (w : World) (device : DevPtr) (command : Command) (s : State) : Int × State :=
  let r := system w device command s
  (if r.1 = 127 then -1 else r.1, r.2)

/-- The common body of `link_up` and `link_down`. -/
def launchTimed (w : World) (device : DevPtr) (command : Command) (s : State) : Int × State :=
  let r := launch w device command s
  (r.1, if r.1 = 0 then setConnectTime w device r.2 else r.2)

/-- `link_up` -/
def linkUp (w : World) (device : DevPtr) (s : State) : Int × State :=
  launchTimed w device .linkUp s

/-- `link_down` -/
def linkDown (w : World) (device : DevPtr) (s : State) : Int × State :=
  launchTimed w device .linkDown s

/-- `link_force_down` -/
def linkForceDown (w : World) (device : DevPtr) (s : State) : Int × State :=
  let r := launch w device .linkForceDown s
  if r.1 = 0 then
    unlessFails (removeAllClientsFromDevice device r.2) fun s =>
      unlessFails (removeDeviceFromAllClients device s) fun s => (r.1, s)
  else r

-- ---------------------------------------------------------------------------
-- alter_device_status
-- ---------------------------------------------------------------------------

/-- `errno = EINVAL; return (-1);` -/
def invalid (s : State) : Int × State := (-1, s.setErrno .einval)

/-- The last lines of `alter_device_status`: the transition has succeeded. -/
def succeed (device : DevPtr) (new : DeviceStatus) (s : State) : Int × State :=
  (0, s.setStatus device new)

/-- `case LINK_DOWN` of `alter_device_status`. -/
def alterToDown (w : World) (device : DevPtr) (s : State) : Int × State :=
  match (s.dev device).status with
  | .disconnecting => succeed device .down s
  | .connecting | .up | .down => unlessFails (linkForceDown w device s) (succeed device .down)

/-- The `case LINK_CONNECTING` that the other two cases fall through to: use up a
retry, or give up when there is none left. -/
def redial (w : World) (device : DevPtr) (s : State) : Int × State :=
  let retries := (s.dev device).retries
  let s := s.setRetries device (retries - 1)
  if retries < 0 then alterToDown w device (s.log (.gaveUp s.clock device))
  else unlessFails (linkUp w device s) fun s =>
    succeed device .connecting (setConnectTime w device s)

/-- `case LINK_CONNECTING` of `alter_device_status`. -/
def alterToConnecting (w : World) (cfg : Config) (device : DevPtr) (s : State) : Int × State :=
  match (s.dev device).status with
  | .disconnecting => unlessFails (linkForceDown w device s) fun s =>
      redial w device ((sleep w 2 s).setRetries device cfg.gRetries)
  | .down => redial w device (s.setRetries device cfg.gRetries)
  | .connecting => redial w device s
  | .up => invalid s

/-- `case LINK_DISCONNECTING` of `alter_device_status`. -/
def alterToDisconnecting (w : World) (device : DevPtr) (s : State) : Int × State :=
  match (s.dev device).status with
  | .connecting => unlessFails (linkForceDown w device s) (succeed device .disconnecting)
  | .disconnecting => unlessFails (linkForceDown w device s) (succeed device .down)
  | .up => unlessFails (linkDown w device s) (succeed device .disconnecting)
  | .down => invalid s

/-- `case LINK_UP` of `alter_device_status`. -/
def alterToUp (w : World) (device : DevPtr) (s : State) : Int × State :=
  match (s.dev device).status with
  | .up | .disconnecting | .down => invalid s
  | .connecting => succeed device .up (setConnectTime w device s)

/-- `alter_device_status`. Its one recursive call asks for `LINK_DOWN`, which makes
no further call. -/
def alterDeviceStatus (w : World) (cfg : Config) (device : DevPtr) (new : DeviceStatus)
    (s : State) : Int × State :=
  match new with
  | .connecting => alterToConnecting w cfg device s
  | .disconnecting => alterToDisconnecting w device s
  | .up => alterToUp w device s
  | .down => alterToDown w device s

-- ---------------------------------------------------------------------------
-- Connecting and disconnecting clients
-- ---------------------------------------------------------------------------

/-- The last part of `connect_client_to_device`: note the device at the client. -/
def noteDevice (w : World) (client : CliPtr) (device : DevPtr) (s : State) : Int × State :=
  match addDevice w (s.cli client).devicesConnected device s with
  | (some pp, s) => (0, s.setDevicesConnected client pp)
  | (none, s) => if s.errno ≠ .ealready then (-1, s) else (0, s)

/-- The middle part of `connect_client_to_device`: note the client at the device. -/
def noteClient (w : World) (client : CliPtr) (device : DevPtr) (s : State) : Int × State :=
  match addClient w (s.dev device).clientsConnected client s with
  | (some pp, s) => noteDevice w client device (s.setClientsConnected device pp)
  | (none, s) => if s.errno ≠ .ealready then (-1, s) else noteDevice w client device s

/-- `connect_client_to_device` -/
def connectClientToDevice (w : World) (cfg : Config) (client : CliPtr) (device : DevPtr)
    (s : State) : Int × State :=
  if (s.dev device).clientsConnected = [] then
    unlessFails (alterDeviceStatus w cfg device .connecting (s.setRetries device cfg.gRetries))
      (noteClient w client device)
  else noteClient w client device s

/-- `disconnect_client_from_device` -/
def disconnectClientFromDevice (w : World) (cfg : Config) (client : CliPtr) (device : DevPtr)
    (s : State) : Int × State :=
  match rmClient (s.dev device).clientsConnected client s with
  | (none, s) => if s.errno ≠ .enodev then (-1, s) else forgetDevice device client s
  | (some pp, s) =>
    let s := s.setClientsConnected device pp
    if pp = [] then
      unlessFails (alterDeviceStatus w cfg device .disconnecting s) (forgetDevice device client)
    else forgetDevice device client s

/-- One step of the loop of `remove_client_from_all_devices`: a failure with
`ENODEV` in `errno` is ignored. -/
def removeClientFromDevice (w : World) (cfg : Config) (client : CliPtr) (device : DevPtr)
    (s : State) : Int × State :=
  let r := disconnectClientFromDevice w cfg client device s
  if r.1 < 0 ∧ r.2.errno ≠ .enodev then (-1, r.2) else (0, r.2)

/-- `remove_client_from_all_devices` -/
def removeClientFromAllDevices (w : World) (cfg : Config) (client : CliPtr) (s : State) :
    Int × State :=
  untilFailure (removeClientFromDevice w cfg client) s.gDevices s

-- ---------------------------------------------------------------------------
-- The two sweeps
-- ---------------------------------------------------------------------------

/-- The body of the loop of `timeout_old_devices`. -/
def timeoutOldDevice (w : World) (cfg : Config) (device : DevPtr) (s : State) : Int × State :=
  match (s.dev device).status with
  | .connecting =>
    let s := advance w s
    if (s.dev device).connectTime + cfg.gConnectTimeout < s.clock then
      unlessFails (alterDeviceStatus w cfg device .connecting s) fun s => (0, s)
    else (0, s)
  | .disconnecting =>
    let s := advance w s
    if (s.dev device).connectTime + cfg.gDisconnectTimeout < s.clock then
      unlessFails (alterDeviceStatus w cfg device .disconnecting s) fun s => (0, s)
    else (0, s)
  | .up | .down => (0, s)

/-- `timeout_old_devices` -/
def timeoutOldDevices (w : World) (cfg : Config) (s : State) : Int × State :=
  untilFailure (timeoutOldDevice w cfg) s.gDevices s

/-- `rm_client (&g_clients, client)` and `free (client)`. -/
def dropClient (client : CliPtr) (s : State) : Int × State :=
  match rmClient s.gClients client s with
  | (some pp, s) => (0, { s with gClients := pp })
  | (none, s) => (-1, s)

/-- The body of the loop of `timeout_old_clients`. -/
def timeoutOldClient (w : World) (cfg : Config) (client : CliPtr) (s : State) : Int × State :=
  let s := advance w s
  if s.clock > (s.cli client).lastHeardFrom + cfg.gClientTimeout then
    unlessFails (removeClientFromAllDevices w cfg client
        (s.log (.expired s.clock (s.cli client).sa.addr)))
      (dropClient client)
  else (0, s)

/-- `timeout_old_clients`. The loop saves the `next` pointer before it frees a
cell, and nothing else changes `g_clients` meanwhile, so it visits the list as it
was when the sweep began. -/
def timeoutOldClients (w : World) (cfg : Config) (s : State) : Int × State :=
  untilFailure (timeoutOldClient w cfg) s.gClients s

end LinkControl
