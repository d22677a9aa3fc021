import LinkControl.Server.Broadcast
import LinkControl.Lib.Tokens
import LinkControl.Lib.Keyed

/-!
# Linux client — `listen_status.c` and its lists

The data of `linux_client/client.h`, the list functions of `linux_client/list_fns.c` that
the listener calls, and `process_command` with `process_status_message`.

* A `device_list_t` of the client is the list of the devices themselves: a device is behind
  one cell of one list. Its description is left out, no function of the client sets it. A
  name is NULL (`none`) when `strdup ()` failed.
* Servers sit behind pointers, as the server's own clients do: one that could not be
  entered into `g_servers` is still written to.
* A function that returns an `int` returns `none` where the code follows a pointer that is
  NULL or outside of the text.

`errno` is left out: a failed `get_server` always leaves `ENODEV`, so the one test of it is
always met.
-/

namespace LinkControl.LinuxClient

open CString Tokens Numbers

-- ---------------------------------------------------------------------------
-- Data (client.h)
-- ---------------------------------------------------------------------------

abbrev SrvPtr := Nat

/-- `device_t` of the client. -/
structure Device where
  deviceName : Option CStr
  status : DeviceStatus
  connectTime : Int
  noUsers : Nat
deriving DecidableEq, Repr

/-- `server_t` -/
structure Server where
  sa : SockAddr
  lastHeardFrom : Int
  devicesControlled : List Device
deriving DecidableEq, Repr

/-- The surroundings of the client: what each `malloc ()` or `strdup ()` returns (`none` is
NULL), and each look at the clock. -/
structure Surroundings where
  malloc : Nat → Option Nat
  time : Nat → Int

/-- The memory and the globals of the listener. -/
structure State where
  srv : SrvPtr → Server
  gServers : List SrvPtr
  mallocs : Nat
  looks : Nat

-- ---------------------------------------------------------------------------
-- Lists (list_fns.c)
-- ---------------------------------------------------------------------------

/-- `get_device`: the place of the first device with this name. `strcmp ()` is handed every
name on the way. -/
def getDevice (name : Option CStr) : List Device → Option (Option Nat)
  | [] => some none
  | d :: pp =>
    match d.deviceName, name with
    | some n, some n' =>
      if n = n' then some (some 0) else (getDevice name pp).map (·.map (· + 1))
    | _, _ => none

/-- `add_device`: the new list, or -1. No cell on the way to the last one holds the new
device. -/
def addDevice (w : Surroundings) (pp : List Device) (new : Device) (mallocs : Nat) :
    Option (Option (List Device) × Nat) :=
  match getDevice new.deviceName pp with
  | none => none
  | some (some _) => some (none, mallocs)
  | some none =>
    match w.malloc mallocs with
    | none => some (none, mallocs + 1)
    | some _ => some (some (pp ++ [new]), mallocs + 1)

/-- The loop that INIT makes: `rm_device` is handed the device of the first cell, and unlinks
the root. -/
def dropDevices : List Device → List Device
  | [] => []
  | _ :: pp => dropDevices pp

/-- `get_server` -/
def getServer (addr : Nat) (s : State) : Option SrvPtr :=
  s.gServers.find? fun p => (s.srv p).sa.addr == addr

/-- `add_server`. Its caller does not look at the result. -/
def addServer (w : Surroundings) (new : SrvPtr) (s : State) : State :=
  if (getServer (s.srv new).sa.addr s).isSome then s
  else
    match w.malloc s.mallocs with
    | none => { s with mallocs := s.mallocs + 1 }
    | some _ =>
      if new ∈ s.gServers.dropLast then { s with mallocs := s.mallocs + 1 }
      else { s with mallocs := s.mallocs + 1, gServers := s.gServers ++ [new] }

/-- `rm_server`: the new list, or -1. The root takes all other cells with it. -/
def rmServer (server : SrvPtr) : List SrvPtr → Option (List SrvPtr)
  | [] => none
  | root :: rest => if root = server then some [] else (rmCell server rest).map (root :: ·)

-- ---------------------------------------------------------------------------
-- process_status_message
-- ---------------------------------------------------------------------------

/-- The delimiters of `process_status_message`. -/
def delims (c : Char) : Bool := c = '\n' ∨ c = '\t'

/-- An `unsigned long` as a `time_t`. -/
def toTime (x : Nat) : Int := Int.bmod x 18446744073709551616

/-- An `unsigned long` as an `unsigned int`. -/
def toUnsigned (x : Nat) : Nat := x % 4294967296

/-- What the client notes about a device that is not up. -/
def idle (status : DeviceStatus) (d : Device) : Device :=
  { d with status, connectTime := 0, noUsers := 0 }

/-- The device after a status has been read. `behind` is the text behind the NUL that
`strtok ()` has put after the status, if it found a delimiter there: the two numbers are
looked for from the fourth character after the start of the status on, and for a status
`UP` that is behind its NUL. -/
def readStatus (status : CStr) (behind : Option CStr) (d : Device) : Option Device :=
  if strncmpEq status "UP".toList "UP".length then
    match if status.length < 3 then behind else some (status.drop 3) with
    | none => none
    | some xStr =>
      match strchr ' ' xStr with
      | none => none
      | some n => some { d with
          status := .up
          connectTime := toTime (strtoul xStr)
          noUsers := toUnsigned (strtoul (xStr.drop (n + 1))) }
  else if status = "DOWN".toList then some (idle .down d)
  else if status = "CONNECTING".toList then some (idle .connecting d)
  else if status = "DISCONNECTING".toList then some (idle .disconnecting d)
  else some d

/-- The device of a record, entered at the end of the list if it is not known: the new list
and the place of the device, or -1. -/
def knownDevice (w : Surroundings) (name : CStr) (pp : List Device) (mallocs : Nat) :
    Option (Option (List Device × Nat) × Nat) :=
  match getDevice (some name) pp with
  | none => none
  | some (some place) => some (some (pp, place), mallocs)
  | some none =>
    match w.malloc mallocs with
    | none => some (none, mallocs + 1)
    | some _ =>
      let device : Device := ⟨(w.malloc (mallocs + 1)).map fun _ => name, .down, 0, 0⟩
      (addDevice w pp device (mallocs + 2)).map fun (added, mallocs) =>
        (added.map fun pp' => (pp', pp.length), mallocs)

/-- The loop of `process_status_message`, at most `fuel` rounds of it: the result, the
devices and how much memory has been asked for. -/
def readRecords (w : Surroundings) :
    Nat → CStr → List Device → Nat → Option (Int × List Device × Nat)
  | 0, _, _, _ => none
  | fuel + 1, message, pp, mallocs =>
    match strtok delims message with
    | none => some (0, pp, mallocs)
    | some (name, rest) =>
      match strtok delims (rest.getD []) with
      | none => some (0, pp, mallocs)  -- a name without a status
      | some (status, behind) =>
        match knownDevice w name pp mallocs with
        | none => none
        | some (none, mallocs) => some (-1, pp, mallocs)
        | some (some (pp, place), mallocs) =>
          match pp[place]? with
          | none => none
          | some d =>
            match readStatus status behind d with
            | none => none
            | some d => readRecords w fuel (behind.getD []) (pp.set place d) mallocs

/-- `process_status_message`. Every round takes characters off the message, so that there
are no more rounds than characters. -/
def processStatusMessage (w : Surroundings) (message : CStr) (pp : List Device) (mallocs : Nat) :
    Option (Int × List Device × Nat) :=
  readRecords w (message.length + 1) message pp mallocs

-- ---------------------------------------------------------------------------
-- process_command
-- ---------------------------------------------------------------------------

/-- The block `malloc` returns for a `server_t`: any block that no cell points to. -/
def freshServer (s : State) (p : SrvPtr) : SrvPtr :=
  if p ∈ s.gServers then s.gServers.foldr max 0 + 1 else p

/-- The first part of `process_command`: the server this address belongs to, entered into
`g_servers` if it is not there; `none` for -1. -/
def knownServer (w : Surroundings) (sa : SockAddr) (s : State) : Option SrvPtr × State :=
  match getServer sa.addr s with
  | some server => (some server, s)
  | none =>
    match w.malloc s.mallocs with
    | none => (none, { s with mallocs := s.mallocs + 1 })
    | some p =>
      let new := freshServer s p
      let s := { s with
        mallocs := s.mallocs + 1
        srv := Function.update s.srv new ⟨sa, (s.srv new).lastHeardFrom, []⟩ }
      (some new, addServer w new s)

/-- `server->last_heard_from = time (NULL)` -/
def heardFrom (w : Surroundings) (server : SrvPtr) (s : State) : State :=
  { s with
    looks := s.looks + 1
    srv := Function.update s.srv server
      { s.srv server with lastHeardFrom := w.time s.looks } }

/-- `server->devices_controlled = pp` -/
def setDevicesControlled (server : SrvPtr) (pp : List Device) (s : State) : State :=
  { s with srv := Function.update s.srv server { s.srv server with devicesControlled := pp } }

/-- The branches of `process_command`. -/
def serverMessage (w : Surroundings) (server : SrvPtr) (recvBuffer : CStr) (s : State) :
    Option (Int × State) :=
  if strncmpEq recvBuffer broadcastInit broadcastInit.length then
    some (0, setDevicesControlled server (dropDevices (s.srv server).devicesControlled) s)
  else if strncmpEq recvBuffer broadcastQuit broadcastQuit.length then
    match rmServer server s.gServers with
    | none => some (-1, s)
    | some pp => some (0, { s with gServers := pp })
  else if strncmpEq recvBuffer broadcastStatus broadcastStatus.length then
    (processStatusMessage w (recvBuffer.drop broadcastStatus.length)
      (s.srv server).devicesControlled s.mallocs).map fun (result, pp, mallocs) =>
        (result, setDevicesControlled server pp { s with mallocs := mallocs })
  else some (-1, s)

/-- `process_command`, once `recvfrom ()` has returned a text and where it comes from. -/
def processCommand (w : Surroundings) (sa : SockAddr) (recvBuffer : CStr) (s : State) :
    Option (Int × State) :=
  match knownServer w sa s with
  | (none, s) => some (-1, s)
  | (some server, s) => serverMessage w server recvBuffer (heardFrom w server s)

/-- The listener before it has heard anything. -/
def noServers : State := ⟨fun _ => ⟨⟨0, 0⟩, 0, []⟩, [], 0, 0⟩

end LinkControl.LinuxClient
