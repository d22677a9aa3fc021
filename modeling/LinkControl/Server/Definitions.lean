import Mathlib.Logic.Function.Basic
import Mathlib.Data.List.Nodup
import Mathlib.Tactic.Simps.Basic

/-!
# Link server — data model

The data of `include/cliserv.h` and `server/server.h`, the texts of
`include/protocol.h`, and the world the server runs in.

* `Device`, `Client` — `device_t` and `client_t`. A `device_list_t` or
  `client_list_t` is the list of the `data` pointers of its cells: a cell is
  owned by one list and shared by nothing. Devices and clients themselves are
  shared, so they sit behind pointers (`DevPtr`, `CliPtr`) in the memories
  `State.dev` and `State.cli`.
* `World` — what the server asks of its surroundings and cannot decide: the
  seconds that pass, the results of `system ()`, of `malloc ()` and of
  `sendto ()`. Each is a sequence of answers, one for every question in the order
  they are put, so that a statement about every world is a statement about every
  behaviour of the surroundings.
* `State` — the globals `g_devices`, `g_clients` and `errno`, the two memories,
  the clock, and how many questions of each kind the world has answered.
* `State.trace` — the commands run and the statuses assigned so far, newest
  first. The server keeps no such record: it is here so that what happened during
  an event can be spoken of.
-/

namespace LinkControl

/-- A C string: the characters before its terminating NUL. -/
abbrev CStr := List Char

/-- A number converted to `int`. -/
def toInt (n : Int) : Int := Int.bmod n 4294967296

/-- `device_status_t`. -/
inductive DeviceStatus where
  | down
  | up
  | connecting
  | disconnecting
deriving DecidableEq, Repr

abbrev DevPtr := Nat
abbrev CliPtr := Nat

/-- `struct sockaddr_in`: the address a client is known by, and its port. -/
structure SockAddr where
  addr : Nat
  port : Nat
deriving DecidableEq, Repr

/-- `device_t`. The name is never NULL (`parse_device_section` drops a device
without one); the other strings are NULL when the section does not set them. -/
structure Device where
  deviceName : CStr
  deviceDescription : Option CStr
  linkUpCommand : Option CStr
  linkDownCommand : Option CStr
  linkForceDownCommand : Option CStr
  status : DeviceStatus
  connectTime : Int
  clientsConnected : List CliPtr
  retries : Int
deriving Repr

/-- `client_t`. -/
structure Client where
  sa : SockAddr
  lastHeardFrom : Int
  devicesConnected : List DevPtr
deriving Repr

/-- The server options that the modelled functions read. -/
structure Config where
  gRetries : Int
  gClientTimeout : Int
  gConnectTimeout : Int
  gDisconnectTimeout : Int

/-- The values of `errno` the server sets or compares with. -/
inductive Errno where
  | enodev
  | ealready
  | einval
  | enotsup
  | enomem
  | econnrefused
  | other (code : Nat)
deriving DecidableEq, Repr

/-- What a call of `system ()` leaves: its result, and `errno` where it set it. -/
structure Outcome where
  result : Int
  errno : Option Errno
deriving DecidableEq, Repr

/-- The surroundings of the server. -/
structure World where
  /-- the clock when the server starts -/
  epoch : Int
  /-- the seconds that pass before each look at the clock, command or event -/
  tick : Nat → Nat
  /-- each `system ()` -/
  system : Nat → Outcome
  /-- each `malloc ()` or `realloc ()`: `none` is NULL, `some p` names a block -/
  malloc : Nat → Option Nat
  /-- each `sendto ()`: `none` when the whole text went out, else `errno` -/
  sendto : Nat → Option Errno

/-- The three commands of a device. -/
inductive Command where
  | linkUp
  | linkDown
  | linkForceDown
deriving DecidableEq, Repr

/-- The text of a command of the device, which is what `system ()` is given. -/
def Device.command (x : Device) : Command → Option CStr
  | .linkUp => x.linkUpCommand
  | .linkDown => x.linkDownCommand
  | .linkForceDown => x.linkForceDownCommand

/-- What the trace records. -/
inductive Effect where
  /-- `system ()` was called with this command of the device; if that is NULL
  (`Device.command`), the call has run nothing, and only says whether there is a shell -/
  | ran (time : Int) (device : DevPtr) (command : Command) (result : Int)
  /-- `device->status = new_status` -/
  | status (time : Int) (device : DevPtr) (old new : DeviceStatus)
  /-- the retries of a connecting device were used up -/
  | gaveUp (time : Int) (device : DevPtr)
  /-- a client was found to be older than the client timeout -/
  | expired (time : Int) (addr : Nat)
deriving DecidableEq, Repr

/-- The device an effect is about. -/
def Effect.device : Effect → Option DevPtr
  | .ran _ d _ _ | .status _ d _ _ | .gaveUp _ d => some d
  | .expired _ _ => none

/-- When an effect took place. -/
def Effect.time : Effect → Int
  | .ran t _ _ _ | .status t _ _ _ | .gaveUp t _ | .expired t _ => t

/-- The memory and the globals of the server. -/
structure State where
  dev : DevPtr → Device
  cli : CliPtr → Client
  gDevices : List DevPtr
  gClients : List CliPtr
  errno : Errno
  clock : Int
  ticks : Nat
  commands : Nat
  mallocs : Nat
  sends : Nat
  sent : List (SockAddr × CStr)
  crashed : Bool
  trace : List Effect

/-! ## The texts of `include/protocol.h` -/

def notifyPrefix : CStr := "NOTIFY ".toList
def notifyIsup : CStr := notifyPrefix ++ "ISUP ".toList
def notifyIsdown : CStr := notifyPrefix ++ "ISDOWN ".toList

def clientPrefix : CStr := "CLIENT ".toList
def clientPing : CStr := clientPrefix ++ "PING".toList
def clientDevices : CStr := clientPrefix ++ "DEVICES".toList
def clientUp : CStr := clientPrefix ++ "UP ".toList
def clientDown : CStr := clientPrefix ++ "DOWN ".toList
def clientForceDown : CStr := clientPrefix ++ "FORCE_DOWN ".toList
def clientStatus : CStr := clientPrefix ++ "STATUS ".toList
def clientClientStatus : CStr := clientPrefix ++ "CLIENT_STATUS".toList

def serverPrefix : CStr := "SERVER ".toList
def serverDevices : CStr := serverPrefix ++ "DEVICES ".toList
def serverStatusPrefix : CStr := serverPrefix ++ "STATUS ".toList
def serverStatusUp : CStr := "\tUP ".toList
def serverStatusDown : CStr := "\tDOWN".toList
def serverStatusConnecting : CStr := "\tCONNECTING".toList
def serverStatusDisconnecting : CStr := "\tDISCONNECTING".toList
def serverClientStatus : CStr := serverPrefix ++ "CLIENT_STATUS ".toList

/-- `g_link_status_message` of `server.c`. -/
def gLinkStatusMessage : DeviceStatus → CStr
  | .down => serverStatusDown
  | .up => serverStatusUp
  | .connecting => serverStatusConnecting
  | .disconnecting => serverStatusDisconnecting

/-! ## Memory, clock and trace -/

namespace State

/-- `device->clients_connected = pp` -/
@[simps] def setClientsConnected (s : State) (d : DevPtr) (pp : List CliPtr) : State :=
  { s with dev := Function.update s.dev d { s.dev d with clientsConnected := pp } }

/-- `device->retries = n` -/
@[simps] def setRetries (s : State) (d : DevPtr) (n : Int) : State :=
  { s with dev := Function.update s.dev d { s.dev d with retries := n } }

/-- `device->status = new_status` -/
@[simps] def setStatus (s : State) (d : DevPtr) (new : DeviceStatus) : State :=
  { s with
    dev := Function.update s.dev d { s.dev d with status := new }
    trace := .status s.clock d (s.dev d).status new :: s.trace }

/-- `client->devices_connected = pp` -/
@[simps] def setDevicesConnected (s : State) (c : CliPtr) (pp : List DevPtr) : State :=
  { s with cli := Function.update s.cli c { s.cli c with devicesConnected := pp } }

@[simps] def setErrno (s : State) (e : Errno) : State := { s with errno := e }

@[simps] def log (s : State) (e : Effect) : State := { s with trace := e :: s.trace }

end State

/-- Time passes. -/
@[simps] def advance (w : World) (s : State) : State :=
  { s with clock := s.clock + w.tick s.ticks, ticks := s.ticks + 1 }

/-- `sleep (seconds)` -/
@[simps] def sleep (w : World) (seconds : Nat) (s : State) : State :=
  { advance w s with clock := (advance w s).clock + seconds }

/-- `device->connect_time = time (NULL)` -/
@[simps] def setConnectTime (w : World) (d : DevPtr) (s : State) : State :=
  { advance w s with
    dev := Function.update s.dev d { s.dev d with connectTime := (advance w s).clock } }

/-- `malloc ()` or `realloc ()`; a failure sets `errno`. -/
def malloc (w : World) (s : State) : Option Nat × State :=
  match w.malloc s.mallocs with
  | some p => (some p, { s with mallocs := s.mallocs + 1 })
  | none => (none, { s with mallocs := s.mallocs + 1, errno := .enomem })

/-- The block `malloc` returns for a `client_t`: any block that is not a client in
use. A world that names one in use gets the first block past all of them. -/
def freshClient (s : State) (p : CliPtr) : CliPtr :=
  if p ∈ s.gClients then s.gClients.foldr max 0 + 1 else p

/-- The state after the next call of `system ()`. The call is recorded, also if it is given
NULL. -/
@[simps] def ran (w : World) (d : DevPtr) (command : Command) (s : State) : State :=
  { advance w s with
    commands := s.commands + 1
    errno := (w.system s.commands).errno.getD s.errno
    trace := .ran s.clock d command (w.system s.commands).result :: s.trace }

/-- `system ()` on a command of device `d`. -/
def system (w : World) (d : DevPtr) (command : Command) (s : State) : Int × State :=
  ((w.system s.commands).result, ran w d command s)

end LinkControl
