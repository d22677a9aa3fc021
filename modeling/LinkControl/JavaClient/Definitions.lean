import LinkControl.Server.Broadcast
import LinkControl.Lib.Tokens
import Mathlib.Data.List.DropRight

/-!
# Java client — devices, servers and the listener

`linkDevice`, `linkDeviceList`, `linkServer`, `linkServerList` and `multicastThread`, with
what they use of `serverCommunicator`, `linkDeviceStates` and `protocol`.

* What Java knows of characters and bytes is a `JavaLang`: the code relies on ASCII only,
  and the fields of `JavaLang` say what it may rely on.
* A `StringTokenizer` whose delimiters stay the same is the list of the tokens it has left.
  `requestDeviceList` changes the delimiters once, and is on a text until then.
* A method that throws keeps what it has done before: it returns what was thrown next to the
  objects as they are.
* Where the client talks to a server, the answers are given: the bytes of a packet, or
  `none` for an `IOException`.

Times, locks, observers and messages on `System.err` are left out.
-/

namespace LinkControl.JavaClient

open Tokens

-- ---------------------------------------------------------------------------
-- Java
-- ---------------------------------------------------------------------------

/-- Bytes and characters in Java. -/
structure JavaLang where
  /-- `new String (bytes, "UTF8")` -/
  decode : CStr → CStr
  /-- `Character.toLowerCase (Character.toUpperCase (c))` -/
  fold : Char → Char
  /-- `Character.digit (c, 10)` -/
  digit : Char → Option Nat
  decode_eq_nil : ∀ a, decode a = [] ↔ a = []
  /-- An ASCII character is one byte, which is part of no other character. -/
  decode_ascii : ∀ a c b, c.toNat < 128 → decode (a ++ c :: b) = decode a ++ c :: decode b
  mem_of_mem_decode : ∀ a c, c.toNat < 128 → c ∈ decode a → c ∈ a
  fold_space : ∀ c, fold c = fold ' ' → c = ' '
  digit_ascii : ∀ c, c.isDigit → digit c = some (c.toNat - 48)

theorem JavaLang.decode_nil (J : JavaLang) : J.decode [] = [] := (J.decode_eq_nil []).mpr rfl

theorem toLower_space {c : Char} (h : c.toLower = Char.toLower ' ') : c = ' ' := by
  have hSpace : Char.toLower ' ' = ' ' := rfl
  rw [hSpace] at h
  unfold Char.toLower at h
  split at h
  · rename_i hUpper
    have hVal := congrArg Char.val h
    have hLow : 65 ≤ c.val.toNat := hUpper.1
    have hHigh : c.val.toNat ≤ 90 := hUpper.2
    have hSum : (c.val + ('a'.val - 'A'.val)).toNat = 32 := congrArg UInt32.toNat hVal
    rw [UInt32.toNat_add] at hSum
    have hShift : ('a'.val - 'A'.val).toNat = 32 := rfl
    omega
  · exact h

/-- A Java that knows ASCII only. -/
def asciiJava : JavaLang where
  decode := id
  fold := Char.toLower
  digit c := if c.isDigit then some (c.toNat - 48) else none
  decode_eq_nil _ := Iff.rfl
  decode_ascii _ _ _ _ := rfl
  mem_of_mem_decode _ _ _ h := h
  fold_space _ h := toLower_space h
  digit_ascii _ h := if_pos h

/-- What ends a method: an exception of the client, or one that nobody declares. -/
inductive Thrown where
  | noSuchServer
  | noSuchElement
  | numberFormat
  | error
deriving DecidableEq, Repr

/-- `String.trim ()` -/
def trim (s : CStr) : CStr := (s.dropWhile (· ≤ ' ')).rdropWhile (· ≤ ' ')

/-- `String.equalsIgnoreCase ()` -/
def equalsIgnoreCase (J : JavaLang) (a b : CStr) : Bool := a.map J.fold = b.map J.fold

/-- The digits of `Integer.parseInt ()`, behind the sign. -/
def parseDigits (J : JavaLang) (s : CStr) : Option Nat :=
  if s = [] then none
  else (s.mapM J.digit).map fun digits => digits.foldl (fun n d => 10 * n + d) 0

/-- `Integer.parseInt ()`; `none` for a `NumberFormatException`. -/
def parseInt (J : JavaLang) (s : CStr) : Option Int :=
  match s with
  | '-' :: s => (parseDigits J s).bind fun n => if n ≤ 2147483648 then some (-n) else none
  | '+' :: s => (parseDigits J s).bind fun n => if n ≤ 2147483647 then some n else none
  | s => (parseDigits J s).bind fun n => if n ≤ 2147483647 then some n else none

-- ---------------------------------------------------------------------------
-- protocol, linkDeviceStates, linkClientStates
-- ---------------------------------------------------------------------------

namespace Protocol

def serverPrefix : CStr := "SERVER".toList
def serverDevices : CStr := "DEVICES".toList
def serverClientStatus : CStr := "CLIENT_STATUS".toList
def broadcastPrefix : CStr := "BROADCAST".toList
def broadcastInit : CStr := "INIT".toList
def broadcastStatus : CStr := "STATUS".toList
def broadcastQuit : CStr := "QUIT".toList
def maxPacketSize : Nat := 400

end Protocol

/-- `linkDeviceStates`, less INVALID. -/
inductive LinkDeviceState where
  | down
  | up
  | connecting
  | disconnecting
  | unknown
deriving DecidableEq, Repr

/-- `linkDeviceStates.getValue ()`; `none` is INVALID. -/
def getValue (state : CStr) : Option LinkDeviceState :=
  if state = "DOWN".toList then some .down
  else if state = "UP".toList then some .up
  else if state = "CONNECTING".toList then some .connecting
  else if state = "DISCONNECTING".toList then some .disconnecting
  else none

/-- `linkClientStates` -/
inductive LinkClientState where
  | connected
  | disconnected
  | unknown
deriving DecidableEq, Repr

-- ---------------------------------------------------------------------------
-- Packets (serverCommunicator)
-- ---------------------------------------------------------------------------

/-- `packet.getData ()`: the whole buffer, whatever the length of the datagram. -/
def packetData (datagram : CStr) : CStr :=
  (datagram ++ List.replicate Protocol.maxPacketSize '\x00').take Protocol.maxPacketSize

/-- What `sendMessageWithResponse ()` makes of the answer. -/
def getMessage (J : JavaLang) (answer : Option CStr) : Option CStr :=
  answer.map fun datagram => trim (J.decode (packetData datagram))

/-- The delimiters `" \n\t"`. -/
def delims (c : Char) : Bool := c = ' ' ∨ c = '\n' ∨ c = '\t'

/-- The delimiters `"\n\t"`. -/
def fieldDelims (c : Char) : Bool := c = '\n' ∨ c = '\t'

/-- The delimiters `" \t"`. -/
def nameDelims (c : Char) : Bool := c = ' ' ∨ c = '\t'

-- ---------------------------------------------------------------------------
-- linkDevice, linkDeviceList
-- ---------------------------------------------------------------------------

/-- `linkDevice`. The server it belongs to is left out. -/
structure LinkDevice where
  name : CStr
  description : CStr
  deviceStatus : LinkDeviceState
  clientStatus : LinkClientState
  connectTime : Int
  numUsers : Int
deriving DecidableEq, Repr

/-- `refreshClientStatus ()` of a device with this name. -/
def refreshClientStatus (J : JavaLang) (name : CStr) (answer : Option CStr) :
    Except Thrown LinkClientState :=
  match getMessage J answer with
  | none => .error .noSuchServer
  | some connectedDevices =>
    match tokens nameDelims connectedDevices with
    | [] => .error .noSuchElement
    | source :: toke =>
      if source ≠ Protocol.serverPrefix then .ok .unknown
      else
        match toke with
        | [] => .error .noSuchElement
        | message :: toke =>
          if message ≠ Protocol.serverClientStatus then .ok .unknown
          else if name ∈ toke then .ok .connected
          else .ok .disconnected

/-- `new linkDevice (newName, newDescription, server)` -/
def newLinkDevice (J : JavaLang) (newName newDescription : CStr) (answer : Option CStr) :
    Except Thrown LinkDevice :=
  (refreshClientStatus J newName answer).map fun clientStatus =>
    ⟨newName, newDescription, .unknown, clientStatus, 0, 0⟩

/-- `linkDeviceList.getDevice ()`: the place of the first device with this name. -/
def getDevice (J : JavaLang) (name : CStr) (deviceList : List LinkDevice) : Option Nat :=
  deviceList.findIdx? fun d => equalsIgnoreCase J name d.name

/-- `linkDeviceList.add ()`; `none` for a `DeviceExistsException`. -/
def addDevice (J : JavaLang) (newDevice : LinkDevice) (deviceList : List LinkDevice) :
    Option (List LinkDevice) :=
  if deviceList.any fun d => equalsIgnoreCase J newDevice.name d.name then none
  else some (deviceList ++ [newDevice])

-- ---------------------------------------------------------------------------
-- linkServer
-- ---------------------------------------------------------------------------

/-- What a method that fills a device list leaves: what it threw, the list, and how often
the client has talked to the server. -/
abbrev Filled := Option Thrown × List LinkDevice × Nat

/-- The loop of `requestDeviceList ()`, on the tokens that are left. -/
def readDevices (J : JavaLang) (answers : Nat → Option CStr) :
    List CStr → List LinkDevice → Nat → Filled
  | [], devices, talks => (none, devices, talks)
  | [_], devices, talks => (some .noSuchElement, devices, talks)
  | newName :: newDescription :: toke, devices, talks =>
    match getDevice J newName devices with
    | some _ => readDevices J answers toke devices talks
    | none =>
      match newLinkDevice J newName newDescription (answers talks) with
      | .error thrown => (some thrown, devices, talks + 1)
      | .ok newDevice =>
        match addDevice J newDevice devices with
        | none => (some .error, devices, talks + 1)
        | some devices => readDevices J answers toke devices (talks + 1)

/-- `requestDeviceList ()`. The `StringTokenizer` has the delimiters `" \n\t"` up to the first
test of `hasMoreTokens ()`, and `"\n\t"` from then on. -/
def requestDeviceList (J : JavaLang) (answers : Nat → Option CStr) (talks : Nat) : Filled :=
  match getMessage J (answers talks) with
  | none => (some .noSuchServer, [], talks + 1)
  | some deviceInformation =>
    match nextToken delims deviceInformation with
    | none => (some .noSuchElement, [], talks + 1)
    | some (source, toke) =>
      if source ≠ Protocol.serverPrefix then (some .noSuchServer, [], talks + 1)
      else
        match nextToken delims toke with
        | none => (some .noSuchElement, [], talks + 1)
        | some (message, toke) =>
          if message ≠ Protocol.serverDevices then (some .noSuchServer, [], talks + 1)
          else if toke.all delims then (none, [], talks + 1)
          else readDevices J answers (tokens fieldDelims toke) [] (talks + 1)

/-- `setConnectTime ()`, `setNumUsers ()`, `setDeviceStatus ()` -/
def LinkDevice.setStatus (deviceState : LinkDeviceState) (connectTime numUsers : Int)
    (d : LinkDevice) : LinkDevice :=
  { d with connectTime, numUsers, deviceStatus := deviceState }

/-- `updateDeviceStatus ()`, on the tokens that are left. -/
def updateDeviceStatus (J : JavaLang) : List CStr → List LinkDevice → Option Thrown × List LinkDevice
  | [], devices => (none, devices)
  | [_], devices => (some .noSuchElement, devices)
  | deviceName :: deviceStateStr :: toke, devices =>
    match getValue deviceStateStr with
    | none => updateDeviceStatus J toke devices
    | some deviceState =>
      match getDevice J deviceName devices with
      | none => (some .error, devices)
      | some place =>
        match deviceState with
        | .up =>
          match toke with
          | [] => (some .noSuchElement, devices)
          | [time] =>
            (some (if (parseInt J time).isNone then .numberFormat else .noSuchElement), devices)
          | time :: users :: toke =>
            match parseInt J time, parseInt J users with
            | some connectTime, some numUsers =>
              updateDeviceStatus J toke
                (devices.modify place (LinkDevice.setStatus .up connectTime numUsers))
            | _, _ => (some .numberFormat, devices)
        | .unknown => updateDeviceStatus J toke devices
        | deviceState =>
          updateDeviceStatus J toke (devices.modify place (LinkDevice.setStatus deviceState 0 0))

-- ---------------------------------------------------------------------------
-- linkServerList, multicastThread
-- ---------------------------------------------------------------------------

/-- `linkServer` -/
structure LinkServer where
  sa : SockAddr
  devicesControlled : List LinkDevice
deriving DecidableEq, Repr

/-- The list of servers, and how often the client has talked to any server. -/
structure Listener where
  linkServers : List LinkServer
  talks : Nat
deriving DecidableEq, Repr

/-- `requestDeviceList ()` of a server. -/
abbrev Request := SockAddr → Nat → Filled

/-- `linkServerList.add ()`; `none` for a `ServerExistsException`. -/
def addServer (newServer : LinkServer) (serverList : List LinkServer) : Option (List LinkServer) :=
  if serverList.any fun server => server.sa.addr = newServer.sa.addr then none
  else some (serverList ++ [newServer])

/-- `linkServerList.remove ()`. Both callers ignore that there is no such server. `add ()` has
let no address in twice. -/
def removeServer (server : LinkServer) (serverList : List LinkServer) : List LinkServer :=
  serverList.eraseP fun x => x.sa.addr = server.sa.addr

/-- `server.DevicesControlled = devices` -/
def setDevicesControlled (server : LinkServer) (devices : List LinkDevice)
    (serverList : List LinkServer) : List LinkServer :=
  serverList.map fun x =>
    if x.sa.addr = server.sa.addr then { x with devicesControlled := devices } else x

/-- `multicastThread.getServer ()` -/
def getServer (request : Request) (sa : SockAddr) (l : Listener) :
    Except Thrown LinkServer × Listener :=
  match l.linkServers.find? fun server => server.sa.addr = sa.addr with
  | some currentServer => (.ok currentServer, l)
  | none =>
    match request sa l.talks with
    | (some thrown, _, talks) => (.error thrown, { l with talks })
    | (none, devices, talks) =>
      match addServer ⟨sa, devices⟩ l.linkServers with
      | none => (.error .error, { l with talks })
      | some linkServers => (.ok ⟨sa, devices⟩, { linkServers, talks })

/-- `multicastThread.parseMessage ()` -/
def parseMessage (J : JavaLang) (request : Request) (messageBytes : CStr) (server : LinkServer)
    (l : Listener) : Option Thrown × Listener :=
  match tokens delims (trim (J.decode messageBytes)) with
  | [] => (some .noSuchElement, l)
  | source :: toke =>
    if source ≠ Protocol.broadcastPrefix then (some .error, l)
    else
      match toke with
      | [] => (some .noSuchElement, l)
      | message :: toke =>
        if message = Protocol.broadcastInit then
          match request server.sa l.talks with
          | (some .noSuchServer, _, talks) =>
            (none, { linkServers := removeServer server l.linkServers, talks })
          | (thrown, devices, talks) =>
            (thrown, { linkServers := setDevicesControlled server devices l.linkServers, talks })
        else if message = Protocol.broadcastQuit then
          (none, { l with linkServers := removeServer server l.linkServers })
        else if message = Protocol.broadcastStatus then
          let (thrown, devices) := updateDeviceStatus J toke server.devicesControlled
          (thrown, { l with linkServers := setDevicesControlled server devices l.linkServers })
        else (some .error, l)

/-- One round of the loop in `multicastThread.run ()`, once a datagram is there. What is
thrown ends the thread, but for a `NoSuchServerException`. -/
def run (J : JavaLang) (request : Request) (sa : SockAddr) (datagram : CStr) (l : Listener) :
    Option Thrown × Listener :=
  match getServer request sa l with
  | (.error .noSuchServer, l) => (none, l)
  | (.error thrown, l) => (some thrown, l)
  | (.ok currentServer, l) => parseMessage J request (packetData datagram) currentServer l

end LinkControl.JavaClient
