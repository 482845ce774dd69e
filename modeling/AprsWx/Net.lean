import AprsWx.AprsIs

/-!
# The connection

The socket of an `APRS_IS` object in use: `connect`, `getPacket`, `putLine` and
`openConnection`.

What the operating system answers is not known beforehand. A run takes the answers from a
script, one for each call in the order of the calls, and writes down what it did in a
log. Where the script has no answer for the call that is made, the run is `pending`: it
is observed up to this call. So what holds at the end of every run, over all scripts,
holds at every moment of every run.

Each turn of a loop makes a call, so the answers that are left bound the turns.
-/

namespace AprsWx

open Prog

/-! ## Calls and answers -/

/-- `struct addrinfo`; `ai_addrlen` is the length of the address. -/
structure AddrInfo where
  aiFamily : Nat
  aiSocktype : Nat
  aiProtocol : Nat
  aiAddr : List UInt8
  deriving DecidableEq

inductive ReadResult
  | error
  | eof
  | byte (c : Char)
  deriving DecidableEq

/-- The answer to a call of the operating system or of a library that is not part of the
program. `running` is the flag of the signal handler, `now` a reading of the steady
clock, and `perform` the outcome of an HTTP request and the time at which it is made. -/
inductive Ext
  | running (b : Bool)
  | getaddrinfo (r : Option (List AddrInfo))
  | socket (fd : Option Nat)
  | bindConnect (success : Bool)
  | select (r : Int)
  | read (r : ReadResult)
  | write (n : Int)
  | now (t : Int)
  | perform (t : Int) (success : Bool)
  deriving DecidableEq

section Answers

/-- The answer of an entry, if it answers the call. -/
def Ext.asRunning : Ext → Option Bool
  | .running b => some b
  | _ => none

def Ext.asGetaddrinfo : Ext → Option (Option (List AddrInfo))
  | .getaddrinfo r => some r
  | _ => none

def Ext.asSocket : Ext → Option (Option Nat)
  | .socket fd => some fd
  | _ => none

def Ext.asBindConnect : Ext → Option Bool
  | .bindConnect success => some success
  | _ => none

def Ext.asSelect : Ext → Option Int
  | .select r => some r
  | _ => none

def Ext.asRead : Ext → Option ReadResult
  | .read r => some r
  | _ => none

def Ext.asWrite : Ext → Option Int
  | .write n => some n
  | _ => none

def Ext.asNow : Ext → Option Int
  | .now t => some t
  | _ => none

def Ext.asPerform : Ext → Option (Int × Bool)
  | .perform t success => some (t, success)
  | _ => none

end Answers

/-- What a run did. `connection` is the value that `connect` returned and `packet` the
packet that `getPacket` has left in the object. -/
inductive Sys
  | socket (fd : Int)
  | bindConnect (fd : Int) (peer : AddrInfo) (success : Bool)
  | close (fd : Int)
  | connection (fd : Int)
  | packet (fd : Int) (mPacket : StdString)
  | write (fd : Int) (line : List Char)
  deriving DecidableEq

structure Net (F : Type) where
  sock : AprsIs F
  script : List Ext
  log : List Sys

abbrev NetM (F α : Type) : Type := EStateM Stop (Net F) α

variable {F : Type}

/-- The answer to a call, which `f` takes from the script's next entry. -/
def answer {α : Type} (f : Ext → Option α) : NetM F α := do
  let s ← get
  match s.script with
  | [] => throw .pending
  | e :: script =>
    match f e with
    | some a => set { s with script := script }; return a
    | none => throw .pending

def logSys (e : Sys) : NetM F PUnit := modify fun s => { s with log := s.log ++ [e] }

def modifySock (f : AprsIs F → AprsIs F) : NetM F PUnit := modify fun s => { s with sock := f s.sock }

def getSock : NetM F (AprsIs F) := do return (← get).sock

/-! ## Changes of the object -/

section Changes

variable (sock : AprsIs F)

def AprsIs.withFd (fd : Int) : AprsIs F := { sock with sockFd := fd }

def AprsIs.withType (socketType : SocketType) : AprsIs F := { sock with socketType := socketType }

/-- The object after `findPeerInfo` has stored the address of its peer. -/
def AprsIs.peered (peer : AddrInfo) : AprsIs F :=
  { sock with
    peerAddr := peer.aiAddr ++ sock.peerAddr.drop peer.aiAddr.length
    peerLen := peer.aiAddr.length
    afType := peer.aiFamily }

def AprsIs.waited (mWaitTime : Nat) : AprsIs F := { sock with mWaitTime := mWaitTime }

/-- `mPacket.clear()`. -/
def AprsIs.emptied : AprsIs F := { sock with mPacket := StdString.empty }

end Changes

/-! ## Sockets -/

def sysSocket : NetM F Int := do
  let fd ← answer Ext.asSocket
  let fd : Int := match fd with
    | some fd => fd
    | none => -1
  logSys (.socket fd)
  return fd

/-- `::bind` or `::connect`, which fails on the descriptor -1. -/
def sysBindConnect (fd : Int) (peer : AddrInfo) : NetM F Bool := do
  let success ← if fd < 0 then pure false else answer Ext.asBindConnect
  logSys (.bindConnect fd peer success)
  return success

def sysClose (fd : Int) : NetM F PUnit := logSys (.close fd)

/-- `basic_socket::close`. -/
def close : NetM F PUnit := do
  let sock ← getSock
  if 0 ≤ sock.sockFd then
    sysClose sock.sockFd
    modifySock fun sock => sock.withFd (-1)

/-- The inner loop of `findPeerInfo`, over the addresses. -/
def tryPeers (pref : Nat) : List AddrInfo → NetM F PUnit
  | [] => pure ()
  | peer :: peers => do
    if pref = afUnspec ∨ pref = peer.aiFamily then
      let fd ← sysSocket
      modifySock fun sock => sock.withFd fd
      if ← sysBindConnect fd peer then
        -- the loop is left with this descriptor open
        modifySock fun sock => sock.peered peer
      else
        sysClose fd
        modifySock fun sock => sock.withFd (-1)
        tryPeers pref peers
    else
      tryPeers pref peers

/-- The outer loop, over the preferences. -/
def tryPrefs (peers : List AddrInfo) : List Nat → NetM F PUnit
  | [] => pure ()
  | pref :: prefs => do
    tryPeers pref peers
    let sock ← getSock
    if sock.sockFd < 0 then tryPrefs peers prefs

def findPeerInfo (aiFamilyPreference : List Nat) : NetM F PUnit := do
  match ← answer Ext.asGetaddrinfo with
  | none => throw (.thrown .logicError)
  | some peers =>
    modifySock fun sock => (sock.withFd (-1)).withType .SockUnknown
    tryPrefs peers aiFamilyPreference

def connect (familyPrefs : List Nat) : NetM F Int := do
  findPeerInfo familyPrefs
  modifySock fun sock => sock.withType .SockConnect
  let sock ← getSock
  logSys (.connection sock.sockFd)
  return sock.sockFd

/-! ## Packets -/

/-- `++mWaitTime` of type `uint32_t`. -/
def nextWait (mWaitTime : Nat) : Nat := (mWaitTime + 1) % 2 ^ 32

/-- `select`, with the counter of timeouts. -/
def select (maxWait : Nat) : NetM F Int := do
  let sock ← getSock
  if sock.socketType ≠ .SockListen ∧ sock.socketType ≠ .SockConnect then
    throw (.thrown .logicError)
  let r ← answer Ext.asSelect
  if r = 0 ∧ 0 < maxWait then
    modifySock fun sock => sock.waited (nextWait sock.mWaitTime)
    let sock ← getSock
    return if maxWait < sock.mWaitTime then -2 else r
  else
    return r

/-- `read` of one character into `buf[0]`. At the end of the file it leaves the character
that is there, which has no defined value before the first one is read. -/
def readChar (buf : Option Char) : NetM F Char := do
  match ← answer Ext.asRead with
  | .error => throw (.exited 1)
  | .byte c => return c
  | .eof =>
    match buf with
    | some c => return c
    | none => throw .undefined

/-- What `stringBuf` holds after the character `c`. -/
def appendChar (stringBuf : List Char) (c : Char) : List Char :=
  if c ≠ '\r' then stringBuf ++ [c] else stringBuf

/-- The loop of `getPacket`, with what it has put into `stringBuf` and what `buf[0]` holds.
It leaves the packet in the object. -/
def getPacketLoop : Nat → List Char → Option Char → NetM F PUnit
  | 0, _, _ => throw .pending
  | fuel + 1, stringBuf, buf => do
    let n ← select 60
    if 0 < n then
      modifySock fun sock => sock.waited 0
      let c ← readChar buf
      let stringBuf := appendChar stringBuf c
      if c = '\n' then
        modifySock fun sock => sock.received (StdString.ofChars stringBuf)
      else
        getPacketLoop fuel stringBuf (some c)
    else if n ≠ 0 then
      -- the characters received so far are lost, and the cursors stay where they are
      modifySock fun sock => sock.emptied
    else
      getPacketLoop fuel stringBuf buf

def getPacket : NetM F StdString := do
  let s ← get
  getPacketLoop (s.script.length + 1) [] none
  let sock ← getSock
  logSys (.packet sock.sockFd sock.mPacket)
  return sock.mPacket

def putLine (line : List Char) : NetM F Int := do
  let sock ← getSock
  let n ← answer Ext.asWrite
  logSys (.write sock.sockFd line)
  return n

/-! ## Opening a connection -/

/-- The identification packets that `openConnection` rejects. -/
def AprsIs.rejects (sock : AprsIs F) : Bool :=
  sock.hasPrefix "# javAPRSSrvr 4.3.0b22" || sock.hasPrefix "# javAPRSSrvr 4.3.0b17" ||
    sock.hasPrefix "# javAPRSSrvr 4.2.0b09"

/-- The object after `openConnection` has judged the server by its identification packet. -/
def AprsIs.judged (sock : AprsIs F) : AprsIs F := { sock with mGoodServer := !sock.rejects }

/-- The line that `openConnection` sends. -/
def AprsIs.validate (sock : AprsIs F) : List Char :=
  "user ".toList ++ sock.mCallSign ++ " pass ".toList ++ sock.mPassCode ++
    (if sock.mFilter.isEmpty then [] else " filter ".toList ++ sock.mFilter) ++ "\r\n".toList

/-- The loop of `openConnection` over servers: whether it found a good one. -/
def findServer : Nat → NetM F Bool
  | 0 => throw .pending
  | fuel + 1 => do
    if (← getSock).mGoodServer then
      return true
    else
      if (← connect [afInet6, afInet, afUnspec]) < 0 then
        return false
      else
        let _ ← getPacket
        modifySock fun sock => sock.judged
        if !(← getSock).mGoodServer then
          close
        findServer fuel

def openConnection : NetM F Bool := do
  let s ← get
  if ← findServer (s.script.length + 1) then
    -- neither the number of characters written nor the server's answer is looked at
    let _ ← putLine (← getSock).validate
    let _ ← getPacket
    return true
  else
    return false

end AprsWx
