import SctpConformance.Server.JsonEncode

/-!
# Opening a listening socket

`create_listening_socket` of `main.cpp`.  The function makes up to ten system
calls on one descriptor and closes that descriptor before it returns an error.
The model separates the two address counts tested before `socket()`, the
`socket()` call itself (a step on the descriptor table, in the modules that have
one), and everything after it as a function of the outcomes of the calls.

Main results:

- Definition `addressCountError`: the refusals made before a socket exists.
- Definition `setupListeningSocket`: the socket that comes out, or the error
  with which the descriptor is closed again.
- Theorem `setupListeningSocket_fd`: a socket that comes out has the descriptor
  that was opened.
-/

namespace SctpConformance

/-- The addresses as clients are told them. -/
def withPort (addrs : List CppString) (port : UInt16) : List CppString :=
  addrs.map fun addr => addr ++ [58] ++ decimal port.toNat

/-- The message for an address that the host does not have. -/
def missingBindMessage (address : CppString) : CppString :=
  if address = str "127.0.0.2" then
    str "address 127.0.0.2 is not configured on the FreeBSD host; " ++
      str "run `ifconfig lo0 alias 127.0.0.2/8` as root"
  else
    str "address " ++ address ++ str " is not configured on the FreeBSD host; " ++
      str "add it to a local interface or change --sctp-addrs"

/-- The addresses a contract advertises: the bound ones unless others are configured. -/
def advertiseList (options : ServerOptions) : List CppString :=
  if options.sctpAdvertiseAddrs = [] then options.sctpBindAddrs else options.sctpAdvertiseAddrs

/-- The error returned before `socket()` is called, if too few addresses are configured. -/
def addressCountError (options : ServerOptions) (bindCount : Nat) : Option CppString :=
  if options.sctpBindAddrs.length < bindCount then
    some (str "feature requires " ++ decimal bindCount ++
      str (" SCTP addresses; restart the server with --sctp-addrs " ++
        "containing enough local addresses"))
  else if (advertiseList options).length < bindCount then
    some (str "feature requires " ++ decimal bindCount ++
      str (" advertised SCTP addresses; restart the server with --advertise-addrs " ++
        "containing enough addresses"))
  else none

/-- The outcomes of the calls made on a fresh SCTP socket, in program order;
`none` is success.  The first `getsockname` and `sctp_bindx` are made only when
more than one address is bound. -/
structure SetupCalls where
  initmsg : Option Errno := none
  events : Option Errno := none
  recvRcvInfo : Option Errno := none
  rcvTimeo : Option Errno := none
  inetPton : CppString → Bool := fun _ => true
  bind : Option Errno := none
  getsockname : Option Errno := none
  bindx : Option Errno := none
  listen : Option Errno := none
  getsocknameAgain : Except Errno UInt16 := .ok 0

/-- The text of a failed `bind` or `sctp_bindx`. -/
def bindError (host : Host) (errno : Errno) (address : CppString) : CppString :=
  if errno = .eaddrnotavail then missingBindMessage address else host.strerror errno

/-- `create_listening_socket` after `socket()` returned `fd`. -/
def setupListeningSocket (host : Host) (bindCount fd : Nat) (calls : SetupCalls) :
    Except CppString ListeningSocket :=
  let bindAddrs := host.options.sctpBindAddrs
  match calls.initmsg <|> calls.events <|> calls.recvRcvInfo <|> calls.rcvTimeo with
  | some errno => .error (host.strerror errno)
  | none =>
      match (bindAddrs.take bindCount).find? fun addr => !calls.inetPton addr with
      | some addr => .error (str "invalid IPv4 bind address " ++ addr)
      | none =>
          match calls.bind with
          | some errno => .error (bindError host errno (bindAddrs.getD 0 []))
          | none =>
              match if bindCount > 1 then calls.getsockname else none with
              | some errno => .error (host.strerror errno)
              | none =>
                  match if bindCount > 1 then calls.bindx else none with
                  | some errno => .error (bindError host errno (bindAddrs.getD 1 []))
                  | none =>
                      match calls.listen with
                      | some errno => .error (host.strerror errno)
                      | none =>
                          match calls.getsocknameAgain with
                          | .error errno => .error (host.strerror errno)
                          | .ok port =>
                              .ok {
                                fd := fd
                                bindAddrs := withPort (bindAddrs.take bindCount) port
                                advertiseAddrs :=
                                  withPort ((advertiseList host.options).take bindCount) port }

/-- A socket that comes out has the descriptor that was opened. -/
theorem setupListeningSocket_fd {host : Host} {bindCount fd : Nat} {calls : SetupCalls}
    {socketInfo : ListeningSocket}
    (h : setupListeningSocket host bindCount fd calls = .ok socketInfo) :
    socketInfo.fd = fd := by
  unfold setupListeningSocket at h
  dsimp only at h
  repeat' split at h
  all_goals first | contradiction | skip
  cases h
  rfl

end SctpConformance
