import EspBase.Network.FrpRequest
import EspBase.Shared.Buffer

set_option autoImplicit false

/-!
# The authenticated status endpoint behind FRP

One loopback listener, one client at a time, one fixed POST. Descriptors are
present or absent; what the socket calls return are answers. `log` records what
the calls do.
-/

namespace EspBase

def frpHttpInputBytes : Nat := 897
def frpHttpHeaderBytes : Nat := 512
def frpHttpOutputBytes : Nat := 1024
def frpHttpResponseOffset : Nat := 128
def frpHttpTotalMs : Nat := 2000
def frpHttpRetryMs : Nat := 5000

-- An accepted connection finds the buffers as they are then.
inductive SocketEvent where
  | listening
  | unlistened
  | accepted (now : Nat) (input : Buffer frpHttpInputBytes) (output : Buffer frpHttpOutputBytes)
  | received (now : Nat) (bytes : List UInt8)
  | handled (key : ManagementKey) (tag body : List UInt8)
  | prepared (response : List UInt8)
  | sent (now : Nat) (bytes : List UInt8)
  | closed
deriving DecidableEq

structure FrpListener where
  listener : Bool
  client : Bool
  port : UInt16
  key : ManagementKey
  configured : Bool
  retryAtMs : Nat
  clientSinceMs : Nat
  input : Buffer frpHttpInputBytes
  inputLength : Nat
  output : Buffer frpHttpOutputBytes
  outputLength : Nat
  outputSent : Nat
  log : List SocketEvent
deriving DecidableEq

def FrpListener.initial : FrpListener :=
  { listener := false
    client := false
    port := 0
    key := wipedKey
    configured := false
    retryAtMs := 0
    clientSinceMs := 0
    input := .wiped
    inputLength := 0
    output := .wiped
    outputLength := 0
    outputSent := 0
    log := [] }

def closeClient (l : FrpListener) : FrpListener :=
  { l with
    client := false
    input := .wiped
    inputLength := 0
    output := .wiped
    outputLength := 0
    outputSent := 0
    log := if l.client then l.log ++ [.closed] else l.log }

def closeListener (l : FrpListener) : FrpListener :=
  { l with listener := false, log := if l.listener then l.log ++ [.unlistened] else l.log }

-- The configuration to serve; a missing port or key is as good as none.
def servedConfig (config : Option FrpConfig) : Option FrpConfig :=
  config.filter fun config =>
    config.configured && config.localPort != 0 && !zeros config.managementKey.toList

def frpListenerConfigure (config : Option FrpConfig) (l : FrpListener) : FrpListener :=
  match servedConfig config with
  | none =>
    if !l.configured then l
    else
      { closeListener (closeClient l) with
        key := wipedKey
        configured := false
        port := 0
        retryAtMs := 0 }
  | some config =>
    if l.configured && l.port == config.localPort && l.key == config.managementKey then l
    else
      { closeListener (closeClient l) with
        key := config.managementKey
        configured := true
        port := config.localPort
        retryAtMs := 0 }

def frpListenerReady (l : FrpListener) : Bool := l.configured && l.listener

-- `bound`: every call up to `listen` succeeds.
def bindListener (bound : Bool) (now : Nat) (l : FrpListener) : FrpListener :=
  if !l.configured || l.listener || now < l.retryAtMs then l
  else if bound then { l with listener := true, log := l.log ++ [.listening] }
  else { l with retryAtMs := now + frpHttpRetryMs }

def httpReason (status : Nat) : String :=
  if status = 200 then "OK"
  else if status = 400 then "Bad Request"
  else if status = 401 then "Unauthorized"
  else if status = 409 then "Conflict"
  else "Internal Server Error"

def httpHead (status bodyLength : Nat) : List UInt8 :=
  bytesOf "HTTP/1.1 " ++ bytesOf (toString status) ++ bytesOf " " ++ bytesOf (httpReason status) ++
    bytesOf "\r\nContent-Type: application/json\r\nContent-Length: " ++
    bytesOf (toString bodyLength) ++ bytesOf "\r\nConnection: close\r\n\r\n"

-- The head is formatted with its NUL before its length is looked at.
def prepareResponse (status : Nat) (body : List UInt8) (l : FrpListener) : FrpListener :=
  let head := httpHead status body.length
  let formatted := l.output.write 0 (head.take (frpHttpResponseOffset - 1) ++ [0])
  if head.length ≥ frpHttpResponseOffset ∨ head.length + body.length ≥ frpHttpOutputBytes then
    closeClient { l with output := formatted }
  else
    { l with
      output := formatted.write head.length body
      outputLength := head.length + body.length
      log := l.log ++ [.prepared (head ++ body)] }

def frpResponseBytes : Nat := frpHttpOutputBytes - frpHttpResponseOffset

-- The status and the body that the handler returns, and what else it leaves in its part of the output.
def handlerResponse (status : Nat) (body scratch : List UInt8) (l : FrpListener) : FrpListener :=
  let l := { l with output := l.output.write frpHttpResponseOffset (body ++ scratch) }
  if (status ≠ 200 ∧ status ≠ 400 ∧ status ≠ 409) ∨ body.length > frpResponseBytes then
    prepareResponse 500 [] l
  else prepareResponse status body l

inductive Received where
  | bytes (bytes : List UInt8)
  | waiting
  | failed
deriving DecidableEq

structure FrpRequest where
  tag : List UInt8
  body : List UInt8
deriving DecidableEq

def FrpListener.received (l : FrpListener) : List UInt8 := l.input.bytes.take l.inputLength

variable (hmacSha256 : ManagementKey → List UInt8 → Digest)

def inspectRequest (a : PsaAnswers) (l : FrpListener) : Option FrpRequest × FrpListener :=
  match headerLength l.received with
  | none => (none, if l.inputLength > frpHttpHeaderBytes then prepareResponse 400 [] l else l)
  | some length =>
    if length > frpHttpHeaderBytes then (none, prepareResponse 400 [] l)
    else
      match parseHeaders l.received length with
      | none => (none, prepareResponse 400 [] l)
      | some (bodyLength, tag) =>
        if length + bodyLength > frpHttpInputBytes ∨ l.inputLength > length + bodyLength then
          (none, prepareResponse 400 [] l)
        else if l.inputLength < length + bodyLength then (none, l)
        else
          let body := l.received.drop length
          if managementAuthenticate hmacSha256 a l.key tag body then (some ⟨tag, body⟩, l)
          else (none, prepareResponse 401 [] l)

def takeInput (now : Nat) (bytes : List UInt8) (l : FrpListener) : FrpListener :=
  { l with
    input := l.input.write l.inputLength bytes
    inputLength := l.inputLength + bytes.length
    log := l.log ++ [.received now bytes] }

-- `recv` returns at most what is still free of the input; no bytes mean the end of the stream.
def receiveRequest (received : Received) (now : Nat) (a : PsaAnswers) (l : FrpListener) :
    Option FrpRequest × FrpListener :=
  if l.inputLength = frpHttpInputBytes then (none, prepareResponse 400 [] l)
  else
    match received with
    | .waiting => (none, l)
    | .failed => (none, closeClient l)
    | .bytes bytes =>
      let bytes := bytes.take (frpHttpInputBytes - l.inputLength)
      if bytes.length = 0 then (none, closeClient l)
      else inspectRequest hmacSha256 a (takeInput now bytes l)

inductive AcceptResult where
  | client
  | refused
  | waiting
  | failed
deriving DecidableEq

inductive SendResult where
  | wrote (count : Nat)
  | waiting
  | failed
deriving DecidableEq

structure FrpPollAnswers where
  bound : Bool := true
  accepted : AcceptResult := .waiting
  received : Received := .waiting
  psa : PsaAnswers := {}
  scratch : List UInt8 := []
  sent : SendResult := .waiting
deriving DecidableEq

def acceptClient (accepted : AcceptResult) (now : Nat) (l : FrpListener) : FrpListener :=
  if l.client then l
  else
    match accepted with
    | .client =>
      { l with
        client := true
        clientSinceMs := now
        log := l.log ++ [.accepted now l.input l.output] }
    | .failed => { closeListener l with retryAtMs := now + frpHttpRetryMs }
    | _ => l

-- `send` takes at most what it is given.
def sendResponse (sent : SendResult) (now : Nat) (l : FrpListener) : FrpListener :=
  if !l.client || l.outputLength == 0 then l
  else
    match sent with
    | .failed => closeClient l
    | .wrote count =>
      let bytes := ((l.output.bytes.take l.outputLength).drop l.outputSent).take count
      let l := { l with
        outputSent := l.outputSent + bytes.length
        log := l.log ++ [.sent now bytes] }
      if l.outputSent = l.outputLength then closeClient l else l
    | .waiting => if l.outputSent = l.outputLength then closeClient l else l

-- The clock is unsigned: a client from the future has also timed out.
def clientExpired (now : Nat) (l : FrpListener) : Bool :=
  now < l.clientSinceMs || frpHttpTotalMs ≤ now - l.clientSinceMs

def serveRequest (a : FrpPollAnswers) (now : Nat) (handler : List UInt8 → Nat × List UInt8)
    (l : FrpListener) : Option FrpRequest × FrpListener :=
  match receiveRequest hmacSha256 a.received now a.psa l with
  | (none, l) => (none, l)
  | (some request, l) =>
    let (status, body) := handler request.body
    (some request, handlerResponse status body a.scratch
      { l with log := l.log ++ [.handled l.key request.tag request.body] })

def frpListenerPoll (a : FrpPollAnswers) (now : Nat) (handler : List UInt8 → Nat × List UInt8)
    (l : FrpListener) : Option FrpRequest × FrpListener :=
  let l := bindListener a.bound now l
  if !l.listener then (none, l)
  else
    let l := acceptClient a.accepted now l
    if !l.client then (none, l)
    else if clientExpired now l then (none, closeClient l)
    else
      let (request, l) :=
        if l.outputLength = 0 then serveRequest hmacSha256 a now handler l else (none, l)
      (request, sendResponse a.sent now l)

@[simp] theorem closeListener_listener (l : FrpListener) : (closeListener l).listener = false := rfl

theorem servedConfig_some {config : Option FrpConfig} {served : FrpConfig}
    (same : servedConfig config = some served) : config = some served := by
  obtain ⟨here, -⟩ := Option.filter_eq_some_iff.mp same
  exact here

theorem frpListenerConfigure_key (config : FrpConfig) (l : FrpListener)
    (configured : (frpListenerConfigure (some config) l).configured = true) :
    (frpListenerConfigure (some config) l).key = config.managementKey := by
  revert configured
  unfold frpListenerConfigure
  split
  · split_ifs with idle <;> simp_all
  next served found =>
    obtain rfl := Option.some.inj (servedConfig_some found)
    split_ifs with unchanged <;> simp_all

theorem frpListenerConfigure_closed (l : FrpListener) :
    (frpListenerConfigure none l).configured = false := by
  simp only [frpListenerConfigure, servedConfig, Option.filter_none]
  split_ifs <;> simp_all

def FrpListener.Closed (l : FrpListener) : Prop := l.listener = true → l.configured = true

theorem frpListenerConfigure_listening (config : Option FrpConfig) (l : FrpListener)
    (closed : l.Closed) : (frpListenerConfigure config l).Closed := by
  unfold frpListenerConfigure FrpListener.Closed
  split
  · split_ifs <;> simp_all [FrpListener.Closed]
  · split_ifs <;> simp_all [FrpListener.Closed]

structure FrpListener.Keeps (l m : FrpListener) : Prop where
  configured : m.configured = l.configured
  key : m.key = l.key
  listening : m.listener = true → l.listener = true ∨ l.configured = true
  logged : l.log <+: m.log

namespace FrpListener.Keeps

variable {l m n : FrpListener}

theorem refl (l : FrpListener) : l.Keeps l := ⟨rfl, rfl, .inl, List.prefix_rfl⟩

theorem trans (first : l.Keeps m) (second : m.Keeps n) : l.Keeps n := by
  refine ⟨second.configured.trans first.configured, second.key.trans first.key, fun now => ?_,
    first.logged.trans second.logged⟩
  rcases second.listening now with listening | configured
  · exact first.listening listening
  · exact .inr (first.configured ▸ configured)

theorem closed (keeps : l.Keeps m) (closed : l.Closed) : m.Closed := by
  intro listening
  rw [keeps.configured]
  exact (keeps.listening listening).elim closed id

end FrpListener.Keeps

theorem closeClient_logged (l : FrpListener) : l.log <+: (closeClient l).log := by
  simp only [closeClient]
  split
  · exact List.prefix_append _ _
  · exact List.prefix_rfl

theorem closeListener_logged (l : FrpListener) : l.log <+: (closeListener l).log := by
  simp only [closeListener]
  split
  · exact List.prefix_append _ _
  · exact List.prefix_rfl

theorem frpListenerConfigure_logged (config : Option FrpConfig) (l : FrpListener) :
    l.log <+: (frpListenerConfigure config l).log := by
  have closed := (closeClient_logged l).trans (closeListener_logged (closeClient l))
  unfold frpListenerConfigure
  split <;> split <;> first | exact List.prefix_rfl | exact closed

theorem closeClient_keeps (l : FrpListener) : l.Keeps (closeClient l) :=
  ⟨rfl, rfl, .inl, closeClient_logged l⟩

theorem prepareResponse_keeps (status : Nat) (body : List UInt8) (l : FrpListener) :
    l.Keeps (prepareResponse status body l) := by
  simp only [prepareResponse]
  split
  · have formatted (output : Buffer frpHttpOutputBytes) : l.Keeps { l with output := output } :=
      ⟨rfl, rfl, .inl, List.prefix_rfl⟩
    exact (formatted _).trans (closeClient_keeps _)
  · exact ⟨rfl, rfl, .inl, List.prefix_append _ _⟩

theorem handlerResponse_keeps (status : Nat) (body scratch : List UInt8) (l : FrpListener) :
    l.Keeps (handlerResponse status body scratch l) := by
  have written : l.Keeps { l with output := l.output.write frpHttpResponseOffset (body ++ scratch) } :=
    ⟨rfl, rfl, .inl, List.prefix_rfl⟩
  simp only [handlerResponse]
  split <;> exact written.trans (prepareResponse_keeps _ _ _)

theorem bindListener_keeps (bound : Bool) (now : Nat) (l : FrpListener) :
    l.Keeps (bindListener bound now l) := by
  unfold bindListener
  split
  · exact .refl l
  next idle =>
    split
    · exact ⟨rfl, rfl, fun _ => .inr (by simp_all), List.prefix_append _ _⟩
    · exact ⟨rfl, rfl, .inl, List.prefix_rfl⟩

theorem acceptClient_keeps (accepted : AcceptResult) (now : Nat) (l : FrpListener) :
    l.Keeps (acceptClient accepted now l) := by
  unfold acceptClient
  split
  · exact .refl l
  · cases accepted with
    | client => exact ⟨rfl, rfl, .inl, List.prefix_append _ _⟩
    | failed => exact ⟨rfl, rfl, nofun, closeListener_logged l⟩
    | _ => exact .refl l

theorem sendResponse_keeps (sent : SendResult) (now : Nat) (l : FrpListener) :
    l.Keeps (sendResponse sent now l) := by
  unfold sendResponse
  split
  · exact .refl l
  · cases sent with
    | failed => exact closeClient_keeps l
    | wrote count =>
      have wrote (outputSent : Nat) (bytes : List UInt8) :
          l.Keeps { l with outputSent := outputSent, log := l.log ++ [.sent now bytes] } :=
        ⟨rfl, rfl, .inl, List.prefix_append _ _⟩
      simp only
      split
      · exact (wrote _ _).trans (closeClient_keeps _)
      · exact wrote _ _
    | waiting =>
      simp only
      split
      · exact closeClient_keeps l
      · exact .refl l

theorem inspectRequest_spec (a : PsaAnswers) (l : FrpListener) :
    l.Keeps (inspectRequest hmacSha256 a l).2 ∧
      ∀ request ∈ (inspectRequest hmacSha256 a l).1,
        Authentic hmacSha256 l.key request.tag request.body := by
  have refused (status : Nat) : l.Keeps (prepareResponse status [] l) := prepareResponse_keeps status [] l
  have same : l.Keeps l := .refl l
  unfold inspectRequest
  split
  · split
    · exact ⟨refused 400, nofun⟩
    · exact ⟨same, nofun⟩
  split
  · exact ⟨refused 400, nofun⟩
  split
  · exact ⟨refused 400, nofun⟩
  next length _ _ bodyLength tag parsed =>
    split
    · exact ⟨refused 400, nofun⟩
    split
    · exact ⟨same, nofun⟩
    simp only
    split
    next passed =>
      refine ⟨same, ?_⟩
      rintro request ⟨⟩
      exact managementAuthenticate_authentic hmacSha256 a l.key tag _ passed
    · exact ⟨refused 401, nofun⟩

theorem receiveRequest_spec (received : Received) (now : Nat) (a : PsaAnswers) (l : FrpListener) :
    l.Keeps (receiveRequest hmacSha256 received now a l).2 ∧
      ∀ request ∈ (receiveRequest hmacSha256 received now a l).1,
        Authentic hmacSha256 l.key request.tag request.body := by
  unfold receiveRequest
  split
  · exact ⟨prepareResponse_keeps 400 [] l, nofun⟩
  cases received with
  | waiting => exact ⟨.refl l, nofun⟩
  | failed => exact ⟨closeClient_keeps l, nofun⟩
  | bytes bytes =>
    simp only
    split
    · exact ⟨closeClient_keeps l, nofun⟩
    · have taken (bytes : List UInt8) : l.Keeps (takeInput now bytes l) :=
        ⟨rfl, rfl, .inl, List.prefix_append _ _⟩
      obtain ⟨keeps, authentic⟩ := inspectRequest_spec hmacSha256 a
        (takeInput now (bytes.take (frpHttpInputBytes - l.inputLength)) l)
      exact ⟨(taken _).trans keeps, authentic⟩

theorem serveRequest_spec (a : FrpPollAnswers) (now : Nat) (handler : List UInt8 → Nat × List UInt8)
    (l : FrpListener) :
    l.Keeps (serveRequest hmacSha256 a now handler l).2 ∧
      ∀ request ∈ (serveRequest hmacSha256 a now handler l).1,
        Authentic hmacSha256 l.key request.tag request.body := by
  obtain ⟨received, authentic⟩ := receiveRequest_spec hmacSha256 a.received now a.psa l
  unfold serveRequest
  split
  next waiting same =>
    rw [same] at received
    exact ⟨received, nofun⟩
  next request waiting same =>
    rw [same] at received authentic
    have handled (event : SocketEvent) : waiting.Keeps { waiting with log := waiting.log ++ [event] } :=
      ⟨rfl, rfl, .inl, List.prefix_append _ _⟩
    exact ⟨(received.trans (handled _)).trans (handlerResponse_keeps _ _ _ _), authentic⟩

theorem frpListenerPoll_spec (a : FrpPollAnswers) (now : Nat) (handler : List UInt8 → Nat × List UInt8)
    (l : FrpListener) (closed : l.Closed) :
    l.Keeps (frpListenerPoll hmacSha256 a now handler l).2 ∧
      ∀ request ∈ (frpListenerPoll hmacSha256 a now handler l).1,
        l.configured = true ∧ Authentic hmacSha256 l.key request.tag request.body := by
  have bound := bindListener_keeps a.bound now l
  have accepted := bound.trans (acceptClient_keeps a.accepted now (bindListener a.bound now l))
  have served (sent : FrpListener) (keeps : l.Keeps sent) : l.Keeps (sendResponse a.sent now sent) :=
    keeps.trans (sendResponse_keeps a.sent now sent)
  simp only [frpListenerPoll]
  split
  · exact ⟨bound, nofun⟩
  next listening =>
    have configured : l.configured = true :=
      (bound.listening (by simpa using listening)).elim closed id
    split
    · exact ⟨accepted, nofun⟩
    split
    · exact ⟨accepted.trans (closeClient_keeps _), nofun⟩
    split
    · obtain ⟨keeps, authentic⟩ := serveRequest_spec hmacSha256 a now handler
        (acceptClient a.accepted now (bindListener a.bound now l))
      refine ⟨served _ (accepted.trans keeps), fun request called => ⟨configured, ?_⟩⟩
      rw [← accepted.key]
      exact authentic request called
    · exact ⟨served _ accepted, nofun⟩

end EspBase
