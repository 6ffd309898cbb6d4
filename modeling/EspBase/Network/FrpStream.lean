import EspBase.Network.FrpConnection
import EspBase.Network.FrpHeaders

set_option autoImplicit false

/-!
# What a client sends and how it is cut

The request is looked at again after every chunk. What becomes of it depends on
the bytes that have arrived, not on the chunks.
-/

namespace EspBase

open Transition

inductive Verdict where
  | wait
  | refuse
  | whole (tag body : List UInt8)
deriving DecidableEq

def verdict (received : List UInt8) : Verdict :=
  match headerLength received with
  | none => if received.length > frpHttpHeaderBytes then .refuse else .wait
  | some length =>
    if length > frpHttpHeaderBytes then .refuse
    else
      match parseHeaders received length with
      | none => .refuse
      | some (bodyLength, tag) =>
        if length + bodyLength > frpHttpInputBytes ∨ received.length > length + bodyLength then .refuse
        else if received.length < length + bodyLength then .wait
        else .whole tag (received.drop length)

variable (hmacSha256 : ManagementKey → List UInt8 → Digest)

theorem inspectRequest_verdict (l : FrpListener) (c : Connection) (serves : Serves c l) (a : PsaAnswers) :
    inspectRequest hmacSha256 a l =
      match verdict c.received with
      | .wait => (none, l)
      | .refuse => (none, prepareResponse 400 [] l)
      | .whole tag body =>
        if managementAuthenticate hmacSha256 a l.key tag body then (some ⟨tag, body⟩, l)
        else (none, prepareResponse 401 [] l) := by
  simp only [inspectRequest, verdict, serves.received, serves.inputLength]
  cases headerLength c.received with
  | none => simp only; split <;> rfl
  | some length =>
    simp only
    split
    · rfl
    cases parseHeaders c.received length with
    | none => rfl
    | some announced =>
      obtain ⟨bodyLength, tag⟩ := announced
      simp only
      split
      · rfl
      split <;> rfl

theorem verdict_wait_length (received : List UInt8) (waiting : verdict received = .wait) :
    received.length < frpHttpInputBytes := by
  unfold verdict at waiting
  split at waiting
  · split_ifs at waiting with short
    simp [frpHttpHeaderBytes, frpHttpInputBytes] at short ⊢
    omega
  · split_ifs at waiting
    split at waiting
    · cases waiting
    · split_ifs at waiting with long short
      omega

theorem headerLength_le (received : List UInt8) (length : Nat)
    (found : headerLength received = some length) : length ≤ received.length := by
  obtain ⟨front, rest, split, size⟩ := headerLength_split received length found
  simp [split, size, crlf]

theorem HeaderBlock.verdict_whole {block digits body tag : List UInt8} {fields : List HeaderField}
    (header : HeaderBlock block digits body.length tag fields) (short : digits.length ≤ 3)
    (fits : block.length ≤ frpHttpHeaderBytes) : verdict (block ++ body) = .whole tag body := by
  have found := header.headerLength body
  have parsed : parseHeaders (block ++ body) block.length = some (body.length, tag) :=
    (parseHeaders_iff _ _ _ _ found).mpr ⟨digits, fields, short, by rwa [List.take_left]⟩
  have low := header.range.2
  simp only [verdict, found, parsed]
  rw [if_neg (by omega), if_neg, if_neg (by simp), List.drop_left]
  simp [frpHttpHeaderBytes, frpHttpInputBytes, frpHttpBodyBytes] at fits low ⊢
  omega

theorem HeaderBlock.verdict_prefix {block digits body tag : List UInt8} {fields : List HeaderField}
    (header : HeaderBlock block digits body.length tag fields) (short : digits.length ≤ 3)
    (fits : block.length ≤ frpHttpHeaderBytes) (received : List UInt8)
    (part : received <+: block ++ body) :
    verdict received = .wait ∨ verdict received = .whole tag body := by
  by_cases reached : block.length ≤ received.length
  · obtain ⟨begun, rfl⟩ := List.prefix_of_prefix_length_le (List.prefix_append block body) part reached
    have begun_part := (List.prefix_append_right_inj block).mp part
    by_cases complete : begun.length = body.length
    · obtain rfl := begun_part.eq_of_length complete
      exact .inr (header.verdict_whole short fits)
    · have fewer := begun_part.length_le
      have found := header.headerLength begun
      have parsed : parseHeaders (block ++ begun) block.length = some (body.length, tag) :=
        (parseHeaders_iff _ _ _ _ found).mpr ⟨digits, fields, short, by rwa [List.take_left]⟩
      have low := header.range.2
      refine .inl ?_
      simp only [verdict, found, parsed, List.length_append]
      rw [if_neg (by omega), if_neg, if_pos (by omega)]
      simp [frpHttpHeaderBytes, frpHttpInputBytes, frpHttpBodyBytes] at fits low ⊢
      omega
  · have unfound : EspBase.headerLength received = none := by
      cases found : EspBase.headerLength received with
      | none => rfl
      | some length =>
        obtain ⟨more, whole⟩ := part
        have later := headerLength_append received more length found
        rw [whole, header.headerLength body] at later
        have inside := headerLength_le received length found
        cases later
        exact absurd inside reached
    refine .inl ?_
    simp only [verdict, unfound]
    rw [if_neg (by omega)]

def Malformed (stream : List UInt8) : Prop :=
  (headerLength stream = none ∧ frpHttpHeaderBytes < stream.length) ∨
    ∃ length, headerLength stream = some length ∧ (frpHttpHeaderBytes < length ∨
      ¬∃ n tag digits fields, digits.length ≤ 3 ∧ HeaderBlock (stream.take length) digits n tag fields)

theorem Malformed.verdict_found {stream received : List UInt8} {length : Nat}
    (malformed : Malformed stream) (part : received <+: stream)
    (found : headerLength received = some length) : verdict received = .refuse := by
  obtain ⟨more, rfl⟩ := part
  have later := headerLength_append received more length found
  rcases malformed with ⟨none, -⟩ | ⟨same, found_later, bad⟩
  · cases later.symm.trans none
  · obtain rfl := Option.some.inj (later.symm.trans found_later)
    simp only [verdict, found]
    split
    · rfl
    next short =>
      have inside := headerLength_le received length found
      cases parsed : parseHeaders received length with
      | none => rfl
      | some announced =>
        obtain ⟨n, tag⟩ := announced
        obtain ⟨digits, fields, few, header⟩ := (parseHeaders_iff _ _ _ _ found).mp parsed
        have front : (received ++ more).take length = received.take length :=
          List.take_append_of_le_length inside
        rw [← front] at header
        exact absurd ⟨n, tag, digits, fields, few, header⟩ (bad.resolve_left (by omega))

theorem Malformed.verdict_prefix {stream received : List UInt8} (malformed : Malformed stream)
    (part : received <+: stream) : verdict received = .wait ∨ verdict received = .refuse := by
  cases found : headerLength received with
  | some length => exact .inr (malformed.verdict_found part found)
  | none =>
    simp only [verdict, found]
    split
    · exact .inr rfl
    · exact .inl rfl

theorem Malformed.verdict {stream : List UInt8} (malformed : Malformed stream) :
    verdict stream = .refuse := by
  cases found : headerLength stream with
  | some length => exact malformed.verdict_found List.prefix_rfl found
  | none =>
    rcases malformed with ⟨-, long⟩ | ⟨length, other, -⟩
    · simp only [EspBase.verdict, found]
      rw [if_pos long]
    · cases found.symm.trans other

structure PollCall where
  now : Nat
  answers : FrpPollAnswers
  handler : List UInt8 → Nat × List UInt8

def PollCall.label (p : PollCall) : ListenerLabel := .poll p.now p.answers p.handler

abbrev runPolls (polls : List PollCall) (l : FrpListener) : FrpListener :=
  run (listenerStep hmacSha256) (polls.map PollCall.label) l

def Received.chunk : Received → List UInt8
  | .bytes arrived => arrived
  | _ => []

def stream (polls : List PollCall) : List UInt8 := polls.flatMap fun p => p.answers.received.chunk

structure Delivers (since : Nat) (p : PollCall) : Prop where
  inTime : since ≤ p.now ∧ p.now < since + frpHttpTotalMs
  alone : p.answers.accepted ≠ .client
  stays : p.answers.received ≠ .failed ∧ p.answers.received ≠ .bytes []

def SocketEvent.reply : SocketEvent → Bool
  | .handled .. | .prepared _ => true
  | _ => false

def replies (log : List SocketEvent) : List SocketEvent := log.filter SocketEvent.reply

@[simp] theorem replies_concat (log : List SocketEvent) (event : SocketEvent) :
    replies (log ++ [event]) = replies log ++ (if event.reply then [event] else []) := by
  unfold replies
  cases reply : event.reply <;> simp [reply]

theorem closeClient_replies (l : FrpListener) : replies (closeClient l).log = replies l.log := by
  simp only [closeClient]
  split <;> simp [SocketEvent.reply]

theorem bindListener_replies (bound : Bool) (now : Nat) (l : FrpListener) :
    replies (bindListener bound now l).log = replies l.log := by
  unfold bindListener
  split_ifs <;> simp [SocketEvent.reply]

theorem sendResponse_replies (sent : SendResult) (now : Nat) (l : FrpListener) :
    replies (sendResponse sent now l).log = replies l.log := by
  unfold sendResponse
  split
  · rfl
  · cases sent with
    | failed => exact closeClient_replies l
    | waiting =>
      simp only
      split
      · exact closeClient_replies l
      · rfl
    | wrote count =>
      simp only
      split
      · rw [closeClient_replies]
        simp [SocketEvent.reply]
      · simp [SocketEvent.reply]

section Polls

variable {hmacSha256} {l : FrpListener} {c : Connection} {p : PollCall}

theorem sendResponse_connection (sound : Sound hmacSha256 l) (here : connection l.log = some c)
    (sent : SendResult) (now : Nat) :
    connection (sendResponse sent now l).log = none ∨
      ∃ bytes, connection (sendResponse sent now l).log = some { c with sent := bytes } := by
  have gone := closeClient_connection sound
  unfold sendResponse
  split
  · exact .inr ⟨c.sent, here⟩
  · cases sent with
    | failed => exact .inl gone
    | waiting =>
      simp only
      split
      · exact .inl gone
      · exact .inr ⟨c.sent, here⟩
    | wrote count =>
      simp only
      split
      · refine .inl ?_
        simp only [closeClient, (sound.serves c here).client, if_true, connection_concat, follow]
      · exact .inr ⟨_, by rw [connection_concat, here]; rfl⟩

-- In time, an open connection is served at once.
theorem poll_open (sound : Sound hmacSha256 l) (here : connection l.log = some c)
    (inTime : c.since ≤ p.now ∧ p.now < c.since + frpHttpTotalMs) :
    listenerStep hmacSha256 p.label l = sendResponse p.answers.sent p.now
      (if l.outputLength = 0 then (serveRequest hmacSha256 p.answers p.now p.handler l).2 else l) := by
  have serves := sound.serves c here
  have listening : l.listener = true := by
    rw [← sound.listener]
    exact sound.orderly.listens _ (by simp [here])
  have bound : bindListener p.answers.bound p.now l = l := by
    simp [bindListener, listening]
  have accepted : acceptClient p.answers.accepted p.now l = l := by
    simp [acceptClient, serves.client]
  have fresh : clientExpired p.now l = false := by
    simp [clientExpired, serves.since]
    omega
  simp only [PollCall.label, listenerStep, frpListenerPoll, bound, accepted, listening, serves.client,
    fresh, Bool.not_true, Bool.false_eq_true, if_false]
  split <;> rfl

theorem sendResponse_done (sound : Sound hmacSha256 l) (done : Done l) (sent : SendResult) (now : Nat) :
    Done (sendResponse sent now l) := by
  intro other there
  cases here : connection l.log with
  | none =>
    have idle := (sound.idle here).client
    have unsent : sendResponse sent now l = l := by simp [sendResponse, idle]
    rw [unsent, here] at there
    cases there
  | some c =>
    rcases sendResponse_connection sound here sent now with none | ⟨bytes, kept⟩
    · cases none.symm.trans there
    · cases kept.symm.trans there
      exact done c here

theorem acceptClient_other (accepted : AcceptResult) (now : Nat) (alone : accepted ≠ .client) :
    connection (acceptClient accepted now l).log = connection l.log ∧
      replies (acceptClient accepted now l).log = replies l.log := by
  unfold acceptClient
  split
  · exact ⟨rfl, rfl⟩
  · cases accepted with
    | client => exact absurd rfl alone
    | failed =>
      refine ⟨closeListener_connection, ?_⟩
      simp only [closeListener]
      split <;> simp [SocketEvent.reply]
    | _ => exact ⟨rfl, rfl⟩

theorem poll_done (sound : Sound hmacSha256 l) (done : Done l) (alone : p.answers.accepted ≠ .client) :
    Done (listenerStep hmacSha256 p.label l) ∧
      replies (listenerStep hmacSha256 p.label l).log = replies l.log := by
  have bound := bindListener_sound sound p.answers.bound p.now
  have bound_quiet := bindListener_replies p.answers.bound p.now l
  have bound_done : Done (bindListener p.answers.bound p.now l) := by
    rw [Done, bindListener_connection]
    exact done
  simp only [PollCall.label, listenerStep, frpListenerPoll]
  split
  · exact ⟨bound_done, bound_quiet⟩
  next listening =>
  have accepted := acceptClient_sound bound (by simpa using listening) p.answers.accepted p.now
  obtain ⟨same, accepted_quiet⟩ :=
    @acceptClient_other (bindListener p.answers.bound p.now l) p.answers.accepted p.now alone
  have quiet := accepted_quiet.trans bound_quiet
  have accepted_done : Done (acceptClient p.answers.accepted p.now
      (bindListener p.answers.bound p.now l)) := by
    rw [Done, same]
    exact bound_done
  generalize acceptClient p.answers.accepted p.now (bindListener p.answers.bound p.now l) = m at *
  split
  · exact ⟨accepted_done, quiet⟩
  next client =>
  split
  · refine ⟨?_, (closeClient_replies m).trans quiet⟩
    rw [Done, closeClient_connection accepted]
    intro c none
    cases none
  obtain ⟨c, here⟩ := accepted.opened (by simpa using client)
  obtain ⟨response, prepared⟩ := Option.ne_none_iff_exists'.mp (accepted_done c here)
  obtain ⟨nonempty, length, -⟩ := (accepted.serves c here).prepared response prepared
  rw [if_neg (by rw [length]; simpa using nonempty)]
  exact ⟨sendResponse_done accepted accepted_done _ _, (sendResponse_replies _ _ _).trans quiet⟩

theorem polls_done (polls : List PollCall) (sound : Sound hmacSha256 l) (settled : Settled l)
    (done : Done l) (alone : ∀ p ∈ polls, p.answers.accepted ≠ .client) :
    replies (runPolls hmacSha256 polls l).log = replies l.log := by
  induction polls generalizing l with
  | nil => rfl
  | cons p rest ih =>
    obtain ⟨after, quiet⟩ := poll_done sound done (alone p List.mem_cons_self)
    obtain ⟨still, settled⟩ := frpListenerPoll_sound sound settled p.answers p.now p.handler
    exact (ih still settled after fun q member => alone q (List.mem_cons_of_mem _ member)).trans quiet

variable (hmacSha256) in
def Replied (key : ManagementKey) (a : PsaAnswers) : Verdict → List SocketEvent → Prop
  | .wait, _ => False
  | .refuse, new => new = [.prepared (httpHead 400 0)]
  | .whole tag body, new =>
    if managementAuthenticate hmacSha256 a key tag body then
      ∃ rest, new = .handled key tag body :: rest ∧ ∀ event ∈ rest, ∃ response, event = .prepared response
    else new = [.prepared (httpHead 401 0)]

theorem prepareResponse_refusal (status : Nat) (refusal : status = 400 ∨ status = 401) :
    (prepareResponse status [] l).log = l.log ++ [.prepared (httpHead status 0)] := by
  have short : (httpHead status 0).length < frpHttpResponseOffset := by
    rcases refusal with rfl | rfl <;> decide
  simp only [prepareResponse, List.length_nil, List.append_nil]
  rw [if_neg]
  simp [frpHttpOutputBytes, frpHttpResponseOffset] at short ⊢
  omega

theorem prepareResponse_replies (status : Nat) (body : List UInt8) :
    ∃ rest, replies (prepareResponse status body l).log = replies l.log ++ rest ∧
      ∀ event ∈ rest, ∃ response, event = .prepared response := by
  simp only [prepareResponse]
  split
  · exact ⟨[], by rw [closeClient_replies, List.append_nil], by simp⟩
  · exact ⟨[.prepared (httpHead status body.length ++ body)], by simp [SocketEvent.reply], by simp⟩

theorem handlerResponse_done (client : l.client = true) (open_ : connection l.log ≠ none) (status : Nat)
    (body scratch : List UInt8) : Done (handlerResponse status body scratch l) := by
  have prepared (status : Nat) (body : List UInt8) (m : FrpListener) (still : m.client = true)
      (same : m.log = l.log) : Done (prepareResponse status body m) := by
    obtain ⟨c, here⟩ := Option.ne_none_iff_exists'.mp open_
    intro other there
    simp only [prepareResponse] at there
    split at there
    · simp [closeClient, still, follow] at there
    · simp only [same, connection_concat, here, follow, Option.some.injEq] at there
      subst there
      simp
  simp only [handlerResponse]
  split <;> exact prepared _ _ _ client rfl

theorem handlerResponse_replies (status : Nat) (body scratch : List UInt8) :
    ∃ rest, replies (handlerResponse status body scratch l).log = replies l.log ++ rest ∧
      ∀ event ∈ rest, ∃ response, event = .prepared response := by
  simp only [handlerResponse]
  split <;> exact prepareResponse_replies _ _

theorem serveRequest_waiting (serves : Serves c l) (room : c.received.length < frpHttpInputBytes)
    (idle : p.answers.received = .waiting) :
    serveRequest hmacSha256 p.answers p.now p.handler l = (none, l) := by
  have free : l.inputLength ≠ frpHttpInputBytes := by
    rw [serves.inputLength]
    omega
  simp [serveRequest, receiveRequest, idle, free]

theorem serveRequest_chunk (serves : Serves c l) (room : c.received.length < frpHttpInputBytes)
    (arrived : List UInt8) (some_ : arrived ≠ []) (here : p.answers.received = .bytes arrived)
    (taken : FrpListener)
    (same : taken = takeInput p.now (arrived.take (frpHttpInputBytes - c.received.length)) l)
    (d : Connection) (still : Serves d taken) :
    (serveRequest hmacSha256 p.answers p.now p.handler l).2 =
      match verdict d.received with
      | .wait => taken
      | .refuse => prepareResponse 400 [] taken
      | .whole tag body =>
        if managementAuthenticate hmacSha256 p.answers.psa l.key tag body then
          handlerResponse (p.handler body).1 (p.handler body).2 p.answers.scratch
            { taken with log := taken.log ++ [.handled l.key tag body] }
        else prepareResponse 401 [] taken := by
  have free : c.received.length ≠ frpHttpInputBytes := by omega
  have long : (arrived.take (frpHttpInputBytes - c.received.length)).length ≠ 0 := by
    have nonempty := List.length_pos_iff.mpr some_
    rw [List.length_take]
    omega
  have key : taken.key = l.key := by rw [same]; rfl
  have received : receiveRequest hmacSha256 p.answers.received p.now p.answers.psa l =
      inspectRequest hmacSha256 p.answers.psa taken := by
    simp only [receiveRequest, here, free, if_false, serves.inputLength, long, same]
  simp only [serveRequest, received, inspectRequest_verdict hmacSha256 taken d still, key]
  cases verdict d.received with
  | wait => rfl
  | refuse => rfl
  | whole tag body =>
    by_cases passed : managementAuthenticate hmacSha256 p.answers.psa l.key tag body = true
    · simp only [passed, if_true, key]
    · simp only [passed, if_false, Bool.false_eq_true]

theorem serveRequest_replies (sound : Sound hmacSha256 l) (settled : Settled l) (here : connection l.log = some c)
    (unprepared : c.prepared = none) (waiting : verdict c.received = .wait)
    (delivers : Delivers c.since p) :
    let m := (serveRequest hmacSha256 p.answers p.now p.handler l).2
    let received := c.received ++
      p.answers.received.chunk.take (frpHttpInputBytes - c.received.length)
    (verdict received = .wait → connection m.log = some { c with received := received } ∧
      m.key = l.key ∧ m.outputLength = 0 ∧ replies m.log = replies l.log) ∧
    (verdict received ≠ .wait → Sound hmacSha256 m ∧ Done m ∧ ∃ new, replies m.log = replies l.log ++ new ∧
      Replied hmacSha256 l.key p.answers.psa (verdict received) new) := by
  intro m received
  have serves := sound.serves c here
  have room := verdict_wait_length c.received waiting
  cases arrival : p.answers.received with
  | failed => exact absurd arrival delivers.stays.1
  | waiting =>
    have same : m = l := by
      simp only [m, serveRequest_waiting serves room arrival]
    have nothing : received = c.received := by simp [received, arrival, Received.chunk]
    rw [same, nothing]
    exact ⟨fun _ => ⟨here, rfl, (serves.unprepared unprepared).1, rfl⟩, fun other => absurd waiting other⟩
  | bytes arrived =>
    have some_ : arrived ≠ [] := fun none => delivers.stays.2 (by rw [arrival, none])
    have chunk : received = c.received ++ arrived.take (frpHttpInputBytes - c.received.length) := by
      simp [received, arrival, Received.chunk]
    obtain ⟨after, open_⟩ := takeInput_sound sound here unprepared p.now delivers.inTime
      (arrived.take (frpHttpInputBytes - c.received.length))
      (by rw [serves.inputLength, List.length_take]; omega)
    generalize taken_eq : takeInput p.now (arrived.take (frpHttpInputBytes - c.received.length)) l =
      taken at after open_
    rw [← chunk] at open_
    have served := @serveRequest_chunk hmacSha256 l c p serves room arrived some_ arrival taken
      taken_eq.symm _ (after.serves _ open_)
    have quiet : replies taken.log = replies l.log := by
      rw [← taken_eq]
      simp [takeInput, SocketEvent.reply]
    have key : taken.key = l.key := by rw [← taken_eq]; rfl
    simp only at served
    change m = _ at served
    constructor
    · intro wait
      rw [wait] at served
      simp only at served
      rw [served]
      have unread := (after.serves _ open_).unprepared unprepared
      exact ⟨open_, key, unread.1, quiet⟩
    · intro decided
      cases v : verdict received with
      | wait => exact absurd v decided
      | refuse =>
        rw [v] at served
        simp only at served
        obtain ⟨sound, done⟩ := prepareResponse_sound after open_ unprepared 400 []
        rw [served]
        refine ⟨sound, done, [.prepared (httpHead 400 0)], ?_, by rw [Replied]⟩
        rw [prepareResponse_refusal 400 (.inl rfl), replies_concat, quiet, SocketEvent.reply, if_pos rfl]
      | whole tag body =>
        rw [v] at served
        simp only at served
        have kept : Sound hmacSha256 m := (serveRequest_sound sound here settled unprepared p.answers
          p.now delivers.inTime p.handler).1
        refine ⟨kept, ?_⟩
        by_cases passed : managementAuthenticate hmacSha256 p.answers.psa l.key tag body = true
        · rw [if_pos passed] at served
          obtain ⟨rest, replied, responses⟩ := @handlerResponse_replies
            { taken with log := taken.log ++ [.handled l.key tag body] } (p.handler body).1
            (p.handler body).2 p.answers.scratch
          have done := @handlerResponse_done
            { taken with log := taken.log ++ [.handled l.key tag body] }
            (after.serves _ open_).client (by simp [open_, follow]) (p.handler body).1
            (p.handler body).2 p.answers.scratch
          rw [served]
          refine ⟨done, .handled l.key tag body :: rest, ?_, ?_⟩
          · rw [replied, replies_concat, quiet]
            simp [SocketEvent.reply]
          · rw [Replied, if_pos passed]
            exact ⟨rest, rfl, responses⟩
        · rw [if_neg passed] at served
          obtain ⟨-, done⟩ := prepareResponse_sound after open_ unprepared 401 []
          rw [served]
          refine ⟨done, [.prepared (httpHead 401 0)], ?_, by rw [Replied, if_neg passed]⟩
          rw [prepareResponse_refusal 401 (.inr rfl), replies_concat, quiet, SocketEvent.reply, if_pos rfl]

theorem polls_decided (polls : List PollCall) (v : Verdict) (decided : v ≠ .wait)
    (sound : Sound hmacSha256 l) (settled : Settled l) (here : connection l.log = some c)
    (unprepared : c.prepared = none) (waiting : verdict c.received = .wait)
    (delivers : ∀ p ∈ polls, Delivers c.since p)
    (part : ∀ received, received <+: c.received ++ stream polls →
      verdict received = .wait ∨ verdict received = v)
    (whole : verdict (c.received ++ stream polls) = v) :
    ∃ p ∈ polls, ∃ new, replies (runPolls hmacSha256 polls l).log = replies l.log ++ new ∧
      Replied hmacSha256 l.key p.answers.psa v new := by
  induction polls generalizing l c with
  | nil =>
    simp only [stream, List.flatMap_nil, List.append_nil] at whole
    exact absurd (whole.symm.trans waiting) decided
  | cons p rest ih =>
    have here_p := delivers p List.mem_cons_self
    have later := fun q member => delivers q (List.mem_cons_of_mem p member)
    have unread := ((sound.serves c here).unprepared unprepared).1
    have polled := poll_open sound here here_p.inTime
    rw [if_pos unread] at polled
    obtain ⟨waits, decides⟩ := serveRequest_replies sound settled here unprepared waiting here_p
    obtain ⟨after, still⟩ := frpListenerPoll_sound sound settled p.answers p.now p.handler
    change Sound hmacSha256 (listenerStep hmacSha256 p.label l) at after
    change Settled (listenerStep hmacSha256 p.label l) at still
    have joined : c.received ++ stream (p :: rest) =
        c.received ++ p.answers.received.chunk ++ stream rest := by
      simp [stream]
    rw [joined] at part whole
    have inside : c.received ++ p.answers.received.chunk.take (frpHttpInputBytes - c.received.length) <+:
        c.received ++ p.answers.received.chunk ++ stream rest := by
      rw [List.append_assoc, List.prefix_append_right_inj]
      exact (List.take_prefix _ _).trans (List.prefix_append _ _)
    rcases part _ inside with wait | now
    · have complete : p.answers.received.chunk.take (frpHttpInputBytes - c.received.length) =
          p.answers.received.chunk := by
        have short := verdict_wait_length _ wait
        rw [List.length_append, List.length_take] at short
        exact List.take_of_length_le (by omega)
      obtain ⟨open_, key, empty, quiet⟩ := waits wait
      generalize (serveRequest hmacSha256 p.answers p.now p.handler l).2 = m at *
      have idle : listenerStep hmacSha256 p.label l = m := by
        rw [polled]
        simp [sendResponse, empty]
      rw [idle] at after still
      rw [complete] at open_ wait
      obtain ⟨q, member, new, replied, answered⟩ := @ih m _ after still open_ unprepared wait later part
        whole
      refine ⟨q, List.mem_cons_of_mem p member, new, ?_, key ▸ answered⟩
      rw [runPolls, List.map_cons, run_cons, idle, replied, quiet]
    · obtain ⟨served, done, new, replied, answered⟩ := decides (now ▸ decided)
      rw [now] at answered
      refine ⟨p, List.mem_cons_self, new, ?_, answered⟩
      have finished := sendResponse_done served done p.answers.sent p.now
      rw [← polled] at finished
      have quiet := polls_done rest after still finished fun q member => (later q member).alone
      rw [runPolls] at quiet
      rw [runPolls, List.map_cons, run_cons, quiet, polled, sendResponse_replies, replied]

end Polls

structure OneClient (l : FrpListener) (first : PollCall) (rest : List PollCall) : Prop where
  idle : connection l.log = none
  listening : (bindListener first.answers.bound first.now l).listener = true
  accepted : first.answers.accepted = .client
  stays : first.answers.received ≠ .failed ∧ first.answers.received ≠ .bytes []
  rest : ∀ p ∈ rest, Delivers first.now p

def Decides (l : FrpListener) (polls : List PollCall) (v : Verdict) : Prop :=
  ∃ p ∈ polls, ∃ new, replies (runPolls hmacSha256 polls l).log = replies l.log ++ new ∧
    Replied hmacSha256 l.key p.answers.psa v new

-- The poll that accepts serves at once, like a poll that finds the client there.
def PollCall.joined (p : PollCall) : PollCall :=
  { p with answers := { p.answers with accepted := .waiting } }

theorem listenerStep_joined (l : FrpListener) (p : PollCall)
    (listening : (bindListener p.answers.bound p.now l).listener = true) (idle : l.client = false)
    (accepted : p.answers.accepted = .client) :
    listenerStep hmacSha256 p.label l = listenerStep hmacSha256 p.joined.label
      (acceptClient .client p.now (bindListener p.answers.bound p.now l)) := by
  have still : (bindListener p.answers.bound p.now l).client = false := by
    unfold bindListener
    split_ifs <;> exact idle
  generalize same : bindListener p.answers.bound p.now l = b at listening still
  have client : (acceptClient .client p.now b).client = true := by
    simp [acceptClient, still]
  have listens : (acceptClient .client p.now b).listener = true := by
    simp [acceptClient, still, listening]
  generalize joined : acceptClient .client p.now b = m at client listens
  have bound : bindListener p.joined.answers.bound p.joined.now m = m := by
    simp [bindListener, listens]
  have taken : acceptClient p.joined.answers.accepted p.joined.now m = m := by
    simp [acceptClient, client]
  simp only [PollCall.label, listenerStep, frpListenerPoll, same, listening, accepted, joined, bound,
    taken, listens, client]
  rfl

theorem oneClient_decides (l : FrpListener) (first : PollCall) (rest : List PollCall) (v : Verdict)
    (sound : Sound hmacSha256 l) (settled : Settled l) (one : OneClient l first rest)
    (decided : v ≠ .wait)
    (part : ∀ received, received <+: stream (first :: rest) →
      verdict received = .wait ∨ verdict received = v)
    (whole : verdict (stream (first :: rest)) = v) : Decides hmacSha256 l (first :: rest) v := by
  have blank := sound.idle one.idle
  have joined := listenerStep_joined hmacSha256 l first one.listening blank.client one.accepted
  have bound := bindListener_sound sound first.answers.bound first.now
  have bound_settled : Settled (bindListener first.answers.bound first.now l) := by
    rw [Settled, bindListener_connection]
    exact settled
  have after := acceptClient_sound bound one.listening .client first.now
  have still := acceptClient_settled bound_settled .client first.now
  have unconnected : connection (bindListener first.answers.bound first.now l).log = none := by
    rw [bindListener_connection, one.idle]
  have free := (bound.idle unconnected).client
  have open_ : connection (acceptClient .client first.now
      (bindListener first.answers.bound first.now l)).log = some (.opened first.now) := by
    simp [acceptClient, free, follow]
  have quiet : replies (acceptClient .client first.now
      (bindListener first.answers.bound first.now l)).log = replies l.log := by
    rw [← bindListener_replies first.answers.bound first.now l]
    simp [acceptClient, free, SocketEvent.reply]
  have key : (acceptClient .client first.now (bindListener first.answers.bound first.now l)).key =
      l.key := by
    rw [(acceptClient_keeps _ _ _).key, (bindListener_keeps _ _ _).key]
  have delivers : ∀ p ∈ first.joined :: rest, Delivers (Connection.opened first.now).since p := by
    simp only [List.mem_cons, forall_eq_or_imp]
    exact ⟨⟨⟨le_rfl, by simp [Connection.opened, PollCall.joined, frpHttpTotalMs]⟩,
      by simp [PollCall.joined], one.stays⟩, one.rest⟩
  have same : stream (first.joined :: rest) = stream (first :: rest) := rfl
  obtain ⟨p, member, new, replied, answered⟩ := polls_decided (first.joined :: rest) v decided after
    still open_ rfl rfl delivers (by rw [same]; exact part) (by rw [same]; exact whole)
  rw [quiet] at replied
  rw [key] at answered
  have ran : runPolls hmacSha256 (first :: rest) l = runPolls hmacSha256 (first.joined :: rest)
      (acceptClient .client first.now (bindListener first.answers.bound first.now l)) := by
    simp only [runPolls, List.map_cons, run_cons, joined]
  rw [Decides, ran]
  rcases List.mem_cons.mp member with rfl | later
  · exact ⟨first, List.mem_cons_self, new, replied, answered⟩
  · exact ⟨p, List.mem_cons_of_mem _ later, new, replied, answered⟩

/-- The handler is called at most once on a connection, and only with a signed body that follows a
well-formed header block; a stream that is such a block and such a body reaches it however it is cut,
and a bad tag or a malformed block is answered without it. -/
theorem streams_answered (labels : List ListenerLabel) :
    let l := runListener hmacSha256 labels
    (∀ before key tag body after, l.log = before ++ .handled key tag body :: after →
      ∃ c, connection before = some c ∧ c.handled = false ∧ Authentic hmacSha256 key tag body ∧
        ∃ block digits fields, c.received = block ++ body ∧ block.length ≤ 512 ∧
          headerLength c.received = some block.length ∧ digits.length ≤ 3 ∧
          HeaderBlock block digits body.length tag fields) ∧
    ∀ first rest, OneClient l first rest →
      (∀ block digits body tag fields, stream (first :: rest) = block ++ body → block.length ≤ 512 →
        digits.length ≤ 3 → HeaderBlock block digits body.length tag fields →
          Decides hmacSha256 l (first :: rest) (.whole tag body)) ∧
      (Malformed (stream (first :: rest)) → Decides hmacSha256 l (first :: rest) .refuse) := by
  intro l
  obtain ⟨sound, settled⟩ := run_sound hmacSha256 labels .initial (initial_sound hmacSha256).1
    (initial_sound hmacSha256).2
  refine ⟨?_, fun first rest one => ⟨?_, fun malformed => ?_⟩⟩
  · intro before key tag body after split
    obtain ⟨c, here, fresh, -, announces, authentic⟩ :=
      sound.orderly before (.handled key tag body) after split
    obtain ⟨length, short, found, parsed, rest⟩ := announces.header
    obtain ⟨digits, fields, few, header⟩ := (parseHeaders_iff _ _ _ _ found).mp parsed
    have inside := headerLength_le _ _ found
    refine ⟨c, here, fresh, authentic, c.received.take length, digits, fields, ?_, ?_, ?_, few, header⟩
    · rw [rest, List.take_append_drop]
    · simp [frpHttpHeaderBytes] at short ⊢
      omega
    · rw [found, List.length_take, Nat.min_eq_left inside]
  · intro block digits body tag fields same short few header
    refine oneClient_decides hmacSha256 l first rest _ sound settled one (by simp) ?_ ?_
    · rw [same]
      exact header.verdict_prefix few short
    · rw [same]
      exact header.verdict_whole few short
  · exact oneClient_decides hmacSha256 l first rest _ sound settled one (by simp)
      (fun received part => malformed.verdict_prefix part) malformed.verdict

def sampleKey : ManagementKey := Vector.replicate 32 0xaa

def sampleHmac (key : ManagementKey) (_ : List UInt8) : Digest := key

def sampleListening : List ListenerLabel :=
  [.configure (some
    { FrpConfig.zero with configured := true, localPort := 8080, managementKey := sampleKey })]

def sampleFields (digits : String) : List HeaderField :=
  [⟨bytesOf "Host", bytesOf "device"⟩, ⟨bytesOf "Content-Type", bytesOf "application/json"⟩,
    ⟨bytesOf "Content-Length", bytesOf digits⟩,
    ⟨bytesOf "X-ESP-Management-Tag", hexText sampleKey.toList⟩]

def sampleBlock (digits : String) : List UInt8 :=
  requestLine ++ headerText (sampleFields digits) ++ crlf

def sampleBody : List UInt8 := bytesOf "0123456789"

def pollAt (now : Nat) (accepted : AcceptResult) (chunk : List UInt8) : PollCall :=
  { now := now
    answers := { accepted := accepted, received := .bytes chunk }
    handler := fun _ => (200, []) }

theorem streams_answered_cut :
    Decides sampleHmac (runListener sampleHmac sampleListening)
      [pollAt 1000 .client ((sampleBlock "10").take 23),
        pollAt 1100 .waiting ((sampleBlock "10").drop 23 ++ sampleBody)]
      (.whole sampleKey.toList sampleBody) := by
  refine ((streams_answered sampleHmac sampleListening).2 _ _
    ⟨by decide +kernel, by decide +kernel, rfl, by decide +kernel, ?_⟩).1 (sampleBlock "10") (bytesOf "10")
    sampleBody sampleKey.toList (sampleFields "10") (by decide +kernel) (by decide +kernel) (by decide +kernel) ?_
  · simp only [List.mem_singleton, forall_eq]
    exact ⟨by decide, by decide, by decide +kernel⟩
  · exact ⟨rfl, by decide +kernel, ⟨bytesOf "device", by decide +kernel, by decide +kernel⟩, by decide +kernel,
      by decide +kernel, ⟨by decide +kernel, by decide +kernel, by decide +kernel⟩, by decide, by decide +kernel, by decide +kernel,
      by decide +kernel, by decide +kernel⟩

-- A length of four digits is refused, whatever it says.
theorem leading_zeros_refused :
    ¬∀ (hmacSha256 : ManagementKey → List UInt8 → Digest) (labels : List ListenerLabel)
        (first : PollCall) (rest : List PollCall),
      OneClient (runListener hmacSha256 labels) first rest →
      ∀ block digits body tag fields, stream (first :: rest) = block ++ body → block.length ≤ 512 →
        HeaderBlock block digits body.length tag fields →
          Decides hmacSha256 (runListener hmacSha256 labels) (first :: rest) (.whole tag body) := by
  intro claim
  have decides := claim sampleHmac sampleListening
    (pollAt 1000 .client (sampleBlock "0010" ++ sampleBody)) []
    ⟨by decide +kernel, by decide +kernel, rfl, by decide +kernel, nofun⟩ (sampleBlock "0010")
    (bytesOf "0010") sampleBody sampleKey.toList (sampleFields "0010") (by decide +kernel)
    (by decide +kernel)
    ⟨rfl, by decide +kernel, ⟨bytesOf "device", by decide +kernel, by decide +kernel⟩, by decide +kernel,
      by decide +kernel, ⟨by decide +kernel, by decide +kernel, by decide +kernel⟩, by decide, by decide +kernel, by decide +kernel,
      by decide +kernel, by decide +kernel⟩
  obtain ⟨p, -, new, replied, answered⟩ := decides
  have refused : replies (runPolls sampleHmac [pollAt 1000 .client (sampleBlock "0010" ++ sampleBody)]
      (runListener sampleHmac sampleListening)).log = [.prepared (httpHead 400 0)] := by decide +kernel
  have before : replies (runListener sampleHmac sampleListening).log = [] := by decide +kernel
  rw [refused, before, List.nil_append] at replied
  subst replied
  simp only [Replied] at answered
  split at answered
  · obtain ⟨rest, same, -⟩ := answered
    cases same
  · exact absurd answered (by decide)

end EspBase
