import EspBase.Network.ControlTask

set_option autoImplicit false

/-!
# One connection after the other

The log is read back: which connection it leaves open, what that connection
received, what was prepared for it and how much of it was sent.
-/

namespace EspBase

open Transition

structure Connection where
  since : Nat
  received : List UInt8
  handled : Bool
  prepared : Option (List UInt8)
  sent : List UInt8
deriving DecidableEq

def Connection.opened (now : Nat) : Connection :=
  { since := now, received := [], handled := false, prepared := none, sent := [] }

def follow : Option Connection → SocketEvent → Option Connection
  | _, .accepted now _ _ => some (.opened now)
  | _, .closed => none
  | some c, .received _ bytes => some { c with received := c.received ++ bytes }
  | some c, .handled .. => some { c with handled := true }
  | some c, .prepared response => some { c with prepared := some response }
  | some c, .sent _ bytes => some { c with sent := c.sent ++ bytes }
  | c, _ => c

@[simp] theorem follow_listening (open_ : Option Connection) : follow open_ .listening = open_ := by
  cases open_ <;> rfl

@[simp] theorem follow_unlistened (open_ : Option Connection) : follow open_ .unlistened = open_ := by
  cases open_ <;> rfl

def connection (log : List SocketEvent) : Option Connection := log.foldl follow none

def listened : Bool → SocketEvent → Bool
  | _, .listening => true
  | _, .unlistened => false
  | before, _ => before

def listens (log : List SocketEvent) : Bool := log.foldl listened false

@[simp] theorem connection_concat (log : List SocketEvent) (event : SocketEvent) :
    connection (log ++ [event]) = follow (connection log) event := by
  simp [connection]

@[simp] theorem listens_concat (log : List SocketEvent) (event : SocketEvent) :
    listens (log ++ [event]) = listened (listens log) event := by
  simp [listens]

def Connection.InTime (c : Connection) (now : Nat) : Prop := c.since ≤ now ∧ now < c.since + frpHttpTotalMs

structure Announces (received tag body : List UInt8) : Prop where
  header : ∃ length ≤ frpHttpHeaderBytes, headerLength received = some length ∧
    parseHeaders received length = some (body.length, tag) ∧ body = received.drop length

variable (hmacSha256 : ManagementKey → List UInt8 → Digest)

def Proper (open_ : Option Connection) (listening : Bool) : SocketEvent → Prop
  | .listening => listening = false
  | .unlistened => listening = true ∧ open_ = none
  | .accepted _ input output =>
    listening = true ∧ open_ = none ∧ input = .wiped ∧ output = .wiped
  | .received now _ => ∃ c ∈ open_, c.InTime now ∧ c.prepared = none
  | .handled key tag body => ∃ c ∈ open_, c.handled = false ∧ c.prepared = none ∧
      Announces c.received tag body ∧ Authentic hmacSha256 key tag body
  | .prepared _ => ∃ c ∈ open_, c.prepared = none
  | .sent now bytes => ∃ c ∈ open_, c.InTime now ∧ ∃ response ∈ c.prepared, c.sent ++ bytes <+: response
  | .closed => open_.isSome = true

def Orderly (log : List SocketEvent) : Prop :=
  ∀ before event after, log = before ++ event :: after →
    Proper hmacSha256 (connection before) (listens before) event

theorem Orderly.concat {log : List SocketEvent} {event : SocketEvent}
    (orderly : Orderly hmacSha256 log)
    (proper : Proper hmacSha256 (connection log) (listens log) event) :
    Orderly hmacSha256 (log ++ [event]) := by
  intro before other after split
  rcases List.eq_nil_or_concat after with rfl | ⟨earlier, last, rfl⟩
  · obtain ⟨rfl, rfl⟩ := List.append_singleton_inj.mp split
    exact proper
  · rw [List.concat_eq_append, ← List.cons_append, ← List.append_assoc] at split
    obtain ⟨rfl, -⟩ := List.append_singleton_inj.mp split
    exact orderly before other earlier rfl

theorem Orderly.listens {log : List SocketEvent} (orderly : Orderly hmacSha256 log)
    (open_ : connection log ≠ none) : listens log = true := by
  induction log using List.reverseRecOn with
  | nil => exact absurd rfl open_
  | append_singleton log event ih =>
    have proper := orderly log event [] rfl
    have before : connection log ≠ none → EspBase.listens log = true := by
      refine ih fun first other after split => orderly first other (after ++ [event]) ?_
      rw [split, List.append_assoc, List.cons_append]
    rw [connection_concat] at open_
    rw [listens_concat]
    cases event with
    | listening => rfl
    | unlistened => simp [proper.2] at open_
    | accepted => exact proper.1
    | closed => simp [follow] at open_
    | _ =>
      refine before fun none => open_ ?_
      rw [none]
      rfl

structure Blank (l : FrpListener) : Prop where
  client : l.client = false
  input : l.input = .wiped
  inputLength : l.inputLength = 0
  output : l.output = .wiped
  outputLength : l.outputLength = 0
  outputSent : l.outputSent = 0

structure Serves (c : Connection) (l : FrpListener) : Prop where
  client : l.client = true
  since : l.clientSinceMs = c.since
  input : l.input.Holds c.received
  inputLength : l.inputLength = c.received.length
  unprepared : c.prepared = none → l.outputLength = 0 ∧ l.outputSent = 0 ∧ c.sent = []
  prepared : ∀ response ∈ c.prepared, response ≠ [] ∧ l.outputLength = response.length ∧
    l.output.bytes.take response.length = response ∧ l.outputSent ≤ response.length ∧
    c.sent = response.take l.outputSent

structure Sound (l : FrpListener) : Prop where
  orderly : Orderly hmacSha256 l.log
  listener : listens l.log = l.listener
  idle : connection l.log = none → Blank l
  serves : ∀ c, connection l.log = some c → Serves c l

-- A request that was handled has its response, or has lost its connection.
def Settled (l : FrpListener) : Prop :=
  ∀ c, connection l.log = some c → c.handled = true → c.prepared ≠ none

def Done (l : FrpListener) : Prop := ∀ c, connection l.log = some c → c.prepared ≠ none

theorem Done.settled {l : FrpListener} (done : Done l) : Settled l := fun c here _ => done c here

section Steps

variable {hmacSha256} {l : FrpListener} {c : Connection}

theorem Sound.client (sound : Sound hmacSha256 l) : (connection l.log).isSome = l.client := by
  cases here : connection l.log with
  | none => exact (sound.idle here).client.symm
  | some c => exact (sound.serves c here).client.symm

theorem Sound.opened (sound : Sound hmacSha256 l) (client : l.client = true) :
    ∃ c, connection l.log = some c := by
  rw [← Option.isSome_iff_exists, sound.client, client]

theorem Sound.unopened (sound : Sound hmacSha256 l) (idle : l.client = false) :
    connection l.log = none := by
  rw [← Option.not_isSome_iff_eq_none, sound.client, idle]
  decide

theorem closeClient_connection (sound : Sound hmacSha256 l) : connection (closeClient l).log = none := by
  unfold closeClient
  cases client : l.client with
  | true => simp [follow]
  | false => simpa using sound.unopened client

theorem closeClient_sound (sound : Sound hmacSha256 l) : Sound hmacSha256 (closeClient l) := by
  have gone := closeClient_connection sound
  constructor
  · unfold closeClient
    cases client : l.client with
    | true => exact sound.orderly.concat _ (by simp [Proper, sound.client, client])
    | false => exact sound.orderly
  · unfold closeClient
    cases l.client with
    | true => simpa [listened] using sound.listener
    | false => exact sound.listener
  · exact fun _ => ⟨rfl, rfl, rfl, rfl, rfl, rfl⟩
  · rw [gone]
    exact nofun

def FrpListener.service (l : FrpListener) :
    Bool × Nat × Buffer frpHttpInputBytes × Nat × Buffer frpHttpOutputBytes × Nat × Nat :=
  (l.client, l.clientSinceMs, l.input, l.inputLength, l.output, l.outputLength, l.outputSent)

theorem Sound.retained (sound : Sound hmacSha256 l) {m : FrpListener}
    (orderly : Orderly hmacSha256 m.log) (listener : listens m.log = m.listener)
    (open_ : connection m.log = connection l.log) (same : m.service = l.service) :
    Sound hmacSha256 m := by
  simp only [FrpListener.service, Prod.mk.injEq] at same
  obtain ⟨client, since, input, inputLength, output, outputLength, outputSent⟩ := same
  refine ⟨orderly, listener, fun idle => ?_, fun c here => ?_⟩
  · have blank := sound.idle (open_ ▸ idle)
    constructor <;> simp only [client, input, inputLength, output, outputLength, outputSent]
    exacts [blank.client, blank.input, blank.inputLength, blank.output, blank.outputLength,
      blank.outputSent]
  · have serves := sound.serves c (open_ ▸ here)
    constructor <;> simp only [client, since, input, inputLength, output, outputLength, outputSent]
    exacts [serves.client, serves.since, serves.input, serves.inputLength, serves.unprepared,
      serves.prepared]

theorem closeListener_connection : connection (closeListener l).log = connection l.log := by
  unfold closeListener
  cases l.listener <;> simp

theorem closeListener_sound (sound : Sound hmacSha256 l) (gone : connection l.log = none) :
    Sound hmacSha256 (closeListener l) := by
  refine sound.retained ?_ ?_ closeListener_connection rfl
  · unfold closeListener
    cases listening : l.listener with
    | true => exact sound.orderly.concat _ ⟨sound.listener.trans listening, gone⟩
    | false => exact sound.orderly
  · unfold closeListener
    cases listening : l.listener with
    | true => simp [listened]
    | false => exact sound.listener.trans listening

theorem bindListener_connection (bound : Bool) (now : Nat) :
    connection (bindListener bound now l).log = connection l.log := by
  unfold bindListener
  split_ifs <;> simp

theorem bindListener_sound (sound : Sound hmacSha256 l) (bound : Bool) (now : Nat) :
    Sound hmacSha256 (bindListener bound now l) := by
  have open_ := @bindListener_connection l bound now
  revert open_
  unfold bindListener
  split
  · exact fun _ => sound
  next idle =>
    simp only [Bool.or_eq_true, Bool.not_eq_true', not_or, Bool.not_eq_true] at idle
    obtain ⟨⟨-, deaf⟩, -⟩ := idle
    split
    · intro open_
      exact sound.retained (sound.orderly.concat _ (sound.listener.trans deaf)) (by simp [listened])
        open_ rfl
    · intro open_
      exact sound.retained sound.orderly sound.listener open_ rfl

theorem acceptClient_sound (sound : Sound hmacSha256 l) (listening : l.listener = true)
    (accepted : AcceptResult) (now : Nat) : Sound hmacSha256 (acceptClient accepted now l) := by
  unfold acceptClient
  split
  · exact sound
  next idle =>
    have gone := sound.unopened (Bool.not_eq_true _ ▸ idle)
    have blank := sound.idle gone
    cases accepted with
    | client =>
      constructor
      · exact sound.orderly.concat _ ⟨sound.listener.trans listening, gone, blank.input, blank.output⟩
      · simpa [listened] using sound.listener
      · simp [follow]
      · simp only [connection_concat, follow, Option.some.injEq, forall_eq']
        exact ⟨rfl, rfl, by simpa [blank.input, Connection.opened] using Buffer.holds_wiped,
          blank.inputLength, fun _ => ⟨blank.outputLength, blank.outputSent, rfl⟩, nofun⟩
    | failed =>
      have deaf := closeListener_sound sound gone
      exact deaf.retained deaf.orderly deaf.listener rfl rfl
    | _ => exact sound

theorem acceptClient_settled (settled : Settled l)
    (accepted : AcceptResult) (now : Nat) : Settled (acceptClient accepted now l) := by
  unfold acceptClient
  split
  · exact settled
  · cases accepted with
    | client =>
      intro c here
      simp only [connection_concat, follow, Option.some.injEq] at here
      subst here
      simp [Connection.opened]
    | failed =>
      rw [Settled]
      simp only [closeListener_connection]
      exact settled
    | _ => exact settled

theorem httpHead_length_pos (status length : Nat) : httpHead status length ≠ [] := by
  simp [httpHead, bytesOf_ascii]

-- While nothing is prepared the output may hold anything.
theorem Sound.scribbled (sound : Sound hmacSha256 l) (here : connection l.log = some c)
    (unprepared : c.prepared = none) (output : Buffer frpHttpOutputBytes) :
    Sound hmacSha256 { l with output := output } := by
  refine ⟨sound.orderly, sound.listener, fun idle => ?_, fun other there => ?_⟩
  · exact absurd (here.symm.trans idle) (by simp)
  · obtain rfl := Option.some.inj (here.symm.trans there)
    have serves := sound.serves c here
    refine ⟨serves.client, serves.since, serves.input, serves.inputLength, serves.unprepared, ?_⟩
    rw [unprepared]
    exact nofun

theorem prepareResponse_sound (sound : Sound hmacSha256 l) (here : connection l.log = some c)
    (unprepared : c.prepared = none) (status : Nat) (body : List UInt8) :
    Sound hmacSha256 (prepareResponse status body l) ∧ Done (prepareResponse status body l) := by
  have serves := sound.serves c here
  obtain ⟨-, unsent, silent⟩ := serves.unprepared unprepared
  simp only [prepareResponse]
  split
  · have scribbled := sound.scribbled here unprepared
      (l.output.write 0 ((httpHead status body.length).take (frpHttpResponseOffset - 1) ++ [0]))
    refine ⟨closeClient_sound scribbled, ?_⟩
    intro other there
    rw [closeClient_connection scribbled] at there
    cases there
  next fits =>
    simp only [not_or, Nat.not_le] at fits
    refine ⟨⟨?_, ?_, ?_, ?_⟩, ?_⟩
    · exact sound.orderly.concat _ ⟨c, here, unprepared⟩
    · simpa [listened] using sound.listener
    · simp [here, follow]
    · simp only [connection_concat, here, follow, Option.some.injEq, forall_eq']
      refine ⟨serves.client, serves.since, serves.input, serves.inputLength, by simp, ?_⟩
      simp only [Option.mem_def, Option.some.injEq, forall_eq']
      refine ⟨?_, ?_, ?_, ?_, ?_⟩
      · simp [httpHead_length_pos]
      · simp
      · have whole : (httpHead status body.length).take (frpHttpResponseOffset - 1) =
            httpHead status body.length := List.take_of_length_le (by omega)
        rw [List.length_append, Buffer.write_take _ (by omega), whole,
          Buffer.write_front _ (by simp [frpHttpOutputBytes] at fits ⊢; omega) (by simp), List.take_left]
      · simp [unsent]
      · simp [unsent, silent]
    · intro other there
      simp only [connection_concat, here, follow, Option.some.injEq] at there
      subst there
      simp

theorem handlerResponse_sound (sound : Sound hmacSha256 l) (here : connection l.log = some c)
    (unprepared : c.prepared = none) (status : Nat) (body scratch : List UInt8) :
    Sound hmacSha256 (handlerResponse status body scratch l) ∧
      Done (handlerResponse status body scratch l) := by
  have scribbled := sound.scribbled here unprepared
    (l.output.write frpHttpResponseOffset (body ++ scratch))
  simp only [handlerResponse]
  split <;> exact prepareResponse_sound scribbled here unprepared _ _

theorem takeInput_sound (sound : Sound hmacSha256 l) (here : connection l.log = some c)
    (unprepared : c.prepared = none) (now : Nat) (inTime : c.InTime now) (bytes : List UInt8)
    (room : l.inputLength + bytes.length ≤ frpHttpInputBytes) :
    Sound hmacSha256 (takeInput now bytes l) ∧
      connection (takeInput now bytes l).log = some { c with received := c.received ++ bytes } := by
  have serves := sound.serves c here
  have open_ : connection (takeInput now bytes l).log =
      some { c with received := c.received ++ bytes } := by
    simp [takeInput, here, follow]
  refine ⟨⟨?_, ?_, ?_, ?_⟩, open_⟩
  · exact sound.orderly.concat _ ⟨c, here, inTime, unprepared⟩
  · simpa [takeInput, listened] using sound.listener
  · simp [open_]
  · simp only [open_, Option.some.injEq, forall_eq']
    refine ⟨serves.client, serves.since, ?_, ?_, serves.unprepared, serves.prepared⟩
    · rw [takeInput, serves.inputLength]
      exact serves.input.write bytes (serves.inputLength ▸ room)
    · simp [takeInput, serves.inputLength]

theorem Serves.received (serves : Serves c l) : l.received = c.received := by
  rw [FrpListener.received, serves.inputLength]
  exact serves.input.take

theorem inspectRequest_sound (sound : Sound hmacSha256 l) (here : connection l.log = some c)
    (settled : Settled l) (unprepared : c.prepared = none) (a : PsaAnswers) :
    Sound hmacSha256 (inspectRequest hmacSha256 a l).2 ∧
      Settled (inspectRequest hmacSha256 a l).2 ∧
      ∀ request ∈ (inspectRequest hmacSha256 a l).1, (inspectRequest hmacSha256 a l).2 = l ∧
        Announces c.received request.tag request.body ∧
        Authentic hmacSha256 l.key request.tag request.body := by
  have refused (status : Nat) := prepareResponse_sound sound here unprepared status []
  have serves := sound.serves c here
  unfold inspectRequest
  rw [serves.received, serves.inputLength]
  split
  · split
    · exact ⟨(refused 400).1, (refused 400).2.settled, nofun⟩
    · exact ⟨sound, settled, nofun⟩
  next length found =>
  split
  · exact ⟨(refused 400).1, (refused 400).2.settled, nofun⟩
  next short =>
  split
  · exact ⟨(refused 400).1, (refused 400).2.settled, nofun⟩
  next bodyLength tag parsed =>
  split
  · exact ⟨(refused 400).1, (refused 400).2.settled, nofun⟩
  next exact_ =>
  split
  · exact ⟨sound, settled, nofun⟩
  next whole =>
    simp only
    split
    next passed =>
      refine ⟨sound, settled, ?_⟩
      rintro request ⟨⟩
      refine ⟨rfl, ⟨length, by omega, found, ?_, rfl⟩,
        managementAuthenticate_authentic hmacSha256 a l.key tag _ passed⟩
      rw [parsed, List.length_drop, show c.received.length - length = bodyLength by omega]
    · exact ⟨(refused 401).1, (refused 401).2.settled, nofun⟩

theorem closeClient_settled (sound : Sound hmacSha256 l) : Settled (closeClient l) := by
  intro c here
  rw [closeClient_connection sound] at here
  cases here

theorem receiveRequest_sound (sound : Sound hmacSha256 l) (here : connection l.log = some c)
    (settled : Settled l) (unprepared : c.prepared = none) (received : Received) (now : Nat)
    (inTime : c.InTime now) (a : PsaAnswers) :
    Sound hmacSha256 (receiveRequest hmacSha256 received now a l).2 ∧
      Settled (receiveRequest hmacSha256 received now a l).2 ∧
      ∀ request ∈ (receiveRequest hmacSha256 received now a l).1,
        ∃ c, connection (receiveRequest hmacSha256 received now a l).2.log = some c ∧
          c.prepared = none ∧ Announces c.received request.tag request.body ∧
          Authentic hmacSha256 (receiveRequest hmacSha256 received now a l).2.key
            request.tag request.body := by
  unfold receiveRequest
  split
  · obtain ⟨after, still⟩ := prepareResponse_sound sound here unprepared 400 []
    exact ⟨after, still.settled, nofun⟩
  cases received with
  | waiting => exact ⟨sound, settled, nofun⟩
  | failed => exact ⟨closeClient_sound sound, closeClient_settled sound, nofun⟩
  | bytes bytes =>
    simp only
    split
    · exact ⟨closeClient_sound sound, closeClient_settled sound, nofun⟩
    next some_ =>
      have bound := (sound.serves c here).input.length_le
      rw [← (sound.serves c here).inputLength] at bound
      obtain ⟨taken, open_⟩ := takeInput_sound sound here unprepared now inTime
        (bytes.take (frpHttpInputBytes - l.inputLength)) (by simp; omega)
      have still : Settled (takeInput now (bytes.take (frpHttpInputBytes - l.inputLength)) l) := by
        intro other there
        rw [open_] at there
        cases there
        exact settled c here
      obtain ⟨after, answered, called⟩ := inspectRequest_sound taken open_ still unprepared a
      refine ⟨after, answered, fun request member => ?_⟩
      obtain ⟨same, announces, authentic⟩ := called request member
      rw [same]
      exact ⟨_, open_, unprepared, announces, authentic⟩

theorem serveRequest_sound (sound : Sound hmacSha256 l) (here : connection l.log = some c)
    (settled : Settled l) (unprepared : c.prepared = none) (a : FrpPollAnswers) (now : Nat)
    (inTime : c.InTime now) (handler : List UInt8 → Nat × List UInt8) :
    Sound hmacSha256 (serveRequest hmacSha256 a now handler l).2 ∧
      Settled (serveRequest hmacSha256 a now handler l).2 := by
  obtain ⟨after, still, called⟩ := receiveRequest_sound sound here settled unprepared a.received now
    inTime a.psa
  unfold serveRequest
  split
  next waiting same =>
    rw [same] at after still
    exact ⟨after, still⟩
  next request waiting same =>
    rw [same] at after still called
    obtain ⟨c, open_, unprepared, announces, authentic⟩ := called request rfl
    have fresh : c.handled = false := by
      rw [← Bool.not_eq_true]
      exact fun handled => still c open_ handled unprepared
    have logged : connection (waiting.log ++ [.handled waiting.key request.tag request.body]) =
        some { c with handled := true } := by
      simp only [connection_concat]
      rw [open_]
      rfl
    suffices sound : Sound hmacSha256
        { waiting with log := waiting.log ++ [.handled waiting.key request.tag request.body] } by
      obtain ⟨answered, done⟩ := handlerResponse_sound sound logged unprepared
        (handler request.body).1 (handler request.body).2 a.scratch
      exact ⟨answered, done.settled⟩
    refine ⟨?_, ?_, ?_, ?_⟩
    · exact after.orderly.concat _ ⟨c, open_, fresh, unprepared, announces, authentic⟩
    · simpa [listened] using after.listener
    · simp [logged]
    · simp only [logged, Option.some.injEq, forall_eq']
      have serves := after.serves c open_
      exact ⟨serves.client, serves.since, serves.input, serves.inputLength, serves.unprepared,
        serves.prepared⟩

theorem sendResponse_sound (sound : Sound hmacSha256 l) (settled : Settled l) (sent : SendResult)
    (now : Nat) (inTime : ∀ c, connection l.log = some c → c.InTime now) :
    Sound hmacSha256 (sendResponse sent now l) ∧ Settled (sendResponse sent now l) := by
  have ended := And.intro (closeClient_sound sound) (closeClient_settled sound)
  unfold sendResponse
  split
  · exact ⟨sound, settled⟩
  next busy =>
    simp only [Bool.or_eq_true, Bool.not_eq_true', beq_iff_eq, not_or, Bool.not_eq_false] at busy
    obtain ⟨client, long⟩ := busy
    obtain ⟨c, here⟩ := sound.opened client
    have serves := sound.serves c here
    cases prepared : c.prepared with
    | none => exact absurd (serves.unprepared prepared).1 long
    | some response =>
    obtain ⟨nonempty, length, stands, within, silent⟩ := serves.prepared response prepared
    cases sent with
    | failed => exact ended
    | waiting =>
      simp only
      split
      · exact ended
      · exact ⟨sound, settled⟩
    | wrote count =>
      have left : (l.output.bytes.take l.outputLength).drop l.outputSent = response.drop l.outputSent := by
        rw [length, stands]
      simp only [left]
      have logged : connection
          (l.log ++ [.sent now ((response.drop l.outputSent).take count)]) =
            some { c with sent := c.sent ++ (response.drop l.outputSent).take count } := by
        simp [here, follow]
      have proper : Proper hmacSha256 (connection l.log) (listens l.log)
          (.sent now ((response.drop l.outputSent).take count)) := by
        refine ⟨c, here, inTime c here, response, prepared, (response.drop l.outputSent).drop count, ?_⟩
        rw [silent, List.append_assoc, List.take_append_drop, List.take_append_drop]
      have wrote : Sound hmacSha256 { l with
          outputSent := l.outputSent + ((response.drop l.outputSent).take count).length
          log := l.log ++ [.sent now ((response.drop l.outputSent).take count)] } := by
        refine ⟨sound.orderly.concat _ proper, ?_, by simp [logged], ?_⟩
        · simpa [listened] using sound.listener
        · simp only [logged, Option.some.injEq, forall_eq']
          refine ⟨serves.client, serves.since, serves.input, serves.inputLength, ?_, ?_⟩
          · simp [prepared]
          · simp only [prepared, Option.mem_def, Option.some.injEq, forall_eq']
            refine ⟨nonempty, length, stands, ?_, ?_⟩
            · simp
              omega
            · rw [List.take_add, silent, List.length_take, ← List.take_eq_take_min]
      split
      · exact ⟨closeClient_sound wrote, closeClient_settled wrote⟩
      · refine ⟨wrote, ?_⟩
        intro other there
        simp only [logged, Option.some.injEq] at there
        subst there
        simp [prepared]

variable (hmacSha256) in
theorem serveRequest_since (a : FrpPollAnswers) (now : Nat) (handler : List UInt8 → Nat × List UInt8)
    (l : FrpListener) :
    (serveRequest hmacSha256 a now handler l).2.clientSinceMs = l.clientSinceMs := by
  have prepared (status : Nat) (body : List UInt8) (l : FrpListener) :
      (prepareResponse status body l).clientSinceMs = l.clientSinceMs := by
    simp only [prepareResponse]
    split <;> rfl
  have inspected (l : FrpListener) :
      (inspectRequest hmacSha256 a.psa l).2.clientSinceMs = l.clientSinceMs := by
    simp only [inspectRequest]
    repeat' split
    all_goals simp [prepared]
  have received :
      (receiveRequest hmacSha256 a.received now a.psa l).2.clientSinceMs = l.clientSinceMs := by
    unfold receiveRequest
    split
    · exact prepared 400 [] l
    cases a.received with
    | waiting => rfl
    | failed => rfl
    | bytes bytes =>
      simp only
      split
      · rfl
      · exact inspected _
  unfold serveRequest
  split
  next waiting same => simpa [same] using received
  next request waiting same =>
    simp only [same] at received
    simp only [handlerResponse]
    split <;> rw [prepared, received]

theorem frpListenerPoll_sound (sound : Sound hmacSha256 l) (settled : Settled l) (a : FrpPollAnswers)
    (now : Nat) (handler : List UInt8 → Nat × List UInt8) :
    Sound hmacSha256 (frpListenerPoll hmacSha256 a now handler l).2 ∧
      Settled (frpListenerPoll hmacSha256 a now handler l).2 := by
  have bound := bindListener_sound sound a.bound now
  have bound_settled : Settled (bindListener a.bound now l) := by
    rw [Settled, bindListener_connection]
    exact settled
  simp only [frpListenerPoll]
  split
  · exact ⟨bound, bound_settled⟩
  next listening =>
  have accepted := acceptClient_sound bound (by simpa using listening) a.accepted now
  have accepted_settled := acceptClient_settled bound_settled a.accepted now
  generalize acceptClient a.accepted now (bindListener a.bound now l) = m at accepted accepted_settled
  split
  · exact ⟨accepted, accepted_settled⟩
  next client =>
  split
  · exact ⟨closeClient_sound accepted, closeClient_settled accepted⟩
  next fresh =>
  obtain ⟨c, here⟩ := accepted.opened (by simpa using client)
  have serves := accepted.serves c here
  have inTime : c.InTime now := by
    simp only [clientExpired, serves.since, Bool.or_eq_true, decide_eq_true_eq, not_or] at fresh
    exact ⟨by omega, by omega⟩
  split
  next empty =>
    have unprepared : c.prepared = none := by
      cases prepared : c.prepared with
      | none => rfl
      | some response =>
        obtain ⟨nonempty, length, -⟩ := serves.prepared response prepared
        exact absurd (length.symm.trans empty) (by simpa using nonempty)
    obtain ⟨served, still⟩ := serveRequest_sound accepted here accepted_settled unprepared a now inTime
      handler
    refine sendResponse_sound served still a.sent now fun other there => ?_
    have since := (served.serves other there).since
    rw [serveRequest_since, serves.since] at since
    exact ⟨since ▸ inTime.1, since ▸ inTime.2⟩
  · refine sendResponse_sound accepted accepted_settled a.sent now fun other there => ?_
    obtain rfl := Option.some.inj (here.symm.trans there)
    exact inTime

theorem frpListenerConfigure_sound (sound : Sound hmacSha256 l) (settled : Settled l)
    (config : Option FrpConfig) :
    Sound hmacSha256 (frpListenerConfigure config l) ∧ Settled (frpListenerConfigure config l) := by
  have closed := closeListener_sound (closeClient_sound sound) (closeClient_connection sound)
  have unsettled : Settled (closeListener (closeClient l)) := by
    intro c here
    rw [closeListener_connection, closeClient_connection sound] at here
    cases here
  unfold frpListenerConfigure
  split
  · split
    · exact ⟨sound, settled⟩
    · exact ⟨closed.retained closed.orderly closed.listener rfl rfl, unsettled⟩
  · split
    · exact ⟨sound, settled⟩
    · exact ⟨closed.retained closed.orderly closed.listener rfl rfl, unsettled⟩

end Steps

inductive ListenerLabel where
  | configure (config : Option FrpConfig)
  | poll (now : Nat) (a : FrpPollAnswers) (handler : List UInt8 → Nat × List UInt8)

def listenerStep : ListenerLabel → FrpListener → FrpListener
  | .configure config, l => frpListenerConfigure config l
  | .poll now a handler, l => (frpListenerPoll hmacSha256 a now handler l).2

abbrev runListener (labels : List ListenerLabel) : FrpListener :=
  run (listenerStep hmacSha256) labels .initial

theorem run_sound (labels : List ListenerLabel) (l : FrpListener) (sound : Sound hmacSha256 l)
    (settled : Settled l) :
    Sound hmacSha256 (run (listenerStep hmacSha256) labels l) ∧
      Settled (run (listenerStep hmacSha256) labels l) := by
  refine @run_invariant _ _ _ (fun l => Sound hmacSha256 l ∧ Settled l) ?_ labels l ⟨sound, settled⟩
  rintro label l ⟨sound, settled⟩
  cases label with
  | configure config => exact frpListenerConfigure_sound sound settled config
  | poll now a handler => exact frpListenerPoll_sound sound settled a now handler

theorem initial_sound : Sound hmacSha256 .initial ∧ Settled .initial := by
  refine ⟨⟨?_, rfl, fun _ => ⟨rfl, rfl, rfl, rfl, rfl, rfl⟩, nofun⟩, nofun⟩
  intro before event after split
  simp [FrpListener.initial] at split

theorem run_logged (labels : List ListenerLabel) (l : FrpListener) (closed : l.Closed) :
    l.log <+: (run (listenerStep hmacSha256) labels l).log := by
  induction labels generalizing l with
  | nil => exact List.prefix_rfl
  | cons label rest ih =>
    cases label with
    | configure config =>
      exact (frpListenerConfigure_logged config l).trans
        (ih _ (frpListenerConfigure_listening config l closed))
    | poll now a handler =>
      obtain ⟨keeps, -⟩ := frpListenerPoll_spec hmacSha256 a now handler l closed
      exact keeps.logged.trans (ih _ (keeps.closed closed))

theorem run_closed (labels : List ListenerLabel) : (runListener hmacSha256 labels).Closed := by
  refine @run_invariant _ _ _ FrpListener.Closed ?_ labels _ nofun
  intro label l closed
  cases label with
  | configure config => exact frpListenerConfigure_listening config l closed
  | poll now a handler => exact (frpListenerPoll_spec hmacSha256 a now handler l closed).1.closed closed

theorem frpListenerConfigure_changes (config : Option FrpConfig) (l : FrpListener)
    (changes : frpListenerConfigure config l ≠ l) :
    (frpListenerConfigure config l).client = false ∧ (frpListenerConfigure config l).listener = false := by
  revert changes
  unfold frpListenerConfigure
  split <;> split <;> intro changes
  · exact absurd rfl changes
  · exact ⟨rfl, rfl⟩
  · exact absurd rfl changes
  · exact ⟨rfl, rfl⟩

theorem configureFrp_listener (destroyed : EfrpResult) (t : ControlTask) :
    ∃ labels, (configureFrp destroyed t).listener = run (listenerStep hmacSha256) labels t.listener := by
  unfold configureFrp
  split
  · exact ⟨[], rfl⟩
  · simp only
    split
    · exact ⟨[.configure none, .configure (some t.control.config.frp)], rfl⟩
    · exact ⟨[.configure none], rfl⟩

theorem runTask_listener (build : Build) (net : NetworkBuild) (b : Boot) (labels : List TaskLabel) :
    ∃ calls, (runTask build net b labels).listener = runListener net.hmacSha256 calls := by
  refine @run_invariant _ _ _
    (fun t : ControlTask => ∃ calls, t.listener = runListener net.hmacSha256 calls) ?_ labels b.task
    ⟨[], rfl⟩
  rintro label t ⟨calls, same⟩
  have kept {u : ControlTask} (kept : u.listener = t.listener) :
      ∃ calls, u.listener = runListener net.hmacSha256 calls := ⟨calls, kept.trans same⟩
  have more {u : ControlTask} (new : List ListenerLabel)
      (taken : u.listener = run (listenerStep net.hmacSha256) new t.listener) :
      ∃ calls, u.listener = runListener net.hmacSha256 calls :=
    ⟨calls ++ new, by rw [taken, same, runListener, runListener, run_append]⟩
  unfold taskStep
  split
  · exact kept rfl
  unfold taskAct
  split
  next label => split <;> exact kept rfl
  next => exact kept rfl
  next => exact kept rfl
  next => exact kept rfl
  next =>
    split
    · exact kept rfl
    · refine kept ?_
      unfold configureMqtt
      split <;> rfl
  next => exact kept rfl
  next =>
    refine kept ?_
    simp only [handleMqttEvent]
    split <;> rfl
  next => exact kept rfl
  next destroyed here =>
    obtain ⟨new, taken⟩ := configureFrp_listener net.hmacSha256 destroyed t
    exact more new taken
  next a status here =>
    refine more [.poll t.now a fun _ =>
      ((handleFrpStatus build status frpResponseBytes t.control t.frpStatusSeen).http,
        (handleFrpStatus build status frpResponseBytes t.control t.frpStatusSeen).response)] ?_
    simp only [pollFrpListener, run_cons, run_nil, listenerStep]
    split
    next polled => rw [polled]
    next polled => rw [polled]
  next => exact kept rfl
  next => exact kept rfl
  next => exact kept rfl
  next => exact kept rfl

/-- In every run the events of the log are in order: a connection is accepted when none is open and
the buffers are zero, it is read and written within two seconds, its handler is given its own bytes,
and it is sent a prefix of its own response. When a call of `configure` changes the endpoint, the next
event of any kind is the opening of a new listener. -/
theorem connections_apart (labels : List ListenerLabel) :
    Orderly hmacSha256 (runListener hmacSha256 labels).log ∧
    ∀ config, let l := runListener hmacSha256 labels
      let m := frpListenerConfigure config l
      m.port ≠ l.port ∨ m.key ≠ l.key ∨ m.configured ≠ l.configured →
      ∀ later, ∃ new, (run (listenerStep hmacSha256) later m).log = m.log ++ new ∧
        ∀ event ∈ new.head?, event = .listening := by
  obtain ⟨sound, settled⟩ := run_sound hmacSha256 labels .initial (initial_sound hmacSha256).1
    (initial_sound hmacSha256).2
  refine ⟨sound.orderly, fun config => ?_⟩
  intro l m changes later
  obtain ⟨idle, deaf⟩ := frpListenerConfigure_changes config l (by
    intro same
    simp [m, same] at changes)
  obtain ⟨configured, unsettled⟩ := frpListenerConfigure_sound sound settled config
  obtain ⟨after, -⟩ := run_sound hmacSha256 later m configured unsettled
  obtain ⟨new, grown⟩ := run_logged hmacSha256 later m
    (frpListenerConfigure_listening config l (run_closed hmacSha256 labels))
  refine ⟨new, grown.symm, ?_⟩
  cases new with
  | nil => simp
  | cons event rest =>
    have proper := after.orderly m.log event rest grown.symm
    rw [configured.unopened idle, configured.listener, deaf] at proper
    simp only [List.head?_cons, Option.mem_def, Option.some.injEq, forall_eq']
    cases event with
    | listening => rfl
    | _ => simp [Proper] at proper

end EspBase
