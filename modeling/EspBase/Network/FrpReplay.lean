import EspBase.Network.Revocation
import EspBase.Protocol.OtaResults
import EspBase.Shared.ExpiringTable
import EspBase.Shared.Run

set_option autoImplicit false

namespace EspBase

open ExpiringTable Transition

abbrev unexpired (now : Nat) (seen : List FrpStatusSeen) : List FrpStatusSeen :=
  live FrpStatusSeen.expiresAtMs now seen

abbrev Apart (now : Nat) (seen : List FrpStatusSeen) : Prop :=
  Distinct FrpStatusSeen.requestId FrpStatusSeen.expiresAtMs now seen

theorem seenStatus_found (now : Nat) (requestId : CString) (index : Nat) (empty : Option Nat)
    (seen : List FrpStatusSeen) (entry : FrpStatusSeen)
    (found : (seenStatus now requestId index empty seen).2 = some entry) :
    entry ∈ unexpired now seen ∧ entry.requestId = requestId := by
  induction seen generalizing index empty with
  | nil => cases found
  | cons head rest ih =>
    unfold seenStatus at found
    split at found
    next lapsed =>
      obtain ⟨member, id⟩ := ih _ _ found
      exact ⟨by simp_all [mem_live], id⟩
    next lasting =>
      split at found
      next id =>
        cases found
        exact ⟨by simp_all [mem_live], id⟩
      next other =>
        obtain ⟨member, id⟩ := ih _ _ found
        exact ⟨by simp_all [mem_live], id⟩

theorem seenStatus_unfound (now : Nat) (requestId : CString) (index : Nat) (empty : Option Nat)
    (seen : List FrpStatusSeen) (unfound : (seenStatus now requestId index empty seen).2 = none) :
    ∀ entry ∈ unexpired now seen, entry.requestId ≠ requestId := by
  induction seen generalizing index empty with
  | nil => simp [live]
  | cons head rest ih =>
    unfold seenStatus at unfound
    intro entry member
    rw [mem_live, List.mem_cons] at member
    obtain ⟨rfl | later, lasting⟩ := member
    · rw [if_neg (by omega)] at unfound
      split at unfound
      · cases unfound
      next other => exact other
    · split at unfound
      · exact ih _ _ unfound entry (mem_live.mpr ⟨later, lasting⟩)
      split at unfound
      · cases unfound
      · exact ih _ _ unfound entry (mem_live.mpr ⟨later, lasting⟩)

-- The scan passes every slot unless it finds the entry.
theorem seenStatus_full (now : Nat) (requestId : CString) (index : Nat) (empty : Option Nat)
    (seen : List FrpStatusSeen) (unfound : (seenStatus now requestId index empty seen).2 = none)
    (full : (seenStatus now requestId index empty seen).1 = none) :
    empty = none ∧ ∀ entry ∈ seen, now < entry.expiresAtMs := by
  induction seen generalizing index empty with
  | nil => simpa [seenStatus] using full
  | cons head rest ih =>
    unfold seenStatus at unfound full
    split at unfound
    next lapsed =>
      rw [if_pos lapsed] at full
      obtain ⟨taken, -⟩ := ih _ _ unfound full
      cases empty <;> simp at taken
    next lasting =>
      rw [if_neg lasting] at full
      split at unfound
      · cases unfound
      next other =>
        rw [if_neg other] at full
        obtain ⟨none, all⟩ := ih _ _ unfound full
        exact ⟨none, by simpa using ⟨by omega, all⟩⟩

theorem seenStatus_free (now : Nat) (requestId : CString) (index : Nat) (empty : Option Nat)
    (seen : List FrpStatusSeen) (slot : Nat)
    (free : (seenStatus now requestId index empty seen).1 = some slot) :
    empty = some slot ∨ (index ≤ slot ∧
      ∃ old, seen[slot - index]? = some old ∧ old.expiresAtMs ≤ now) := by
  induction seen generalizing index empty with
  | nil => simpa [seenStatus] using free
  | cons head rest ih =>
    have past (inside : index + 1 ≤ slot ∧
        ∃ old, rest[slot - (index + 1)]? = some old ∧ old.expiresAtMs ≤ now) :
        index ≤ slot ∧ ∃ old, (head :: rest)[slot - index]? = some old ∧ old.expiresAtMs ≤ now := by
      obtain ⟨after, old, here, lapsed⟩ := inside
      refine ⟨by omega, old, ?_, lapsed⟩
      rwa [show slot - index = slot - (index + 1) + 1 by omega, List.getElem?_cons_succ]
    unfold seenStatus at free
    split at free
    next lapsed =>
      rcases ih _ _ free with taken | inside
      · cases empty with
        | some first => exact .inl taken
        | none =>
          obtain rfl : index = slot := by simpa using taken
          exact .inr ⟨le_rfl, head, by simp, lapsed⟩
      · exact .inr (past inside)
    next lasting =>
      split at free
      · exact .inl free
      · exact (ih _ _ free).imp_right past

theorem uuid_length_le (value : CString) (uuid : isUuid value) : value.bytes.length ≤ 36 := by
  by_contra long
  have reached : 36 < value.bytes.length := by omega
  simp only [isUuid, Bool.and_eq_true, beq_iff_eq] at uuid
  have zero : value.bytes[36] = 0 := by simpa [CString.at, reached] using uuid.1.1.2
  exact value.unbroken (zero ▸ List.getElem_mem reached)

def statusRefusal (deviceId bootId requestId : CString) (error : String) : List UInt8 :=
  resultHead deviceId bootId (some requestId) (some .failed) (some error) ++ bytesOf "null\x7d"

theorem formatResultJson_refusal (deviceId bootId requestId : CString) (error : String)
    (device_uuid : isUuid deviceId) (boot_uuid : isUuid bootId) (request_uuid : isUuid requestId)
    (short : (bytesOf error).length ≤ 64) :
    formatResultJson frpResponseBytes deviceId bootId (some requestId) (some .failed) (some error) none =
      some (statusRefusal deviceId bootId requestId error) := by
  have device := uuid_length_le deviceId device_uuid
  have boot := uuid_length_le bootId boot_uuid
  have request := uuid_length_le requestId request_uuid
  unfold formatResultJson
  rw [if_pos]
  · simp [statusRefusal, bytesOf_ascii]
  · simp [resultHead, quotedOrNull, bytesOf_ascii, frpResponseBytes, frpHttpOutputBytes,
      frpHttpResponseOffset, ResultState.text]
    omega

-- The request is for this boot of this device, and its deadline is near enough.
structure Addressed (request : Request) (now : Nat) (s : Control) : Prop where
  device : request.deviceId = s.deviceId
  boot : request.bootId = s.bootId
  future : now < request.expiresAtMs
  near : request.expiresAtMs ≤ now + requestWindowMs

theorem frpStatusError_none (request : Request) (now : Nat) (empty : Option Nat)
    (found : Option FrpStatusSeen) (s : Control)
    (fine : frpStatusError request now empty found s = none) :
    Addressed request now s ∧ (∀ entry ∈ found, request.expiresAtMs = entry.expiresAtMs) ∧
      (found = none → empty ≠ none) := by
  unfold frpStatusError at fine
  split at fine
  · cases fine
  next agrees =>
  split at fine
  · cases fine
  next device =>
  split at fine
  · cases fine
  next boot =>
  split at fine
  · cases fine
  next future =>
  split at fine
  · cases fine
  next near =>
  split at fine
  · cases fine
  next room =>
    refine ⟨⟨by simpa using device, by simpa using boot, by omega, by omega⟩, ?_, ?_⟩
    · rintro entry ⟨⟩
      simp_all
    · rintro rfl rfl
      simp at room

theorem frpStatusError_conflict (request : Request) (now : Nat) (empty : Option Nat)
    (entry : FrpStatusSeen) (s : Control)
    (differs : request.deviceId ≠ s.deviceId ∨ request.bootId ≠ s.bootId ∨
      request.expiresAtMs ≠ entry.expiresAtMs) :
    frpStatusError request now empty (some entry) s = some (409, .failed, "request_conflict") := by
  unfold frpStatusError
  rw [if_pos]
  simpa [or_assoc] using differs

theorem frpStatusError_capacity (request : Request) (now : Nat) (empty : Option Nat)
    (found : Option FrpStatusSeen) (s : Control) (http : Nat) (state : ResultState)
    (refused : frpStatusError request now empty found s = some (http, state, "capacity_exceeded")) :
    found = none ∧ empty = none := by
  unfold frpStatusError at refused
  split_ifs at refused <;> simp_all

variable (build : Build)

inductive StatusAnswer (a : FrpStatusAnswers) (s : Control) (seen : List FrpStatusSeen) :
    FrpStatusReply → Prop where
  | unparsed (error : String) (unread : a.parsed.error = some error) :
    StatusAnswer a s seen (frpStatusReply frpResponseBytes 400 none .failed (some error) none s seen)
  | refused (http : Nat) (state : ResultState) (error : String) (read : a.parsed.error = none)
      (refusal : frpStatusError a.parsed.request a.now
        (seenStatus a.now a.parsed.request.requestId 0 none seen).1
        (seenStatus a.now a.parsed.request.requestId 0 none seen).2 s = some (http, state, error)) :
    StatusAnswer a s seen (frpStatusReply frpResponseBytes http (some a.parsed.request.requestId)
      state (some error) none s seen)
  | repeated (entry : FrpStatusSeen) (here : entry ∈ unexpired a.now seen)
      (id : entry.requestId = a.parsed.request.requestId)
      (deadline : a.parsed.request.expiresAtMs = entry.expiresAtMs)
      (addressed : Addressed a.parsed.request a.now s) :
    StatusAnswer a s seen (frpStatusReply frpResponseBytes 200 (some a.parsed.request.requestId)
      .succeeded none entry.status s seen)
  | stored (slot : Nat) (old : FrpStatusSeen) (here : seen[slot]? = some old)
      (lapsed : old.expiresAtMs ≤ a.now)
      (fresh : ∀ entry ∈ unexpired a.now seen, entry.requestId ≠ a.parsed.request.requestId)
      (addressed : Addressed a.parsed.request a.now s) :
    StatusAnswer a s seen (frpStatusReply frpResponseBytes 200 (some a.parsed.request.requestId)
      .succeeded none (some (snapshot build a.snapshot s)) s
      (seen.set slot ⟨a.parsed.request.requestId, a.parsed.request.expiresAtMs,
        some (snapshot build a.snapshot s)⟩))

theorem handleFrpStatus_answer (a : FrpStatusAnswers) (s : Control) (seen : List FrpStatusSeen) :
    StatusAnswer build a s seen (handleFrpStatus build a frpResponseBytes s seen) := by
  unfold handleFrpStatus
  split
  next error unread => exact .unparsed error unread
  next read =>
    dsimp only
    split
    next http state error refusal => exact .refused http state error read refusal
    next fine =>
      obtain ⟨addressed, deadline, room⟩ := frpStatusError_none _ _ _ _ _ fine
      split
      next entry found =>
        obtain ⟨here, id⟩ := seenStatus_found _ _ _ _ _ _ found
        exact .repeated entry here id (deadline entry found) addressed
      next slot unfound free =>
        rcases seenStatus_free _ _ _ _ _ _ free with ⟨⟨⟩⟩ | ⟨-, old, here, lapsed⟩
        exact .stored slot old here lapsed (seenStatus_unfound _ _ _ _ _ unfound) addressed
      next unfound full => exact absurd full (room unfound)

@[simp] theorem frpStatusReply_seen (capacity http : Nat) (requestId : Option CString)
    (state : ResultState) (error : Option String) (status : Option StatusSnapshot) (s : Control)
    (seen : List FrpStatusSeen) :
    (frpStatusReply capacity http requestId state error status s seen).seen = seen := by
  unfold frpStatusReply
  split <;> simp

theorem frpStatusReply_served (capacity http : Nat) (requestId : Option CString)
    (state : ResultState) (error : Option String) (status : Option StatusSnapshot) (s : Control)
    (seen : List FrpStatusSeen)
    (served : (frpStatusReply capacity http requestId state error status s seen).http = 200) :
    http = 200 ∧ formatResultJson capacity s.deviceId s.bootId requestId (some state) error status =
      some (frpStatusReply capacity http requestId state error status s seen).response := by
  revert served
  unfold frpStatusReply
  split
  · simp
  next text formatted => exact fun served => ⟨served, formatted⟩

def statusRefusals : List (Nat × ResultState × String) :=
  [(409, .failed, "request_conflict"), (409, .failed, "wrong_device"), (409, .failed, "wrong_boot"),
    (409, .expired, "expired"), (400, .failed, "invalid_deadline"), (400, .failed, "capacity_exceeded")]

theorem frpStatusError_listed (request : Request) (now : Nat) (empty : Option Nat)
    (found : Option FrpStatusSeen) (s : Control) (refusal : Nat × ResultState × String)
    (refused : frpStatusError request now empty found s = some refusal) : refusal ∈ statusRefusals := by
  unfold frpStatusError at refused
  split_ifs at refused <;> cases refused <;> simp [statusRefusals]

theorem frpStatusError_http (request : Request) (now : Nat) (empty : Option Nat)
    (found : Option FrpStatusSeen) (s : Control) (http : Nat) (state : ResultState) (error : String)
    (refused : frpStatusError request now empty found s = some (http, state, error)) : http ≠ 200 := by
  have answered : ∀ refusal ∈ statusRefusals, refusal.1 ≠ 200 := by decide
  exact answered _ (frpStatusError_listed _ _ _ _ _ _ refused)

section Answer

variable {build} {a : FrpStatusAnswers} {s : Control} {seen : List FrpStatusSeen}
  {answer : FrpStatusReply}

theorem StatusAnswer.length (answered : StatusAnswer build a s seen answer) :
    answer.seen.length = seen.length := by
  cases answered <;> simp

theorem StatusAnswer.apart (answered : StatusAnswer build a s seen answer) (apart : Apart a.now seen) :
    Apart a.now answer.seen := by
  cases answered with
  | stored slot old here lapsed fresh =>
    rw [frpStatusReply_seen]
    exact apart.stored slot _ fresh
  | _ => simpa using apart

theorem StatusAnswer.kept (answered : StatusAnswer build a s seen answer) {i : Nat}
    {entry : FrpStatusSeen} (there : seen[i]? = some entry) (lasting : a.now < entry.expiresAtMs) :
    answer.seen[i]? = some entry := by
  cases answered with
  | stored slot old here lapsed =>
    rw [frpStatusReply_seen]
    exact stored_kept _ here lapsed there lasting
  | _ => simpa using there

theorem StatusAnswer.addressed (answered : StatusAnswer build a s seen answer)
    (served : answer.http = 200) : Addressed a.parsed.request a.now s := by
  cases answered with
  | unparsed => exact absurd (frpStatusReply_served _ _ _ _ _ _ _ _ served).1 (by decide)
  | refused http state error read refusal =>
    exact absurd (frpStatusReply_served _ _ _ _ _ _ _ _ served).1
      (frpStatusError_http _ _ _ _ _ _ _ _ refusal)
  | repeated entry here id deadline addressed => exact addressed
  | stored slot old here lapsed fresh addressed => exact addressed

def Formats (s : Control) (entry : FrpStatusSeen) (response : List UInt8) : Prop :=
  formatResultJson frpResponseBytes s.deviceId s.bootId (some entry.requestId) (some .succeeded) none
    entry.status = some response

-- After a successful answer the table holds the answered entry.
theorem StatusAnswer.served (answered : StatusAnswer build a s seen answer)
    (served : answer.http = 200) :
    ∃ (i : Nat) (entry : FrpStatusSeen), answer.seen[i]? = some entry ∧ entry.requestId = a.parsed.request.requestId ∧
      entry.expiresAtMs = a.parsed.request.expiresAtMs ∧ Formats s entry answer.response := by
  cases answered with
  | unparsed => exact absurd (frpStatusReply_served _ _ _ _ _ _ _ _ served).1 (by decide)
  | refused http state error read refusal =>
    exact absurd (frpStatusReply_served _ _ _ _ _ _ _ _ served).1
      (frpStatusError_http _ _ _ _ _ _ _ _ refusal)
  | repeated entry here id deadline =>
    obtain ⟨member, -⟩ := mem_live.mp here
    obtain ⟨i, there⟩ := List.mem_iff_getElem?.mp member
    have formatted := (frpStatusReply_served _ _ _ _ _ _ _ _ served).2
    exact ⟨i, entry, by rwa [frpStatusReply_seen], id, deadline.symm, by rwa [Formats, id]⟩
  | stored slot old here =>
    have inside : slot < seen.length := (List.getElem?_eq_some_iff.mp here).1
    have formatted := (frpStatusReply_served _ _ _ _ _ _ _ _ served).2
    refine ⟨slot, ⟨a.parsed.request.requestId, a.parsed.request.expiresAtMs,
      some (snapshot build a.snapshot s)⟩, ?_, rfl, rfl, formatted⟩
    rw [frpStatusReply_seen]
    exact List.getElem?_set_self inside

theorem StatusAnswer.replayed (answered : StatusAnswer build a s seen answer)
    (served : answer.http = 200) (apart : Apart a.now seen) {entry : FrpStatusSeen}
    (here : entry ∈ unexpired a.now seen) (id : entry.requestId = a.parsed.request.requestId) :
    Formats s entry answer.response := by
  cases answered with
  | unparsed => exact absurd (frpStatusReply_served _ _ _ _ _ _ _ _ served).1 (by decide)
  | refused http state error read refusal =>
    exact absurd (frpStatusReply_served _ _ _ _ _ _ _ _ served).1
      (frpStatusError_http _ _ _ _ _ _ _ _ refusal)
  | repeated other there same =>
    obtain rfl := apart.same here there (id.trans same.symm)
    have formatted := (frpStatusReply_served _ _ _ _ _ _ _ _ served).2
    rwa [Formats, id]
  | stored slot old stood lapsed fresh => exact absurd id (fresh entry here)

theorem handleFrpStatus_conflict (read : a.parsed.error = none) (apart : Apart a.now seen)
    {entry : FrpStatusSeen} (here : entry ∈ unexpired a.now seen)
    (id : entry.requestId = a.parsed.request.requestId)
    (differs : a.parsed.request.deviceId ≠ s.deviceId ∨ a.parsed.request.bootId ≠ s.bootId ∨
      a.parsed.request.expiresAtMs ≠ entry.expiresAtMs) (device_uuid : isUuid s.deviceId)
    (boot_uuid : isUuid s.bootId) (request_uuid : isUuid a.parsed.request.requestId) :
    handleFrpStatus build a frpResponseBytes s seen =
      { http := 409
        response := statusRefusal s.deviceId s.bootId a.parsed.request.requestId "request_conflict"
        seen := seen } := by
  cases found : (seenStatus a.now a.parsed.request.requestId 0 none seen).2 with
  | none => exact absurd id (seenStatus_unfound _ _ _ _ _ found entry here)
  | some other =>
    obtain ⟨there, same⟩ := seenStatus_found _ _ _ _ _ _ found
    obtain rfl := apart.same here there (id.trans same.symm)
    have conflict := frpStatusError_conflict a.parsed.request a.now
      (seenStatus a.now a.parsed.request.requestId 0 none seen).1 entry s differs
    have formatted := formatResultJson_refusal s.deviceId s.bootId a.parsed.request.requestId
      "request_conflict" device_uuid boot_uuid request_uuid (by decide)
    simp only [handleFrpStatus, read, found, conflict, frpStatusReply, formatted]

theorem formatResultJson_some (capacity : Nat) (deviceId bootId : CString) (requestId : Option CString)
    (state : Option ResultState) (error : Option String) (status : Option StatusSnapshot)
    (response : List UInt8)
    (formatted : formatResultJson capacity deviceId bootId requestId state error status = some response) :
    ∃ result, response = resultHead deviceId bootId requestId state error ++ result := by
  unfold formatResultJson at formatted
  simp only [Option.ite_none_right_eq_some, Option.some.injEq] at formatted
  obtain ⟨-, rfl⟩ := formatted
  exact ⟨_, List.append_assoc _ _ _⟩

theorem refusal_capacity (http : Nat) (id : Option CString) (requestId : CString)
    (state : ResultState) (error : Option String) (status : Option StatusSnapshot)
    (refused : (frpStatusReply frpResponseBytes http id state error status s seen).response =
      statusRefusal s.deviceId s.bootId requestId "capacity_exceeded") :
    ∃ result rest, quotedOrNull (id.map CString.bytes) ++ bytesOf ",\"state\":\"" ++
        bytesOf state.text ++ bytesOf "\",\"error_code\":" ++ quotedOrNull (error.map bytesOf) ++
        bytesOf ",\"result\":" ++ result =
      quotedOrNull (some requestId.bytes) ++ bytesOf ",\"state\":\"failed\",\"error_code\":" ++
        bytesOf "\"capacity_exceeded\",\"result\":" ++ rest := by
  unfold frpStatusReply at refused
  split at refused
  next => simp [statusRefusal, resultHead, bytesOf_ascii] at refused
  next response formatted =>
    obtain ⟨result, rfl⟩ := formatResultJson_some _ _ _ _ _ _ _ _ formatted
    refine ⟨result, bytesOf "null\x7d", ?_⟩
    simpa [statusRefusal, resultHead, bytesOf_ascii, quotedOrNull, ResultState.text] using refused

theorem StatusAnswer.full (answered : StatusAnswer build a s seen answer)
    (refused : answer.response =
      statusRefusal s.deviceId s.bootId a.parsed.request.requestId "capacity_exceeded") :
    ∀ entry ∈ seen, a.now < entry.expiresAtMs := by
  cases answered with
  | unparsed error unread =>
    obtain ⟨result, rest, same⟩ := refusal_capacity _ _ _ _ _ _ refused
    simp [quotedOrNull, bytesOf_ascii] at same
  | refused http state error read refusal =>
    obtain ⟨result, rest, same⟩ := refusal_capacity _ _ _ _ _ _ refused
    have listed := frpStatusError_listed _ _ _ _ _ _ refusal
    simp only [statusRefusals, List.mem_cons, List.not_mem_nil, or_false] at listed
    rcases listed with ⟨⟨⟩⟩ | ⟨⟨⟩⟩ | ⟨⟨⟩⟩ | ⟨⟨⟩⟩ | ⟨⟨⟩⟩ | ⟨⟨⟩⟩
    case inr.inr.inr.inr.inr =>
      obtain ⟨unfound, full⟩ := frpStatusError_capacity _ _ _ _ _ _ _ refusal
      exact (seenStatus_full _ _ _ _ _ unfound full).2
    all_goals simp [quotedOrNull, bytesOf_ascii, ResultState.text] at same
  | repeated =>
    obtain ⟨result, rest, same⟩ := refusal_capacity _ _ _ _ _ _ refused
    simp [quotedOrNull, bytesOf_ascii, ResultState.text] at same
  | stored =>
    obtain ⟨result, rest, same⟩ := refusal_capacity _ _ _ _ _ _ refused
    simp [quotedOrNull, bytesOf_ascii, ResultState.text] at same

end Answer

structure StatusCall where
  answers : FrpStatusAnswers
  control : Control

def StatusCall.reply (call : StatusCall) (seen : List FrpStatusSeen) : FrpStatusReply :=
  handleFrpStatus build call.answers frpResponseBytes call.control seen

abbrev runStatus (calls : List StatusCall) : List FrpStatusSeen :=
  run (fun call seen => (call.reply build seen).seen) calls frpStatusUnseen

/-- Calls within one boot: the identities stay, the clock does not run back, a request that
parses has an ID. Everything else about the device may change from call to call. -/
structure OneBoot (deviceId bootId : CString) (calls : List StatusCall) : Prop where
  device : ∀ call ∈ calls, call.control.deviceId = deviceId
  boot : ∀ call ∈ calls, call.control.bootId = bootId
  uuids : isUuid deviceId ∧ isUuid bootId
  parsed : ∀ call ∈ calls, call.answers.parsed.error = none →
    isUuid call.answers.parsed.request.requestId
  clock : calls.Pairwise (fun earlier later => earlier.answers.now ≤ later.answers.now)

theorem runStatus_length (calls : List StatusCall) :
    (runStatus build calls).length = frpStatusReplaySlots := by
  refine @run_invariant _ _ _ (fun seen : List FrpStatusSeen => seen.length = frpStatusReplaySlots) ?_ calls _ ?_
  · intro call seen eight
    exact (handleFrpStatus_answer build call.answers call.control seen).length.trans eight
  · simp [frpStatusUnseen]

theorem runStatus_apart (calls : List StatusCall) (now : Nat)
    (clock : calls.Pairwise (fun earlier later => earlier.answers.now ≤ later.answers.now))
    (reached : ∀ call ∈ calls, call.answers.now ≤ now) : Apart now (runStatus build calls) := by
  induction calls using List.reverseRecOn generalizing now with
  | nil =>
    apply distinct_lapsed
    simp [frpStatusUnseen, FrpStatusSeen.zero]
  | append_singleton earlier call ih =>
    obtain ⟨before, -, past⟩ := List.pairwise_append.mp clock
    have apart := ih call.answers.now before (fun first member => past first member call (by simp))
    have answered := handleFrpStatus_answer build call.answers call.control (runStatus build earlier)
    rw [runStatus, run_concat]
    exact (answered.apart apart).later (reached call (by simp))

theorem run_status_kept (calls : List StatusCall) (seen : List FrpStatusSeen) (i : Nat)
    (entry : FrpStatusSeen) (there : seen[i]? = some entry)
    (lasting : ∀ call ∈ calls, call.answers.now < entry.expiresAtMs) :
    (run (fun call seen => (StatusCall.reply build call seen).seen) calls seen)[i]? = some entry := by
  induction calls generalizing seen with
  | nil => exact there
  | cons call rest ih =>
    have answered := handleFrpStatus_answer build call.answers call.control seen
    apply ih
    · exact answered.kept there (lasting call (by simp))
    · exact fun later member => lasting later (by simp [member])

theorem effect_boot (s t : Control) (effect : Effect build s t) : t.bootId = s.bootId := by
  cases effect <;> simp [saveOutcome_eq]

theorem identity_reached (b : Boot) (labels : List Label) :
    (runBoot build b labels).deviceId = b.deviceId ∧ (runBoot build b labels).bootId = b.bootId := by
  refine (@run_keeps build (fun s => s.deviceId = b.deviceId ∧ s.bootId = b.bootId) ?_ ?_ labels
    b.control rfl ⟨rfl, rfl⟩).2
  · exact fun s viaMqtt same => same
  · rintro s t effect ⟨device, boot⟩
    exact ⟨(effect_device build s t effect).trans device, (effect_boot build s t effect).trans boot⟩

theorem taskAct_status (net : NetworkBuild) (label : TaskLabel) (t : ControlTask) :
    (taskAct build net label t).frpStatusSeen = t.frpStatusSeen ∨
      ∃ a answers, label = .frpListenerPoll a answers ∧ (taskAct build net label t).frpStatusSeen =
        (StatusCall.reply build ⟨answers, t.control⟩ t.frpStatusSeen).seen := by
  unfold taskAct
  split
  next label => split <;> exact .inl rfl
  next now a here => exact .inl rfl
  next a here => exact .inl rfl
  next a here => exact .inl rfl
  next a here =>
    split
    · exact .inl rfl
    · refine .inl ?_
      unfold configureMqtt
      split <;> rfl
  next => exact .inl rfl
  next event a line answers left here =>
    refine .inl ?_
    simp only [handleMqttEvent]
    split <;> rfl
  next => exact .inl rfl
  next destroyed here =>
    refine .inl ?_
    simp only [configureFrp]
    split
    · rfl
    · split <;> rfl
  next a answers here =>
    simp only [pollFrpListener]
    split
    · exact .inr ⟨a, answers, rfl, rfl⟩
    · exact .inl rfl
  next => exact .inl rfl
  next a line here => exact .inl rfl
  next => exact .inl rfl
  next => exact .inl rfl

def TaskLabel.statusAnswers : TaskLabel → Option FrpStatusAnswers
  | .frpListenerPoll _ answers => some answers
  | _ => none

/-- The table of a boot is the one of the status requests that the listener handed on. -/
theorem runTask_status (net : NetworkBuild) (b : Boot) (labels : List TaskLabel) :
    ∃ calls, (runTask build net b labels).frpStatusSeen = runStatus build calls ∧
      (∀ call ∈ calls, call.control.deviceId = b.deviceId ∧ call.control.bootId = b.bootId) ∧
      (calls.map StatusCall.answers).Sublist (labels.filterMap TaskLabel.statusAnswers) := by
  induction labels using List.reverseRecOn with
  | nil => exact ⟨[], rfl, by simp, by simp⟩
  | append_singleton earlier label ih =>
    obtain ⟨calls, same, identity, taken⟩ := ih
    have kept : (calls.map StatusCall.answers).Sublist
        ((earlier ++ [label]).filterMap TaskLabel.statusAnswers) := by
      rw [List.filterMap_append]
      exact taken.trans (List.sublist_append_left _ _)
    rw [runTask, run_concat, taskStep]
    split
    · exact ⟨calls, same, identity, kept⟩
    rcases taskAct_status build net label (runTask build net b earlier) with quiet | called
    · exact ⟨calls, quiet.trans same, identity, kept⟩
    · obtain ⟨a, answers, rfl, seen⟩ := called
      refine ⟨calls ++ [⟨answers, (runTask build net b earlier).control⟩], ?_, ?_, ?_⟩
      · rw [seen, same, runStatus, runStatus, run_concat]
      · intro call member
        rcases List.mem_append.mp member with before | last
        · exact identity call before
        · obtain rfl := List.mem_singleton.mp last
          obtain ⟨steps, reached⟩ := runTask_control build net b earlier
          rw [reached]
          exact identity_reached build b steps
      · rw [List.map_append, List.filterMap_append]
        exact taken.append (List.Sublist.refl _)

theorem status_replayed (deviceId bootId : CString) (earlier : List StatusCall) (call : StatusCall)
    (one : OneBoot deviceId bootId (earlier ++ [call])) :
    let now := call.answers.now
    let request := call.answers.parsed.request
    let seen := runStatus build earlier
    let answer := call.reply build seen
    (Apart now seen ∧ Apart now answer.seen ∧ (unexpired now seen).length ≤ 8 ∧
      (unexpired now answer.seen).length ≤ 8) ∧
    (∀ before first between, earlier = before ++ first :: between →
      (first.reply build (runStatus build before)).http = 200 → answer.http = 200 →
      first.answers.parsed.request.requestId = request.requestId →
      now < first.answers.parsed.request.expiresAtMs →
      answer.response = (first.reply build (runStatus build before)).response) ∧
    (∀ entry ∈ unexpired now seen, call.answers.parsed.error = none →
      entry.requestId = request.requestId →
      (request.deviceId ≠ deviceId ∨ request.bootId ≠ bootId ∨
        request.expiresAtMs ≠ entry.expiresAtMs) →
      answer = ⟨409, statusRefusal deviceId bootId request.requestId "request_conflict", seen⟩) ∧
    (answer.http = 200 → (∀ entry ∈ unexpired now seen, entry.requestId ≠ request.requestId) →
      request.deviceId = deviceId ∧ request.bootId = bootId ∧ now < request.expiresAtMs ∧
        request.expiresAtMs ≤ now + 30000) ∧
    (answer.response = statusRefusal deviceId bootId request.requestId "capacity_exceeded" →
      (unexpired now seen).length = 8) ∧
    ∀ (i : Nat) entry, seen[i]? = some entry → now < entry.expiresAtMs →
      answer.seen[i]? = some entry := by
  intro now request seen answer
  obtain ⟨before_clock, -, past⟩ := List.pairwise_append.mp one.clock
  have device : call.control.deviceId = deviceId := one.device call (by simp)
  have boot : call.control.bootId = bootId := one.boot call (by simp)
  have apart : Apart now seen :=
    runStatus_apart build earlier now before_clock fun first member => past first member call (by simp)
  have eight : seen.length = 8 := runStatus_length build earlier
  have answered : StatusAnswer build call.answers call.control seen answer :=
    handleFrpStatus_answer build call.answers call.control seen
  refine ⟨⟨apart, answered.apart apart, ?_, ?_⟩, ?_, ?_, ?_, ?_, ?_⟩
  · exact live_length_le.trans_eq eight
  · exact live_length_le.trans_eq (answered.length.trans eight)
  · intro before first between split first_served served same lasting
    have before_answered := handleFrpStatus_answer build first.answers first.control
      (runStatus build before)
    obtain ⟨i, entry, there, id, deadline, formatted⟩ := before_answered.served first_served
    have lasts : now < entry.expiresAtMs := deadline ▸ lasting
    have here : seen[i]? = some entry := by
      have kept := run_status_kept build between _ i entry there fun later member =>
        (past later (by simp [split, member]) call (by simp)).trans_lt lasts
      simp only [seen, runStatus, split, run_append, run_cons]
      exact kept
    have replayed := answered.replayed served apart (mem_live.mpr ⟨List.mem_of_getElem? here, lasts⟩)
      (id.trans same)
    rw [Formats, one.device first (by simp [split]), one.boot first (by simp [split])] at formatted
    rw [Formats, device, boot] at replayed
    exact Option.some.inj (replayed.symm.trans formatted)
  · intro entry here read id differs
    obtain ⟨device_uuid, boot_uuid⟩ := one.uuids
    subst device boot
    exact handleFrpStatus_conflict read apart here id differs device_uuid boot_uuid
      (one.parsed call (by simp) read)
  · intro served _
    obtain ⟨same_device, same_boot, future, near⟩ := answered.addressed served
    exact ⟨same_device.trans device, same_boot.trans boot, future, near⟩
  · intro refused
    subst device boot
    have full := answered.full refused
    rw [unexpired, live, List.filter_eq_self.mpr (fun entry member => by simpa using full entry member)]
    exact eight
  · exact fun i entry there lasting => answered.kept there lasting

def sampleStatus (now freeHeap : Nat) : StatusCall :=
  { answers :=
      { parsed := { error := none, request := samplePresented sampleDevice }
        now := now
        snapshot :=
          { uptime := now, freeHeap := freeHeap, minimumFreeHeap := 0, mqtt := .ready, frp := .ready } }
    control := sampleBoot.control }

theorem status_replayed_twice :
    let first := sampleStatus 1000 80000
    ((sampleStatus 2000 90000).reply unsignedBuild (runStatus unsignedBuild [first])).response =
      (first.reply unsignedBuild frpStatusUnseen).response := by
  have one : OneBoot sampleDevice sampleBootId [sampleStatus 1000 80000, sampleStatus 2000 90000] :=
    ⟨by simp [sampleStatus, sampleBoot, Boot.control], by simp [sampleStatus, sampleBoot, Boot.control],
      by decide +kernel, by simpa [sampleStatus] using (by decide +kernel), by simp [sampleStatus]⟩
  exact (status_replayed unsignedBuild sampleDevice sampleBootId [sampleStatus 1000 80000]
    (sampleStatus 2000 90000) one).2.1 [] (sampleStatus 1000 80000) [] rfl (by decide +kernel)
    (by decide +kernel) rfl (by decide)

end EspBase
