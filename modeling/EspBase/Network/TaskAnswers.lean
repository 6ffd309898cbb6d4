import EspBase.Network.Publication
import EspBase.Protocol.Answering
import EspBase.Protocol.OtaResults

set_option autoImplicit false

namespace EspBase

open Transition

variable {build : Build} {s : Control}

def TaskLabel.Received (decoder : DecoderBuild) : TaskLabel → Prop
  | .around label => label.Received decoder
  | .pollConfiguration a => a.snapshot.Sized
  | .mqttEvent _ _ parsed a | .line a parsed =>
    (∃ text, parsed = ebaseParseCommand decoder text) ∧ a.snapshot.Sized
  | .frpListenerPoll _ a => (∃ body, a.parsed = ebaseParseFrpStatus decoder body) ∧ a.snapshot.Sized
  | _ => True

def SeenSized (seen : List FrpStatusSeen) : Prop :=
  ∀ entry ∈ seen, entry.expiresAtMs = 0 ∨ ∃ status, entry.status = some status ∧ status.Sized

structure TaskSpeaks (t : ControlTask) : Prop where
  control : Speaks none t.control
  table : SeenSized t.frpStatusSeen

theorem TaskSpeaks.same {t u : ControlTask} (speaks : TaskSpeaks t) (control : u.control = t.control)
    (table : u.frpStatusSeen = t.frpStatusSeen) : TaskSpeaks u := by
  constructor
  case control => rw [control]; exact speaks.control
  case table => rw [table]; exact speaks.table

section Session

variable (build : Build) (decoder : DecoderBuild) (b : Boot) (payloadMax : Nat) (answers : Nat → PublishAnswers)

/-- The answer is the last text of the step that the owner is handed, and this is what it makes of it. -/
def Publishes (x : Session) (t : Control) (answer : Answer) : Prop :=
  ∃ earlier, publications payloadMax answers x.task.mqtt x.published.length
      (mqttTexts (newEvents x.task.control t)) =
    earlier ++ [(answer.bytes,
      publish payloadMax (answers (x.published.length + earlier.length)) answer.bytes x.task.mqtt)]

theorem Told.publishes {id : CString} {x : Session} {t : Control} {answer : Answer}
    (told : Told true id x.task.control t answer) : Publishes payloadMax answers x t answer := by
  obtain ⟨earlier, later, log, unspoken⟩ := told.last
  have silent : mqttTexts later = [] := by
    refine List.filterMap_eq_nil_iff.mpr (fun event member => ?_)
    have quiet := unspoken event member
    cases event with
    | sent viaMqtt text => cases quiet
    | _ => rfl
  have new : mqttTexts (newEvents x.task.control t) = mqttTexts earlier ++ [answer.bytes] := by
    have said : mqttTexts (delivery true answer.bytes :: later) = answer.bytes :: mqttTexts later := rfl
    rw [newEvents, log, List.append_assoc, List.drop_left, mqttTexts_append, said, silent]
  refine ⟨publications payloadMax answers x.task.mqtt x.published.length (mqttTexts earlier), ?_⟩
  rw [new, publications_append, publications_length]
  rfl

end Session

end EspBase
