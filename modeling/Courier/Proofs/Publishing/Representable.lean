import Courier.Notification.Validation
import Courier.Proofs.Publishing.Office

/-!
# Writing published messages down

The texts among the properties of a message are written as short strings, which have at most 255
octets.  The publisher sets three of them.  The content type is the same for all messages; the other
two are the identity of the request, of which validation asks only that it is not blank.

* `Amqp.Properties.Representable` : properties whose texts are all short.
* `Publishing.Stamped` : the properties that the publisher gives to a message.
* `Publishing.stamped_of_published` : **a published message can be written down if the identity of
  its request is short, and only then.**
* `Publishing.unrepresentable_overlong` : a valid request whose message cannot.
-/

namespace Courier

namespace Amqp

/-- A text that a short string can hold. -/
def IsShort (s : String) : Prop := s.utf8ByteSize ≤ 255

instance (s : String) : Decidable (IsShort s) := inferInstanceAs (Decidable (_ ≤ _))

/-- Properties that can be written down: every text among them is short. -/
structure Properties.Representable (p : Properties) : Prop where
  contentType : ∀ text, p.contentType = some text → IsShort text
  correlationId : ∀ text, p.correlationId = some text → IsShort text
  messageId : ∀ text, p.messageId = some text → IsShort text

end Amqp

namespace Publishing

theorem isShort_jsonContentType : Amqp.IsShort jsonContentType := by decide

/-- The properties that the publisher gives to the message of a notification. -/
structure Stamped (n : Notification) (p : Amqp.Properties) : Prop where
  contentType : ∃ text, p.contentType = some text ∧ Amqp.IsShort text
  correlationId : p.correlationId = some n.requestId
  messageId : p.messageId = some n.requestId
  /-- They can be written down if the identity of the request is short, and only then. -/
  representable : p.Representable ↔ Amqp.IsShort n.requestId
  /-- There is no counter of retries, which counts as zero. -/
  counter : Amqp.retryCount p.headers = 0

/-- The message of a notification has the identity of the request twice. -/
theorem stamped_messageOf (c : Config) (n : Notification) :
    Stamped n (messageOf c n).properties where
  contentType := ⟨jsonContentType, rfl, isShort_jsonContentType⟩
  correlationId := rfl
  messageId := rfl
  representable := by
    constructor
    · exact fun h => h.correlationId n.requestId rfl
    · intro hshort
      refine ⟨fun text htext => ?_, fun text htext => ?_, fun text htext => ?_⟩
      · exact Option.some.inj htext ▸ isShort_jsonContentType
      · exact Option.some.inj htext ▸ hshort
      · exact Option.some.inj htext ▸ hshort
  counter := rfl

/-- **A published message can be written down if the identity of its request is short, and only
then**, be it the message of a valid request or any that a publisher with any number of callers has
given to its channel. -/
theorem stamped_of_published (c : Config) :
    (∀ n : Notification, n.validate = .ok () → Stamped n (messageOf c n).properties) ∧
    ∀ s, Office.Reachable c s → ∀ job ∈ s.journal.handed, ∃ n st,
      s.calls[job.caller]? = some ⟨n, st⟩ ∧ job.message = messageOf c n ∧
      Stamped n job.message.properties := by
  refine ⟨fun n _ => stamped_messageOf c n, fun s h job hjob => ?_⟩
  obtain ⟨n, st, hcall, hmessage⟩ := h.consistent.own job (h.consistent.handed_prefix.subset hjob)
  exact ⟨n, st, hcall, hmessage, hmessage ▸ stamped_messageOf c n⟩

/-- A publisher that has given the message of a notification to its channel. -/
theorem exists_handed (n : Notification) : ∃ s, Office.Reachable tight s ∧
    s.journal.handed = [⟨0, messageOf tight n⟩] ∧ s.calls = [⟨n, .waiting conclude⟩] := by
  have called := (Office.Reachable.start (c := tight)).step (.begin n rfl)
  have queued := called.step (.enqueue 0 _ _ _ _ rfl rfl)
  have handed := queued.step (.serve .take _ rfl rfl)
  exact ⟨_, handed, rfl, rfl⟩

/-- The message of a reminder is one of those that can be written down. -/
theorem stamped_of_published_reminder : reminder.validate = .ok () ∧
    (messageOf tight reminder).properties.Representable ∧ ∃ s job,
      Office.Reachable tight s ∧ job ∈ s.journal.handed ∧ job.message.properties.Representable ∧
      Amqp.retryCount job.message.properties.headers = 0 := by
  obtain ⟨s, hreachable, hhanded, hcalls⟩ := exists_handed reminder
  have hjob : ⟨0, messageOf tight reminder⟩ ∈ s.journal.handed :=
    hhanded ▸ List.mem_singleton_self _
  have hshort : Amqp.IsShort reminder.requestId := by decide
  obtain ⟨hvalid, hsent⟩ := stamped_of_published tight
  obtain ⟨n, st, hcall, -, hstamped⟩ := hsent s hreachable _ hjob
  rw [hcalls] at hcall
  cases hcall
  exact ⟨rfl, (hvalid reminder rfl).representable.2 hshort, s, _, hreachable, hjob,
    hstamped.representable.2 hshort, hstamped.counter⟩

/-! ### Identities of any length -/

/-- A notification whose identity has a number of octets. -/
def labelled (size : Nat) : Notification :=
  { reminder with requestId := String.ofList (List.replicate size 'r') }

theorem utf8ByteSize_labelled (size : Nat) : (labelled size).requestId.utf8ByteSize = size := by
  have hsize : (String.ofList (List.replicate size 'r')).utf8ByteSize = size := by
    induction size with
    | zero => rfl
    | succ size ih =>
      have hletter : Char.utf8Size 'r' = 1 := rfl
      rw [List.replicate_succ, String.ofList_cons, String.utf8ByteSize_append,
        String.utf8ByteSize_singleton, hletter, ih, Nat.add_comm]
  exact hsize

/-- Validation lets identities of any length pass. -/
theorem validate_labelled (size : Nat) : (labelled (size + 1)).validate = .ok () := by
  have hletter : Text.isBlank 'r' = false := by decide
  have hnamed : Text.isAllBlank (labelled (size + 1)).requestId = false := by
    rw [Text.isAllBlank, labelled, String.toList_ofList, List.replicate_succ, List.all_cons,
      hletter, Bool.false_and]
  rw [Notification.validate, hnamed]
  rfl

/-- A valid request with an identity of 256 octets; its message is given to the channel all the
same. -/
theorem unrepresentable_overlong : (labelled 256).validate = .ok () ∧ ∃ s job,
    Office.Reachable tight s ∧ job ∈ s.journal.handed ∧
    job.message = messageOf tight (labelled 256) ∧ ¬ job.message.properties.Representable := by
  obtain ⟨s, hreachable, hhanded, -⟩ := exists_handed (labelled 256)
  have hlong : ¬ Amqp.IsShort (labelled 256).requestId := by
    rw [Amqp.IsShort, utf8ByteSize_labelled]
    decide
  refine ⟨validate_labelled 255, s, ⟨0, messageOf tight (labelled 256)⟩, hreachable, ?_, rfl, ?_⟩
  · exact hhanded ▸ List.mem_singleton_self _
  · exact mt (stamped_messageOf tight (labelled 256)).representable.1 hlong

end Publishing

end Courier
