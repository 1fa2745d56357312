import Courier.Proofs.Json.Member
import Courier.Provider.Client
import Courier.Rehearsal.Address

/-!
# One attempt to send a notification

Whatever the token source and the server answer, and however the web makes addresses of texts and
texts of answers, an attempt makes one request or none and ends with one result, which says what has
happened.  Attempts that follow each other know nothing of each other, so that each ends as it would
have ended alone.

* `Provider.Reply.Names` : an answer with the name of a message.
* `Provider.attempt` : an attempt with its result and its requests.
* `Provider.Classified` : what the result and the requests of an attempt have to be.
* `Provider.classified_attempt` : **they are so in every case.**
* `Provider.getElem?_sendEach` : **attempts in a row are attempts on their own.**
* `Provider.sendUrl_of_slashes` : slashes at the end of the base count for nothing.
* `Provider.rejected_of_untyped` : a rejection without a type is told as its octets say.
* `Provider.send_once` : **all this of one sender.**
* `Provider.attempt_of_array` : but a name is taken of an answer that is no object as well.
-/

namespace Courier

namespace Provider

open Json

/-! ### Answers -/

/-- An answer with the name of a message: an object with one member `name`, a text, or an array of
that text alone. -/
def Reply.Names (r : Reply) (id : String) : Prop :=
  ∃ bytes v, r.octets = some bytes ∧ read? bytes = some v ∧
    ((∃ raw members w, v = .object raw ∧ named? raw = some members ∧
        (members.map Prod.fst).count "name" = 1 ∧ ("name", w) ∈ members ∧ w.text? = some id) ∨
      ∃ w, v = .array [w] ∧ w.text? = some id)

variable {reply : Reply} {id : String}

theorem messageName?_eq_some_iff {bytes : Bytes} : messageName? bytes = some id ↔
    ∃ v members w, read? bytes = some v ∧ v.Lists ["name"] members ∧ Once ["name"] members ∧
      ("name", w) ∈ members ∧ w.text? = some id := by
  have hread : ∀ v w, (fields? ["name"] v).bind (fun fields => fields.required? "name" Value.text?)
      = some w ↔ ∃ members, v.Lists ["name"] members ∧ Once ["name"] members ∧
        ∃ u, ("name", u) ∈ members ∧ u.text? = some w := by
    intro v w
    refine fields?_bind_eq_some_iff (by decide) fun fields members hof => ?_
    exact required?_eq_some_iff hof (by decide) fun _ _ => Iff.rfl
  rw [messageName?, Option.bind_eq_some_iff]
  constructor
  · rintro ⟨v, hv, h⟩
    obtain ⟨members, hlists, honce, w, hw, hid⟩ := (hread v id).1 h
    exact ⟨v, members, w, hv, hlists, honce, hw, hid⟩
  · rintro ⟨v, members, w, hv, hlists, honce, hw, hid⟩
    exact ⟨v, hv, (hread v id).2 ⟨members, hlists, honce, w, hw, hid⟩⟩

/-- The name in an answer is read of it. -/
theorem Reply.names_iff : reply.Names id ↔ reply.octets.bind messageName? = some id := by
  rw [Option.bind_eq_some_iff]
  refine ⟨?_, ?_⟩
  · rintro ⟨bytes, v, hbytes, hv, ⟨raw, members, w, rfl, hraw, hcount, hw, hid⟩ | ⟨w, rfl, hid⟩⟩
    · refine ⟨bytes, hbytes, messageName?_eq_some_iff.2
        ⟨_, members, w, hv, Value.lists_object_iff.2 hraw, ?_, hw, hid⟩⟩
      intro name hname
      obtain rfl := List.mem_singleton.1 hname
      exact Nat.le_of_eq hcount
    · exact ⟨bytes, hbytes, messageName?_eq_some_iff.2 ⟨_, [("name", w)], w, hv,
        .inr ⟨[w], rfl, Nat.le_refl 1, rfl⟩, once_zip (by decide) [w], List.mem_singleton.2 rfl, hid⟩⟩
  · rintro ⟨bytes, hbytes, h⟩
    obtain ⟨v, members, w, hv, hlists, honce, hw, hid⟩ := messageName?_eq_some_iff.1 h
    refine ⟨bytes, v, hbytes, hv, ?_⟩
    rcases hlists with ⟨raw, rfl, hraw⟩ | ⟨elements, rfl, hlength, rfl⟩
    · have hpos : 0 < (members.map Prod.fst).count "name" :=
        List.count_pos_iff.2 (List.mem_map_of_mem hw)
      have hcount := honce "name" (List.mem_singleton.2 rfl)
      exact .inl ⟨raw, members, w, rfl, hraw, by omega, hw, hid⟩
    · -- the array has a first element, and no other
      cases elements with
      | nil => cases hw
      | cons u rest =>
        obtain rfl : rest = [] := List.length_eq_zero_iff.1 (by simpa using hlength)
        obtain rfl : w = u := by simpa using hw
        exact .inr ⟨w, rfl, hid⟩

/-! ### Attempts -/

/-- A world with one token source and one server, whose answers may depend on the requests that it
has seen; these are noted in their order. -/
def world (source : Except DeliveryError String) (server : List Request → Request → Option Reply)
    (q : Question) (seen : List Request) : q.Answer × List Request :=
  match q with
  | .accessToken => (source, seen)
  | .post request => (server seen request, seen ++ [request])

/-- An attempt of a sender that has made none before: its result, and its requests. -/
def attempt (web : Web) (source : Except DeliveryError String) (server : Request → Option Reply)
    (a : Account) (token : String) (n : Notification) :
    Except DeliveryError String × List Request :=
  (send web a token n).run (world source fun _ => server) []

/-- What the result and the requests of an attempt have to be. -/
structure Classified (web : Web) (source : Except DeliveryError String)
    (server : Request → Option Reply) (a : Account) (token : String) (n : Notification)
    (outcome : Except DeliveryError String × List Request) : Prop where
  /-- Without a token there is no request. -/
  refused : ∀ e, source = .error e → outcome = (.error e, [])
  /-- There is never more than one. -/
  once : outcome.2.length ≤ 1
  /-- There is none at all if it cannot be written. -/
  unwritten : ∀ bearer, source = .ok bearer →
    (outcome.2 = [] ↔ web.address? a.sendUrl = none ∨ isHeaderValue bearer = false)
  /-- Otherwise it asks for this very notification to be sent. -/
  request : ∀ bearer, source = .ok bearer → ∀ r ∈ outcome.2, web.address? a.sendUrl = some r.url ∧
    r.authorization = "Bearer " ++ bearer ∧ r.payload = payloadOf token n
  /-- A success is an answer with a status of success and the name of the message. -/
  ok_iff : ∀ bearer, source = .ok bearer → ∀ id, outcome.1 = .ok id ↔
    ∃ r ∈ outcome.2, ∃ reply, server r = some reply ∧
      (200 ≤ reply.status ∧ reply.status < 300) ∧ reply.Names id
  /-- A rejection is an answer with any other status. -/
  rejected_iff : ∀ bearer, source = .ok bearer → ∀ status body,
    outcome.1 = .error (.rejected status body) ↔ ∃ r ∈ outcome.2, ∃ reply, server r = some reply ∧
      ¬ (200 ≤ reply.status ∧ reply.status < 300) ∧ reply.status = status ∧
        reply.text web = body
  /-- Everything else is a failure of the transport. -/
  otherwise : ∀ bearer, source = .ok bearer → (∀ id, outcome.1 ≠ .ok id) →
    (∀ status body, outcome.1 ≠ .error (.rejected status body)) →
      outcome.1 = .error (.transport none)

/-! ### What an answer means -/

/-- The result of an attempt for which an answer came, or none. -/
def resultOf (web : Web) : Option Reply → Except DeliveryError String
  | none => .error (.transport none)
  | some reply => reply.result web

variable {web : Web} {answer : Option Reply}

theorem isSuccess_iff {status : UInt16} : isSuccess status = true ↔ 200 ≤ status ∧ status < 300 := by
  simp [isSuccess]

theorem Reply.result_of_success (h : isSuccess reply.status = true) :
    reply.result web = resultOf web none ∨ ∃ id, reply.result web = .ok id := by
  rw [Reply.result, if_pos h]
  cases reply.octets.bind messageName? with
  | none => exact .inl rfl
  | some id => exact .inr ⟨id, rfl⟩

theorem Reply.result_eq_ok_iff (h : isSuccess reply.status = true) :
    reply.result web = .ok id ↔ reply.Names id := by
  rw [Reply.result, if_pos h, names_iff]
  cases reply.octets.bind messageName? with
  | none => exact iff_of_false nofun nofun
  | some id' => simp

theorem Reply.result_of_failure (h : ¬ isSuccess reply.status = true) :
    reply.result web = .error (.rejected reply.status (reply.text web)) := by
  rw [Reply.result, if_neg h]

/-- A success needs an answer with a name. -/
theorem resultOf_eq_ok_iff : resultOf web answer = .ok id ↔
    ∃ reply, answer = some reply ∧ (200 ≤ reply.status ∧ reply.status < 300) ∧ reply.Names id := by
  simp only [← isSuccess_iff]
  constructor
  · intro h
    cases answer with
    | none => cases h
    | some reply =>
      by_cases hstatus : isSuccess reply.status = true
      · exact ⟨reply, rfl, hstatus, (Reply.result_eq_ok_iff hstatus).1 h⟩
      · rw [resultOf, Reply.result_of_failure hstatus] at h
        cases h
  · rintro ⟨reply, rfl, hstatus, hnames⟩
    exact (Reply.result_eq_ok_iff hstatus).2 hnames

/-- A rejection says which answer came. -/
theorem resultOf_eq_rejected_iff {status : UInt16} {body : String} :
    resultOf web answer = .error (.rejected status body) ↔ ∃ reply, answer = some reply ∧
      ¬ (200 ≤ reply.status ∧ reply.status < 300) ∧ reply.status = status ∧
        reply.text web = body := by
  simp only [← isSuccess_iff]
  constructor
  · intro h
    cases answer with
    | none => cases h
    | some reply =>
      by_cases hstatus : isSuccess reply.status = true
      · rcases Reply.result_of_success hstatus with hr | ⟨id, hr⟩
        · rw [resultOf, hr] at h
          cases h
        · rw [resultOf, hr] at h
          cases h
      · rw [resultOf, Reply.result_of_failure hstatus] at h
        cases h
        exact ⟨reply, rfl, hstatus, rfl, rfl⟩
  · rintro ⟨reply, rfl, hstatus, rfl, rfl⟩
    exact Reply.result_of_failure hstatus

/-- There is no third kind of result but a failure of the transport. -/
theorem resultOf_cases (web : Web) (answer : Option Reply) :
    (∃ id, resultOf web answer = .ok id) ∨
    (∃ status body, resultOf web answer = .error (.rejected status body)) ∨
      resultOf web answer = .error (.transport none) := by
  cases answer with
  | none => exact .inr (.inr rfl)
  | some reply =>
    by_cases hstatus : isSuccess reply.status = true
    · rcases Reply.result_of_success hstatus with hr | ⟨id, hr⟩
      · exact .inr (.inr hr)
      · exact .inl ⟨id, hr⟩
    · exact .inr (.inl ⟨_, _, Reply.result_of_failure hstatus⟩)

/-! ### What an attempt does -/

section

variable {source : Except DeliveryError String} {server : Request → Option Reply} {a : Account}
  {token bearer : String} {n : Notification} {r : Request} {payload : Payload}

theorem request?_eq_some_iff : request? web a bearer payload = some r ↔
    web.address? a.sendUrl = some r.url ∧ isHeaderValue bearer = true ∧
      r.authorization = "Bearer " ++ bearer ∧ r.payload = payload := by
  obtain ⟨url, authorization, payload'⟩ := r
  unfold request?
  cases web.address? a.sendUrl with
  | none => simp
  | some url' =>
    by_cases hbearer : isHeaderValue bearer = true
    · simp only [hbearer, if_true, Option.some.injEq, Request.mk.injEq, true_and]
      exact and_congr Iff.rfl (and_congr eq_comm eq_comm)
    · simp [hbearer]

theorem request?_eq_none_iff : request? web a bearer payload = none ↔
    web.address? a.sendUrl = none ∨ isHeaderValue bearer = false := by
  unfold request?
  cases web.address? a.sendUrl with
  | none => simp
  | some url => simp

/-- Without a token nothing is done. -/
theorem attempt_error (web : Web) (e : DeliveryError) (server : Request → Option Reply) (a : Account)
    (token : String) (n : Notification) :
    attempt web (.error e) server a token n = (.error e, []) := rfl

/-- With a token the request is made, if it can be written. -/
theorem run_send_ok (web : Web) (bearer : String)
    (server : List Request → Request → Option Reply) (a : Account) (token : String)
    (n : Notification) (seen : List Request) :
    (send web a token n).run (world (.ok bearer) server) seen =
      (resultOf web ((request? web a bearer (payloadOf token n)).bind (server seen)),
        seen ++ (request? web a bearer (payloadOf token n)).toList) := by
  rw [send, Dialogue.run_ask]
  simp only [world]
  cases request? web a bearer (payloadOf token n) with
  | none =>
    rw [Option.toList_none, List.append_nil]
    rfl
  | some r =>
    change Dialogue.run _ (match server seen r with
      | none => .done (.error (.transport none))
      | some reply => .done (reply.result web)) (seen ++ [r]) =
        (resultOf web (server seen r), seen ++ [r])
    cases server seen r with
    | none => rfl
    | some reply => rfl

theorem attempt_ok (web : Web) (bearer : String) (server : Request → Option Reply) (a : Account)
    (token : String) (n : Notification) : attempt web (.ok bearer) server a token n =
      (resultOf web ((request? web a bearer (payloadOf token n)).bind server),
        (request? web a bearer (payloadOf token n)).toList) := by
  rw [attempt, run_send_ok, List.nil_append]

theorem classified_error (e : DeliveryError) : Classified web (.error e) server a token n
    (.error e, []) where
  refused e' h := by
    cases h
    rfl
  once := Nat.zero_le 1
  unwritten _ h := by cases h
  request _ h := by cases h
  ok_iff _ h := by cases h
  rejected_iff _ h := by cases h
  otherwise _ h := by cases h

/-- What is asked of the request that was made and of its answer is asked of the answer that came. -/
theorem exists_answer_iff {o : Option Request} {P : Reply → Prop} :
    (∃ r ∈ o.toList, ∃ reply, server r = some reply ∧ P reply) ↔
      ∃ reply, o.bind server = some reply ∧ P reply := by
  cases o with
  | none => simp
  | some r => simp

theorem classified_ok {o : Option Request} (ho : request? web a bearer (payloadOf token n) = o) :
    Classified web (.ok bearer) server a token n (resultOf web (o.bind server), o.toList) where
  refused e h := by cases h
  once := by
    cases o with
    | none => exact Nat.zero_le 1
    | some r => exact Nat.le_refl 1
  unwritten _ h := by
    cases h
    rw [Option.toList_eq_nil_iff, ← ho, request?_eq_none_iff]
  request _ h r hr := by
    cases h
    obtain rfl := Option.mem_toList.1 hr
    obtain ⟨hurl, -, hauthorization, hpayload⟩ := request?_eq_some_iff.1 ho
    exact ⟨hurl, hauthorization, hpayload⟩
  ok_iff _ _ id := by rw [exists_answer_iff, resultOf_eq_ok_iff]
  rejected_iff _ _ status body := by rw [exists_answer_iff, resultOf_eq_rejected_iff]
  otherwise _ _ hok hrejected := by
    rcases resultOf_cases web (o.bind server) with ⟨id, h⟩ | ⟨status, body, h⟩ | h
    · exact absurd h (hok id)
    · exact absurd h (hrejected status body)
    · exact h

/-- **The result and the requests of an attempt are what they have to be in every case.** -/
theorem classified_attempt (web : Web) (source : Except DeliveryError String)
    (server : Request → Option Reply) (a : Account) (token : String) (n : Notification) :
    Classified web source server a token n (attempt web source server a token n) := by
  cases source with
  | error e =>
    rw [attempt_error]
    exact classified_error e
  | ok bearer =>
    rw [attempt_ok]
    exact classified_ok rfl

end

/-! ### Attempts in a row -/

/-- Notifications that are sent one after the other. -/
def sendEach (web : Web) (a : Account) : List (String × Notification) →
    Dialogue Question Question.Answer (List (Except DeliveryError String))
  | [] => .done []
  | job :: rest => (send web a job.1 job.2).bind fun result =>
      (sendEach web a rest).bind fun results => .done (result :: results)

section

variable (web : Web) (source : Except DeliveryError String)
  (server : List Request → Request → Option Reply) (a : Account)

/-- What was done before does not show in an attempt: it ends as it would have ended alone, with
the answers that the server gives by now. -/
theorem run_send (token : String) (n : Notification) (seen : List Request) :
    (send web a token n).run (world source server) seen =
      ((attempt web source (server seen) a token n).1,
        seen ++ (attempt web source (server seen) a token n).2) := by
  cases source with
  | error e =>
    rw [attempt_error, List.append_nil]
    rfl
  | ok bearer => rw [run_send_ok, attempt_ok]

theorem run_sendEach_cons (job : String × Notification) (rest : List (String × Notification))
    (seen : List Request) :
    (sendEach web a (job :: rest)).run (world source server) seen =
      (((send web a job.1 job.2).run (world source server) seen).1 ::
          ((sendEach web a rest).run (world source server)
            ((send web a job.1 job.2).run (world source server) seen).2).1,
        ((sendEach web a rest).run (world source server)
          ((send web a job.1 job.2).run (world source server) seen).2).2) := by
  rw [sendEach, Dialogue.run_bind, Dialogue.run_bind, Dialogue.run_done]

/-- **Attempts in a row are attempts on their own.** -/
theorem getElem?_sendEach (jobs : List (String × Notification)) (i : Nat) (seen : List Request) :
    ((sendEach web a jobs).run (world source server) seen).1[i]? = jobs[i]?.map fun job =>
      (attempt web source (server ((sendEach web a (jobs.take i)).run (world source server) seen).2) a
        job.1 job.2).1 := by
  induction jobs generalizing i seen with
  | nil => rfl
  | cons job rest ih =>
    rw [run_sendEach_cons]
    cases i with
    | zero =>
      rw [List.getElem?_cons_zero, List.getElem?_cons_zero, Option.map_some, run_send]
      rfl
    | succ i =>
      rw [List.getElem?_cons_succ, List.getElem?_cons_succ, List.take_succ_cons,
        run_sendEach_cons, ih]

end

/-! ### Where messages are sent to -/

/-- Slashes in a row. -/
def slashes (k : Nat) : String := String.ofList (List.replicate k '/')

/-- The part of the base URL that counts. -/
def Account.base (a : Account) : String :=
  String.ofList (Text.dropRightWhile (· == '/') a.baseUrl.toList)

theorem Account.baseUrl_eq (a : Account) : ∃ k, a.baseUrl = a.base ++ slashes k := by
  have hslashes : ∀ c ∈ (a.baseUrl.toList.reverse.takeWhile (· == '/')).reverse, c = '/' := by
    intro c hc
    exact eq_of_beq (List.all_eq_true.1 List.all_takeWhile c (List.mem_reverse.1 hc))
  refine ⟨(a.baseUrl.toList.reverse.takeWhile (· == '/')).reverse.length, ?_⟩
  rw [slashes, base, ← String.ofList_append, ← List.eq_replicate_of_mem hslashes,
    Text.dropRightWhile_append_takeWhile, String.ofList_toList]

theorem Account.getLast?_base (a : Account) : a.base.toList.getLast? ≠ some '/' := by
  intro h
  rw [base, String.toList_ofList, Text.dropRightWhile, List.getLast?_reverse] at h
  have hnot := List.head?_dropWhile_not (· == '/') a.baseUrl.toList.reverse
  rw [h] at hnot
  exact absurd hnot (by decide)

/-- Slashes at the end of the base count for nothing. -/
theorem sendUrl_of_slashes (a : Account) (k : Nat) :
    Account.sendUrl { a with baseUrl := a.baseUrl ++ slashes k } = a.sendUrl := by
  have hslashes : ∀ c ∈ List.replicate k '/', (c == '/') = true := by
    intro c hc
    rw [(List.mem_replicate.1 hc).2]
    rfl
  simp only [Account.sendUrl, slashes, String.toList_append, String.toList_ofList,
    Text.dropRightWhile_append hslashes]

/-! ### The sender -/

/-- The body of a rejection without a type is told as every web reads it. -/
theorem rejected_of_untyped {source : Except DeliveryError String} {server : Request → Option Reply}
    {a : Account} {token bearer : String} {n : Notification} {r : Request} {octets : Bytes}
    (hweb : web.Documented) (hsource : source = .ok bearer)
    (hr : r ∈ (attempt web source server a token n).2) (hreply : server r = some reply)
    (hstatus : ¬ (200 ≤ reply.status ∧ reply.status < 300))
    (hcontent : reply.content = some ⟨none, octets⟩) :
    (attempt web source server a token n).1 =
      .error (.rejected reply.status (Text.ofBytes octets)) := by
  have htext : reply.text web = Text.ofBytes octets := by
    rw [Reply.text, hcontent, Option.map_some, hweb.untyped, Option.getD_some]
  have hclassified := classified_attempt web source server a token n
  exact (hclassified.rejected_iff bearer hsource _ _).2 ⟨r, hr, reply, hreply, hstatus, rfl, htext⟩

/-- **What a sender does.**  Every attempt makes at most one request and has the one result that fits
what the token source and the server said; the requests go to the base without slashes at its end,
however many there are; and no attempt shows in the ones after it.  All this holds with any web; with
a web as it is documented, a rejection without a type is told as its octets say. -/
theorem send_once (web : Web) (a : Account) :
    (∀ source server token n,
      Classified web source server a token n (attempt web source server a token n)) ∧
    (∃ base k, a.baseUrl = base ++ slashes k ∧ base.toList.getLast? ≠ some '/' ∧
      a.sendUrl = base ++ "/v1/projects/" ++ a.project ++ "/messages:send") ∧
    (∀ k, Account.sendUrl { a with baseUrl := a.baseUrl ++ slashes k } = a.sendUrl) ∧
    (∀ source server jobs i,
      ((sendEach web a jobs).run (world source server) []).1[i]? = jobs[i]?.map fun job =>
        (attempt web source
          (server ((sendEach web a (jobs.take i)).run (world source server) []).2) a
          job.1 job.2).1) ∧
    (web.Documented → ∀ source server token n bearer r reply octets, source = .ok bearer →
      r ∈ (attempt web source server a token n).2 → server r = some reply →
      ¬ (200 ≤ reply.status ∧ reply.status < 300) → reply.content = some ⟨none, octets⟩ →
        (attempt web source server a token n).1 =
          .error (.rejected reply.status (Text.ofBytes octets))) := by
  refine ⟨fun source server token n => classified_attempt web source server a token n, ?_,
    sendUrl_of_slashes a,
    fun source server jobs i => getElem?_sendEach web source server a jobs i [],
    fun hweb _ _ _ _ _ _ _ _ => rejected_of_untyped hweb⟩
  obtain ⟨k, hk⟩ := a.baseUrl_eq
  exact ⟨a.base, k, hk, a.getLast?_base, rfl⟩

/-- A notification that says no more than it has to. -/
def bare : Notification := ⟨.push, none, none, "", .none, "r1", 0, .empty⟩

/-- Where it is sent to. -/
def nearby : Account := ⟨"http://127.0.0.1:8080//", "p"⟩

/-- A request can be made to it. -/
theorem exists_request_nearby :
    ∃ r, request? Rehearsal.web nearby "b" (payloadOf "t" bare) = some r := by
  refine Option.ne_none_iff_exists'.1 fun h => ?_
  rcases request?_eq_none_iff.1 h with hurl | hbearer
  · exact absurd hurl (by decide +kernel)
  · exact absurd hbearer (by decide)

/-- The web of a rehearsal reads what has no type as every web does. -/
theorem documented_web : Rehearsal.web.Documented where
  untyped _ := rfl

/-- A message is accepted under its name, after one request; and one that is not found is rejected
with the words of the answer. -/
theorem send_once_nearby :
    (∃ r, attempt Rehearsal.web (.ok "b")
      (fun _ => some ⟨200, some (Value.record [("name", .text "m1")]).render⟩) nearby "t" bare =
        (.ok "m1", [r])) ∧
    Rehearsal.web.Documented ∧
    (attempt Rehearsal.web (.ok "b") (fun _ => some ⟨404, some (Utf8.ofString "né")⟩) nearby
      "t" bare).1 = .error (.rejected 404 "né") := by
  obtain ⟨hclassified, -, -, -, huntyped⟩ := send_once Rehearsal.web nearby
  -- one request is made, whatever the server answers
  have hmade (server : Request → Option Reply) :
      ∃ r, (attempt Rehearsal.web (.ok "b") server nearby "t" bare).2 = [r] := by
    have h := hclassified (.ok "b") server "t" bare
    refine List.length_eq_one_iff.1 (Nat.le_antisymm h.once (List.length_pos_iff.2 fun hnone => ?_))
    obtain ⟨r, hr⟩ := exists_request_nearby
    rw [request?_eq_none_iff.2 ((h.unwritten "b" rfl).1 hnone)] at hr
    cases hr
  refine ⟨?_, documented_web, ?_⟩
  · have hformed : ∀ m ∈ [("name", Value.text "m1")], m.2.WellFormed :=
      List.forall_mem_singleton.2 (enclosed_quote "m1")
    have hnames : Reply.Names ⟨200, some (Value.record [("name", .text "m1")]).render⟩ "m1" :=
      ⟨_, _, rfl, read?_record hformed, .inl ⟨_, [("name", .text "m1")], .text "m1", rfl,
        named?_quote _, by decide, List.mem_singleton.2 rfl, unquote?_quote "m1"⟩⟩
    obtain ⟨r, hr⟩ := hmade fun _ => some ⟨200, some (Value.record [("name", .text "m1")]).render⟩
    have hresult := ((hclassified _ _ _ _).ok_iff "b" rfl "m1").2
      ⟨r, hr ▸ List.mem_singleton_self r, _, rfl, by decide, hnames⟩
    exact ⟨r, Prod.ext hresult hr⟩
  · obtain ⟨r, hr⟩ := hmade fun _ => some ⟨404, some (Utf8.ofString "né")⟩
    have hresult := huntyped documented_web (.ok "b") _ "t" bare "b" r _ (Utf8.ofString "né") rfl
      (hr ▸ List.mem_singleton_self r) rfl (by decide) rfl
    have htext : Text.ofBytes (Utf8.ofString "né") = "né" := by decide +kernel
    rw [hresult, htext]

/-- An answer that is an array of one text has no member `name`, but the text is taken for it. -/
theorem attempt_of_array :
    (∀ raw, read? (Value.array [.text "arr"]).render ≠ some (.object raw)) ∧
      (attempt Rehearsal.web (.ok "b")
        (fun _ => some ⟨200, some (Value.array [.text "arr"]).render⟩) nearby "t" bare).1 =
          .ok "arr" := by
  have hread : read? (Value.array [.text "arr"]).render = some (.array [.text "arr"]) :=
    read?_render ⟨enclosed_quote "arr", trivial⟩
  have hnames : Reply.Names ⟨200, some (Value.array [.text "arr"]).render⟩ "arr" :=
    ⟨_, _, rfl, hread, .inr ⟨_, rfl, unquote?_quote "arr"⟩⟩
  refine ⟨fun raw h => ?_, ?_⟩
  · rw [hread] at h
    cases h
  · obtain ⟨r, hr⟩ := exists_request_nearby
    rw [attempt_ok, resultOf_eq_ok_iff]
    exact ⟨_, Option.bind_eq_some_iff.2 ⟨r, hr, rfl⟩, by decide, hnames⟩

end Provider

end Courier
