import Courier.Proofs.Pipeline.Conservation
import Courier.Proofs.Service.Running

/-!
# The opening of the service

The service sets itself up in the order of its plan and accepts no work before that is done: there
is no consumer before the topology, no delivery before all workers have their consumers, and no
request before the channel of the publisher.

* `Service.Running.Orderly` : what the service promises while it sets itself up.
* `Service.orderly_opening` : **every run keeps these promises.**
-/

namespace Courier

namespace Service

open Dialogue (Path)

/-- What a service promises while it sets itself up. -/
structure Running.Orderly (s : Running) : Prop where
  /-- It takes the steps of its plan, one after the other. -/
  planned : s.past.map Sigma.fst <+: plan s.past
  /-- The first step that fails is the last one, and the service ends with an error. -/
  halts : ∀ before x after, s.past = before ++ x :: after → x.1.failed x.2 = true →
    after = [] ∧ ∃ e, s.rest = .done (.error e)
  /-- There is no consumer before all nine declarations were confirmed. -/
  consumers : ∀ before channel queue tag answer after,
    s.past = before ++ ⟨.broker (.call channel (.basicConsume queue tag)), answer⟩ :: after →
    ∃ c retryArguments, Known s.past c retryArguments ∧
      Confirmed (declarations c (mainQueue s.past) retryArguments) before
  /-- There are no workers, and so nothing is delivered, before the topology was declared and all of
  them were prepared. -/
  workers : ∀ k, s.around.crew = some k → ∃ retryArguments, Known s.past k.config retryArguments ∧
    Confirmed (groundwork k.config (mainQueue s.past) retryArguments) s.past
  /-- No request is accepted before the channel of the publisher was opened and confirms. -/
  requests : ∀ before q answer after, s.past = before ++ ⟨q, answer⟩ :: after →
    q = .serve ∨ (∃ port, q = .bindPort port) → Confirmed publisherPreparation before

variable {s : Running} {past before after : Past} {rest : Life (Except Failure Unit)}

/-- All declarations are confirmed before a consumer is opened. -/
theorem Course.confirmed_declarations (h : Course past rest) {channel : Channel}
    {queue tag : String} {answer : Step.Answer (.broker (.call channel (.basicConsume queue tag)))}
    (hpast : past = before ++
      ⟨.broker (.call channel (.basicConsume queue tag)), answer⟩ :: after) :
    ∃ c retryArguments, Known past c retryArguments ∧
      Confirmed (declarations c (mainQueue past) retryArguments) before := by
  have hmem := h.mem_plan (hpast ▸ List.mem_append_right _ List.mem_cons_self)
  obtain ⟨c, retryArguments, hknown⟩ := exists_known hmem rfl
  have hplan : plan past = (opening c ++ declarations c (mainQueue past) retryArguments) ++
      (.findCredentials :: preparations c (mainQueue past) ++
        ([.startWorkers c] ++ (admission c ++ shutdown c))) := by
    rw [hknown.plan_eq, groundwork]
    simp only [List.append_assoc]
  have hconfirmed := h.confirmed hplan hpast (by
    simp [opening, declarations, Topology.methods, Topology.exchangeMethods,
      Topology.mainQueueMethod, Topology.otherMethods, onSetup])
  exact ⟨c, retryArguments, hknown, fun q hq => hconfirmed q (List.mem_append_right _ hq)⟩

/-- All workers are prepared before they start, with the configuration that was loaded. -/
theorem Course.confirmed_groundwork (h : Course past rest) {c : Config}
    (hpast : past = before ++ ⟨.startWorkers c, ()⟩ :: after) : ∃ retryArguments,
      Known past c retryArguments ∧
      Confirmed (groundwork c (mainQueue past) retryArguments) before := by
  have hmem : Step.startWorkers c ∈ plan past :=
    h.mem_plan (hpast ▸ List.mem_append_right _ List.mem_cons_self)
  obtain ⟨c', retryArguments, hknown⟩ := exists_known hmem rfl
  have hground := not_mem_groundwork (q := .startWorkers c) rfl c' (mainQueue past) retryArguments
  have hconfirmed := h.confirmed hknown.plan_eq hpast hground
  rw [hknown.plan_eq] at hmem
  obtain rfl : c = c' := by
    simpa [hground, admission, shutdown, publisherPreparation] using hmem
  exact ⟨retryArguments, hknown, hconfirmed⟩

/-- Where there are workers, the groundwork is laid for the configuration that they have. -/
theorem Running.Sound.confirmed_groundwork (h : s.Sound) {k : Crew} (hk : s.around.crew = some k) :
    ∃ retryArguments, Known s.past k.config retryArguments ∧
      Confirmed (groundwork k.config (mainQueue s.past) retryArguments) s.past := by
  obtain ⟨before, after, hpast⟩ := List.append_of_mem (h.settled k hk).started
  obtain ⟨retryArguments, hknown, hconfirmed⟩ :=
    (course_of_path h.path).confirmed_groundwork hpast
  refine ⟨retryArguments, hknown, fun q hq => ?_⟩
  obtain ⟨answer, hmem, hok⟩ := hconfirmed q hq
  exact ⟨answer, hpast ▸ List.mem_append_left _ hmem, hok⟩

/-- The channel of the publisher is open before requests are accepted. -/
theorem Course.confirmed_publisher (h : Course past rest) {q : Step} {answer : q.Answer}
    (hpast : past = before ++ ⟨q, answer⟩ :: after) (hq : q = .serve ∨ ∃ port, q = .bindPort port) :
    Confirmed publisherPreparation before := by
  have hearly : q.early = false := by
    rcases hq with rfl | ⟨port, rfl⟩ <;> rfl
  have hmem := h.mem_plan (hpast ▸ List.mem_append_right _ List.mem_cons_self)
  obtain ⟨c, retryArguments, hknown⟩ := exists_known hmem hearly
  have hplan : plan past = (groundwork c (mainQueue past) retryArguments ++
      .startWorkers c :: publisherPreparation) ++
        ([.startPublisher c, .bindPort c.serverPort, .serve] ++ shutdown c) := by
    rw [hknown.plan_eq, admission]
    simp only [List.append_assoc, List.cons_append, List.nil_append]
  have hconfirmed := h.confirmed hplan hpast (by
    rcases hq with rfl | ⟨port, rfl⟩ <;>
      simp [groundwork, opening, declarations, preparations, publisherPreparation, onSetup])
  exact fun q hq => hconfirmed q (List.mem_append_right _ (List.mem_cons_of_mem _ hq))

/-- A setup in which everything has succeeded up to the consumer of the only worker. -/
def prepared : Past :=
  [⟨.loadConfig, .ok Pipeline.modest⟩, ⟨.broker (.connect "amqp://localhost"), .ok ()⟩,
    ⟨.broker (.openChannel .setup), .ok ()⟩, ⟨onSetup (.exchangeDeclare "main"), .ok ()⟩,
    ⟨onSetup (.exchangeDeclare "dead"), .ok ()⟩, ⟨onSetup (.exchangeDeclare "retry"), .ok ()⟩,
    ⟨onSetup (Topology.mainQueueMethod Pipeline.modest.topology), .ok "push"⟩,
    ⟨onSetup (.queueBind "push" "main" "push"), .ok ()⟩,
    ⟨onSetup (.queueDeclare "push.dead" Amqp.durableQueue .empty), .ok "push.dead"⟩,
    ⟨onSetup (.queueBind "push.dead" "dead" "dead"), .ok ()⟩,
    ⟨onSetup (.queueDeclare "push.retry" Amqp.durableQueue
      ((Topology.deadLetterArguments "main" "push").insert Topology.messageTtlArgument
        (.int64 1000))), .ok "push.retry"⟩,
    ⟨onSetup (.queueBind "push.retry" "retry" "again"), .ok ()⟩, ⟨.findCredentials, .ok ()⟩,
    ⟨.broker (.openChannel (.worker 0)), .ok ()⟩,
    ⟨.broker (.call (.worker 0) .confirmSelect), .ok ()⟩,
    ⟨.broker (.call (.worker 0) (.basicQos 1)), .ok ()⟩]

/-- The consumer of the only worker is opened. -/
def consume : Step := .broker (.call (.worker 0) (.basicConsume "push" (Worker.tag 0)))

/-- What comes of the setup depends on that consumer. -/
theorem path_prepared (answer : Except Reason Unit) : Path run (prepared ++ [⟨consume, answer⟩])
    (match answer with
      | .error reason => .done (.error (.workers (.consume "push" reason)))
      | .ok () => serve Pipeline.modest) := by
  cases answer <;>
    exact .ask <| .ask <| .ask <| .ask <| .ask <| .ask <| .ask <| .ask <| .ask <| .ask <| .ask <|
      .ask <| .ask <| .ask <| .ask <| .ask <| .ask <| .refl _

/-- **Every run keeps what the service promises while it sets itself up.** -/
theorem orderly_opening (h : Running.Reachable s) : s.Orderly := by
  have hsound := h.sound
  have hcourse := course_of_path hsound.path
  constructor
  case planned => exact hcourse.planned
  case halts => exact fun before x after => hcourse.halts
  case consumers =>
    exact fun before channel queue tag answer after => hcourse.confirmed_declarations
  case workers => exact fun k => hsound.confirmed_groundwork
  case requests => exact fun before q answer after => hcourse.confirmed_publisher

/-- A setup that fails with the consumer of its worker starts no worker. -/
theorem orderly_opening_refused : ∃ s : Running, s.Reachable ∧ s.past.length = 17 ∧
    s.rest = .done (.error (.workers (.consume "push" none))) ∧ s.around.crew = none ∧
    s.Orderly := by
  have refused := Running.Reachable.start.along (path_prepared (.error none)) (by decide)
  exact ⟨_, refused, rfl, rfl, rfl, orderly_opening refused⟩

end Service

end Courier
