/- module: DddBoilerplate/Messaging/Transport
   generality: I
   digest: From a published event to the message a broker carries, and what of the envelope survives. -/

import DddBoilerplate.Domain.Calendar
import DddBoilerplate.Messaging.Outbox

set_option autoImplicit false
set_option relaxedAutoImplicit false
set_option linter.all false

namespace DddBoilerplate.Messaging.Transport

open Calendar Outbox

section Append

/-- An event of the domain: the fields every event has, and its own ones, each with the text
JSON gives its value. -/
structure OutboxEvent where
  name : String
  eventId : String
  occurredAt : Nat
  version : Option Nat
  correlationId : Option String
  causationId : Option String
  headers : Option Headers
  fields : List (String × String)

structure RequestContext where
  tenantId : Option String
  companyId : Option String
  correlationId : Option String

/-- An object literal's `[name]: value` after the entries before it. -/
def Headers.put (headers : Headers) (name value : String) : Headers :=
  headers.filter (fun entry => entry.1 ≠ name) ++ [(name, value)]

/-- `...(value ? { [name]: value } : {})` -/
def Headers.putTruthy (headers : Headers) (name : String) (value : Option String) : Headers :=
  match value with
  | some text => if text ≠ "" then Headers.put headers name text else headers
  | none => headers

def brokerName : BrokerTarget → String
  | .rabbitmq => "rabbitmq"
  | .kafka => "kafka"
  | .sqs => "sqs"

/-- The fields that are columns of their own. -/
def envelopeOnly : List String :=
  ["eventId", "version", "correlationId", "causationId", "occurredAt", "headers"]

def OutboxEvent.toPayload (event : OutboxEvent) : String :=
  let kept := event.fields.filter fun field => field.1 ∉ envelopeOnly
  let entries := kept ++ [("occurredAt", "\"" ++ toISOString event.occurredAt ++ "\"")]
  "\x7b" ++ Text.join "," (entries.map fun entry => "\"" ++ entry.1 ++ "\":" ++ entry.2) ++ "\x7d"

/-- `AppendOutboxEventUseCase.execute` -/
def appendOutboxEvent (context : Option RequestContext) (event : OutboxEvent)
    (aggregateType aggregateId : String) (target : Option BrokerTarget) :
    AppendOutboxEventRequest :=
  let broker := target.getD defaultBrokerTarget
  let tenantId := context.bind (·.tenantId)
  let companyId := context.bind (·.companyId)
  let correlationId := (context.bind (·.correlationId)).orElse fun _ => event.correlationId
  let own := Headers.put (event.headers.getD []) "event-id" event.eventId
  let traced := Headers.putTruthy (Headers.putTruthy own "correlation-id" correlationId)
    "causation-id" event.causationId
  let complete := Headers.putTruthy (Headers.putTruthy traced "tenant-id" tenantId)
    "company-id" companyId
  { tenantId := tenantId
    companyId := companyId
    eventId := event.eventId
    eventType := event.name
    eventVersion := some (event.version.getD 1)
    aggregateType := aggregateType
    aggregateId := aggregateId
    payload := event.toPayload
    occurredAt := some event.occurredAt
    correlationId := correlationId
    causationId := event.causationId
    headers := some (Headers.put complete "broker" (brokerName broker))
    nextRetryAt := some event.occurredAt }

end Append

section Wire

/-- A value of a decoded message; the payload is kept as the text of its JSON. -/
inductive JsonValue where
  | null
  | text (value : String)
  | number (value : Nat)
  | document (text : String)
  | record (entries : Headers)
  deriving DecidableEq

abbrev JsonObject := List (String × JsonValue)

/-- What a consumer makes of `message.name`: `null` and a missing field are both nothing to it. -/
def JsonObject.read (object : JsonObject) (name : String) : Option JsonValue :=
  (object.lookup name).filter fun value => value ≠ .null

def ofOption : Option String → JsonValue
  | some value => .text value
  | none => .null

/-- The envelope the in-process bus emits. -/
def toObject (envelope : OutboxEnvelope) : JsonObject :=
  [("eventId", .text envelope.eventId),
    ("eventType", .text envelope.eventType),
    ("eventVersion", .number envelope.eventVersion),
    ("tenantId", ofOption envelope.tenantId),
    ("companyId", ofOption envelope.companyId),
    ("aggregateType", .text envelope.aggregateType),
    ("aggregateId", .text envelope.aggregateId),
    ("payload", .document envelope.payload),
    ("headers", envelope.headers.elim .null .record),
    ("occurredAt", .text (toISOString envelope.occurredAt)),
    ("correlationId", ofOption envelope.correlationId),
    ("causationId", ofOption envelope.causationId),
    ("broker", .text (brokerName envelope.broker))]

/-- What a broker is handed; the bodies are what their JSON decodes to. -/
inductive Publication where
  | amqp (exchange routingKey : String) (body : JsonObject) (persistent : Bool) (headers : Headers)
  | kafka (topic key : String) (value : JsonObject)
  | sqs (producer id : String) (body : JsonObject)
  deriving DecidableEq

def Publication.body : Publication → JsonObject
  | amqp _ _ body _ _ => body
  | kafka _ _ value => value
  | sqs _ _ body => body

structure BrokerConfig where
  exchange : String
  kafkaBrokers : List String
  sqsUrl : String

/-- The object all three adapters write out. -/
def published (envelope : OutboxEnvelope) : JsonObject :=
  [("eventId", .text envelope.eventId),
    ("eventType", .text envelope.eventType),
    ("aggregateType", .text envelope.aggregateType),
    ("aggregateId", .text envelope.aggregateId),
    ("payload", .document envelope.payload),
    ("headers", .record (envelope.headers.getD [])),
    ("occurredAt", .text (toISOString envelope.occurredAt))]

/-- `RabbitMQPublisherAdapter.publish` -/
def rabbitMqPublish (config : BrokerConfig) (envelope : OutboxEnvelope) : Publication :=
  .amqp config.exchange envelope.eventType (published envelope) true (envelope.headers.getD [])

/-- `KafkaPublisherAdapter.publish` -/
def kafkaPublish (envelope : OutboxEnvelope) : Publication :=
  .kafka envelope.eventType envelope.aggregateId (published envelope)

/-- `SqsPublisherAdapter.publish` -/
def sqsPublish (config : BrokerConfig) (envelope : OutboxEnvelope) : Except String Publication :=
  if config.sqsUrl = "" then
    .error "SQS broker target requested but SQS_URL is not configured"
  else .ok (.sqs "producer1" envelope.eventId (published envelope))

/-- `PublishMessageUseCase.execute` -/
def publishMessage (config : BrokerConfig) (envelope : OutboxEnvelope) :
    Except String Publication :=
  match envelope.broker with
  | .rabbitmq => .ok (rabbitMqPublish config envelope)
  | .kafka =>
    if config.kafkaBrokers.length = 0 then
      .error "Kafka broker target requested but KAFKA_BROKERS is not configured"
    else .ok (kafkaPublish envelope)
  | .sqs =>
    if config.sqsUrl = "" then
      .error "SQS broker target requested but SQS_URL is not configured"
    else sqsPublish config envelope

/-- A target no message leaves for. -/
def BrokerConfig.Unconfigured (config : BrokerConfig) (broker : BrokerTarget) : Prop :=
  broker = .kafka ∧ config.kafkaBrokers = [] ∨ broker = .sqs ∧ config.sqsUrl = ""

theorem body_of_publishMessage {config : BrokerConfig} {envelope : OutboxEnvelope}
    {publication : Publication} (h : publishMessage config envelope = .ok publication) :
    publication.body = published envelope := by
  simp only [publishMessage, sqsPublish] at h
  split at h
  · obtain rfl := Except.ok.inj h
    rfl
  · split at h
    · cases h
    · obtain rfl := Except.ok.inj h
      rfl
  · split at h
    · cases h
    · obtain rfl := Except.ok.inj h
      rfl

theorem publishes_iff (config : BrokerConfig) (envelope : OutboxEnvelope) :
    (∃ publication, publishMessage config envelope = .ok publication) ↔
      ¬ config.Unconfigured envelope.broker := by
  simp only [publishMessage, sqsPublish, BrokerConfig.Unconfigured]
  cases envelope.broker with
  | rabbitmq => simp
  | kafka =>
    by_cases hbrokers : config.kafkaBrokers = []
    · simp [hbrokers]
    · simp [hbrokers]
  | sqs =>
    by_cases hurl : config.sqsUrl = ""
    · simp [hurl]
    · simp [hurl]

end Wire

section Survival

/-- The fields a listener trusts. -/
def envelopeFields : List String :=
  ["eventId", "eventType", "eventVersion", "tenantId", "companyId", "aggregateType",
    "aggregateId", "payload", "correlationId", "causationId", "occurredAt"]

/-- The ones the adapters write out. -/
def carriedFields : List String :=
  ["eventId", "eventType", "aggregateType", "aggregateId", "payload", "occurredAt"]

/-- The decoded message has every trusted field as the in-process envelope has it. -/
def SameEnvelope (body : JsonObject) (envelope : OutboxEnvelope) : Prop :=
  ∀ name ∈ envelopeFields,
    JsonObject.read body name = JsonObject.read (toObject envelope) name

instance (body : JsonObject) (envelope : OutboxEnvelope) :
    Decidable (SameEnvelope body envelope) :=
  inferInstanceAs (Decidable (∀ name ∈ envelopeFields, _ = _))

theorem read_ofOption_eq_none (value : Option String) :
    Option.filter (fun value => value ≠ .null) (some (ofOption value)) = none ↔ value = none := by
  cases value with
  | none => simp [ofOption, Option.filter]
  | some text => simp [ofOption, Option.filter]

theorem read_carried (envelope : OutboxEnvelope) {name : String} (hname : name ∈ carriedFields) :
    JsonObject.read (published envelope) name = JsonObject.read (toObject envelope) name := by
  simp only [carriedFields, List.mem_cons, List.not_mem_nil, or_false] at hname
  rcases hname with rfl | rfl | rfl | rfl | rfl | rfl <;> rfl

theorem read_dropped (envelope : OutboxEnvelope) {name : String} (hname : name ∈ envelopeFields)
    (hdropped : name ∉ carriedFields) : JsonObject.read (published envelope) name = none := by
  simp only [envelopeFields, List.mem_cons, List.not_mem_nil, or_false] at hname
  rcases hname with rfl | rfl | rfl | rfl | rfl | rfl | rfl | rfl | rfl | rfl | rfl
  all_goals first
    | rfl
    | exact absurd (by decide) hdropped

/-- A field survives the broker exactly when the adapters write it or there is nothing in it. -/
theorem survives_iff {config : BrokerConfig} {envelope : OutboxEnvelope}
    {publication : Publication} (h : publishMessage config envelope = .ok publication)
    {name : String} (hname : name ∈ envelopeFields) :
    JsonObject.read publication.body name = JsonObject.read (toObject envelope) name ↔
      name ∈ carriedFields ∨ JsonObject.read (toObject envelope) name = none := by
  rw [body_of_publishMessage h]
  by_cases hcarried : name ∈ carriedFields
  · exact ⟨fun _ => .inl hcarried, fun _ => read_carried envelope hcarried⟩
  · rw [read_dropped envelope hname hcarried]
    constructor
    · intro hsame
      exact .inr hsame.symm
    · intro hnone
      exact (hnone.resolve_left hcarried).symm

/-- The version is a number on every row, and no adapter writes it. -/
theorem not_sameEnvelope {config : BrokerConfig} {envelope : OutboxEnvelope}
    {publication : Publication} (h : publishMessage config envelope = .ok publication) :
    ¬ SameEnvelope publication.body envelope := by
  intro hsame
  have hversion := (survives_iff h (by decide)).1 (hsame "eventVersion" (by decide))
  rcases hversion with hcarried | hnone
  · exact absurd hcarried (by decide)
  · cases hnone

theorem lookup_put_self (headers : Headers) (name value : String) :
    (Headers.put headers name value).lookup name = some value := by
  simp only [Headers.put]
  induction headers with
  | nil => simp
  | cons entry headers ih =>
    obtain ⟨key, old⟩ := entry
    by_cases hkey : key = name
    · simpa [hkey] using ih
    · rw [List.filter_cons_of_pos (by simpa using hkey), List.cons_append, List.lookup_cons]
      have hne : (name == key) = false := by simpa using fun h => hkey h.symm
      simpa [hne] using ih

/-- The row of an appended event is sent to the broker its caller named. -/
theorem broker_of_appendOutboxEvent (context : Option RequestContext) (event : OutboxEvent)
    (aggregateType aggregateId : String) (target : Option BrokerTarget) (id : String)
    (now createdAt : Nat) :
    ((appendOutboxEvent context event aggregateType aggregateId target).toRow id now
      createdAt).toEnvelope.broker = target.getD defaultBrokerTarget := by
  simp only [EventColumns.toEnvelope, EventColumns.resolveBroker, EventColumns.header?,
    AppendOutboxEventRequest.toRow, appendOutboxEvent, Option.bind_some, lookup_put_self]
  cases target.getD defaultBrokerTarget with
  | rabbitmq => rfl
  | kafka => rfl
  | sqs => rfl

/-- Whatever is appended, in whatever context and for whatever broker: the message carries the
in-process envelope only if none is sent at all. -/
theorem carries_envelope_iff_unconfigured (config : BrokerConfig)
    (context : Option RequestContext) (event : OutboxEvent) (aggregateType aggregateId : String)
    (target : Option BrokerTarget) (id : String) (now createdAt : Nat) :
    (∀ publication, publishMessage config ((appendOutboxEvent context event aggregateType
        aggregateId target).toRow id now createdAt).toEnvelope = .ok publication →
      SameEnvelope publication.body ((appendOutboxEvent context event aggregateType
        aggregateId target).toRow id now createdAt).toEnvelope) ↔
      config.Unconfigured (target.getD defaultBrokerTarget) := by
  rw [← broker_of_appendOutboxEvent context event aggregateType aggregateId target id now
    createdAt]
  constructor
  · intro hsame
    by_contra hconfigured
    obtain ⟨publication, hpublished⟩ := (publishes_iff config _).2 hconfigured
    exact not_sameEnvelope hpublished (hsame publication hpublished)
  · intro hunconfigured publication hpublished
    exact absurd hunconfigured ((publishes_iff config _).1 ⟨publication, hpublished⟩)

end Survival

section Listener

/-- What the listener of a broker's message takes from it for the inbox and for its context. -/
structure Received where
  tenantId : Option JsonValue
  companyId : Option JsonValue
  messageId : Option JsonValue
  correlationId : Option JsonValue
  causationId : Option JsonValue
  deriving DecidableEq

/-- `message.tenantId ?? ''` and its like, as `onRecurringOccurrenceRequested` reads them. -/
def received (message : JsonObject) : Received where
  tenantId := (JsonObject.read message "tenantId").orElse fun _ => some (.text "")
  companyId := (JsonObject.read message "companyId").orElse fun _ => some (.text "")
  messageId := JsonObject.read message "eventId"
  correlationId := JsonObject.read message "correlationId"
  causationId := JsonObject.read message "causationId"

theorem read_tenantId (envelope : OutboxEnvelope) :
    JsonObject.read (toObject envelope) "tenantId" = envelope.tenantId.map .text := by
  change Option.filter _ (some (ofOption envelope.tenantId)) = _
  cases envelope.tenantId <;> simp [ofOption, Option.filter]

theorem read_companyId (envelope : OutboxEnvelope) :
    JsonObject.read (toObject envelope) "companyId" = envelope.companyId.map .text := by
  change Option.filter _ (some (ofOption envelope.companyId)) = _
  cases envelope.companyId <;> simp [ofOption, Option.filter]

/-- The listener knows the event by the same identity, but by no tenant and no company. -/
theorem received_published (envelope : OutboxEnvelope) :
    (received (published envelope)).messageId = (received (toObject envelope)).messageId ∧
      ((received (published envelope)).tenantId = (received (toObject envelope)).tenantId ↔
        envelope.tenantId.getD "" = "") ∧
      ((received (published envelope)).companyId = (received (toObject envelope)).companyId ↔
        envelope.companyId.getD "" = "") := by
  have htenant : JsonObject.read (published envelope) "tenantId" = none := rfl
  have hcompany : JsonObject.read (published envelope) "companyId" = none := rfl
  refine ⟨rfl, ?_, ?_⟩
  · simp only [received, htenant, read_tenantId]
    cases envelope.tenantId with
    | none => simp
    | some tenantId => simp [eq_comm]
  · simp only [received, hcompany, read_companyId]
    cases envelope.companyId with
    | none => simp
    | some companyId => simp [eq_comm]

end Listener

section Example

/-- An approval that tenant `t1` and company `c1` publish. -/
def approved : OutboxEvent where
  name := "PurchaseOrderApproved"
  eventId := "e1"
  occurredAt := 1700000000000
  version := some 1
  correlationId := none
  causationId := none
  headers := none
  fields := [("purchaseOrderId", "\"po-1\"")]

def approvedEnvelope : OutboxEnvelope :=
  ((appendOutboxEvent (some ⟨some "t1", some "c1", none⟩) approved "PurchaseOrder" "po-1"
    none).toRow "m1" 1700000000000 1700000000000).toEnvelope

/-- RabbitMQ delivers the approval without its version, its tenant and its company. -/
theorem broker_drops_context : ∃ publication,
    publishMessage ⟨"erp.events", [], ""⟩ approvedEnvelope = .ok publication ∧
      JsonObject.read publication.body "eventVersion" = none ∧
      JsonObject.read (toObject approvedEnvelope) "eventVersion" = some (.number 1) ∧
      JsonObject.read publication.body "tenantId" = none ∧
      JsonObject.read (toObject approvedEnvelope) "tenantId" = some (.text "t1") ∧
      ¬ SameEnvelope publication.body approvedEnvelope :=
  ⟨rabbitMqPublish ⟨"erp.events", [], ""⟩ approvedEnvelope, rfl, rfl, rfl, rfl, rfl, by decide⟩

end Example

end DddBoilerplate.Messaging.Transport
