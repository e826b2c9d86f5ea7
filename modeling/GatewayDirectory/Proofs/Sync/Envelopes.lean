import GatewayDirectory.Proofs.Entry
import GatewayDirectory.Proofs.Timed.Limits
import GatewayDirectory.Sync.Envelope

/-!
# What envelopes carry

`e.Carries body p` says how a consumer takes the payload `p` from a message of the frame `e`: as the
whole message, as the JSON text beside the topic, or as a member of the invocation. A save hands
just one message to the transport and ends as its delivery does (`publish_ends_iff`); the message
carries the key, the id and the token of the save and nothing else, and no other save has it
(`messages_lose_nothing`). The text beside a topic is JSON inside a JSON string, and so is escaped
twice; what undoes it is the one round trip that holds of every value.
-/

namespace GatewayDirectory

/-- A payload is told by its object, an empty token being told from none. -/
theorem Payload.toJson_inj {p q : Payload} : p.toJson = q.toJson ↔ p = q := by
  constructor
  · intro h
    have hdecode := p.decode_toJson
    rw [h, q.decode_toJson] at hdecode
    exact (Except.ok.inj hdecode).symm
  · rintro rfl
    rfl

namespace Sync

/-! ## Messages -/

/-- The message, a body of that frame, carries the payload. -/
inductive Envelope.Carries : Envelope → ByteArray → Payload → Prop
  /-- The body is the payload. -/
  | queue {body : ByteArray} {p : Payload} (hpayload : Json.decode Payload.decode body = .ok p) :
      Carries .queue body p
  /-- The body holds the topic and, as a text of its own, the payload. -/
  | topic {body : ByteArray} {p : Payload} {name text : String}
      (hbody : Json.read body =
        some (.object [("topic", .string name), ("message", .string text)]))
      (hpayload : Json.decode Payload.decode text.toUTF8 = .ok p) : Carries (.topic name) body p
  /-- The body asks for a save of the payload. -/
  | function {body : ByteArray} {p : Payload} {payload : Json}
      (hbody : Json.read body = some (.object [("action", .string "save"), ("payload", payload)]))
      (hpayload : Payload.decode payload = .ok p) : Carries .function body p

namespace Envelope

variable {e e' : Envelope} {p p' : Payload}

/-- The text that is written for a payload is decoded as the payload. -/
theorem decode_payload (p : Payload) :
    Json.decode Payload.decode (Json.compact p.toJson).toUTF8 = .ok p := by
  rw [Json.decode_compact Payload.decode p.exact_toJson, p.decode_toJson]

/-- A message is read back as it was written, whatever the frame. -/
theorem exact_message (e : Envelope) (p : Payload) : (e.message p).Exact := by
  cases e with
  | queue => exact p.exact_toJson
  | topic name => simp [message, Json.Exact, Json.ExactMembers]
  | function => simp [message, Json.Exact, Json.ExactMembers, p.exact_toJson]

/-- The bytes of a message are read as the value that it was written from. -/
theorem read_encode (e : Envelope) (p : Payload) :
    Json.read (e.encode p).toUTF8 = some (e.message p) :=
  Json.read_compact (e.exact_message p)

/-- **A message carries its payload.** -/
theorem carries_encode (e : Envelope) (p : Payload) : e.Carries (e.encode p).toUTF8 p := by
  have hread := e.read_encode p
  cases e with
  | queue => exact .queue (decode_payload p)
  | topic name => exact .topic hread (decode_payload p)
  | function => exact .function hread p.decode_toJson

/-- **A message of one frame carries one payload.** -/
theorem Carries.unique {body : ByteArray} (h : e.Carries body p) (h' : e.Carries body p') :
    p = p' := by
  cases h with
  | queue hpayload =>
    obtain ⟨hpayload'⟩ := h'
    exact Except.ok.inj (hpayload.symm.trans hpayload')
  | topic hbody hpayload =>
    obtain - | ⟨hbody', hpayload'⟩ := h'
    -- the body is read as one object, which holds one text
    rw [hbody] at hbody'
    cases hbody'
    exact Except.ok.inj (hpayload.symm.trans hpayload')
  | function hbody hpayload =>
    obtain - | - | ⟨hbody', hpayload'⟩ := h'
    rw [hbody] at hbody'
    cases hbody'
    exact Except.ok.inj (hpayload.symm.trans hpayload')

/-- Frames and payloads are told by their messages: the first member tells the kind of the frame,
and the others tell the rest. -/
theorem message_inj : e.message p = e'.message p' ↔ e = e' ∧ p = p' := by
  constructor
  · intro h
    -- the kinds are told apart by the first member, so that three of the nine cases are left
    cases e with
    | queue =>
      cases e' with
      | queue => exact ⟨rfl, Payload.toJson_inj.1 h⟩
      | topic name => simp [message, Payload.toJson] at h
      | function => simp [message, Payload.toJson] at h
    | topic name =>
      cases e' with
      | queue => simp [message, Payload.toJson] at h
      | topic name' =>
        obtain ⟨rfl, htext⟩ : name = name' ∧ Json.compact p.toJson = Json.compact p'.toJson := by
          simpa [message] using h
        rw [Json.compact_inj p.exact_toJson p'.exact_toJson, Payload.toJson_inj] at htext
        exact ⟨rfl, htext⟩
      | function => simp [message] at h
    | function =>
      cases e' with
      | queue => simp [message, Payload.toJson] at h
      | topic name => simp [message] at h
      | function =>
        have hpayload : p.toJson = p'.toJson := by simpa [message] using h
        exact ⟨rfl, Payload.toJson_inj.1 hpayload⟩
  · rintro ⟨rfl, rfl⟩
    rfl

/-- **Frames and payloads are told by the bytes that are sent.** -/
theorem encode_bytes_inj :
    (e.encode p).toUTF8 = (e'.encode p').toUTF8 ↔ e = e' ∧ p = p' := by
  constructor
  · intro h
    -- what is read from the bytes is one value, whichever message they were written for
    have hread := e.read_encode p
    rw [h, e'.read_encode p'] at hread
    exact message_inj.1 (Option.some.inj hread).symm
  · rintro ⟨rfl, rfl⟩
    rfl

end Envelope

/-! ## Saves -/

/-- **A save is the delivery of one message**: it ends when and as that does, with the same result
and in the same state. -/
theorem publish_ends_iff {σ : Type} (e : Envelope) (t : Transport σ) (key id : String)
    (token : Option String) {start finish : Nat} {s s' : σ} {r : Except SinkError Unit} :
    ((Sink.publish e t).save key id token).Ends start s r finish s' ↔
      (t (e.encode ⟨key, id, token⟩).toUTF8).Ends start s r finish s' := by
  constructor
  · intro h
    obtain ⟨delivered, t₁, s₁, hdelivery, hrest⟩ := h.of_bind
    cases delivered with
    | error err =>
      obtain ⟨rfl, rfl, rfl⟩ := hrest.unique (.pure _ _ _)
      exact hdelivery
    | ok =>
      -- the event that is reported behind the delivery takes no time
      obtain ⟨rfl, rfl, rfl⟩ := hrest.unique ((Timed.Ends.pure _ _ _).reported _)
      exact hdelivery
  · intro h
    cases r with
    | error err => exact h.bind (.pure _ _ _)
    | ok => exact h.bind ((Timed.Ends.pure _ _ _).reported _)

/-- **Messages lose nothing.** A save of any key, id and token, all of them any text and the token
perhaps empty or not there, delivers one message and ends as its delivery does, by whatever
transport. What is carried by that message, read as its frame is read, is exactly that key, id and
token. A save has the same bytes only if its frame is the same, with the same topic, and its key,
its id and its token are. -/
theorem messages_lose_nothing (e : Envelope) (key id : String) (token : Option String) :
    let body := (e.encode ⟨key, id, token⟩).toUTF8
    (∀ (σ : Type) (t : Transport σ) (start finish : Nat) (s s' : σ) (r : Except SinkError Unit),
      ((Sink.publish e t).save key id token).Ends start s r finish s' ↔
        (t body).Ends start s r finish s') ∧
    (∀ p, e.Carries body p ↔ p = ⟨key, id, token⟩) ∧
    ∀ e' key' id' token', (Envelope.encode e' ⟨key', id', token'⟩).toUTF8 = body ↔
      e' = e ∧ key' = key ∧ id' = id ∧ token' = token := by
  intro body
  refine ⟨fun _ t _ _ _ _ _ => publish_ends_iff e t key id token, fun p => ?_, ?_⟩
  · constructor
    · intro h
      exact h.unique (e.carries_encode _)
    · rintro rfl
      exact e.carries_encode _
  · intro e' key' id' token'
    rw [Envelope.encode_bytes_inj, Payload.mk.injEq]

/-- The text beside a topic is escaped once as JSON and once more as a JSON string. -/
example : Envelope.encode (.topic "t") ⟨"\"", "\n", some ""⟩ =
    "\x7b\"topic\":\"t\",\"message\":\"\x7b\\\"gateway_name\\\":\\\"\\\\\\\"\\\"," ++
      "\\\"gateway_id\\\":\\\"\\\\n\\\",\\\"token\\\":\\\"\\\"\x7d\"\x7d" := by
  decide +kernel

end Sync

end GatewayDirectory
