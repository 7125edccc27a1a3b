import Bitmonie.ByteText
import Bitmonie.Collection
import Bitmonie.CollateralWebhook
import Bitmonie.JsonGrammar

/-! The signature of a collateral webhook: `id.timestamp.body` under one code, with nothing
that says where the parts end. Another division of a signed text is accepted; its body is no
object. HMAC-SHA256 is a parameter, and so is what `JSON.parse` and the schema make of a body. -/
namespace Bitmonie.BlinkProvider
open BlinkWebhook WebhooksLogService

def svixToleranceSeconds : Int := 300

structure BlinkWebhookHeaders where
  svixId : String
  svixTimestamp : String
  svixSignature : String

def strWhiteSpace : List Nat :=
  [9, 10, 11, 12, 13, 32, 0xA0, 0x1680, 0x2000, 0x2001, 0x2002, 0x2003, 0x2004, 0x2005, 0x2006,
    0x2007, 0x2008, 0x2009, 0x200A, 0x2028, 0x2029, 0x202F, 0x205F, 0x3000, 0xFEFF]

/-- `parseInt(text, 10)`: what follows the digits is not looked at. -/
def parseInt (text : String) : Option Int :=
  let trimmed := text.toList.dropWhile fun c => c.toNat ∈ strWhiteSpace
  let negative := trimmed.head? = some '-'
  let unsigned := if negative ∨ trimmed.head? = some '+' then trimmed.tail else trimmed
  let digits := unsigned.takeWhile Char.isDigit
  let value : Int := digits.foldl (fun n c => 10 * n + (c.toNat - '0'.toNat)) 0
  if digits = [] then none else some (if negative then -value else value)

/-- `text.replace(/^front/, '')` -/
def stripFront (front text : List Char) : List Char :=
  if front.isPrefixOf text then text.drop front.length else text

/-- The entries of the header; a version in front is not asked for. -/
def signatures (headers : BlinkWebhookHeaders) : List String :=
  (headers.svixSignature.toList.splitOn ' ').map fun sig =>
    String.ofList (stripFront "v1,".toList sig)

def signedContent (msgId msgTimestamp rawBody : String) : String :=
  msgId ++ "." ++ msgTimestamp ++ "." ++ rawBody

section Signature
variable (hmacSha256 : List UInt8 → List UInt8 → List UInt8) (webhookSecret : String)

def secretBytes : List UInt8 :=
  Base64.decode (String.ofList (stripFront "whsec_".toList webhookSecret.toList))

def expectedSignature (content : String) : String :=
  Base64.encode (hmacSha256 (secretBytes webhookSecret) (Utf8.encode content))

def verifyWebhookSignature (now : Time) (headers : BlinkWebhookHeaders) (rawBody : String) : Bool :=
  if headers.svixId = "" ∨ headers.svixTimestamp = "" ∨ headers.svixSignature = "" then false
  else
    match parseInt headers.svixTimestamp with
    | none => false
    | some ts =>
      if svixToleranceSeconds < |(now : Int) / 1000 - ts| then false
      else
        let expected := expectedSignature hmacSha256 webhookSecret
          (signedContent headers.svixId headers.svixTimestamp rawBody)
        (signatures headers).any fun sig => Utf8.encode expected = Utf8.encode sig

/-- The controller's `handle`. `parse` throws where `JSON.parse` does, and is none where the
schema fails. -/
def handle (tid : Nat) (ownAccount : String)
    (parse : String → Except AppError (Option BlinkWebhookPayload)) (now : Time)
    (headers : BlinkWebhookHeaders) (rawBody : String) : Action HandlerOutcome :=
  (record "blink").bind fun logId =>
  if verifyWebhookSignature hmacSha256 webhookSecret now headers rawBody then
    ((Proc.ofExcept (parse rawBody)).bind fun parsed =>
      processVerified tid ownAccount parsed).attempt.bind fun outcome =>
    match outcome with
    | .error e =>
      (updateOutcome logId (loggedOutcome true .error (some e.message) none)).bind fun _ => .throw e
    | .ok outcome =>
      (updateOutcome logId (loggedOutcome true outcome.outcome (some outcome.outcomeDetail)
        outcome.externalReference)).bind fun _ => .pure outcome
  else
    (updateOutcome logId (loggedOutcome false .signatureInvalid none none)).bind fun _ =>
    .throw (.failure "Invalid webhook signature")

structure Message where
  id : String
  timestamp : String
  body : String

def Message.content (m : Message) : String := signedContent m.id m.timestamp m.body

/-- How messages are made: no point in the id or the timestamp, and an object for a body. -/
structure Message.Sound (m : Message) : Prop where
  id : '.' ∉ m.id.toList
  timestamp : '.' ∉ m.timestamp.toList
  body : Json.Object m.body.toList

/-- The delivery is the message, part by part, within its time. -/
structure Message.Delivered (m : Message) (now : Time) (headers : BlinkWebhookHeaders)
    (rawBody : String) : Prop where
  id : headers.svixId = m.id
  timestamp : headers.svixTimestamp = m.timestamp
  body : rawBody = m.body
  fresh : ∃ ts, parseInt m.timestamp = some ts ∧ |(now : Int) / 1000 - ts| ≤ svixToleranceSeconds

/-- The code of what is presented is there only if it was signed. -/
def Unforged (signed : List Message) (headers : BlinkWebhookHeaders) (rawBody : String) : Prop :=
  let content := signedContent headers.svixId headers.svixTimestamp rawBody
  expectedSignature hmacSha256 webhookSecret content ∈ signatures headers →
    ∃ m ∈ signed, m.content = content

end Signature

/-- The first point of one division is the first of the other one, or stands before it. -/
theorem split_at_point {a b x y : List Char} (same : a ++ '.' :: x = b ++ '.' :: y)
    (plain : '.' ∉ a) : (a = b ∧ x = y) ∨ ∃ u, b = a ++ '.' :: u ∧ x = u ++ '.' :: y := by
  rcases List.append_eq_append_iff.mp same with ⟨c, rfl, rest⟩ | ⟨c, rfl, rest⟩
  · cases c with
    | nil => exact .inl ⟨by simp, (List.cons.inj rest).2⟩
    | cons d u =>
      obtain ⟨rfl, rfl⟩ := List.cons.inj rest
      exact .inr ⟨u, rfl, rfl⟩
  · cases c with
    | nil => exact .inl ⟨by simp, (List.cons.inj rest).2.symm⟩
    | cons d u =>
      obtain ⟨rfl, -⟩ := List.cons.inj rest
      exact absurd (by simp) plain

/-- Two divisions of one text are the same, or the body of one lies behind a point in the body
of the other. -/
theorem divisions {id timestamp body id' timestamp' body' : List Char}
    (same : id ++ '.' :: (timestamp ++ '.' :: body) = id' ++ '.' :: (timestamp' ++ '.' :: body'))
    (plain : '.' ∉ id) (plain' : '.' ∉ timestamp) :
    (id = id' ∧ timestamp = timestamp' ∧ body = body') ∨ ∃ u, body = u ++ '.' :: body' := by
  rcases split_at_point same plain with ⟨rfl, rest⟩ | ⟨u, -, rest⟩
  · rcases split_at_point rest plain' with ⟨rfl, rfl⟩ | ⟨v, -, cut⟩
    · exact .inl ⟨rfl, rfl, rfl⟩
    · exact .inr ⟨v, cut⟩
  · rcases split_at_point rest plain' with ⟨-, cut⟩ | ⟨v, -, cut⟩
    · exact .inr ⟨timestamp', cut⟩
    · exact .inr ⟨v ++ '.' :: timestamp', by simpa using cut⟩

theorem signedContent_toList (msgId msgTimestamp rawBody : String) :
    (signedContent msgId msgTimestamp rawBody).toList =
      msgId.toList ++ '.' :: (msgTimestamp.toList ++ '.' :: rawBody.toList) := by
  simp [signedContent]

section Accepted
variable {hmacSha256 : List UInt8 → List UInt8 → List UInt8} {webhookSecret : String} {now : Time}
  {headers : BlinkWebhookHeaders} {rawBody : String}

/-- What an accepted delivery shows: a timestamp within its time, and the code of its content. -/
theorem verifyWebhookSignature_true
    (accepted : verifyWebhookSignature hmacSha256 webhookSecret now headers rawBody = true) :
    (∃ ts, parseInt headers.svixTimestamp = some ts ∧
      |(now : Int) / 1000 - ts| ≤ svixToleranceSeconds) ∧
    expectedSignature hmacSha256 webhookSecret
      (signedContent headers.svixId headers.svixTimestamp rawBody) ∈ signatures headers := by
  unfold verifyWebhookSignature at accepted
  split at accepted
  · cases accepted
  split at accepted
  · cases accepted
  rename_i ts read
  split at accepted
  · cases accepted
  rename_i recent
  obtain ⟨sig, member, same⟩ := List.any_eq_true.mp accepted
  have equal := congrArg Utf8.decode (of_decide_eq_true same)
  rw [Utf8.decode_encode, Utf8.decode_encode] at equal
  exact ⟨⟨ts, read, not_lt.mp recent⟩, equal ▸ member⟩

/-- All but the log of webhooks. -/
def view (w : World) : World := { w with webhookLogs := [] }

theorem log_leaves {f : Answer → World → Except AppError (α × World)} (handler : Action α)
    (logs : ∀ i s a t, f i s = .ok (a, t) → ∃ rows, t = { s with webhookLogs := rows })
    (caught : handler.Leaves view) :
    ((commit .webhookLog (fun _ => true) f).catching fun _ => handler).Leaves view := by
  refine (commit_leaves fun i s a t done => ?_).catching fun _ => caught
  obtain ⟨rows, rfl⟩ := logs i s a t done
  rfl

theorem updateOutcome_leaves {logId : Option Nat} {data : WebhookLog → WebhookLog} :
    (updateOutcome logId data).Leaves view := by
  unfold updateOutcome
  split
  · trivial
  · refine log_leaves (.pure ()) (fun i s a t done => ?_) trivial
    obtain ⟨rows, -, -, rfl⟩ := map_pair_ok.mp done
    exact ⟨rows, rfl⟩

/-- An accepted body that is an object was signed, with its id and its timestamp; and a delivery
that is not a signed message within its time changes nothing but the log. -/
theorem unsigned_changes_nothing {signed : List Message} {tid : Nat} {ownAccount : String}
    {parse : String → Except AppError (Option BlinkWebhookPayload)}
    (objects : ∀ body payload, parse body = .ok (some payload) → Json.Object body.toList)
    (sound : ∀ m ∈ signed, m.Sound)
    (unforged : Unforged hmacSha256 webhookSecret signed headers rawBody) :
    (verifyWebhookSignature hmacSha256 webhookSecret now headers rawBody = true →
      Json.Object rawBody.toList → ∃ m ∈ signed, m.Delivered now headers rawBody) ∧
    ((∀ m ∈ signed, ¬ m.Delivered now headers rawBody) →
      (handle hmacSha256 webhookSecret tid ownAccount parse now headers rawBody).Leaves view) := by
  have delivered (accepted : verifyWebhookSignature hmacSha256 webhookSecret now headers rawBody =
      true) (object : Json.Object rawBody.toList) : ∃ m ∈ signed, m.Delivered now headers rawBody := by
    obtain ⟨⟨ts, read, recent⟩, presented⟩ := verifyWebhookSignature_true accepted
    obtain ⟨m, member, same⟩ := unforged presented
    have texts := congrArg String.toList same
    rw [Message.content, signedContent_toList, signedContent_toList] at texts
    rcases divisions texts (sound m member).id (sound m member).timestamp with
      ⟨id, timestamp, body⟩ | ⟨u, cut⟩
    · have id := String.toList_injective id
      have timestamp := String.toList_injective timestamp
      exact ⟨m, member, id.symm, timestamp.symm, (String.toList_injective body).symm,
        ts, timestamp ▸ read, recent⟩
    · exact absurd object ((sound m member).body.behind_point cut)
  refine ⟨delivered, fun other => ?_⟩
  have recorded : (record "blink").Leaves view :=
    log_leaves (.pure none) (fun i s a t done => ⟨_, (Prod.mk.inj (Except.ok.inj done)).2.symm⟩) trivial
  refine recorded.bind fun logId => ?_
  split
  · rename_i accepted
    have processed : ((Proc.ofExcept (parse rawBody)).bind fun parsed =>
        processVerified tid ownAccount parsed).Leaves view := by
      cases parsed : parse rawBody with
      | error e => trivial
      | ok payload =>
        cases payload with
        | none => trivial
        | some payload =>
          obtain ⟨m, member, same⟩ := delivered accepted (objects rawBody payload parsed)
          exact absurd same (other m member)
    refine processed.attempt.bind fun outcome => ?_
    split
    · exact updateOutcome_leaves.bind fun _ => trivial
    · exact updateOutcome_leaves.bind fun _ => trivial
  · exact updateOutcome_leaves.bind fun _ => trivial

end Accepted

def sampleSecret : String := "whsec_MfKQ9r8GKYqrTwjUPD8ILPZIo2LaLaSw"

def sampleMessage : Message where
  id := "msg_1"
  timestamp := "1700000000"
  body := "\x7b\"amount\":1.5\x7d"

theorem sampleMessage_sound : sampleMessage.Sound where
  id := by decide
  timestamp := by decide
  body := by
    have value : Json.Spells .value "1.5".toList :=
      .number ⟨[], ['1'], ['.', '5'], [], rfl, by simp, .inr ⟨⟨by simp, by simp⟩, by decide⟩,
        .inr ⟨['5'], ⟨by simp, by simp⟩, rfl⟩, .inl rfl⟩
    have key : Json.Chars "amount".toList := by
      repeat refine .plain (by decide) (by decide) (by decide) ?_
      exact .nil
    have space : Json.Space [] := by simp [Json.Space]
    exact ⟨[], _, [], rfl, space, .inr (.entry space key space space value space), space⟩

/-- The code of the sample message, and no other. -/
def sampleHmac (key message : List UInt8) : List UInt8 :=
  if (key, message) = (secretBytes sampleSecret, Utf8.encode sampleMessage.content) then
    [133, 42, 197, 192, 164, 17, 0, 179, 73, 117, 36, 166, 173, 158, 114, 3, 14, 53, 99, 125, 71,
      103, 138, 232, 125, 175, 134, 67, 97, 44, 51, 12]
  else []

def shiftedHeaders : BlinkWebhookHeaders where
  svixId := "msg_1"
  svixTimestamp := "1700000000.\x7b\"amount\":1"
  svixSignature := "v1,hSrFwKQRALNJdSSmrZ5yAw41Y31HZ4rofa+GQ2EsMww="

theorem unsigned_changes_nothing_shifted :
    verifyWebhookSignature sampleHmac sampleSecret 1700000010000 shiftedHeaders "5\x7d" = true ∧
    (handle sampleHmac sampleSecret 1 "account" (fun _ => .error (.failure "Unexpected token"))
      1700000010000 shiftedHeaders "5\x7d").Leaves view := by
  have accepted : verifyWebhookSignature sampleHmac sampleSecret 1700000010000 shiftedHeaders
      "5\x7d" = true := by decide +kernel
  have unforged : Unforged sampleHmac sampleSecret [sampleMessage] shiftedHeaders "5\x7d" :=
    fun _ => ⟨sampleMessage, List.mem_singleton_self _, by decide +kernel⟩
  refine ⟨accepted, (unsigned_changes_nothing (fun _ _ parsed => ?_) (fun m member => ?_)
    unforged).2 fun m member delivered => ?_⟩
  · cases parsed
  · rw [List.mem_singleton.mp member]
    exact sampleMessage_sound
  · rw [List.mem_singleton.mp member] at delivered
    exact absurd delivered.timestamp (by decide)

end Bitmonie.BlinkProvider
