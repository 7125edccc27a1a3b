import Bitmonie.SharedClock
import Bitmonie.Service

/-! The interceptor of write requests that carry an idempotency key: a look at the key, a marker
that is set where there is none, the handler, and the write of its response. Each of these is a
step of its own. -/
namespace Bitmonie.IdempotencyInterceptor
open Expiring

def idempotencyTtlSec : Int := 86400
def inFlightTtlSec : Int := 60

inductive InterceptorError where
  | idempotencyConflict
  /-- What the handler throws. -/
  | handler
  /-- Redis could not be reached. -/
  | unavailable
  deriving DecidableEq, Repr

def InterceptorError.exception : InterceptorError → Option BitmonieException
  | .idempotencyConflict => some ⟨"IDEMPOTENCY_CONFLICT",
      "A request with this idempotency key is already in progress.", 409, []⟩
  | .handler => none
  | .unavailable => none

structure CachedResponse where
  status : Nat
  body : String
  deriving DecidableEq, Repr

/-- `idempotency:{user_id}:{key}` -/
structure RedisKey where
  userId : Nat
  key : String
  deriving DecidableEq, Repr

inductive Stored where
  | inFlight
  | cached (response : CachedResponse)
  deriving DecidableEq, Repr

inductive Kind where
  | executed
  | replayed
  deriving DecidableEq, Repr

structure Served where
  key : RedisKey
  kind : Kind
  response : CachedResponse
  servedAt : Int
  deriving DecidableEq, Repr

/-- What the last request that set the marker of a key has come to. -/
inductive Phase where
  | idle
  | running (tid : Nat) (since : Int)
  | succeeded (tid : Nat) (response : CachedResponse)
  | stored
  deriving DecidableEq, Repr

/-- `phase` and `history` are auxiliary. -/
structure Store where
  now : Int
  keys : Keys RedisKey Stored := fun _ => none
  phase : RedisKey → Phase := fun _ => .idle
  history : List Served := []

instance : Clocked Store where
  now s := s.now
  tick elapsed s := { s with now := s.now + elapsed }
  now_tick _ _ := rfl

structure HandlerReply where
  response : Option CachedResponse := none

inductive InterceptorAccess where
  | getKey (key : RedisKey)
  | setMarker (key : RedisKey)
  | handle (tid : Nat) (key : RedisKey)
  | storeResponse (key : RedisKey)
  | passThrough
  deriving DecidableEq, Repr

abbrev InterceptorAction := Proc Store (Reply HandlerReply) InterceptorAccess InterceptorError

def replay (key : RedisKey) (s : Store) : List Served :=
  match get s.now s.keys key with
  | some (.cached response) => [⟨key, .replayed, response, s.now⟩]
  | _ => []

def getKey (key : RedisKey) : InterceptorAction (Option Stored) :=
  statement .unavailable (.getKey key) fun _ s =>
    (.ok (get s.now s.keys key), { s with history := s.history ++ replay key s })

/-- `SET … EX 60 NX`, and whether it was set. -/
def setMarker (tid : Nat) (key : RedisKey) : InterceptorAction Bool :=
  statement .unavailable (.setMarker key) fun _ s =>
    if (find s.now s.keys key).isSome then (.ok false, s)
    else (.ok true, { s with
      keys := set s.keys key .inFlight (some (s.now + inFlightTtlSec * 1000))
      phase := Function.update s.phase key (.running tid s.now) })

def handle (tid : Nat) (key : RedisKey) : InterceptorAction CachedResponse :=
  statement .unavailable (.handle tid key) fun reply s =>
    match reply.response with
    | none => (.error .handler, s)
    | some response => (.ok response, { s with
      phase := Function.update s.phase key (.succeeded tid response)
      history := s.history ++ [⟨key, .executed, response, s.now⟩] })

def storeResponse (key : RedisKey) (response : CachedResponse) : InterceptorAction Unit :=
  statement .unavailable (.storeResponse key) fun _ s => (.ok (), { s with
    keys := set s.keys key (.cached response) (some (s.now + idempotencyTtlSec * 1000))
    phase := Function.update s.phase key .stored })

def passThrough : InterceptorAction CachedResponse :=
  statement .unavailable .passThrough fun reply s =>
    match reply.response with
    | none => (.error .handler, s)
    | some response => (.ok response, s)

structure Request where
  method : String
  /-- `Idempotency-Key` -/
  idempotencyKey : Option String := none
  userId : Option Nat := none

/-- Only writes of a user that carry a key are kept apart; an empty key counts as none. -/
def redisKey (request : Request) : Option RedisKey :=
  if ["POST", "PUT", "PATCH"].contains request.method then do
    let key ← request.idempotencyKey.filter (· ≠ "")
    let userId ← request.userId
    return ⟨userId, key⟩
  else none

/-- The response is sent while the write goes on, and nobody hears of a write that fails. -/
def execute (tid : Nat) (key : RedisKey) : InterceptorAction CachedResponse :=
  (handle tid key).bind fun response =>
  ((storeResponse key response).catching fun _ => .pure ()).bind fun _ => .pure response

def intercept (tid : Nat) (request : Request) : InterceptorAction CachedResponse :=
  match redisKey request with
  | none => passThrough
  | some key =>
    (getKey key).bind fun existing =>
    match existing with
    | some .inFlight => .throw .idempotencyConflict
    | some (.cached response) => .pure response
    | none =>
      (setMarker tid key).bind fun wasSet =>
      if wasSet then execute tid key else .throw .idempotencyConflict

end Bitmonie.IdempotencyInterceptor
