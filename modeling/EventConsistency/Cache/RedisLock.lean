import Mathlib.Logic.Function.Basic
import EventConsistency.Sql

/-!
# The Redis lock

`app/cache/redis_lock.py` as a protocol: a call of `acquire` or `release` sends one command, which Redis runs at some
moment, also after the client has given up on it, or never; the client gets the answer or an exception.
`LockSystem.step` is what can happen next, and the expiry of a lock can happen at any time.
-/

namespace EventConsistency

/-- The locks that Redis holds: the token at each key. -/
abbrev Locks : Type := String → Option Nat

/-- What the lock sends to Redis. -/
inductive LockCommand where
  /-- `SET key token NX PX ttl_ms` -/
  | set (key : String) (token : Nat)
  /-- `_RELEASE_SCRIPT` -/
  | release (key : String) (token : Nat)
  deriving DecidableEq, Repr

namespace LockCommand

/-- Redis runs the command: its answer, and the locks afterwards. -/
def run (locks : Locks) : LockCommand → Bool × Locks
  | set key token =>
      if locks key = none then (true, Function.update locks key (some token)) else (false, locks)
  | release key token =>
      if locks key = some token then (true, Function.update locks key none) else (false, locks)

/-- The token that `acquire` generated for the command. -/
def drawn : LockCommand → Option Nat
  | set _ token => some token
  | release .. => none

end LockCommand

namespace RedisLock

/-- The end of `acquire`, from what `set` returned; `none` is one of `REDIS_FALLBACK_EXCEPTIONS`. -/
def acquired (token : Nat) : Option Bool → RedisLockResult
  | none => { acquired := false, token := none, redisAvailable := false }
  | some false => { acquired := false, token := none, redisAvailable := true }
  | some true => { acquired := true, token := some token, redisAvailable := true }

end RedisLock

/-- A call of `acquire` or of `release` with a token: its command, what Redis answered once it ran the command, and what
the client got: an answer, or `some none` for an exception. -/
structure LockCall where
  command : LockCommand
  answer : Option Bool := none
  outcome : Option (Option Bool) := none
  deriving DecidableEq, Repr

/-- What `acquire` returned. -/
def LockCall.result (call : LockCall) : Option RedisLockResult :=
  match call.command with
  | .set _ token => call.outcome.map (RedisLock.acquired token)
  | .release .. => none

/-- Redis and all the calls of all clients so far, with the tokens whose lock has expired or was released. -/
structure LockSystem where
  locks : Locks := fun _ => none
  calls : List LockCall := []
  expired : List Nat := []
  released : List Nat := []

inductive LockEvent where
  /-- A client calls `acquire`, which generates `token` and sends its command. -/
  | acquire (key : String) (token : Nat)
  /-- A client calls `release`. -/
  | release (key : String) (token : Option Nat)
  /-- Redis runs the command of a call. -/
  | execute (call : Nat)
  /-- The client of a call gets the answer. -/
  | receive (call : Nat)
  /-- The client of a call gets an exception. -/
  | fail (call : Nat)
  /-- The lock of a key expires. -/
  | expire (key : String)
  deriving DecidableEq, Repr

namespace LockSystem

/-- The tokens that were generated. -/
def tokens (s : LockSystem) : List Nat := s.calls.filterMap fun call => call.command.drawn

def send (s : LockSystem) (command : LockCommand) : LockSystem := { s with calls := s.calls ++ [{ command := command }] }

/-- Redis runs the command of the call at this place. -/
def execute (s : LockSystem) (i : Nat) (call : LockCall) : LockSystem :=
  let answered := call.command.run s.locks
  { s with
    locks := answered.2
    calls := s.calls.set i { call with answer := some answered.1 }
    released := match call.command with
      | .set .. => s.released
      | .release _ token => if answered.1 then token :: s.released else s.released }

/-- What can happen next; generated tokens are distinct. -/
def step (s : LockSystem) : LockEvent → Option LockSystem
  | .acquire key token => if token ∈ s.tokens then none else some (s.send (.set key token))
  | .release _ none => some s
  | .release key (some token) => some (s.send (.release key token))
  | .execute i => match s.calls[i]? with
    | none => none
    | some call => if call.answer.isSome then none else some (s.execute i call)
  | .receive i => match s.calls[i]? with
    | none => none
    | some call =>
        if call.answer.isNone || call.outcome.isSome then none
        else some { s with calls := s.calls.set i { call with outcome := some call.answer } }
  | .fail i => match s.calls[i]? with
    | none => none
    | some call =>
        if call.outcome.isSome then none
        else some { s with calls := s.calls.set i { call with outcome := some none } }
  | .expire key => match s.locks key with
    | none => none
    | some token => some { s with locks := Function.update s.locks key none, expired := token :: s.expired }

end LockSystem

end EventConsistency
