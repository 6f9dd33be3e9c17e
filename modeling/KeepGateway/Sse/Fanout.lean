import KeepGateway.Lib.SharedLog

/-!
# The SSE fan-out

`RedisFanout` in any number of processes on one channel, each step what runs
between two await points of a `broadcast()` or of the subscribe loop, or what
Redis does.  The log is the channel in publish order.  A hand-off is one call of
`broadcaster.notify`.
-/

namespace KeepGateway
namespace Sse

def refetchEvents : List String := ["poll-alerts", "incident-change", "incident-comment"]

variable {δ : Type}

/-- The arguments of `broadcast` and of `broadcaster.notify`. -/
structure Notification (δ : Type) where
  tenant : String
  event : String
  data : δ
  deriving DecidableEq, Repr

/-- What `json` makes of the data: how it reads after `dumps(.., default=str)` and
`loads`, where `dumps` does not raise, and `{}`. -/
structure Json (δ : Type) where
  wire : δ -> Option δ
  empty : δ

/-- Data that is its own JSON text. -/
def textJson : Json String where
  wire := some
  empty := "{}"

def pollAlerts (data : String) : Notification String where
  tenant := "keep"
  event := "poll-alerts"
  data := data

/-- A message of the channel.  The number of the `broadcast()` call is not on the wire. -/
inductive Message (δ : Type) where
  | published (origin : Nat) (call : Nat) (body : Notification δ)
  | malformed
  deriving DecidableEq, Repr

def Message.origin : Message δ -> Option Nat
  | published origin _ _ => some origin
  | malformed => none

def Message.body : Message δ -> Option (Notification δ)
  | published _ _ body => some body
  | malformed => none

def Message.isFrom (p id : Nat) : Message δ -> Bool
  | published origin call _ => origin == p && call == id
  | malformed => false

/-- Where a hand-off comes from. -/
inductive Via where
  | channel (index : Nat)
  | direct (call : Nat)
  deriving DecidableEq, Repr

structure Handoff (δ : Type) where
  notification : Notification δ
  via : Via
  deriving DecidableEq, Repr

/-- Where a `broadcast()` stands: `dumps` raised, in `_publish`, returned after telling
its own streams directly, or returned without. -/
inductive Status where
  | raised
  | publishing
  | told
  | relied
  deriving DecidableEq, Repr

structure Call (δ : Type) where
  request : Notification δ
  sampled : Option Nat
  status : Status
  deriving DecidableEq, Repr

/-- The connection of the subscribe loop.  From `registered` on Redis sends it the
channel from a position; once dead it hands over nothing more. -/
inductive Connection where
  | closed
  | sent
  | registered (next : Nat)
  | live (next : Nat)
  | dead (next : Nat)
  deriving DecidableEq, Repr

/-- Where the acknowledged subscription stands in the channel. -/
def Connection.cursor : Connection -> Option Nat
  | closed => none
  | sent => none
  | registered _ => none
  | live next => some next
  | dead next => some next

/-- `ended` has where each earlier subscription stopped, the first one first. -/
structure Process (δ : Type) where
  subscribed : Bool
  subscription : Nat
  connection : Connection
  ended : List Nat
  calls : List (Call δ)
  handed : List (Handoff δ)
  deriving DecidableEq, Repr

def Process.initial : Process δ where
  subscribed := false
  subscription := 0
  connection := .closed
  ended := []
  calls := []
  handed := []

/-- Redis may take a message and lose the reply, and takes it again when the client
retries; `failed` is a publish that is refused or abandoned at the timeout. -/
inductive Act (δ : Type) where
  | broadcast (request : Notification δ)
  | land (id : Nat)
  | published (id : Nat)
  | failed (id : Nat)
  | subscribe
  | register
  | acknowledge
  | receive
  | die
  | lose

/-- What the process tells its own streams when the channel is not certain. -/
def fallback (json : Json δ) (request : Notification δ) : Notification δ :=
  { request with data := if request.event ∈ refetchEvents then json.empty else request.data }

namespace Process

def broadcast (json : Json δ) (proc : Process δ) (request : Notification δ) : Process δ :=
  { proc with
    calls := proc.calls ++ [
      { request := request
        sampled := if proc.subscribed then some proc.subscription else none
        status := if (json.wire request.data).isSome then .publishing else .raised }] }

/-- Whether `broadcast()` leaves the delivery to the channel. -/
def relies (proc : Process δ) (published : Bool) (sampled : Option Nat) : Bool :=
  match sampled with
  | some subscription => published && proc.subscribed && proc.subscription == subscription
  | none => false

/-- The rest of `broadcast()` after `_publish`. -/
def resume (json : Json δ) (proc : Process δ) (id : Nat) (call : Call δ) (published : Bool) :
    Process δ :=
  if proc.relies published call.sampled then
    { proc with calls := proc.calls.set id { call with status := .relied } }
  else
    { proc with
      calls := proc.calls.set id { call with status := .told }
      handed := proc.handed ++ [{ notification := fallback json call.request, via := .direct id }] }

/-- `_deliver` -/
def deliver (proc : Process δ) (index : Nat) (message : Message δ) : Process δ :=
  match message.body with
  | some body =>
      { proc with handed := proc.handed ++ [{ notification := body, via := .channel index }] }
  | none => proc

/-- The `except` and `finally` of the subscribe loop. -/
def lose (proc : Process δ) : Process δ :=
  { proc with
    subscribed := false
    connection := .closed
    ended := proc.ended ++ proc.connection.cursor.toList }

/-- One step of process `p`, with what it appends to the channel. -/
def act (json : Json δ) (channel : List (Message δ)) (p : Nat) (proc : Process δ) :
    Act δ -> Option (Process δ × List (Message δ))
  | .broadcast request => some (proc.broadcast json request, [])
  | .land id =>
      match proc.calls[id]? with
      | some call =>
          match json.wire call.request.data with
          | some data => some (proc, [.published p id { call.request with data := data }])
          | none => none
      | none => none
  | .published id =>
      match proc.calls[id]? with
      | some call =>
          if call.status = .publishing ∧ channel.any (Message.isFrom p id) then
            some (proc.resume json id call true, [])
          else none
      | none => none
  | .failed id =>
      match proc.calls[id]? with
      | some call =>
          if call.status = .publishing then some (proc.resume json id call false, []) else none
      | none => none
  | .subscribe =>
      match proc.connection with
      | .closed => some ({ proc with connection := .sent }, [])
      | _ => none
  | .register =>
      match proc.connection with
      | .sent => some ({ proc with connection := .registered channel.length }, [])
      | _ => none
  | .acknowledge =>
      match proc.connection with
      | .registered next =>
          some
            ({ proc with
                subscription := proc.subscription + 1
                subscribed := true
                connection := .live next },
              [])
      | _ => none
  | .receive =>
      match proc.connection with
      | .live next =>
          match channel[next]? with
          | some message =>
              some ({ proc.deliver next message with connection := .live (next + 1) }, [])
          | none => none
      | _ => none
  | .die =>
      match proc.connection with
      | .live next => some ({ proc with connection := .dead next }, [])
      | _ => none
  | .lose =>
      match proc.connection with
      | .closed => none
      | _ => some (proc.lose, [])

end Process

abbrev Fanout (δ : Type) := SharedLog.System (Message δ) (Process δ)

/-- Processes on one channel, where a message that nobody's `_publish` wrote may
also arrive. -/
def fanout (json : Json δ) : SharedLog.Behaviour (Message δ) (Process δ) (Act δ) Unit where
  act := Process.act json
  outside := fun _ => [.malformed]

def Fanout.initial (processes : Nat) : Fanout δ where
  log := []
  agents := List.replicate processes Process.initial

/-!
## What a step does
-/

/-- Every step of a process, with its guard. -/
inductive Process.Step (json : Json δ) (channel : List (Message δ)) (p : Nat)
    (proc : Process δ) : Process δ -> List (Message δ) -> Prop where
  | broadcast (request : Notification δ) :
      Step json channel p proc (proc.broadcast json request) []
  | land (id : Nat) (call : Call δ) (data : δ) (hcall : proc.calls[id]? = some call)
      (hwire : json.wire call.request.data = some data) :
      Step json channel p proc proc [.published p id { call.request with data := data }]
  | resume (id : Nat) (call : Call δ) (published : Bool) (hcall : proc.calls[id]? = some call)
      (hstatus : call.status = .publishing)
      (hlanded : published = true -> channel.any (Message.isFrom p id) = true) :
      Step json channel p proc (proc.resume json id call published) []
  | subscribe (hconn : proc.connection = .closed) :
      Step json channel p proc { proc with connection := .sent } []
  | register (hconn : proc.connection = .sent) :
      Step json channel p proc { proc with connection := .registered channel.length } []
  | acknowledge (next : Nat) (hconn : proc.connection = .registered next) :
      Step json channel p proc
        { proc with
          subscription := proc.subscription + 1
          subscribed := true
          connection := .live next } []
  | receive (next : Nat) (message : Message δ) (hconn : proc.connection = .live next)
      (hmessage : channel[next]? = some message) :
      Step json channel p proc
        { proc.deliver next message with connection := .live (next + 1) } []
  | die (next : Nat) (hconn : proc.connection = .live next) :
      Step json channel p proc { proc with connection := .dead next } []
  | lose (hconn : proc.connection ≠ .closed) : Step json channel p proc proc.lose []

theorem Process.act_cases {json : Json δ} {channel entries : List (Message δ)} {p : Nat}
    {proc proc' : Process δ} {a : Act δ}
    (h : proc.act json channel p a = some (proc', entries)) :
    Process.Step json channel p proc proc' entries := by
  cases a with
  | broadcast request =>
      cases h
      exact .broadcast request
  | land id =>
      unfold Process.act at h
      cases hcall : proc.calls[id]? with
      | none => simp [hcall] at h
      | some call =>
          cases hwire : json.wire call.request.data with
          | none => simp [hcall, hwire] at h
          | some data =>
              simp only [hcall, hwire, Option.some.injEq, Prod.mk.injEq] at h
              rcases h with ⟨rfl, rfl⟩
              exact .land id call data hcall hwire
  | published id =>
      unfold Process.act at h
      cases hcall : proc.calls[id]? with
      | none => simp [hcall] at h
      | some call =>
          simp only [hcall] at h
          split at h
          · rename_i hguard
            cases h
            exact .resume id call true hcall hguard.1 fun _ => hguard.2
          · cases h
  | failed id =>
      unfold Process.act at h
      cases hcall : proc.calls[id]? with
      | none => simp [hcall] at h
      | some call =>
          simp only [hcall] at h
          split at h
          · rename_i hguard
            cases h
            exact .resume id call false hcall hguard fun hp => by cases hp
          · cases h
  | subscribe =>
      unfold Process.act at h
      cases hconn : proc.connection with
      | closed =>
          simp only [hconn] at h
          cases h
          exact .subscribe hconn
      | _ => simp [hconn] at h
  | register =>
      unfold Process.act at h
      cases hconn : proc.connection with
      | sent =>
          simp only [hconn] at h
          cases h
          exact .register hconn
      | _ => simp [hconn] at h
  | acknowledge =>
      unfold Process.act at h
      cases hconn : proc.connection with
      | registered next =>
          simp only [hconn] at h
          cases h
          exact .acknowledge next hconn
      | _ => simp [hconn] at h
  | receive =>
      unfold Process.act at h
      cases hconn : proc.connection with
      | live next =>
          cases hmessage : channel[next]? with
          | none => simp [hconn, hmessage] at h
          | some message =>
              simp only [hconn, hmessage] at h
              cases h
              exact .receive next message hconn hmessage
      | _ => simp [hconn] at h
  | die =>
      unfold Process.act at h
      cases hconn : proc.connection with
      | live next =>
          simp only [hconn] at h
          cases h
          exact .die next hconn
      | _ => simp [hconn] at h
  | lose =>
      unfold Process.act at h
      cases hconn : proc.connection with
      | closed => simp [hconn] at h
      | _ =>
          simp only [hconn] at h
          cases h
          exact .lose (by simp [hconn])

/-- Only `land` appends to the channel, under the name of its process. -/
theorem Process.act_signed {json : Json δ} {channel entries : List (Message δ)} {p : Nat}
    {proc proc' : Process δ} {a : Act δ}
    (h : proc.act json channel p a = some (proc', entries)) (m : Message δ)
    (hm : m ∈ entries) : m.origin = some p := by
  cases Process.act_cases h with
  | land id call data =>
      rw [List.mem_singleton.mp hm]
      rfl
  | _ => cases hm

theorem outside_unsigned (json : Json δ) (e : Unit) (m : Message δ)
    (hm : m ∈ (fanout json).outside e) : m.origin = none := by
  rw [List.mem_singleton.mp hm]
  rfl

end Sse
end KeepGateway
