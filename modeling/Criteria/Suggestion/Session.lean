import Criteria.Suggestion

/-!
# Suggestion sessions

A session issues one ticket per query and cancels the ticket before it, so that only the
newest query can deliver. A query delivers if its ticket is not cancelled when its answer
arrives. Tickets are known by the order in which they were issued.

Queries may run side by side. A deferred answer arrives after a number of turns, so a query
that takes long is overtaken by the queries that start in the meantime.
-/

namespace Criteria

/-- Whether each ticket issued so far is cancelled, in the order of issue. -/
structure Session where
  cancelled : List Bool := []
  deriving Repr, DecidableEq

inductive QueryError where
  /-- The provider defers its answer and the query cannot wait. -/
  | deferred
  | fault (fault : Fault)
  deriving Repr, DecidableEq

def QueryError.message? : QueryError → Option String
  | deferred => some "Autocompleter returned an awaitable; use afetch_value_suggestions()"
  | fault f => f.message?

namespace Session

def isCancelled (s : Session) (ticket : Nat) : Bool :=
  s.cancelled.getD ticket false

def cancelTicket (s : Session) (ticket : Nat) : Session :=
  ⟨s.cancelled.set ticket true⟩

def cancel (s : Session) : Session :=
  s.cancelTicket (s.cancelled.length - 1)

def start (s : Session) : Session × Nat :=
  (⟨s.cancel.cancelled ++ [false]⟩, s.cancelled.length)

def deliver (s : Session) (ticket : Nat) (answer : Answer) : Session × Option (List Item) :=
  let s := if answer.cancels then s.cancelTicket ticket else s
  (s, if s.isCancelled ticket then none else some answer.items)

abbrev Delivery := Except QueryError (Option (List Item))

def complete (s : Session) (p : Provider) (query : ValueQuery) (ticket : Nat) :
    Session × Delivery :=
  match p.answer query with
  | .error f => (s, .error (.fault f))
  | .ok answer =>
    let (s, items) := s.deliver ticket answer
    (s, .ok items)

/-- A query under a ticket that waits for a deferred answer, nothing else happening. -/
def awaitWith (s : Session) (p : Provider) (query : ValueQuery) (ticket : Nat) :
    Session × Delivery :=
  if s.isCancelled ticket then (s, .ok none) else s.complete p query ticket

def fetchWith (s : Session) (p : Provider) (query : ValueQuery) (ticket : Nat) :
    Session × Delivery :=
  if s.isCancelled ticket then (s, .ok none)
  else if p.isDeferred then (s, .error .deferred)
  else s.complete p query ticket

def fetch (s : Session) (p : Provider) (query : ValueQuery) : Session × Delivery :=
  let (s, ticket) := s.start
  s.fetchWith p query ticket

def await (s : Session) (p : Provider) (query : ValueQuery) : Session × Delivery :=
  let (s, ticket) := s.start
  s.awaitWith p query ticket

/-- A query that was started, with what it got if its answer has arrived. -/
structure Running where
  provider : Provider
  query : ValueQuery
  ticket : Nat
  turns : Nat
  delivery : Option Delivery := none

def launch (s : Session) (p : Provider) (query : ValueQuery) : Session × Running :=
  let (s, ticket) := s.start
  if p.isDeferred then
    (s, { provider := p, query, ticket, turns := p.turns })
  else
    let (s, delivery) := s.complete p query ticket
    (s, { provider := p, query, ticket, turns := 0, delivery := some delivery })

def advance (s : Session) (turns : Nat) (r : Running) : Session × Running :=
  if r.delivery.isSome then (s, r)
  else if turns < r.turns then (s, { r with turns := r.turns - turns })
  else
    let (s, delivery) := s.complete r.provider r.query r.ticket
    (s, { r with turns := 0, delivery := some delivery })

def round (s : Session) : List Running → Session × List Running
  | [] => (s, [])
  | r :: rest =>
    let (s, r) := s.advance 1 r
    let (s, rest) := s.round rest
    (s, r :: rest)

def finish (s : Session) : List Running → Session × List Delivery
  | [] => (s, [])
  | r :: rest =>
    let (s, r) := s.advance r.turns r
    let (s, rest) := s.finish rest
    (s, r.delivery.toList ++ rest)

/-- Queries that start one after the other while earlier ones still run. Before a query
starts, each running one has a turn. -/
def raceFrom (s : Session) (running : List Running) :
    List (Provider × ValueQuery) → Session × List Delivery
  | [] => s.finish running
  | (p, query) :: rest =>
    let (s, running) := s.round running
    let (s, last) := s.launch p query
    s.raceFrom (running ++ [last]) rest

def race (s : Session) (queries : List (Provider × ValueQuery)) : Session × List Delivery :=
  s.raceFrom [] queries

end Session

def Provider.fetch (p : Provider) (query : ValueQuery) : Session.Delivery :=
  (({} : Session).fetch p query).2

end Criteria
