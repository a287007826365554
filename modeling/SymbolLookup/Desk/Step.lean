import SymbolLookup.Desk.Basic
import SymbolLookup.Query.Match
import SymbolLookup.Shard.Reader
/-!
# The steps of a desk

What a desk does for each task, and which tasks come of it.

## Main definitions

* `Desk.perform`: does one task; what comes of it is done next.
* `unwind`: the way of a fault.
* `Agenda`: a desk with its stack of tasks.
* `Agenda.step?`: takes the task on top.
-/

namespace SymbolLookup

/-- The shard of a bucket that a document makes; a document that cannot be read as a whole makes an
empty shard with one diagnostic. -/
def shardOf (interpreter : Interpreter) (bucket : String) :
    (document : Option String) → Except Fault Shard
  | none => .ok { bucket }
  | some text =>
    match Shard.read bucket text none interpreter with
    | .error (.malformed _ message _) =>
      .ok { bucket, diagnostics := [⟨bucket, message, none⟩] }
    | read => read

/-- What is done for a script of a host with this session. -/
def Script.tasks (own : Nat) : Script → List Task
  | stop => []
  | type session query rest => .submit (session.getD own) query none :: rest.tasks own
  | typeThen session query whenSuperseded reply next otherwise rest =>
    .submit (session.getD own) query (some { whenSuperseded, query := reply, next, otherwise }) ::
      rest.tasks own

/-- What a host does when a rule applies. -/
def Rule.tasks (session : Nat) (rule : Rule) : List Task :=
  (rule.submits.map fun text => Task.submit session (some text) none).toList ++
    rule.next.tasks session ++
    (rule.raises.map fun message => Task.raise (.handler message)).toList

/-- Whether what became of a query is a case in which the host types the query of a follow-up. -/
def FollowUp.follows (followUp : FollowUp) : Answered → Bool
  | .superseded => followUp.whenSuperseded
  | .cancelled => false
  | _ => !followUp.whenSuperseded

/-- What a host does with an outcome when it is told what became of the query. -/
def FollowUp.tasks (session : Nat) (followUp : FollowUp) (answered : Answered) : List Task :=
  if followUp.follows answered then
    .submit session followUp.query none :: followUp.next.tasks session
  else followUp.otherwise.tasks session

/-- The answer to a query that looked into some buckets. -/
def answerTicket (session : Session) (ticket : Ticket) (endings : List (String × Ending)) :
    Except Fault (Result × List (String × String)) :=
  match collect endings with
  | .error fault => .error fault
  | .ok all =>
    match readLimit session.limit with
    | .error fault => .error fault
    | .ok limit =>
      .ok ({ query := ticket.query
             key := ticket.key
             groups := answer all.shards ticket.key session.mode limit
             warnings := all.failures.map failureMessage
             generation := ticket.generation }, all.failures)

namespace Desk

/-- The outcome of the query of a session that another query would supersede. -/
def superseded? (desk : Desk) (session : Session) : Option Nat :=
  session.pending.filter fun pending => desk.isOwed pending

/-- A session after a query was typed into it. -/
def submitted (desk : Desk) (session : Session) (query : Option String) : Session :=
  session.submit (queryKey query) desk.outcomes.length (desk.superseded? session).isSome

/-- The desk with an outcome for one more query. -/
def owe (desk : Desk) (outcome : Outcome) : Desk :=
  { desk with outcomes := desk.outcomes ++ [outcome] }

/-- What comes of a query that was typed into a session: the host is told how the states changed,
the outcome of the query that was superseded is settled, and the answer is looked for; the empty
query is answered at once. -/
def submitTasks (desk : Desk) (number : Nat) (session : Session) (query : Option String) :
    List Task :=
  let after := desk.submitted session query
  let generation := after.generation
  let key := queryKey query
  let outcome := desk.outcomes.length
  let superseded := (desk.superseded? session).toList
  let leaving := superseded.map fun _ => Task.call (.state number session.generation .cancelled)
  let dropping := superseded.map fun pending => Task.resolve pending .superseded
  let looking :=
    if key = "" then Task.resolve outcome (.result { query, key, groups := [], generation })
    else Task.look { session := number, generation, query, key, outcome }
  leaving ++ .call (.state number generation after.state) :: dropping ++
    [looking, .handOut outcome]

/-- Takes a query that was typed into a session. -/
def submit (desk : Desk) (number : Nat) (query : Option String) (followUp : Option FollowUp) :
    Desk × List Task :=
  match desk.sessions[number]? with
  | none => (desk, [])
  | some session =>
    ((desk.setSession number (desk.submitted session query)).owe { session := number, followUp },
      desk.submitTasks number session query)

/-- Has a query wait for what was handed out for its buckets. If all of that has ended already, the
query is answered at once. -/
def join (desk : Desk) (ticket : Ticket) : Desk × List Task :=
  if ticket.fetched = [] then (desk, [.settle ticket])
  else if (desk.cache.endings? ticket.fetched).isSome then (desk, [.settle ticket, .guard])
  else ({ desk with cache := desk.cache.await ticket }, [])

/-- Looks for the answer to a query: asks for the buckets that can hold it and waits for them. -/
def look (desk : Desk) (ticket : Ticket) : Desk × List Task :=
  match desk.sessions[ticket.session]? with
  | none => (desk, [])
  | some session =>
    let buckets := candidates ticket.key session.buckets session.partition session.mode
    match desk.cache.requestAll buckets with
    | .error fault => (desk, [.raise fault])
    | .ok (fetched, cache) => { desk with cache }.join { ticket with fetched }

/-- Tells the host what became of a query, if the host asked for that. Whatever it fails of then is
passed over. -/
def tellDone (desk : Desk) (number : Nat) (outcome : Outcome) (answered : Answered) :
    Desk × List Task :=
  match outcome.followUp with
  | none => (desk, [])
  | some followUp =>
    ((desk.setOutcome number { outcome with followUp := none }).record (.done number answered),
      followUp.tasks outcome.session answered ++ [.guard])

/-- Gives the outcome of a query to the host. -/
def handOut (desk : Desk) (number : Nat) : Desk × List Task :=
  match desk.outcomes[number]? with
  | none => (desk, [])
  | some outcome =>
    let outcome := { outcome with handedOut := true }
    let desk := desk.setOutcome number outcome
    match outcome.answered with
    | none => (desk, [])
    | some answered => desk.tellDone number outcome answered

/-- Settles the outcome of a query, which can be done once. -/
def resolve (desk : Desk) (number : Nat) (answered : Answered) : Desk × List Task :=
  match desk.outcomes[number]? with
  | none => (desk, [])
  | some outcome =>
    if outcome.answered.isSome then (desk, [.raise .settledTwice])
    else
      let outcome := { outcome with answered := some answered }
      let desk := desk.setOutcome number outcome
      if outcome.handedOut then desk.tellDone number outcome answered else (desk, [])

/-- Calls a host, which may have set itself rules for the call. -/
def call (desk : Desk) (call : Call) : Desk × List Task :=
  match call with
  | .diagnostic _ =>
    ({ desk.record (.called call) with rules := afterCall call.occasion desk.rules },
      (applying call.occasion desk.rules).flatMap (·.tasks call.session))
  | _ =>
    match desk.sessions[call.session]? with
    | none => (desk, [])
    | some session =>
      if session.hears call.occasion then
        ((desk.record (.called call)).setSession call.session (session.called call.occasion),
          (applying call.occasion session.rules).flatMap (·.tasks call.session))
      else (desk, [])

/-- Answers a query if all its loads have ended and it is still the one that is pending. -/
def settle (desk : Desk) (ticket : Ticket) : Desk × List Task :=
  match desk.sessions[ticket.session]? with
  | none => (desk, [])
  | some session =>
    match desk.cache.endings? ticket.fetched with
    | none => (desk, [])
    | some endings =>
      if session.generation = ticket.generation ∧ session.pending = some ticket.outcome then
        let desk := desk.setSession ticket.session session.settle
        let settled := Task.call (.state ticket.session ticket.generation .settled)
        match answerTicket session ticket endings with
        | .error fault => (desk, [settled, .resolve ticket.outcome (.fault fault)])
        | .ok (result, failures) => (desk, [settled, .deliver ticket failures result])
      else (desk, [])

/-- The calls by which the host of a session is told an answer, and the settling of the outcome. -/
def deliver (ticket : Ticket) (failures : List (String × String)) (result : Result) : List Task :=
  let warnings := failures.map fun failure =>
    Task.call (.warning ticket.session ticket.generation failure.1 failure.2)
  warnings ++ [.call (.results ticket.session ticket.generation result.groups),
    .conclude ticket.outcome result]

/-- Ends a load: all queries that wait for it may be answered now. -/
def finish (desk : Desk) (number : Nat) (ending : Ending) : Desk × List Task :=
  ({ desk with cache := desk.cache.finish number ending },
    (desk.cache.waitingFor number).flatMap fun ticket => [.settle ticket, .guard])

/-- Tells the host of the desk what is wrong with the document of a shard. -/
def reports (shard : Shard) : List Task :=
  shard.diagnostics.flatMap fun diagnostic => [.call (.diagnostic diagnostic), .guard]

/-- What comes of a load that brought this. -/
def arrive (desk : Desk) (number : Nat) (bucket : String) : Except Fault Shard → Desk × List Task
  | .ok shard =>
    ({ desk with cache := desk.cache.keep shard }, reports shard ++ [.finish number (.shard shard)])
  | .error (.exit reason) => (desk, [.finish number (.exit reason)])
  | .error (.load _ reason) =>
    ({ desk with cache := desk.cache.forget bucket }, [.finish number (.failed reason)])
  | .error fault =>
    ({ desk with cache := desk.cache.forget bucket }, [.finish number (.failed fault.message)])

/-- The desk after the document of a bucket was fetched, and the shard that it makes. -/
def fetch (desk : Desk) (bucket : String) : Except Fault Shard × Desk :=
  let (answer, supply) := desk.supply.fetch bucket
  (answer.bind (shardOf desk.interpreter bucket), { desk.record (.fetched bucket) with supply })

/-- Runs a load whose turn has come, unless it was cancelled. -/
def runLoad (desk : Desk) (number : Nat) : Desk × List Task :=
  match desk.cache.loads[number]? with
  | none => (desk, [])
  | some load =>
    if load.ending.isSome then (desk, [])
    else
      let (brought, desk) := desk.fetch load.bucket
      desk.arrive number load.bucket brought

/-- Gives the oldest load its turn, and then the others. -/
def drain (desk : Desk) : Desk × List Task :=
  match desk.cache.held with
  | [] => (desk, [])
  | number :: held =>
    ({ desk with cache := { desk.cache with held }, turns := desk.turns + 1 },
      [.load number, .drain])

/-- Does a task. The tasks that come of it are to be done before all others. -/
def perform (desk : Desk) : Task → Desk × List Task
  | .submit session query followUp => desk.submit session query followUp
  | .look ticket => desk.look ticket
  | .handOut outcome => desk.handOut outcome
  | .call call => desk.call call
  | .resolve outcome answered => desk.resolve outcome answered
  | .settle ticket => desk.settle ticket
  | .deliver ticket failures result => (desk, deliver ticket failures result)
  | .conclude outcome result => (desk, [.resolve outcome (.result result)])
  | .finish number ending => desk.finish number ending
  | .load number => desk.runLoad number
  | .drain => desk.drain
  | .raise _ | .guard => (desk, [])

end Desk

/-- The tasks that a fault leaves, and the fault itself if no task handles it. -/
def unwind (fault : Fault) : List Task → List Task × Option Fault
  | [] => ([], some fault)
  | .guard :: tasks => (tasks, none)
  | .conclude outcome _ :: tasks => (.resolve outcome (.fault fault) :: tasks, none)
  | _ :: tasks => unwind fault tasks

/-- A desk with its stack of tasks. -/
structure Agenda where
  desk : Desk
  /-- The tasks, the next one first. -/
  tasks : List Task
  /-- The fault that took all tasks away, if one did. -/
  escaped : Option Fault := none

namespace Agenda

/-- The agenda after its next task was done; none if there is none. -/
def step? (agenda : Agenda) : Option Agenda :=
  match agenda.tasks with
  | [] => none
  | .raise fault :: tasks =>
    let (tasks, escaped) := unwind fault tasks
    some { agenda with tasks, escaped }
  | task :: tasks =>
    let (desk, next) := agenda.desk.perform task
    some { agenda with desk, tasks := next ++ tasks }

end Agenda

end SymbolLookup
