/-
  A network in the hands of many calls.

  A call needs the provider of its endpoint before it can ask anything, and gets it in steps:

      look up ──▶ parse ──▶ insert if absent ──▶ ask, and ask again
         │                                        ▲
         └─────────────── found ──────────────────┘

  1. **Races.**  Between any two of these steps all other calls may take theirs.  So several calls
     may parse the same endpoint, each of which makes a provider; the first that inserts its own
     wins, and the others take that one and throw theirs away.

  2. **Providers.**  A provider is known by the call that made it, so two of them can be told apart
     that go to one address.

  3. **Asking.**  A call that has its provider asks its first question, and a broadcast that got a
     hash goes on to ask for the receipt (`Moment.hears`).  A call may be given up while it waits
     for an answer.

  4. **What is written down**: every request with the call, the provider and the question.

  A call that is made while no other is under way does what `Network.broadcast` and
  `Network.balance` say.
-/
import TxRelay.Rpc.Network

namespace TxRelay.Rpc

/-- A provider: the call that made it, by number, and the address that its requests go to. -/
structure Provider where
  maker : Nat
  url : Url.Web
deriving DecidableEq, Repr

/-- What a call is for. -/
inductive Purpose where
  | broadcast (rawTx : Bytes)
  | balance (account : Address)
deriving DecidableEq, Repr

/-- How a call ends. -/
inductive Result where
  | broadcast (result : BroadcastResult)
  | balance (result : Except NetworkError Nat)
  /-- It was given up while it waited for an answer. -/
  | dropped

/-- The first question of a call. -/
def Purpose.question : Purpose → Question
  | broadcast rawTx => .send rawTx
  | balance account => .balance account

/-- The end of a call that fails. -/
def Purpose.failed : Purpose → NetworkError → Result
  | broadcast _, e => .broadcast (.error e)
  | balance _, e => .balance (.error e)

/-- What a call asks next. -/
inductive Asking where
  /-- The question that it was made for. -/
  | request
  /-- The receipt of a transaction that the node has, so many times. -/
  | receipt (hash : Hash) (rounds : Nat) (first : Bool)

/-- The question, unless all have been asked. -/
def Asking.question? (purpose : Purpose) : Asking → Option Question
  | request => some purpose.question
  | receipt _ 0 _ => none
  | receipt hash (_ + 1) _ => some (.receipt hash)

/-- What a call does next. -/
inductive Stage where
  /-- Look for the provider of its endpoint. -/
  | looking
  /-- Parse the endpoint, as no provider was there. -/
  | parsing
  /-- Insert the provider that it made, unless one is there now. -/
  | inserting (made : Provider)
  /-- Ask through this provider. -/
  | asking (provider : Provider) (next : Asking)
  | ended (result : Result)

/-- The call has looked for its provider, and made one if there was none. -/
def Stage.Passed : Stage → Prop
  | looking | parsing | inserting _ => False
  | asking _ _ | ended _ => True

/-- A call. -/
structure Task where
  endpoint : String
  purpose : Purpose
  stage : Stage := .looking

/-- A request that was made: the number of the call, the provider, and what was asked where. -/
structure Asked where
  number : Nat
  provider : Provider
  call : Call

/-- A network and its calls between two steps. -/
structure Moment where
  node : Node
  rpcTimeout : UInt64
  receiptTimeout : UInt64
  /-- The providers by the text of the endpoint, oldest first. -/
  providers : List (String × Provider) := []
  /-- The requests made so far, oldest first. -/
  requests : List Asked := []
  /-- Those of them that were answered. -/
  answered : List Call := []
  tasks : List Task := []

namespace Moment

/-- The network as one call sees it that nobody disturbs. -/
def network (m : Moment) : Network where
  node := m.node
  rpcTimeout := m.rpcTimeout
  receiptTimeout := m.receiptTimeout
  cached := m.providers.map fun entry => (entry.1, entry.2.url)
  calls := m.requests.map Asked.call
  answered := m.answered

/-- A new network. -/
def initial (n : Network) : Moment where
  node := n.node
  rpcTimeout := n.rpcTimeout
  receiptTimeout := n.receiptTimeout

/-- A call goes on to another stage. -/
def goes (m : Moment) (i : Nat) (t : Task) (stage : Stage) : Moment :=
  { m with tasks := m.tasks.set i { t with stage := stage } }

/-- Insert a provider, unless the endpoint has one. -/
def insert (m : Moment) (endpoint : String) (p : Provider) : Moment :=
  match m.providers.lookup endpoint with
  | some _ => m
  | none => { m with providers := m.providers ++ [(endpoint, p)] }

/-- A call asks a question through a provider. -/
def ask (m : Moment) (i : Nat) (p : Provider) (q : Question) :
    Except Network.Fault Json.Value × Moment :=
  let (answer, n) := m.network.ask p.url q
  (answer, { m with requests := m.requests ++ [⟨i, p, ⟨p.url, q⟩⟩], answered := n.answered })

/-- What a call does with an answer. -/
def hears (m : Moment) (purpose : Purpose) (p : Provider)
    (answer : Except Network.Fault Json.Value) : Asking → Stage
  | .request =>
    match purpose with
    | .balance _ =>
      match Network.decoded balanceOf answer with
      | .ok wei => .ended (.balance (.ok wei))
      | .error e => .ended (.balance (.error (m.network.errorOf e)))
    | .broadcast _ =>
      match Network.decoded hashOf answer with
      | .ok hash => .asking p (.receipt hash m.network.receiptRounds true)
      | .error e => .ended (.broadcast (.error (m.network.errorOf e)))
  | .receipt hash rounds first =>
    let pending (reason : String) : Stage :=
      .ended (.broadcast (.ok (.pending (Hex.encode0x hash.val) reason)))
    match Network.decoded receiptOf answer with
    | .error .timeout => pending Network.unconfirmed
    | .error (.failed text) => pending text
    | .ok none => .asking p (.receipt hash (rounds - 1) false)
    | .ok (some tx) =>
      if first then .asking p (.receipt hash (rounds - 1) false)
      else .ended (.broadcast (.ok (.mined tx)))

end Moment

/-- A step of one call: what becomes of the network, and the stage to which the call goes on. -/
inductive Does (m : Moment) (i : Nat) (t : Task) : Moment → Stage → Prop where
  | found {p : Provider} (looks : t.stage = .looking)
      (known : m.providers.lookup t.endpoint = some p) : Does m i t m (.asking p .request)
  | missing (looks : t.stage = .looking) (unknown : m.providers.lookup t.endpoint = none) :
      Does m i t m .parsing
  | refused {e : NetworkError} (parses : t.stage = .parsing)
      (bad : Endpoint.resolve t.endpoint = .error e) :
      Does m i t m (.ended (t.purpose.failed e))
  | parsed {url : Url.Web} (parses : t.stage = .parsing)
      (good : Endpoint.resolve t.endpoint = .ok url) : Does m i t m (.inserting ⟨i, url⟩)
  | inserted {made p : Provider} (inserts : t.stage = .inserting made)
      (stored : (m.insert t.endpoint made).providers.lookup t.endpoint = some p) :
      Does m i t (m.insert t.endpoint made) (.asking p .request)
  | asked {p : Provider} {next : Asking} {q : Question} (asks : t.stage = .asking p next)
      (question : next.question? t.purpose = some q) :
      Does m i t (m.ask i p q).2 (m.hears t.purpose p (m.ask i p q).1 next)
  | unconfirmed {p : Provider} {hash : Hash} {first : Bool}
      (asks : t.stage = .asking p (.receipt hash 0 first)) :
      Does m i t m
        (.ended (.broadcast (.ok (.pending (Hex.encode0x hash.val) Network.unconfirmed))))
  | dropped {p : Provider} {next : Asking} (asks : t.stage = .asking p next) :
      Does m i t m (.ended .dropped)

/-- One step. -/
inductive Step (m : Moment) : Moment → Prop where
  | call (endpoint : String) (purpose : Purpose) :
      Step m { m with tasks := m.tasks ++ [{ endpoint := endpoint, purpose := purpose }] }
  | does {i : Nat} {t : Task} {m' : Moment} {stage : Stage} (task : m.tasks[i]? = some t)
      (next : Does m i t m' stage) : Step m (m'.goes i t stage)

/-- The moments that a new network can come to. -/
inductive Reachable (n : Network) : Moment → Prop where
  | initial : Reachable n (.initial n)
  | step {m m' : Moment} (before : Reachable n m) (next : Step m m') : Reachable n m'

end TxRelay.Rpc
