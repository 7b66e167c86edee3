import Depository.Failure
import Depository.Json.Value

/-!
# Exchanges with servers

What is sent to a server and what comes back. A client is a conversation: it sends requests one
after another, each depending on the answers before it, and ends with a result. A request may go
without an answer, when the server cannot be reached.
-/

namespace Depository.Service

inductive Method where
  | get | post | put
  deriving DecidableEq

def Method.name : Method → String
  | .get => "GET"
  | .post => "POST"
  | .put => "PUT"

/-- What a request carries. -/
inductive Body where
  | none
  | json (j : Json)
  | text (s : String)

/-- What is sent to a server. -/
structure Request where
  method : Method
  url : String
  headers : List (String × String)
  body : Body

/-- The request as it is named in messages. -/
def Request.title (q : Request) : String := q.method.name ++ " " ++ q.url

/-- What comes back from a server. -/
structure Response where
  status : Nat
  body : String

def Response.isSuccess (r : Response) : Bool := 200 ≤ r.status && r.status < 300

/-- What a client does: it ends, or sends a request and goes on with the answer. -/
inductive Conversation (α : Type) where
  | done (result : Except Failure α)
  | ask (request : Request) (next : Option Response → Conversation α)

namespace Conversation

variable {α : Type}

def succeed (a : α) : Conversation α := .done (.ok a)

def fail (e : Failure) : Conversation α := .done (.error e)

/-- How a conversation ends when each request is answered by itself. -/
def via (reach : Request → Option Response) : Conversation α → Except Failure α
  | .done r => r
  | .ask q next => (next (reach q)).via reach

/-- How a conversation ends when its requests get these answers in turn and no others. -/
def result : Conversation α → List Response → Except Failure α
  | .done r, _ => r
  | .ask _ next, [] => (next none).result []
  | .ask _ next, answer :: rest => (next (some answer)).result rest

/-- The requests of a conversation that were answered. -/
def answered : Conversation α → List Response → List Request
  | .done _, _ => []
  | .ask _ next, [] => (next none).answered []
  | .ask q next, answer :: rest => q :: (next (some answer)).answered rest

end Conversation

/-- What is said of a request that nobody received. -/
def unsent : String := "error sending request"

end Depository.Service
