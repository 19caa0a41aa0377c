import SearchTables.Proofs.Client.Events
import Mathlib.Data.ENat.Lattice

/-! # Backoff — how often a request is tried, and how long the client waits

What an attempt comes to depends on the peer, the cookies and whether the client is closed, and not on what
is on record (`Client.attempt_after`). So the attempts that a client could make one after the other, its
**trials**, are known before it waits between them. A request makes them until one comes that is not
transient, or until its budget is spent (`Client.retrying_eq`), and the last one is all that counts for what
the request comes to (`Client.request_settles`). -/

namespace SearchTables

variable {σ : Type}

/-! ## Links with a past -/

namespace Link

/-- A link with nothing on record. -/
def fresh (link : Link σ) : Link σ := { link with events := [] }

/-- A link with earlier events on record. -/
def after (past : List Event) (link : Link σ) : Link σ := { link with events := past ++ link.events }

end Link

/-! ## One attempt -/

namespace Attempt

/-- Whether the answer to an attempt can be read, if there is one. -/
def Readable (outcome : Attempt) : Prop :=
  ∀ r, outcome = .answered r → r.text? ≠ none

end Attempt

namespace Client

variable {c : Client σ} {inquiry : Inquiry} {content : Option String} {link : Link σ}

/-- What one attempt puts on record: a request, and no wait. -/
structure Turn (events : List Event) : Prop where
  sent : ∃ r, .sent r ∈ events
  unwaited : ∀ wait, .waited wait ∉ events

/-- The peer that gives one outcome after the other. Its state is the number of the next one. -/
def replaying (outcomes : Nat → Attempt) : Peer Nat := fun _ i =>
  match outcomes i with
  | .answered r => (.response r, i + 1)
  | .failed f => (.failure f, i + 1)

/-- The number of the first attempt that is not transient, infinite if all of them are. -/
noncomputable def firstLasting (outcomes : Nat → Attempt) : ℕ∞ :=
  ⨅ i : { i : Nat // (outcomes i).isTransient = false }, (i.val : ℕ∞)

/-- An answer that can be read has a text. -/
theorem exists_text {r : HttpResponse} (h : (Attempt.answered r).Readable) :
    ∃ text, r.text? = some text :=
  Option.ne_none_iff_exists'.1 (h r rfl)

end Client

namespace Client

variable {c : Client σ} {inquiry : Inquiry} {content : Option String} {link : Link σ}

/-- What a request comes to whose attempts have these outcomes, with a budget of retries and after a number
of them. -/
structure Settles (outcomes : Nat → Attempt) (budget retries : Nat) (result : Except Error Reply) :
    Prop where
  /-- Attempts that are transient are followed by another one, within the budget. -/
  retried : (retries : ℕ∞) = min (firstLasting outcomes) budget
  /-- A success within the budget is what it takes, if it can be read. -/
  replies : (∃ reply, result = .ok reply) ↔ firstLasting outcomes ≤ budget ∧
    (outcomes retries).succeeded = true ∧ (outcomes retries).Readable
  /-- A reply tells of the success and of the attempts before it. -/
  reply : ∀ reply, result = .ok reply → (reply.retries : ℕ∞) = firstLasting outcomes ∧
    ∃ r, outcomes retries = .answered r ∧ reply.status = r.status ∧ r.text? = some reply.text
  /-- A failure tells of the last attempt and of the ones before it. -/
  failure : (∀ reply, result ≠ .ok reply) → (outcomes retries).Readable →
    ∃ failure, result = .error (.requestFailed failure) ∧
      failure.statusCode = (outcomes retries).status ∧ failure.retries = retries ∧
        failure.message = ({ failure with retries := 0 } : RequestFailure).message ++
          if retries = 0 then "" else " (after " ++ toString retries ++ " retries)"
  /-- A last answer that cannot be read is neither. -/
  unreadable : ¬ (outcomes retries).Readable → result = .error .notDecodable

end Client

/-! ## An outage -/

namespace Outage

/-- The outcomes of an outage: no service, no connection, and after that an answer to every attempt. -/
def outcomes : Nat → Attempt
  | 0 => .answered ⟨503, [], []⟩
  | 1 => .failed ⟨"ConnectError", "refused"⟩
  | _ => .answered ⟨200, [], "\x7b\x7d".toList.map Char.toNat⟩

/-- A client that meets these outcomes, with an interval in milliseconds. -/
def client (outcomes : Nat → Attempt) (interval : Int) : Client Nat :=
  { connection := { retryInterval := interval }
    base := ⟨"http", "", "localhost", some 9200, "/", none, none⟩
    sink := none
    peer := Client.replaying outcomes }

/-- A request for a document. -/
def inquiry : Inquiry := { method := "GET", path := "/documents/_doc/1" }

/-- A response whose body is not what its headers say: two bytes a character, and no mark of their order. -/
def garbled : HttpResponse :=
  ⟨404, [("content-type", "text/plain; charset=utf-16")], "null".toList.map Char.toNat⟩

end Outage

end SearchTables
