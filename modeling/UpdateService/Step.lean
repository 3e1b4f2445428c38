import UpdateService.Session

/-!
# The session as a step relation

One `Event` is one thing the event loop runs: an HTTP request, a bus signal delivered to a
live matcher, or the delivery of a completion or reply that is in flight.  Signals may come at
any time.  A completion or reply is delivered once, in any order, and the event names it
together with what it carries: the services of a `getDbusObject` reply, whether a call failed.
A cancelled timer wait is delivered in one of two ways: as `operation_aborted`, or as the
success that the timer had queued when it expired before the cancel (`lateExpiry`).
`step` is a function, so a schedule can be run; `Reachable` is every state that some schedule
reaches from `World.init`.

A request whose handler throws (`std::out_of_range`, `json::parse_error`) has no step: nothing
in the handlers catches it, so the run of the process ends there.
-/

namespace UpdateService

/-- One thing the event loop runs. -/
inductive Event where
  /-- A POST to `/redfish/v1/UpdateService/update/`; `uploadBad` is `out.bad()` of the write in
  `uploadImageFile`, if it is reached. -/
  | updateServicePost (contentType body : String) (uploadBad : Bool)
  /-- A POST to the SimpleUpdate action. -/
  | simpleUpdate (body : String)
  /-- `InterfacesAdded` under `/xyz/openbmc_project/software`, with its interface names. -/
  | softwareAdded (objPath : String) (interfaces : List String)
  /-- `InterfacesAdded` under `/xyz/openbmc_project/logging`. -/
  | logEntryAdded (interfaces : List (String × List (String × DbusVariantType)))
  /-- Delivery of request `req`'s timer completion: the expiry of an armed wait, or the
  `operation_aborted` of a cancelled one. -/
  | timerDone (req : Nat) (aborted : Bool)
  /-- Delivery of a cancelled wait of request `req` with success: its timer had expired, and
  the completion was queued, before the timer was destroyed. -/
  | lateExpiry (req : Nat)
  /-- Delivery of a `getDbusObject` reply: `none` for an error code, else the services. -/
  | getDbusObjectReply (req : Nat) (objPath : String) (reply : Option (List String))
  /-- Delivery of the `DownloadViaTFTP` reply. -/
  | downloadViaTFTPReply (req : Nat) (failed : Bool)
  /-- Delivery of the `setApplyTime` reply. -/
  | setApplyTimeReply (req : Nat) (failed : Bool)
  deriving DecidableEq, Repr

/-- Deliver `x` if it is in flight, and run its handler. -/
def World.deliver (w : World) (x : Pending) (handler : World → World) : Option World :=
  if x ∈ w.inFlight then some (handler (w.settle x)) else none

/-- A request is numbered by arrival. -/
def World.newRequest (w : World) : World := { w with nextReq := w.nextReq + 1 }

/-- **The step function.**  `none` when the event cannot happen: a signal with no live
matcher, a delivery of nothing in flight, or a request whose handler throws. -/
def step (p : Parsers) (w : World) : Event → Option World
  | .updateServicePost contentType body bad =>
    (handleUpdateServicePost p w.newRequest w.nextReq contentType body bad).toOption
  | .simpleUpdate body => (simpleUpdatePost p w.newRequest w.nextReq body).toOption
  | .softwareAdded objPath interfaces =>
    w.session.fwUpdateMatcher.map fun req => softwareInterfaceAdded w req objPath interfaces
  | .logEntryAdded interfaces =>
    w.session.fwUpdateErrorMatcher.map fun m =>
      errorMatcherCallback w m.1 m.2 (logEntryMessages interfaces)
  | .timerDone req aborted =>
    w.deliver (.timer req aborted) fun w => fwAvailableTimerHandler w req aborted
  | .lateExpiry req => w.deliver (.timer req true) fun w => fwAvailableTimerHandler w req false
  | .getDbusObjectReply req objPath reply =>
    w.deliver (.getDbusObject req objPath) fun w => getDbusObjectReply w req objPath reply
  | .downloadViaTFTPReply req failed =>
    w.deliver (.downloadViaTFTP req) fun w => downloadViaTFTPReply w failed
  | .setApplyTimeReply req failed =>
    w.deliver (.setApplyTime req) fun w => setApplyTimeReply w req failed

/-- A schedule run from `w`: `none` once an event cannot happen. -/
def run (p : Parsers) (w : World) : List Event → Option World
  | [] => some w
  | e :: rest => (step p w e).bind fun w' => run p w' rest

/-- The states that some schedule reaches from the start. -/
inductive Reachable (p : Parsers) : World → Prop where
  | init : Reachable p World.init
  | step {w w' : World} (e : Event) : Reachable p w → step p w e = some w' → Reachable p w'

/-- A request steps exactly when its handler does not throw. -/
theorem Except.toOption_eq_some {ε α : Type} {r : Except ε α} {a : α} :
    r.toOption = some a ↔ r = .ok a := by
  cases r <;> simp [Except.toOption]

/-- A state that `run` reaches from `w` is reachable when `w` is. -/
theorem Reachable.of_run {p : Parsers} {w w' : World} (hw : Reachable p w) :
    ∀ {es : List Event}, run p w es = some w' → Reachable p w'
  | [], h => by cases h; exact hw
  | e :: rest, h => by
    simp only [run, Option.bind_eq_some] at h
    obtain ⟨w₁, h₁, h₂⟩ := h
    exact (hw.step e h₁).of_run h₂

/-- A delivery happens exactly when the completion is in flight. -/
theorem World.deliver_eq_some {w w' : World} {x : Pending} {handler : World → World} :
    w.deliver x handler = some w' ↔ x ∈ w.inFlight ∧ handler (w.settle x) = w' := by
  unfold World.deliver
  split <;> simp [*]

end UpdateService
