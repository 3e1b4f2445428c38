import UpdateService.SimpleUpdate
import UpdateService.Multipart

/-!
# The update session: globals, callbacks and handlers

The orchestration state of `update_service.hpp` is four globals: the guard
`fwUpdateInProgress`, the two bus matchers `fwUpdateMatcher` and `fwUpdateErrorMatcher`, and
the timer `fwAvailableTimer`.  Everything else happens in callbacks: timer completions, match
callbacks and D-Bus replies.  A `World` holds the globals, the completions and replies still in
flight, every write to a response, and the calls made out of the model.

Each source function is a function on `World`.  A timer is recorded by the request that
armed it.  Destroying it (`= nullptr`, or replacing it) cancels its wait, as `boost::asio`
does.  The wait then completes with `operation_aborted`, or, if the timer had already expired
and its completion was queued, with success: a cancel cannot take back a queued completion.
A matcher is recorded by the request whose callback it runs.  Replacing or releasing it stops
its signals, so only a live matcher's callback runs.

* `setApplyTime_reads_back`: the value that `setApplyTime` puts on the bus is the one that the
  UpdateService GET reads back as the `ApplyTime` asked for.
* `multipart_rejections_diverge`: two multipart rejections that the handler answers differently.
-/

namespace UpdateService

/-- The four globals.  A live matcher or timer is recorded by the request whose
`monitorForSoftwareAvailable` created it.  The error matcher also keeps the `url` that its
callback captured. -/
structure Session where
  fwUpdateMatcher : Option Nat
  fwUpdateErrorMatcher : Option (Nat × String)
  fwUpdateInProgress : Bool
  fwAvailableTimer : Option Nat
  deriving DecidableEq, Repr

/-- `cleanUp`: clears the guard and releases both matchers.  It leaves the timer alone. -/
def Session.cleanUp (s : Session) : Session :=
  { s with fwUpdateInProgress := false, fwUpdateMatcher := none, fwUpdateErrorMatcher := none }

/-- A completion or reply that has been scheduled and not yet delivered. -/
inductive Pending where
  /-- The `async_wait` on request `req`'s `fwAvailableTimer`: still armed, or, once the timer
  was destroyed, cancelled.  A cancelled wait completes with `operation_aborted`, or with
  success when the timer had expired before it was destroyed. -/
  | timer (req : Nat) (aborted : Bool)
  /-- The reply to `getDbusObject` for the object a software signal announced. -/
  | getDbusObject (req : Nat) (objPath : String)
  /-- The reply to `DownloadViaTFTP`. -/
  | downloadViaTFTP (req : Nat)
  /-- The reply to the `setProperty` of `setApplyTime`. -/
  | setApplyTime (req : Nat)
  deriving DecidableEq, Repr

/-- The calls out of the model whose replies change nothing here. -/
inductive Call where
  | uploadImageFile (req : Nat) (body : String)
  | setApplyTime (value : String)
  | downloadViaTFTP (fwFile tftpServer : StdString)
  | activateImage (objPath service : String)
  | createTask (objPath : String)
  deriving DecidableEq, Repr

/-- The process: the globals, what is in flight, the writes to each request's response in
order, the calls made, and the number of the next request.  `lastAdmitted` is ghost state,
recorded for the statements: the request that `monitorForSoftwareAvailable` admitted last. -/
structure World where
  session : Session
  inFlight : List Pending
  responses : List (Nat × Message)
  calls : List Call
  nextReq : Nat
  lastAdmitted : Option Nat
  deriving DecidableEq, Repr

/-- The process at start: no update, nothing in flight. -/
def World.init : World := ⟨⟨none, none, false, none⟩, [], [], [], 0, none⟩

namespace World

/-- A write to request `req`'s response. -/
def respond (w : World) (req : Nat) (m : Message) : World :=
  { w with responses := w.responses ++ [(req, m)] }

/-- Several writes to request `req`'s response. -/
def respondAll (w : World) (req : Nat) (ms : List Message) : World :=
  { w with responses := w.responses ++ ms.map fun m => (req, m) }

/-- A call out of the model. -/
def call (w : World) (c : Call) : World := { w with calls := w.calls ++ [c] }

/-- A completion or reply is scheduled. -/
def post (w : World) (x : Pending) : World := { w with inFlight := w.inFlight ++ [x] }

/-- A scheduled completion or reply is delivered. -/
def settle (w : World) (x : Pending) : World := { w with inFlight := w.inFlight.erase x }

/-- `cleanUp` on the process. -/
def cleanUp (w : World) : World := { w with session := w.session.cleanUp }

@[simp] theorem respond_calls (w : World) (req : Nat) (m : Message) :
    (w.respond req m).calls = w.calls := rfl

@[simp] theorem respondAll_calls (w : World) (req : Nat) (ms : List Message) :
    (w.respondAll req ms).calls = w.calls := rfl

@[simp] theorem call_calls (w : World) (c : Call) : (w.call c).calls = w.calls ++ [c] := rfl

@[simp] theorem post_calls (w : World) (x : Pending) : (w.post x).calls = w.calls := rfl

@[simp] theorem settle_calls (w : World) (x : Pending) : (w.settle x).calls = w.calls := rfl

@[simp] theorem cleanUp_calls (w : World) : w.cleanUp.calls = w.calls := rfl

end World

/-- Destroying timer `t` cancels its armed wait. -/
def abortWait (t : Nat) : Pending → Pending
  | .timer r false => if r = t then .timer r true else .timer r false
  | x => x

/-- `fwAvailableTimer = nullptr`: the timer is destroyed, and a wait still armed on it is
cancelled. -/
def World.destroyTimer (w : World) : World :=
  match w.session.fwAvailableTimer with
  | none => w
  | some t =>
    { w with session := { w.session with fwAvailableTimer := none },
             inFlight := w.inFlight.map (abortWait t) }

/-- After `destroyTimer` there is no timer. -/
@[simp] theorem World.destroyTimer_timer (w : World) :
    w.destroyTimer.session.fwAvailableTimer = none := by
  unfold World.destroyTimer
  split
  · assumption
  · rfl

@[simp] theorem World.destroyTimer_calls (w : World) : w.destroyTimer.calls = w.calls := by
  unfold World.destroyTimer
  split <;> rfl

@[simp] theorem World.destroyTimer_lastAdmitted (w : World) :
    w.destroyTimer.lastAdmitted = w.lastAdmitted := by
  unfold World.destroyTimer
  split <;> rfl

/-- A wait is armed after `abortWait t` exactly when it was armed on another timer. -/
theorem abortWait_eq_armed {t r : Nat} {x : Pending} :
    abortWait t x = .timer r false ↔ x = .timer r false ∧ r ≠ t := by
  rcases x with ⟨r', _ | _⟩ | _ | _ | _ <;> simp only [abortWait, reduceCtorEq, false_iff,
    Pending.timer.injEq, false_and, and_false, not_false_eq_true, and_true, not_and]
  by_cases h : r' = t
  · subst h
    exact ⟨fun e => by simp at e, fun ⟨e, hne⟩ => absurd e.symm hne⟩
  · simp only [h, if_false, Pending.timer.injEq, and_true]
    exact ⟨fun e => ⟨e, e ▸ h⟩, And.left⟩

/-! ## The orchestrator -/

/-- `monitorForSoftwareAvailable`.  A busy session answers `ServiceTemporarilyUnavailable` and
changes nothing.  Otherwise the old timer is replaced by an armed one, the guard is set, and
both matchers are replaced by ones that run request `req`'s callbacks.  The timeout
(25 s or 600 s) is not modelled: the timer may complete at any point of a run. -/
def monitorForSoftwareAvailable (w : World) (req : Nat) (url : String) : World :=
  if w.session.fwUpdateInProgress then w.respond req (.serviceTemporarilyUnavailable "30")
  else
    let w := w.destroyTimer
    { w with session := ⟨some req, some (req, url), true, some req⟩,
             inFlight := w.inFlight ++ [.timer req false],
             lastAdmitted := some req }

/-- The completion handler of `fwAvailableTimer`.  It runs `cleanUp` first, whatever the error
code.  Only an expiry then writes the timeout error. -/
def fwAvailableTimerHandler (w : World) (req : Nat) (aborted : Bool) : World :=
  let w := w.cleanUp
  if aborted then w else w.respond req .internalError

/-- `softwareInterfaceAdded`: a signal that adds the `Activation` interface asks
`getDbusObject` for the object's service. -/
def softwareInterfaceAdded (w : World) (req : Nat) (objPath : String)
    (interfaces : List String) : World :=
  if "xyz.openbmc_project.Software.Activation" ∈ interfaces then
    w.post (.getDbusObject req objPath)
  else w

/-- The reply handler of `getDbusObject` in `softwareInterfaceAdded`.  `reply` is `none` for
an error code, or the services that own the object.  One service destroys the timer,
activates the image, creates the task and answers with it, and clears the guard.  The
matchers stay live.  Anything else is `InternalError` and `cleanUp`. -/
def getDbusObjectReply (w : World) (req : Nat) (objPath : String) :
    Option (List String) → World
  | some [service] =>
    let w := (((w.destroyTimer.call (.activateImage objPath service)).call
      (.createTask objPath)).respond req (.taskCreated objPath))
    { w with session := { w.session with fwUpdateInProgress := false } }
  | _ => (w.respond req .internalError).cleanUp

/-- The classification in the error matcher's callback of a log entry's `Message`. -/
def logErrorMessages (url type : String) : List Message :=
  if type = "xyz.openbmc_project.Software.Image.Error.UnTarFailure" then
    [.invalidUpload url "Invalid archive"]
  else if type = "xyz.openbmc_project.Software.Image.Error.ManifestFileFailure" then
    [.invalidUpload url "Invalid manifest"]
  else if type = "xyz.openbmc_project.Software.Image.Error.ImageFailure" then
    [.invalidUpload url "Invalid image format"]
  else if type = "xyz.openbmc_project.Software.Version.Error.AlreadyExists" then
    [.invalidUpload url "Image version already exists",
     .resourceAlreadyExists "UpdateService" "Version" "uploaded version"]
  else if type = "xyz.openbmc_project.Software.Image.Error.BusyFailure" then
    [.resourceExhaustion url]
  else [.internalError]

/-- The `Message` values of the `xyz.openbmc_project.Logging.Entry` interfaces of a signal,
in the order that the two nested loops of the error callback visit them. -/
def logEntryMessages (interfaces : List (String × List (String × DbusVariantType))) :
    List DbusVariantType :=
  (interfaces.filter fun i => i.1 = "xyz.openbmc_project.Logging.Entry").flatMap fun i =>
    (i.2.filter fun v => v.1 = "Message").map (·.2)

/-- The callback of `fwUpdateErrorMatcher`, over the `Message` values it visits.  A string
destroys the timer and writes its classification.  A value of another type returns ("timeout
will cover it"). -/
def errorMatcherCallback (w : World) (req : Nat) (url : String) :
    List DbusVariantType → World
  | [] => w
  | .string type :: rest =>
    errorMatcherCallback (w.destroyTimer.respondAll req (logErrorMessages url type)) req url rest
  | _ :: _ => w

/-! ## The request handlers -/

/-- `uploadImageFile`.  `bad` is `out.bad()` after the write, which writes `InternalError`
and runs `cleanUp`. -/
def uploadImageFile (w : World) (req : Nat) (body : String) (bad : Bool) : World :=
  let w := w.call (.uploadImageFile req body)
  if bad then (w.respond req .internalError).cleanUp else w

/-- `setApplyTime`: `Immediate` and `OnReset` are set on the bus; any other value is
`PropertyValueNotInList`. -/
def setApplyTime (w : World) (req : Nat) (applyTime : String) : World :=
  if applyTime = "Immediate" then
    (w.call (.setApplyTime
      "xyz.openbmc_project.Software.ApplyTime.RequestedApplyTimes.Immediate")).post
      (.setApplyTime req)
  else if applyTime = "OnReset" then
    (w.call (.setApplyTime
      "xyz.openbmc_project.Software.ApplyTime.RequestedApplyTimes.OnReset")).post
      (.setApplyTime req)
  else w.respond req (.propertyValueNotInList applyTime "ApplyTime")

/-- The reply handler of `setApplyTime`'s `setProperty`. -/
def setApplyTimeReply (w : World) (req : Nat) (failed : Bool) : World :=
  w.respond req (if failed then .internalError else .success)

/-- The `RequestedApplyTime` reply handler of the UpdateService GET: the `ApplyTime` that it
writes under `HttpPushUriOptions.HttpPushUriApplyTime`.  Any other value writes nothing. -/
def getApplyTimeReply (applyTime : String) : Option String :=
  if applyTime = "xyz.openbmc_project.Software.ApplyTime.RequestedApplyTimes.Immediate" then
    some "Immediate"
  else if applyTime = "xyz.openbmc_project.Software.ApplyTime.RequestedApplyTimes.OnReset" then
    some "OnReset"
  else none

/-- **The apply time reads back.**  `setApplyTime` sets the D-Bus value `v` exactly when the
UpdateService GET reads `v` back as the `ApplyTime` that was asked for.  Any other `ApplyTime`
sets nothing. -/
theorem setApplyTime_reads_back (w : World) (req : Nat) (applyTime v : String) :
    (setApplyTime w req applyTime).calls = w.calls ++ [.setApplyTime v] ↔
      getApplyTimeReply v = some applyTime := by
  unfold setApplyTime getApplyTimeReply
  by_cases hI : applyTime = "Immediate"
  · subst hI
    by_cases hv : v = "xyz.openbmc_project.Software.ApplyTime.RequestedApplyTimes.Immediate"
    · simp [hv]
    · simp [hv, Ne.symm hv]
  by_cases hO : applyTime = "OnReset"
  · subst hO
    by_cases hv : v = "xyz.openbmc_project.Software.ApplyTime.RequestedApplyTimes.OnReset"
    · simp [hv]
    · simp [hv, Ne.symm hv]
  · simp only [hI, hO, if_false]
    split_ifs <;> simp [World.respond, Ne.symm hI, Ne.symm hO]

/-- `updateMultipartContext`: the part loop, then `setApplyTime` and `uploadImageFile` on
success.  The result of `setApplyTime` is not checked. -/
def updateMultipartContext (p : Parsers) (w : World) (req : Nat) (parts : List FormPart)
    (bad : Bool) : Except Throw World := do
  let upload ← multipartUpload p parts
  pure <| match upload with
    | .error msgs => w.respondAll req msgs
    | .ok (data, applyTime) => uploadImageFile (setApplyTime w req applyTime) req data bad

/-- **Multipart rejections that diverge.**  A form part without `Content-Disposition` ends
`updateMultipartContext` and nothing is written.  An `@Redfish.OperationApplyTime` of `Later`
is answered `PropertyValueNotInList` by `setApplyTime`, and the image is uploaded anyway.  An
`UpdateParameters` part that is not JSON throws `parse_error` out of the handler. -/
theorem multipart_rejections_diverge :
    (∀ (p : Parsers) (w : World) (req : Nat) (content : String) (rest : List FormPart)
        (bad : Bool), updateMultipartContext p w req (⟨[], content⟩ :: rest) bad = .ok w) ∧
    (updateMultipartContext
        { (default : Parsers) with
          paramList := fun tail =>
            if tail = "; name=\"UpdateParameters\"" then [("name", "UpdateParameters")]
            else [("name", "UpdateFile")],
          readUpdateParameters := fun _ => .ok (.ok (["/redfish/v1/Managers/bmc"], some "Later")) }
        World.init 0
        [⟨[("Content-Disposition", "form-data; name=\"UpdateParameters\"")], "parameters"⟩,
         ⟨[("Content-Disposition", "form-data; name=\"UpdateFile\"")], "image"⟩] false).toOption.map
        (fun w => (w.responses, w.calls)) =
      some ([(0, .propertyValueNotInList "Later" "ApplyTime")], [.uploadImageFile 0 "image"]) ∧
    (∀ (p : Parsers) (w : World) (req : Nat) (part : FormPart) (rest : List FormPart)
        (bad : Bool), partParams p part = [("name", "UpdateParameters")] →
        p.readUpdateParameters part.content = .error .parseError →
        updateMultipartContext p w req (part :: rest) bad = .error .parseError) := by
  refine ⟨fun p w req content rest bad => ?_, rfl, fun p w req part rest bad hp hj => ?_⟩
  · simp only [updateMultipartContext, multipartUpload_missing_disposition p ⟨[], content⟩ rfl rest,
      bind, Except.bind, World.respondAll, List.map_nil, List.append_nil]
    rfl
  · simp only [updateMultipartContext, multipartUpload_parse_error p part hp hj rest]
    rfl

/-- `handleUpdateServicePost`.  Both accepted content types call
`monitorForSoftwareAvailable` first, and neither looks at what it answered. -/
def handleUpdateServicePost (p : Parsers) (w : World) (req : Nat) (contentType body : String)
    (bad : Bool) : Except Throw World :=
  if iequals contentType "application/octet-stream" then
    .ok (uploadImageFile (monitorForSoftwareAvailable w req "/redfish/v1/UpdateService") req
      body bad)
  else if startsWith contentType "multipart/form-data" then
    let w := monitorForSoftwareAvailable w req "/redfish/v1/UpdateService"
    match p.multipart contentType body with
    | none => .ok (w.respond req .internalError)
    | some parts => updateMultipartContext p w req parts bad
  else .ok (w.respond req .badRequest)

/-- The POST handler of the SimpleUpdate action.  Once the ImageURI checks pass, it calls
`monitorForSoftwareAvailable`, writes `Success` and calls `DownloadViaTFTP`, whatever
`monitorForSoftwareAvailable` answered. -/
def simpleUpdatePost (p : Parsers) (w : World) (req : Nat) (body : String) :
    Except Throw World :=
  match p.readJsonAction body with
  | .error msgs => .ok (w.respondAll req msgs)
  | .ok (transferProtocol, imageURI) => do
    let target ← simpleUpdateTarget (transferProtocol.map utf8) (utf8 imageURI)
    pure <| match target with
      | .error m => w.respond req m
      | .ok (tftpServer, fwFile) =>
        let w := (monitorForSoftwareAvailable w req
          "/redfish/v1/UpdateService/Actions/UpdateService.SimpleUpdate").respond req .success
        (w.call (.downloadViaTFTP fwFile tftpServer)).post (.downloadViaTFTP req)

/-- The reply handler of `DownloadViaTFTP`: an error runs `cleanUp`. -/
def downloadViaTFTPReply (w : World) (failed : Bool) : World :=
  if failed then w.cleanUp else w

end UpdateService
