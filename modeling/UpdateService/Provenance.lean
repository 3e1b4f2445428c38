import UpdateService.Staging

/-!
# Where activations and downloads come from

`activateImage` and `createTask` are called from one place, the success branch of the
`getDbusObject` reply.  That reply was asked for by `softwareInterfaceAdded`, for an object that
a signal announced with the `Activation` interface.  This file traces each such call in a run
back to the events that caused it.

* `step_calls`: what one step can add to the calls, read off its event (`StepCall`).
* `step_getDbusObject`: only a software signal with `Activation` asks for a `getDbusObject`
  reply.
* `activation_announced`: in every run from the start, an `activateImage` or a `createTask`
  for an object comes from a `getDbusObject` reply that named exactly one service for it.  The
  run splits at that reply, and before it a signal announced the object with `Activation`.
-/

namespace UpdateService

/-! ## What each handler keeps in flight -/

namespace World

variable (w : World)

@[simp] theorem respond_inFlight (req : Nat) (m : Message) :
    (w.respond req m).inFlight = w.inFlight := rfl

@[simp] theorem respondAll_inFlight (req : Nat) (ms : List Message) :
    (w.respondAll req ms).inFlight = w.inFlight := rfl

@[simp] theorem call_inFlight (c : Call) : (w.call c).inFlight = w.inFlight := rfl

@[simp] theorem newRequest_inFlight : w.newRequest.inFlight = w.inFlight := rfl

@[simp] theorem cleanUp_inFlight : w.cleanUp.inFlight = w.inFlight := rfl

@[simp] theorem post_inFlight (x : Pending) : (w.post x).inFlight = w.inFlight ++ [x] := rfl

@[simp] theorem settle_inFlight (x : Pending) : (w.settle x).inFlight = w.inFlight.erase x :=
  rfl

end World

/-- Destroying a timer changes only timer completions. -/
theorem abortWait_eq_getDbusObject {t req : Nat} {objPath : String} {x : Pending} :
    abortWait t x = .getDbusObject req objPath ↔ x = .getDbusObject req objPath := by
  rcases x with ⟨r, _ | _⟩ | _ | _ | _ <;> simp only [abortWait]
  split <;> simp

@[simp] theorem mem_destroyTimer_getDbusObject (w : World) (req : Nat) (objPath : String) :
    Pending.getDbusObject req objPath ∈ w.destroyTimer.inFlight ↔
      Pending.getDbusObject req objPath ∈ w.inFlight := by
  unfold World.destroyTimer
  split
  · rfl
  · simp [abortWait_eq_getDbusObject]

section Queries

variable (w : World) (req : Nat) (objPath : String)

@[simp] theorem mem_monitorForSoftwareAvailable_getDbusObject (r : Nat) (url : String) :
    Pending.getDbusObject req objPath ∈ (monitorForSoftwareAvailable w r url).inFlight ↔
      Pending.getDbusObject req objPath ∈ w.inFlight := by
  unfold monitorForSoftwareAvailable
  split <;> simp

@[simp] theorem fwAvailableTimerHandler_inFlight (r : Nat) (aborted : Bool) :
    (fwAvailableTimerHandler w r aborted).inFlight = w.inFlight := by
  cases aborted <;> rfl

@[simp] theorem mem_getDbusObjectReply_getDbusObject (r : Nat) (path : String)
    (reply : Option (List String)) :
    Pending.getDbusObject req objPath ∈ (getDbusObjectReply w r path reply).inFlight ↔
      Pending.getDbusObject req objPath ∈ w.inFlight := by
  unfold getDbusObjectReply
  split <;> simp

@[simp] theorem mem_errorMatcherCallback_getDbusObject (r : Nat) (url : String) :
    ∀ (w : World) (values : List DbusVariantType),
      Pending.getDbusObject req objPath ∈ (errorMatcherCallback w r url values).inFlight ↔
        Pending.getDbusObject req objPath ∈ w.inFlight
  | _, [] => .rfl
  | w, .string _ :: rest => by
    rw [errorMatcherCallback, mem_errorMatcherCallback_getDbusObject r url _ rest]
    simp
  | _, .uint8 _ :: _ => .rfl
  | _, .other :: _ => .rfl

@[simp] theorem uploadImageFile_inFlight (r : Nat) (body : String) (bad : Bool) :
    (uploadImageFile w r body bad).inFlight = w.inFlight := by
  cases bad <;> rfl

@[simp] theorem mem_setApplyTime_getDbusObject (r : Nat) (applyTime : String) :
    Pending.getDbusObject req objPath ∈ (setApplyTime w r applyTime).inFlight ↔
      Pending.getDbusObject req objPath ∈ w.inFlight := by
  unfold setApplyTime
  split_ifs <;> simp

@[simp] theorem downloadViaTFTPReply_inFlight (failed : Bool) :
    (downloadViaTFTPReply w failed).inFlight = w.inFlight := by
  cases failed <;> rfl

end Queries

section Requests

variable {p : Parsers} {w w' : World} {r : Nat} {req : Nat} {objPath : String}

theorem updateMultipartContext_getDbusObject {parts : List FormPart} {bad : Bool}
    (h : updateMultipartContext p w r parts bad = .ok w')
    (hm : Pending.getDbusObject req objPath ∈ w'.inFlight) :
    Pending.getDbusObject req objPath ∈ w.inFlight := by
  unfold updateMultipartContext at h
  rcases hu : multipartUpload p parts with t | (msgs | ⟨data, applyTime⟩) <;>
    simp only [hu, bind, Except.bind, pure, Except.pure] at h <;> cases h
  · exact hm
  · simpa using hm

theorem handleUpdateServicePost_getDbusObject {contentType body : String} {bad : Bool}
    (h : handleUpdateServicePost p w r contentType body bad = .ok w')
    (hm : Pending.getDbusObject req objPath ∈ w'.inFlight) :
    Pending.getDbusObject req objPath ∈ w.inFlight := by
  unfold handleUpdateServicePost at h
  split at h
  · cases h
    simpa using hm
  split at h
  · split at h
    · cases h
      simpa using hm
    · simpa using updateMultipartContext_getDbusObject h hm
  · cases h
    exact hm

theorem simpleUpdatePost_getDbusObject {body : String} (h : simpleUpdatePost p w r body = .ok w')
    (hm : Pending.getDbusObject req objPath ∈ w'.inFlight) :
    Pending.getDbusObject req objPath ∈ w.inFlight := by
  unfold simpleUpdatePost at h
  split at h
  · cases h
    exact hm
  · rcases ht : simpleUpdateTarget _ _ with t | (m | ⟨tftpServer, fwFile⟩) <;>
      rw [ht] at h <;> cases h
    · exact hm
    · simpa using hm

end Requests

/-- **Only an `Activation` signal asks for a `getDbusObject` reply.**  A step adds a query in
flight only when it is a software signal whose interfaces include `Activation`. -/
theorem step_getDbusObject {p : Parsers} {w w' : World} {e : Event} (hs : step p w e = some w')
    {req : Nat} {objPath : String} (hm : Pending.getDbusObject req objPath ∈ w'.inFlight) :
    Pending.getDbusObject req objPath ∈ w.inFlight ∨ ∃ interfaces,
      e = .softwareAdded objPath interfaces ∧
        "xyz.openbmc_project.Software.Activation" ∈ interfaces := by
  cases e with
  | updateServicePost =>
    exact .inl (handleUpdateServicePost_getDbusObject (Except.toOption_eq_some.mp hs) hm :)
  | simpleUpdate =>
    exact .inl (simpleUpdatePost_getDbusObject (Except.toOption_eq_some.mp hs) hm :)
  | softwareAdded path interfaces =>
    obtain ⟨r, -, rfl⟩ := Option.map_eq_some'.mp hs
    unfold softwareInterfaceAdded at hm
    split at hm
    · simp only [World.post_inFlight, List.mem_append, List.mem_singleton,
        Pending.getDbusObject.injEq] at hm
      rcases hm with hm | ⟨-, rfl⟩
      · exact .inl hm
      · exact .inr ⟨interfaces, rfl, ‹_›⟩
    · exact .inl hm
  | logEntryAdded =>
    obtain ⟨m, -, rfl⟩ := Option.map_eq_some'.mp hs
    exact .inl (by simpa using hm)
  | timerDone | lateExpiry | getDbusObjectReply | downloadViaTFTPReply | setApplyTimeReply =>
    simp only [step, World.deliver_eq_some] at hs
    obtain ⟨-, rfl⟩ := hs
    simp only [fwAvailableTimerHandler_inFlight, mem_getDbusObjectReply_getDbusObject,
      downloadViaTFTPReply_inFlight, setApplyTimeReply, World.respond_inFlight,
      World.settle_inFlight] at hm
    exact .inl (List.mem_of_mem_erase hm)

/-! ## What each handler calls -/

/-- The calls that an `UpdateService` POST can make: the image write and the apply time. -/
def UploadCall (c : Call) : Prop :=
  (∃ r data, c = .uploadImageFile r data) ∨ ∃ v, c = .setApplyTime v

section Calls

variable {p : Parsers} {w w' : World} {req : Nat} {c : Call}

theorem setApplyTime_calls_sub {applyTime : String}
    (hc : c ∈ (setApplyTime w req applyTime).calls) :
    c ∈ w.calls ∨ ∃ v, c = .setApplyTime v := by
  unfold setApplyTime at hc
  split_ifs at hc <;> simp only [World.post_calls, World.call_calls, World.respond_calls,
    List.mem_append, List.mem_singleton] at hc
  all_goals first | exact hc.imp_right fun e => ⟨_, e⟩ | exact .inl hc

theorem updateMultipartContext_calls_sub {parts : List FormPart} {bad : Bool}
    (h : updateMultipartContext p w req parts bad = .ok w') (hc : c ∈ w'.calls) :
    c ∈ w.calls ∨ UploadCall c := by
  unfold updateMultipartContext at h
  rcases hu : multipartUpload p parts with t | (msgs | ⟨data, applyTime⟩) <;>
    simp only [hu, bind, Except.bind, pure, Except.pure] at h <;> cases h
  · exact .inl hc
  · simp only [uploadImageFile_calls, List.mem_append, List.mem_singleton] at hc
    rcases hc with hc | rfl
    · exact (setApplyTime_calls_sub hc).imp_right .inr
    · exact .inr (.inl ⟨_, _, rfl⟩)

theorem handleUpdateServicePost_calls_sub {contentType body : String} {bad : Bool}
    (h : handleUpdateServicePost p w req contentType body bad = .ok w') (hc : c ∈ w'.calls) :
    c ∈ w.calls ∨ UploadCall c := by
  unfold handleUpdateServicePost at h
  split at h
  · cases h
    simp only [uploadImageFile_calls, monitorForSoftwareAvailable_calls, List.mem_append,
      List.mem_singleton] at hc
    exact hc.imp_right fun e => .inl ⟨_, _, e⟩
  split at h
  · split at h
    · cases h
      exact .inl (by simpa using hc)
    · exact (updateMultipartContext_calls_sub h hc).imp_left fun hc => by simpa using hc
  · cases h
    exact .inl hc

theorem simpleUpdatePost_calls_sub {body : String} (h : simpleUpdatePost p w req body = .ok w')
    (hc : c ∈ w'.calls) :
    c ∈ w.calls ∨ ∃ transferProtocol imageURI tftpServer fwFile,
      p.readJsonAction body = .ok (transferProtocol, imageURI) ∧
        simpleUpdateTarget (transferProtocol.map utf8) (utf8 imageURI) =
          .ok (.ok (tftpServer, fwFile)) ∧
          c = .downloadViaTFTP fwFile tftpServer := by
  unfold simpleUpdatePost at h
  split at h
  · cases h
    exact .inl hc
  · rename_i transferProtocol imageURI hr
    rcases ht : simpleUpdateTarget (transferProtocol.map utf8) (utf8 imageURI) with
        t | (m | ⟨tftpServer, fwFile⟩) <;>
      rw [ht] at h <;> cases h
    · exact .inl hc
    · simp only [World.post_calls, World.call_calls, World.respond_calls,
        monitorForSoftwareAvailable_calls, List.mem_append, List.mem_singleton] at hc
      exact hc.imp_right fun e => ⟨transferProtocol, imageURI, tftpServer, fwFile, hr, ht, e⟩

theorem getDbusObjectReply_calls_sub (objPath : String) (reply : Option (List String))
    (hc : c ∈ (getDbusObjectReply w req objPath reply).calls) :
    c ∈ w.calls ∨ ∃ service, reply = some [service] ∧
      (c = .activateImage objPath service ∨ c = .createTask objPath) := by
  unfold getDbusObjectReply at hc
  split at hc
  · rename_i service
    simp only [World.respond_calls, World.call_calls, World.destroyTimer_calls, List.mem_append,
      List.mem_singleton] at hc
    rcases hc with (hc | hc) | hc
    · exact .inl hc
    · exact .inr ⟨service, rfl, .inl hc⟩
    · exact .inr ⟨service, rfl, .inr hc⟩
  · exact .inl (by simpa using hc)

end Calls

/-- The calls that event `e` can add in state `w`. -/
def StepCall (p : Parsers) (w : World) : Event → Call → Prop
  | .updateServicePost .., c => UploadCall c
  | .simpleUpdate body, c => ∃ transferProtocol imageURI tftpServer fwFile,
      p.readJsonAction body = .ok (transferProtocol, imageURI) ∧
        simpleUpdateTarget (transferProtocol.map utf8) (utf8 imageURI) =
          .ok (.ok (tftpServer, fwFile)) ∧
          c = .downloadViaTFTP fwFile tftpServer
  | .getDbusObjectReply req objPath reply, c =>
      Pending.getDbusObject req objPath ∈ w.inFlight ∧ ∃ service, reply = some [service] ∧
        (c = .activateImage objPath service ∨ c = .createTask objPath)
  | _, _ => False

/-- **What a step calls.**  A call that a step adds is an image write or an apply time for an
`UpdateService` POST, a download for a SimpleUpdate POST whose checks passed, or an activation
and a task for a `getDbusObject` reply in flight that named one service. -/
theorem step_calls {p : Parsers} {w w' : World} {e : Event} (hs : step p w e = some w')
    {c : Call} (hc : c ∈ w'.calls) : c ∈ w.calls ∨ StepCall p w e c := by
  cases e with
  | updateServicePost =>
    exact (handleUpdateServicePost_calls_sub (Except.toOption_eq_some.mp hs) hc :)
  | simpleUpdate => exact (simpleUpdatePost_calls_sub (Except.toOption_eq_some.mp hs) hc :)
  | softwareAdded =>
    obtain ⟨req, -, rfl⟩ := Option.map_eq_some'.mp hs
    exact .inl (by simpa using hc)
  | logEntryAdded =>
    obtain ⟨m, -, rfl⟩ := Option.map_eq_some'.mp hs
    exact .inl (by simpa using hc)
  | timerDone | lateExpiry | downloadViaTFTPReply | setApplyTimeReply =>
    simp only [step, World.deliver_eq_some] at hs
    obtain ⟨-, rfl⟩ := hs
    exact .inl (by simpa using hc)
  | getDbusObjectReply req objPath reply =>
    simp only [step, World.deliver_eq_some] at hs
    obtain ⟨hm, rfl⟩ := hs
    exact (getDbusObjectReply_calls_sub objPath reply hc).imp (by simpa using ·)
      fun h => ⟨hm, h⟩

/-! ## Runs -/

/-- Some signal of `es` announced `objPath` with the `Activation` interface. -/
def Announced (es : List Event) (objPath : String) : Prop :=
  ∃ interfaces, Event.softwareAdded objPath interfaces ∈ es ∧
    "xyz.openbmc_project.Software.Activation" ∈ interfaces

/-- `es` splits at a `getDbusObject` reply that named only `service` for `objPath`, after a
signal that announced it. -/
def ActivatedIn (es : List Event) (objPath service : String) : Prop :=
  ∃ pre req post, es = pre ++ .getDbusObjectReply req objPath (some [service]) :: post ∧
    Announced pre objPath

theorem Announced.snoc {es : List Event} {objPath : String} (h : Announced es objPath)
    (e : Event) : Announced (es ++ [e]) objPath :=
  let ⟨interfaces, hm, ha⟩ := h
  ⟨interfaces, List.mem_append_left _ hm, ha⟩

theorem ActivatedIn.snoc {es : List Event} {objPath service : String}
    (h : ActivatedIn es objPath service) (e : Event) : ActivatedIn (es ++ [e]) objPath service :=
  let ⟨pre, req, post, he, ha⟩ := h
  ⟨pre, req, post ++ [e], by rw [he]; simp, ha⟩

/-- What the queries and calls of a state owe to the events `es` that led to it. -/
structure CallTrace (es : List Event) (w : World) : Prop where
  query : ∀ req objPath, Pending.getDbusObject req objPath ∈ w.inFlight → Announced es objPath
  activate : ∀ objPath service, Call.activateImage objPath service ∈ w.calls →
    ActivatedIn es objPath service
  task : ∀ objPath, Call.createTask objPath ∈ w.calls →
    ∃ service, ActivatedIn es objPath service

/-- Nothing is owed at the start. -/
theorem CallTrace.init : CallTrace [] World.init :=
  ⟨fun _ _ h => (nomatch h), fun _ _ h => (nomatch h), fun _ h => (nomatch h)⟩

/-- **The step lemma.** -/
theorem CallTrace.of_step {p : Parsers} {es : List Event} {w w' : World} {e : Event}
    (h : CallTrace es w) (hs : step p w e = some w') : CallTrace (es ++ [e]) w' where
  query req objPath hm := by
    rcases step_getDbusObject hs hm with hm | ⟨interfaces, rfl, ha⟩
    · exact (h.query req objPath hm).snoc e
    · exact ⟨interfaces, List.mem_append_right _ (List.mem_singleton_self _), ha⟩
  activate objPath service hc := by
    rcases step_calls hs hc with hc | hst
    · exact (h.activate objPath service hc).snoc e
    cases e <;> simp [StepCall, UploadCall] at hst
    case getDbusObjectReply req path reply =>
      obtain ⟨hm, rfl, rfl⟩ := hst
      exact ⟨es, req, [], rfl, h.query req objPath hm⟩
  task objPath hc := by
    rcases step_calls hs hc with hc | hst
    · obtain ⟨service, ha⟩ := h.task objPath hc
      exact ⟨service, ha.snoc e⟩
    cases e <;> simp [StepCall, UploadCall] at hst
    case getDbusObjectReply req path reply =>
      obtain ⟨hm, ⟨s, rfl⟩, rfl⟩ := hst
      exact ⟨s, es, req, [], rfl, h.query req objPath hm⟩

/-- **The run lemma.** -/
theorem CallTrace.of_run {p : Parsers} :
    ∀ {es hist : List Event} {w w' : World}, CallTrace hist w → run p w es = some w' →
      CallTrace (hist ++ es) w'
  | [], _, _, _, h, hr => by cases hr; simpa using h
  | e :: rest, hist, _, _, h, hr => by
    simp only [run, Option.bind_eq_some] at hr
    obtain ⟨w₁, h₁, h₂⟩ := hr
    simpa using (h.of_step h₁).of_run h₂

/-- **Every activation was announced.**  In every run from the start, an `activateImage` of an
object, or a `createTask` for it, comes from a `getDbusObject` reply of the run that named
exactly one service for that object.  The activation is with that service.  Before that reply,
a software signal announced the object with the `Activation` interface. -/
theorem activation_announced {p : Parsers} {es : List Event} {w : World}
    (hrun : run p World.init es = some w) (objPath : String) :
    (∀ service, Call.activateImage objPath service ∈ w.calls →
      ∃ pre req post interfaces,
        es = pre ++ .getDbusObjectReply req objPath (some [service]) :: post ∧
          Event.softwareAdded objPath interfaces ∈ pre ∧
            "xyz.openbmc_project.Software.Activation" ∈ interfaces) ∧
      (Call.createTask objPath ∈ w.calls →
        ∃ pre req service post interfaces,
          es = pre ++ .getDbusObjectReply req objPath (some [service]) :: post ∧
            Event.softwareAdded objPath interfaces ∈ pre ∧
              "xyz.openbmc_project.Software.Activation" ∈ interfaces) := by
  have h := CallTrace.init.of_run hrun
  refine ⟨fun service hc => ?_, fun hc => ?_⟩
  · obtain ⟨pre, req, post, he, interfaces, hm, ha⟩ := h.activate objPath service hc
    exact ⟨pre, req, post, interfaces, he, hm, ha⟩
  · obtain ⟨service, pre, req, post, he, interfaces, hm, ha⟩ := h.task objPath hc
    exact ⟨pre, req, service, post, interfaces, he, hm, ha⟩

/-- An upload, the signal that announces its image, and the reply that names one service. -/
theorem activation_announced_after_upload :
    let es : List Event :=
      [.updateServicePost "application/octet-stream" "image" false,
       .softwareAdded "/xyz/openbmc_project/software/1a2b"
         ["xyz.openbmc_project.Software.Activation"],
       .getDbusObjectReply 0 "/xyz/openbmc_project/software/1a2b"
         (some ["xyz.openbmc_project.Software.BMC.Updater"])]
    let w : World := ⟨⟨some 0, some (0, "/redfish/v1/UpdateService"), false, none⟩,
      [.timer 0 true], [(0, .taskCreated "/xyz/openbmc_project/software/1a2b")],
      [.uploadImageFile 0 "image",
       .activateImage "/xyz/openbmc_project/software/1a2b"
         "xyz.openbmc_project.Software.BMC.Updater",
       .createTask "/xyz/openbmc_project/software/1a2b"], 1, some 0⟩
    run default World.init es = some w ∧
      (∀ service, Call.activateImage "/xyz/openbmc_project/software/1a2b" service ∈ w.calls →
        ∃ pre req post interfaces,
          es = pre ++ .getDbusObjectReply req "/xyz/openbmc_project/software/1a2b"
            (some [service]) :: post ∧
            Event.softwareAdded "/xyz/openbmc_project/software/1a2b" interfaces ∈ pre ∧
              "xyz.openbmc_project.Software.Activation" ∈ interfaces) ∧
        (Call.createTask "/xyz/openbmc_project/software/1a2b" ∈ w.calls →
          ∃ pre req service post interfaces,
            es = pre ++ .getDbusObjectReply req "/xyz/openbmc_project/software/1a2b"
              (some [service]) :: post ∧
              Event.softwareAdded "/xyz/openbmc_project/software/1a2b" interfaces ∈ pre ∧
                "xyz.openbmc_project.Software.Activation" ∈ interfaces) := by
  intro es w
  have hrun : run default World.init es = some w := rfl
  exact ⟨hrun, activation_announced hrun "/xyz/openbmc_project/software/1a2b"⟩

end UpdateService
