import UpdateService.Lock
import UpdateService.Provenance

/-!
# Every quiet update is answered

An admitted request is owed an answer.  Every branch that ends an update writes one, except
the `operation_aborted` completion of a destroyed timer.  (A destroyed timer that had already
expired runs its handler with success instead, and writes the timeout error after the answer
that destroyed it.)  And the timer is destroyed only where an answer
is written: by the error matcher, which writes the classification of the log entry, and by the
success branch of a `getDbusObject` reply, which writes the task.  But that reply answers the
request it was asked for, while the timer it destroys is the current one.  A reply that comes
after a later admission answers the earlier request once more and takes the later request's
timer with it, so the later request is never answered (`stale_reply_loses_answer`).

So what the last admission is owed (`AnswerInv`: an answer, or its armed timer in flight) is
kept by every request, and by every callback while each pending `getDbusObject` reply belongs
to the last admission (`QueryInv`).  Only a request that arrives while such a reply is pending
can break `QueryInv`.  `QuietReachable` is every state of the schedules where no request does.

* `quiet_update_answered`: in every state of such a schedule, the last admitted request has
  been answered, or the expiry of its timer can be delivered and answers it.  So once nothing
  is in flight, it has been answered.
* `one_request_two_dispositions`: but nothing stops a second answer.  A late reply, a second
  log entry or a second signal writes one more.
* `stale_reply_loses_answer`: a request that arrives while a reply is pending can end with
  nothing in flight and no answer.
-/

namespace UpdateService

/-- Request `r` has been answered. -/
def Answered (w : World) (r : Nat) : Prop := ∃ m, (r, m) ∈ w.responses

/-- The last admission has been answered, or its armed timer is in flight. -/
def AnswerInv (w : World) : Prop :=
  ∀ r, w.lastAdmitted = some r → Answered w r ∨ Pending.timer r false ∈ w.inFlight

/-- Each pending `getDbusObject` reply belongs to the last admission. -/
def QueryInv (w : World) : Prop :=
  ∀ q objPath, Pending.getDbusObject q objPath ∈ w.inFlight → w.lastAdmitted = some q

theorem answered_respond (w : World) (r : Nat) (m : Message) : Answered (w.respond r m) r :=
  ⟨m, List.mem_append_right _ (List.mem_singleton_self _)⟩

/-- Every log entry that the error matcher classifies gets at least one message. -/
theorem logErrorMessages_ne_nil (url type : String) : logErrorMessages url type ≠ [] := by
  unfold logErrorMessages
  split_ifs <;> exact List.cons_ne_nil _ _

/-! ## The primitives keep `AnswerInv` -/

namespace AnswerInv

variable {w : World}

/-- An answered last admission owes nothing more. -/
theorem of_answered {q : Nat} (hq : w.lastAdmitted = some q) (ha : Answered w q) :
    AnswerInv w := fun _ e => by
  cases hq.symm.trans e
  exact .inl ha

/-- `AnswerInv` survives what keeps the last admission and only adds answers and items in
flight. -/
theorem of_sub (h : AnswerInv w) {w' : World} (hr : w.responses ⊆ w'.responses)
    (hf : w.inFlight ⊆ w'.inFlight) (ha : w'.lastAdmitted = w.lastAdmitted) : AnswerInv w' :=
  fun r e => (h r (ha.symm.trans e)).imp (fun ⟨m, hm⟩ => ⟨m, hr hm⟩) (@hf _)

theorem respond (h : AnswerInv w) (req : Nat) (m : Message) : AnswerInv (w.respond req m) :=
  h.of_sub (List.subset_append_left _ _) (List.Subset.refl _) rfl

theorem respondAll (h : AnswerInv w) (req : Nat) (ms : List Message) :
    AnswerInv (w.respondAll req ms) :=
  h.of_sub (List.subset_append_left _ _) (List.Subset.refl _) rfl

theorem call (h : AnswerInv w) (c : Call) : AnswerInv (w.call c) :=
  h.of_sub (List.Subset.refl _) (List.Subset.refl _) rfl

theorem post (h : AnswerInv w) (x : Pending) : AnswerInv (w.post x) :=
  h.of_sub (List.Subset.refl _) (List.subset_append_left _ _) rfl

theorem cleanUp (h : AnswerInv w) : AnswerInv w.cleanUp :=
  h.of_sub (List.Subset.refl _) (List.Subset.refl _) rfl

theorem newRequest (h : AnswerInv w) : AnswerInv w.newRequest :=
  h.of_sub (List.Subset.refl _) (List.Subset.refl _) rfl

/-- Delivering anything but the last admission's armed wait keeps `AnswerInv`. -/
theorem settle (h : AnswerInv w) {x : Pending}
    (hx : ∀ r, w.lastAdmitted = some r → x ≠ .timer r false) : AnswerInv (w.settle x) :=
  fun r e => (h r e).imp id fun hm => (List.mem_erase_of_ne (Ne.symm (hx r e))).mpr hm

end AnswerInv

/-! ## Each handler keeps it -/

section Handlers

variable {w : World}

/-- A busy session only writes; an admission arms the new request's timer. -/
theorem monitorForSoftwareAvailable_answerInv (h : AnswerInv w) (req : Nat) (url : String) :
    AnswerInv (monitorForSoftwareAvailable w req url) := by
  unfold monitorForSoftwareAvailable
  split
  · exact h.respond _ _
  · intro r e
    cases e
    exact .inr (List.mem_append_right _ (List.mem_singleton_self _))

/-- The expiry of the last admission's timer answers it; any other completion keeps what it
is owed. -/
theorem fwAvailableTimerHandler_answerInv (h : AnswerInv w) (req : Nat) (aborted : Bool) :
    AnswerInv (fwAvailableTimerHandler (w.settle (.timer req aborted)) req aborted) := by
  cases aborted
  · by_cases hr : w.lastAdmitted = some req
    · exact .of_answered hr (answered_respond _ _ _)
    · exact ((h.settle fun r e he => hr (by cases he; exact e)).cleanUp).respond _ _
  · exact (h.settle (x := .timer req true) fun _ _ he => nomatch he).cleanUp

/-- A `getDbusObject` reply of the last admission answers it in both branches. -/
theorem getDbusObjectReply_answerInv {q : Nat} (hq : w.lastAdmitted = some q) (objPath : String)
    (reply : Option (List String)) : AnswerInv (getDbusObjectReply w q objPath reply) := by
  refine .of_answered ((getDbusObjectReply_lastAdmitted w q objPath reply).trans hq) ?_
  unfold getDbusObjectReply
  split
  · exact answered_respond _ _ _
  · exact answered_respond _ _ _

/-- The error matcher of the last admission answers it at its first string `Message`. -/
theorem errorMatcherCallback_answerInv (req : Nat) (url : String) :
    ∀ {w : World} (values : List DbusVariantType), w.lastAdmitted = some req → AnswerInv w →
      AnswerInv (errorMatcherCallback w req url values)
  | _, [], _, h => h
  | w, .string type :: rest, hr, _ => by
    have hr' : (w.destroyTimer.respondAll req (logErrorMessages url type)).lastAdmitted =
        some req := (World.destroyTimer_lastAdmitted w).trans hr
    obtain ⟨m, hm⟩ := List.exists_mem_of_ne_nil _ (logErrorMessages_ne_nil url type)
    exact errorMatcherCallback_answerInv req url rest hr'
      (.of_answered hr' ⟨m, List.mem_append_right _ (List.mem_map_of_mem _ hm)⟩)
  | _, .uint8 _ :: _, _, h => h
  | _, .other :: _, _, h => h

theorem uploadImageFile_answerInv (h : AnswerInv w) (req : Nat) (body : String) (bad : Bool) :
    AnswerInv (uploadImageFile w req body bad) := by
  cases bad
  · exact h.call _
  · exact ((h.call _).respond _ _).cleanUp

theorem setApplyTime_answerInv (h : AnswerInv w) (req : Nat) (applyTime : String) :
    AnswerInv (setApplyTime w req applyTime) := by
  unfold setApplyTime
  split_ifs
  · exact (h.call _).post _
  · exact (h.call _).post _
  · exact h.respond _ _

theorem updateMultipartContext_answerInv {p : Parsers} (h : AnswerInv w) {req : Nat}
    {parts : List FormPart} {bad : Bool} {w' : World}
    (e : updateMultipartContext p w req parts bad = .ok w') : AnswerInv w' := by
  unfold updateMultipartContext at e
  rcases hu : multipartUpload p parts with t | (msgs | ⟨data, applyTime⟩) <;>
    rw [hu] at e <;> cases e
  · exact h.respondAll _ _
  · exact uploadImageFile_answerInv (setApplyTime_answerInv h _ _) _ _ _

theorem handleUpdateServicePost_answerInv {p : Parsers} (h : AnswerInv w) {req : Nat}
    {contentType body : String} {bad : Bool} {w' : World}
    (e : handleUpdateServicePost p w req contentType body bad = .ok w') : AnswerInv w' := by
  have hm := monitorForSoftwareAvailable_answerInv h req "/redfish/v1/UpdateService"
  unfold handleUpdateServicePost at e
  split at e
  · cases e
    exact uploadImageFile_answerInv hm _ _ _
  split at e
  · split at e
    · cases e
      exact hm.respond _ _
    · exact updateMultipartContext_answerInv hm e
  · cases e
    exact h.respond _ _

theorem simpleUpdatePost_answerInv {p : Parsers} (h : AnswerInv w) {req : Nat} {body : String}
    {w' : World} (e : simpleUpdatePost p w req body = .ok w') : AnswerInv w' := by
  unfold simpleUpdatePost at e
  split at e
  · cases e
    exact h.respondAll _ _
  · rcases ht : simpleUpdateTarget _ _ with t | (m | ⟨tftpServer, fwFile⟩) <;>
      rw [ht] at e <;> cases e
    · exact h.respond _ _
    · exact (((monitorForSoftwareAvailable_answerInv h _ _).respond _ _).call _).post _

end Handlers

/-! ## Steps -/

section Steps

variable {p : Parsers} {w w' : World}

/-- The step lemma for `AnswerInv`.  Only the `getDbusObject` reply needs `QueryInv`: the
request it answers must be the one whose timer it destroys. -/
theorem step_answerInv (hs : SessionInv w) (hq : QueryInv w) (h : AnswerInv w) :
    ∀ {e : Event}, step p w e = some w' → AnswerInv w'
  | .updateServicePost .., e =>
    handleUpdateServicePost_answerInv h.newRequest (Except.toOption_eq_some.mp e)
  | .simpleUpdate _, e => simpleUpdatePost_answerInv h.newRequest (Except.toOption_eq_some.mp e)
  | .softwareAdded .., e => by
    obtain ⟨req, -, rfl⟩ := Option.map_eq_some'.mp e
    unfold softwareInterfaceAdded
    split
    · exact h.post _
    · exact h
  | .logEntryAdded _, e => by
    obtain ⟨⟨req, url⟩, hm, rfl⟩ := Option.map_eq_some'.mp e
    exact errorMatcherCallback_answerInv req url _ (hs.errorMatcher_latest req url hm) h
  | .timerDone .., e => by
    simp only [step, World.deliver_eq_some] at e
    obtain ⟨-, rfl⟩ := e
    exact fwAvailableTimerHandler_answerInv h _ _
  | .lateExpiry req, e => by
    simp only [step, World.deliver_eq_some] at e
    obtain ⟨-, rfl⟩ := e
    exact ((h.settle (x := .timer req true) fun _ _ he => nomatch he).cleanUp).respond _ _
  | .getDbusObjectReply q objPath _, e => by
    simp only [step, World.deliver_eq_some] at e
    obtain ⟨hm, rfl⟩ := e
    exact getDbusObjectReply_answerInv (w := w.settle _) (hq q objPath hm) _ _
  | .downloadViaTFTPReply req failed, e => by
    simp only [step, World.deliver_eq_some] at e
    obtain ⟨-, rfl⟩ := e
    have hd := h.settle (x := .downloadViaTFTP req) fun _ _ he => nomatch he
    cases failed
    · exact hd
    · exact hd.cleanUp
  | .setApplyTimeReply req _, e => by
    simp only [step, World.deliver_eq_some] at e
    obtain ⟨-, rfl⟩ := e
    exact (h.settle (x := .setApplyTime req) fun _ _ he => nomatch he).respond _ _

/-- A callback keeps `QueryInv`: a signal asks `getDbusObject` only for the matcher's request,
which is the last admission. -/
theorem step_queryInv (hs : SessionInv w) (hq : QueryInv w) {e : Event}
    (he : e.isCallback = true) (h : step p w e = some w') : QueryInv w' := by
  intro q objPath hm
  rw [step_lastAdmitted he h]
  rcases step_getDbusObject h hm with hm | ⟨interfaces, rfl, ha⟩
  · exact hq q objPath hm
  obtain ⟨r, hr, rfl⟩ := Option.map_eq_some'.mp h
  rw [softwareInterfaceAdded, if_pos ha] at hm
  rcases List.mem_append.mp hm with hm | hm
  · exact hq q objPath hm
  · cases List.mem_singleton.mp hm
    exact hs.matcher_latest q hr

/-- A request asks for no `getDbusObject` reply, so one that arrives with none pending leaves
none pending. -/
theorem step_queryInv_request {e : Event} (he : e.isCallback = false)
    (hnone : ∀ q objPath, Pending.getDbusObject q objPath ∉ w.inFlight)
    (h : step p w e = some w') : QueryInv w' := fun q objPath hm => by
  rcases step_getDbusObject h hm with hm | ⟨_, rfl, -⟩
  · exact absurd hm (hnone q objPath)
  · cases he

end Steps

/-! ## Quiet schedules -/

/-- The states that a schedule reaches from the start when every request arrives with no
`getDbusObject` reply pending. -/
inductive QuietReachable (p : Parsers) : World → Prop where
  | init : QuietReachable p World.init
  | step {w w' : World} (e : Event) : QuietReachable p w → step p w e = some w' →
      (e.isCallback = false → ∀ q objPath, Pending.getDbusObject q objPath ∉ w.inFlight) →
      QuietReachable p w'

theorem QuietReachable.reachable {p : Parsers} {w : World} (hw : QuietReachable p w) :
    Reachable p w := by
  induction hw with
  | init => exact .init
  | step e _ hs _ ih => exact ih.step e hs

/-- Every state of a quiet schedule satisfies both invariants. -/
theorem QuietReachable.answerInv {p : Parsers} {w : World} (hw : QuietReachable p w) :
    QueryInv w ∧ AnswerInv w := by
  induction hw with
  | init => exact ⟨fun _ _ h => (nomatch h), fun _ h => (nomatch h)⟩
  | step e hw hs hquiet ih =>
    refine ⟨?_, step_answerInv hw.reachable.inv ih.1 ih.2 hs⟩
    cases he : e.isCallback
    · exact step_queryInv_request he (hquiet he) hs
    · exact step_queryInv hw.reachable.inv ih.1 he hs

/-- **Every quiet update is answered.**  When every request arrives with no `getDbusObject`
reply pending, the last admitted request has been answered in every state, or the expiry of
its timer can be delivered and answers it with `InternalError`.  So once nothing is in flight,
it has been answered. -/
theorem quiet_update_answered {p : Parsers} {w : World} (hw : QuietReachable p w) {r : Nat}
    (hr : w.lastAdmitted = some r) :
    (∃ m, (r, m) ∈ w.responses) ∨
      ∃ w', step p w (.timerDone r false) = some w' ∧ (r, Message.internalError) ∈ w'.responses := by
  refine (hw.answerInv.2 r hr).imp id fun hm =>
    ⟨fwAvailableTimerHandler (w.settle (.timer r false)) r false, ?_,
      List.mem_append_right _ (List.mem_singleton_self _)⟩
  simpa only [step, World.deliver_eq_some, and_true] using hm

/-- An upload answered by the task that its image's activation created. -/
theorem quiet_update_answered_after_activation :
    let w : World := ⟨⟨some 0, some (0, "/redfish/v1/UpdateService"), false, none⟩,
      [.timer 0 true], [(0, .taskCreated "/xyz/openbmc_project/software/1a2b")],
      [.uploadImageFile 0 "image",
       .activateImage "/xyz/openbmc_project/software/1a2b"
         "xyz.openbmc_project.Software.BMC.Updater",
       .createTask "/xyz/openbmc_project/software/1a2b"], 1, some 0⟩
    QuietReachable default w ∧ w.lastAdmitted = some 0 ∧
      ((∃ m, (0, m) ∈ w.responses) ∨
        ∃ w', step default w (.timerDone 0 false) = some w' ∧
          (0, Message.internalError) ∈ w'.responses) := by
  intro w
  have hw : QuietReachable default w :=
    .step (.getDbusObjectReply 0 "/xyz/openbmc_project/software/1a2b"
        (some ["xyz.openbmc_project.Software.BMC.Updater"]))
      (.step (.softwareAdded "/xyz/openbmc_project/software/1a2b"
          ["xyz.openbmc_project.Software.Activation"])
        (.step (.updateServicePost "application/octet-stream" "image" false) .init rfl
          fun _ _ _ h => nomatch h)
        rfl fun h => nomatch h)
      rfl fun h => nomatch h
  exact ⟨hw, rfl, quiet_update_answered hw rfl⟩

/-- **One request, two dispositions.**  Three schedules of a single upload.

* A `getDbusObject` reply that arrives after the timeout creates a task and activates the
  image, in a response that already holds the timeout error.
* Two log entries each write their classified error.
* Two `Activation` signals create two tasks and activate the image twice. -/
theorem one_request_two_dispositions :
    (run default World.init
        [.updateServicePost "application/octet-stream" "image" false,
         .softwareAdded "/xyz/openbmc_project/software/1a2b"
           ["xyz.openbmc_project.Software.Activation"],
         .timerDone 0 false,
         .getDbusObjectReply 0 "/xyz/openbmc_project/software/1a2b"
           (some ["xyz.openbmc_project.Software.BMC.Updater"])]).map
        (fun w => (w.responses, w.calls)) =
      some ([(0, .internalError), (0, .taskCreated "/xyz/openbmc_project/software/1a2b")],
        [.uploadImageFile 0 "image",
         .activateImage "/xyz/openbmc_project/software/1a2b"
           "xyz.openbmc_project.Software.BMC.Updater",
         .createTask "/xyz/openbmc_project/software/1a2b"]) ∧
    (run default World.init
        [.updateServicePost "application/octet-stream" "image" false,
         .logEntryAdded [("xyz.openbmc_project.Logging.Entry",
           [("Message", .string "xyz.openbmc_project.Software.Image.Error.UnTarFailure")])],
         .logEntryAdded [("xyz.openbmc_project.Logging.Entry",
           [("Message", .string "xyz.openbmc_project.Software.Image.Error.BusyFailure")])]]).map
        (·.responses) =
      some [(0, .invalidUpload "/redfish/v1/UpdateService" "Invalid archive"),
        (0, .resourceExhaustion "/redfish/v1/UpdateService")] ∧
    (run default World.init
        [.updateServicePost "application/octet-stream" "image" false,
         .softwareAdded "/xyz/openbmc_project/software/1a2b"
           ["xyz.openbmc_project.Software.Activation"],
         .softwareAdded "/xyz/openbmc_project/software/1a2b"
           ["xyz.openbmc_project.Software.Activation"],
         .getDbusObjectReply 0 "/xyz/openbmc_project/software/1a2b"
           (some ["xyz.openbmc_project.Software.BMC.Updater"]),
         .getDbusObjectReply 0 "/xyz/openbmc_project/software/1a2b"
           (some ["xyz.openbmc_project.Software.BMC.Updater"])]).map
        (fun w => (w.responses, w.calls.length)) =
      some ([(0, .taskCreated "/xyz/openbmc_project/software/1a2b"),
        (0, .taskCreated "/xyz/openbmc_project/software/1a2b")], 5) :=
  ⟨rfl, rfl, rfl⟩

/-- **A request that arrives while a reply is pending can lose its answer.**  Request `0`
times out while its `getDbusObject` reply is pending, and request `1` is admitted.  The reply
names one service: it answers `0` once more and destroys the timer of `1`.  The aborted
completion runs `cleanUp`.  Nothing is left in flight, `1` is the last admission, and it has
no answer. -/
theorem stale_reply_loses_answer :
    (run default World.init
        [.updateServicePost "application/octet-stream" "image" false,
         .softwareAdded "/xyz/openbmc_project/software/1a2b"
           ["xyz.openbmc_project.Software.Activation"],
         .timerDone 0 false,
         .updateServicePost "application/octet-stream" "image" false,
         .getDbusObjectReply 0 "/xyz/openbmc_project/software/1a2b"
           (some ["xyz.openbmc_project.Software.BMC.Updater"]),
         .timerDone 1 true]).map (fun w => (w.lastAdmitted, w.inFlight, w.responses)) =
      some (some 1, [], [(0, .internalError),
        (0, .taskCreated "/xyz/openbmc_project/software/1a2b")]) := rfl

end UpdateService
