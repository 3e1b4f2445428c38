import UpdateService.Invariant

/-!
# The service returns to idle

The matchers are not tied to the guard.  The success branch of the `getDbusObject` reply
clears the guard and leaves both matchers live (`guard_clear_matchers_live`).  What releases
them then is the completion of the timer that the same branch destroyed, its
`operation_aborted` or the success that an earlier expiry queued, because the timer handler
runs `cleanUp` whatever its code.  So a live matcher always has its request's
timer completion in flight (`MatcherPending`), and nothing in flight means nothing live.

Every completion and reply is delivered once, and no delivery schedules another
(`step_delivered`).  So the deliveries from a state are exactly as many as the items in
flight, and one is always possible while something is.

* `Reachable.idle_of_inFlight_nil`: in a reachable state with nothing in flight, the guard is
  clear and both matchers are released.
* `deliveries_end_idle`: from every reachable state, delivering what is in flight can always
  go on until nothing is left.  Every schedule of deliveries that cannot be extended, in any
  order and whatever the replies, has one delivery for each item in flight and ends idle.
-/

namespace UpdateService

/-- Each live matcher's request has its timer completion in flight, armed or aborted. -/
def MatcherPending (w : World) : Prop :=
  ∀ r, w.session.fwUpdateMatcher = some r → TimerPending w r

/-- No update in progress and no live matcher. -/
def World.Idle (w : World) : Prop :=
  w.session.fwUpdateInProgress = false ∧ w.session.fwUpdateMatcher = none ∧
    w.session.fwUpdateErrorMatcher = none

/-! ## The primitives keep `MatcherPending` -/

namespace MatcherPending

variable {w : World}

/-- `MatcherPending` reads only the matcher and what is in flight. -/
theorem of_eq (h : MatcherPending w) {w' : World}
    (hs : w'.session.fwUpdateMatcher = w.session.fwUpdateMatcher)
    (hf : w'.inFlight = w.inFlight) : MatcherPending w' := fun r hr => by
  unfold TimerPending
  rw [hf]
  exact h r (hs.symm.trans hr)

theorem respond (h : MatcherPending w) (req : Nat) (m : Message) :
    MatcherPending (w.respond req m) :=
  h.of_eq rfl rfl

theorem respondAll (h : MatcherPending w) (req : Nat) (ms : List Message) :
    MatcherPending (w.respondAll req ms) :=
  h.of_eq rfl rfl

theorem call (h : MatcherPending w) (c : Call) : MatcherPending (w.call c) := h.of_eq rfl rfl

theorem newRequest (h : MatcherPending w) : MatcherPending w.newRequest := h.of_eq rfl rfl

theorem post (h : MatcherPending w) (x : Pending) : MatcherPending (w.post x) := fun r hr =>
  let ⟨b, hb⟩ := h r hr
  ⟨b, List.mem_append_left _ hb⟩

/-- Delivering anything but a timer completion keeps every timer completion in flight. -/
theorem settle (h : MatcherPending w) {x : Pending} (hx : ∀ r b, x ≠ .timer r b) :
    MatcherPending (w.settle x) := fun r hr =>
  let ⟨b, hb⟩ := h r hr
  ⟨b, (List.mem_erase_of_ne (Ne.symm (hx r b))).mpr hb⟩

/-- Destroying the timer turns its armed wait into the aborted completion, which stays. -/
theorem destroyTimer (h : MatcherPending w) : MatcherPending w.destroyTimer := by
  unfold World.destroyTimer
  split
  · exact h
  · exact fun r hr => (h r hr).map_abortWait _

/-- `cleanUp` releases the matchers, so it holds of any state. -/
theorem cleanUp (w : World) : MatcherPending w.cleanUp := fun _ hr => nomatch hr

theorem clearGuard (h : MatcherPending w) :
    MatcherPending { w with session := { w.session with fwUpdateInProgress := false } } :=
  h.of_eq rfl rfl

end MatcherPending

/-! ## Each handler keeps it -/

section Handlers

variable {w : World}

/-- An admission creates the matchers together with their request's armed timer. -/
theorem monitorForSoftwareAvailable_matcherPending (h : MatcherPending w) (req : Nat)
    (url : String) : MatcherPending (monitorForSoftwareAvailable w req url) := by
  unfold monitorForSoftwareAvailable
  split
  · exact h.respond _ _
  · intro r hr
    cases hr
    exact ⟨false, List.mem_append_right _ (List.mem_singleton_self _)⟩

/-- The timer handler runs `cleanUp`, whatever the state. -/
theorem fwAvailableTimerHandler_matcherPending (w : World) (req : Nat) (aborted : Bool) :
    MatcherPending (fwAvailableTimerHandler w req aborted) := by
  cases aborted
  · exact (MatcherPending.cleanUp w).respond _ _
  · exact MatcherPending.cleanUp w

theorem getDbusObjectReply_matcherPending (h : MatcherPending w) (req : Nat) (objPath : String)
    (reply : Option (List String)) : MatcherPending (getDbusObjectReply w req objPath reply) := by
  unfold getDbusObjectReply
  split
  · exact (((h.destroyTimer.call _).call _).respond _ _).clearGuard
  · exact MatcherPending.cleanUp _

theorem errorMatcherCallback_matcherPending (req : Nat) (url : String) :
    ∀ {w : World} (values : List DbusVariantType), MatcherPending w →
      MatcherPending (errorMatcherCallback w req url values)
  | _, [], h => h
  | _, .string _ :: rest, h =>
    errorMatcherCallback_matcherPending req url rest (h.destroyTimer.respondAll _ _)
  | _, .uint8 _ :: _, h => h
  | _, .other :: _, h => h

theorem uploadImageFile_matcherPending (h : MatcherPending w) (req : Nat) (body : String)
    (bad : Bool) : MatcherPending (uploadImageFile w req body bad) := by
  cases bad
  · exact h.call _
  · exact MatcherPending.cleanUp _

theorem setApplyTime_matcherPending (h : MatcherPending w) (req : Nat) (applyTime : String) :
    MatcherPending (setApplyTime w req applyTime) := by
  unfold setApplyTime
  split_ifs
  · exact (h.call _).post _
  · exact (h.call _).post _
  · exact h.respond _ _

theorem updateMultipartContext_matcherPending {p : Parsers} (h : MatcherPending w) {req : Nat}
    {parts : List FormPart} {bad : Bool} {w' : World}
    (e : updateMultipartContext p w req parts bad = .ok w') : MatcherPending w' := by
  unfold updateMultipartContext at e
  rcases hu : multipartUpload p parts with t | (msgs | ⟨data, applyTime⟩) <;>
    rw [hu] at e <;> cases e
  · exact h.respondAll _ _
  · exact uploadImageFile_matcherPending (setApplyTime_matcherPending h _ _) _ _ _

theorem handleUpdateServicePost_matcherPending {p : Parsers} (h : MatcherPending w) {req : Nat}
    {contentType body : String} {bad : Bool} {w' : World}
    (e : handleUpdateServicePost p w req contentType body bad = .ok w') : MatcherPending w' := by
  have hm := monitorForSoftwareAvailable_matcherPending h req "/redfish/v1/UpdateService"
  unfold handleUpdateServicePost at e
  split at e
  · cases e
    exact uploadImageFile_matcherPending hm _ _ _
  split at e
  · split at e
    · cases e
      exact hm.respond _ _
    · exact updateMultipartContext_matcherPending hm e
  · cases e
    exact h.respond _ _

theorem simpleUpdatePost_matcherPending {p : Parsers} (h : MatcherPending w) {req : Nat}
    {body : String} {w' : World} (e : simpleUpdatePost p w req body = .ok w') :
    MatcherPending w' := by
  unfold simpleUpdatePost at e
  split at e
  · cases e
    exact h.respondAll _ _
  · rcases ht : simpleUpdateTarget _ _ with t | (m | ⟨tftpServer, fwFile⟩) <;>
      rw [ht] at e <;> cases e
    · exact h.respond _ _
    · exact (((monitorForSoftwareAvailable_matcherPending h _ _).respond _ _).call _).post _

end Handlers

/-- The step lemma for `MatcherPending`. -/
theorem step_matcherPending {p : Parsers} {w w' : World} (h : MatcherPending w) :
    ∀ {e : Event}, step p w e = some w' → MatcherPending w'
  | .updateServicePost .., hs =>
    handleUpdateServicePost_matcherPending h.newRequest (Except.toOption_eq_some.mp hs)
  | .simpleUpdate _, hs =>
    simpleUpdatePost_matcherPending h.newRequest (Except.toOption_eq_some.mp hs)
  | .softwareAdded .., hs => by
    obtain ⟨req, -, rfl⟩ := Option.map_eq_some'.mp hs
    unfold softwareInterfaceAdded
    split
    · exact h.post _
    · exact h
  | .logEntryAdded _, hs => by
    obtain ⟨m, -, rfl⟩ := Option.map_eq_some'.mp hs
    exact errorMatcherCallback_matcherPending _ _ _ h
  | .timerDone .., hs | .lateExpiry _, hs => by
    simp only [step, World.deliver_eq_some] at hs
    obtain ⟨-, rfl⟩ := hs
    exact fwAvailableTimerHandler_matcherPending _ _ _
  | .getDbusObjectReply .., hs => by
    simp only [step, World.deliver_eq_some] at hs
    obtain ⟨-, rfl⟩ := hs
    exact getDbusObjectReply_matcherPending (h.settle fun _ _ e => by cases e) _ _ _
  | .downloadViaTFTPReply req failed, hs => by
    simp only [step, World.deliver_eq_some] at hs
    obtain ⟨-, rfl⟩ := hs
    cases failed
    · exact h.settle (x := .downloadViaTFTP req) fun _ _ e => by cases e
    · exact MatcherPending.cleanUp _
  | .setApplyTimeReply .., hs => by
    simp only [step, World.deliver_eq_some] at hs
    obtain ⟨-, rfl⟩ := hs
    exact (h.settle fun _ _ e => by cases e).respond _ _

/-- Every reachable state satisfies `MatcherPending`. -/
theorem Reachable.matcherPending {p : Parsers} {w : World} (hw : Reachable p w) :
    MatcherPending w := by
  induction hw with
  | init => exact fun _ e => nomatch e
  | step _ _ hs ih => exact step_matcherPending ih hs

/-- Under both invariants, nothing in flight means the guard is clear and both matchers are
released. -/
theorem World.idle_of_inFlight_nil {w : World} (hs : SessionInv w) (hm : MatcherPending w)
    (h : w.inFlight = []) : w.Idle := by
  have hmatcher : w.session.fwUpdateMatcher = none :=
    Option.eq_none_iff_forall_not_mem.mpr fun r hr => by
      obtain ⟨b, hb⟩ := hm r hr
      simp [h] at hb
  refine ⟨Bool.eq_false_iff.mpr fun hg => ?_, hmatcher, hs.matcher_pair.mp hmatcher⟩
  obtain ⟨r, -, b, hb⟩ := hs.guard_timer hg
  simp [h] at hb

/-- **Nothing in flight, nothing live.**  In a reachable state with nothing in flight, the
guard is clear and both matchers are released. -/
theorem Reachable.idle_of_inFlight_nil {p : Parsers} {w : World} (hw : Reachable p w)
    (h : w.inFlight = []) : w.Idle :=
  World.idle_of_inFlight_nil hw.inv hw.matcherPending h

/-! ## Deliveries -/

/-- The completion or reply that an event delivers; `none` for requests and signals. -/
def Event.delivered : Event → Option Pending
  | .timerDone req aborted => some (.timer req aborted)
  | .lateExpiry req => some (.timer req true)
  | .getDbusObjectReply req objPath _ => some (.getDbusObject req objPath)
  | .downloadViaTFTPReply req _ => some (.downloadViaTFTP req)
  | .setApplyTimeReply req _ => some (.setApplyTime req)
  | _ => none

/-- A delivery of each completion or reply: the D-Bus calls answer with an error. -/
def Pending.delivery : Pending → Event
  | .timer req aborted => .timerDone req aborted
  | .getDbusObject req objPath => .getDbusObjectReply req objPath none
  | .downloadViaTFTP req => .downloadViaTFTPReply req true
  | .setApplyTime req => .setApplyTimeReply req true

theorem Pending.delivered_delivery (x : Pending) : x.delivery.delivered = some x := by
  cases x <;> rfl

/-- `destroyTimer` changes what is in flight, but not how much. -/
theorem World.destroyTimer_inFlight_length (w : World) :
    w.destroyTimer.inFlight.length = w.inFlight.length := by
  unfold World.destroyTimer
  split
  · rfl
  · exact List.length_map _ _

/-- **What a delivery does.**  It runs its handler on the state with the item taken out, and
no handler of a delivery schedules anything: each keeps the number of items in flight. -/
theorem step_delivered {e : Event} {x : Pending} (hx : e.delivered = some x) (p : Parsers) :
    ∃ handler : World → World, (∀ w, step p w e = w.deliver x handler) ∧
      ∀ w, (handler w).inFlight.length = w.inFlight.length := by
  cases e <;> cases hx
  case timerDone req aborted =>
    exact ⟨fun w => fwAvailableTimerHandler w req aborted, fun _ => rfl,
      fun w => by cases aborted <;> rfl⟩
  case lateExpiry req =>
    exact ⟨fun w => fwAvailableTimerHandler w req false, fun _ => rfl, fun _ => rfl⟩
  case getDbusObjectReply req objPath reply =>
    refine ⟨fun w => getDbusObjectReply w req objPath reply, fun _ => rfl, fun w => ?_⟩
    unfold getDbusObjectReply
    split
    · exact w.destroyTimer_inFlight_length
    · rfl
  case downloadViaTFTPReply req failed =>
    exact ⟨fun w => downloadViaTFTPReply w failed, fun _ => rfl,
      fun w => by cases failed <;> rfl⟩
  case setApplyTimeReply req failed =>
    exact ⟨fun w => setApplyTimeReply w req failed, fun _ => rfl, fun _ => rfl⟩

/-- A delivery takes one item out of what is in flight. -/
theorem step_delivery_length {p : Parsers} {w w' : World} {e : Event} {x : Pending}
    (hx : e.delivered = some x) (hs : step p w e = some w') :
    x ∈ w.inFlight ∧ w'.inFlight.length + 1 = w.inFlight.length := by
  obtain ⟨handler, hstep, hlen⟩ := step_delivered hx p
  obtain ⟨hm, rfl⟩ := World.deliver_eq_some.mp ((hstep w).symm.trans hs)
  refine ⟨hm, ?_⟩
  rw [hlen, World.settle, List.length_erase_of_mem hm]
  have := List.length_pos_of_mem hm
  omega

/-- A delivery of an item in flight always runs, whatever it carries. -/
theorem step_delivery_enabled {p : Parsers} {w : World} {e : Event} {x : Pending}
    (hx : e.delivered = some x) (hm : x ∈ w.inFlight) : ∃ w', step p w e = some w' := by
  obtain ⟨handler, hstep, -⟩ := step_delivered hx p
  exact ⟨_, (hstep w).trans (World.deliver_eq_some.mpr ⟨hm, rfl⟩)⟩

/-- A run of deliveries takes out one item each. -/
theorem run_deliveries_length {p : Parsers} :
    ∀ {w w' : World} {es : List Event}, (∀ e ∈ es, e.delivered ≠ none) →
      run p w es = some w' → es.length + w'.inFlight.length = w.inFlight.length
  | _, _, [], _, h => by cases h; simp
  | _, _, e :: rest, hd, h => by
    simp only [run, Option.bind_eq_some] at h
    obtain ⟨w₁, h₁, h₂⟩ := h
    obtain ⟨x, hx⟩ := Option.ne_none_iff_exists'.mp (hd e (List.mem_cons_self _ _))
    have h₁' := (step_delivery_length hx h₁).2
    have h₂' := run_deliveries_length (fun e he => hd e (List.mem_cons_of_mem _ he)) h₂
    simp only [List.length_cons]
    omega

/-- No delivery runs exactly when nothing is in flight. -/
theorem deliveries_stuck_iff {p : Parsers} {w : World} :
    (∀ e : Event, e.delivered ≠ none → step p w e = none) ↔ w.inFlight = [] := by
  constructor
  · intro h
    refine List.eq_nil_iff_forall_not_mem.mpr fun x hm => ?_
    obtain ⟨w', hs⟩ := step_delivery_enabled (p := p) x.delivered_delivery hm
    exact nomatch (h _ (by simp [x.delivered_delivery])).symm.trans hs
  · intro h e he
    obtain ⟨x, hx⟩ := Option.ne_none_iff_exists'.mp he
    exact Option.eq_none_iff_forall_not_mem.mpr fun w' hs => by
      simpa [h] using (step_delivery_length hx hs).1

/-- Delivering what is in flight, in order, runs until nothing is left. -/
theorem exists_deliveries (p : Parsers) :
    ∀ (n : Nat) (w : World), w.inFlight.length = n →
      ∃ es w', (∀ e ∈ es, e.delivered ≠ none) ∧ run p w es = some w' ∧ w'.inFlight = []
  | 0, w, hn => ⟨[], w, fun _ he => (nomatch he), rfl, List.length_eq_zero.mp hn⟩
  | n + 1, w, hn => by
    obtain ⟨x, hm⟩ : ∃ x, x ∈ w.inFlight :=
      List.exists_mem_of_length_pos (by omega)
    obtain ⟨w₁, h₁⟩ := step_delivery_enabled (p := p) x.delivered_delivery hm
    have hlen := (step_delivery_length x.delivered_delivery h₁).2
    obtain ⟨es, w', hd, hrun, hnil⟩ := exists_deliveries p n w₁ (by omega)
    exact ⟨x.delivery :: es, w', List.forall_mem_cons.mpr ⟨by simp [x.delivered_delivery], hd⟩,
      by simp only [run, h₁, Option.some_bind, hrun], hnil⟩

/-- **The service returns to idle.**  From every reachable state, delivering the completions
and replies in flight can go on until none is left.  Every schedule of deliveries that cannot
be extended, in any order and whatever the replies, has exactly one delivery for each item in
flight.  It ends with the guard clear and both matchers released. -/
theorem deliveries_end_idle {p : Parsers} {w : World} (hw : Reachable p w) :
    (∃ es w', (∀ e ∈ es, e.delivered ≠ none) ∧ run p w es = some w' ∧
        ∀ e : Event, e.delivered ≠ none → step p w' e = none) ∧
      ∀ (es : List Event) (w' : World), (∀ e ∈ es, e.delivered ≠ none) →
        run p w es = some w' → (∀ e : Event, e.delivered ≠ none → step p w' e = none) →
          es.length = w.inFlight.length ∧ w'.Idle := by
  refine ⟨?_, fun es w' hd hrun hmax => ?_⟩
  · obtain ⟨es, w', hd, hrun, hnil⟩ := exists_deliveries p _ w rfl
    exact ⟨es, w', hd, hrun, deliveries_stuck_iff.mpr hnil⟩
  · have hnil := deliveries_stuck_iff.mp hmax
    have hlen := run_deliveries_length hd hrun
    rw [hnil] at hlen
    exact ⟨hlen, (hw.of_run hrun).idle_of_inFlight_nil hnil⟩


/-- After the success branch the guard is clear and both matchers are live.  Only the aborted
completion of the destroyed timer is in flight, and delivering it releases them. -/
theorem deliveries_end_idle_after_activation :
    let w : World := ⟨⟨some 0, some (0, "/redfish/v1/UpdateService"), false, none⟩,
      [.timer 0 true], [(0, .taskCreated "/xyz/openbmc_project/software/1a2b")],
      [.uploadImageFile 0 "image",
       .activateImage "/xyz/openbmc_project/software/1a2b"
         "xyz.openbmc_project.Software.BMC.Updater",
       .createTask "/xyz/openbmc_project/software/1a2b"], 1, some 0⟩
    Reachable default w ∧
      (∃ es w', (∀ e ∈ es, e.delivered ≠ none) ∧ run default w es = some w' ∧
          ∀ e : Event, e.delivered ≠ none → step default w' e = none) ∧
        ∀ (es : List Event) (w' : World), (∀ e ∈ es, e.delivered ≠ none) →
          run default w es = some w' →
            (∀ e : Event, e.delivered ≠ none → step default w' e = none) →
              es.length = w.inFlight.length ∧ w'.Idle := by
  intro w
  have hw : Reachable default w := Reachable.init.of_run
    (show run default World.init
        [.updateServicePost "application/octet-stream" "image" false,
         .softwareAdded "/xyz/openbmc_project/software/1a2b"
           ["xyz.openbmc_project.Software.Activation"],
         .getDbusObjectReply 0 "/xyz/openbmc_project/software/1a2b"
           (some ["xyz.openbmc_project.Software.BMC.Updater"])] = some w from rfl)
  exact ⟨hw, deliveries_end_idle hw⟩

end UpdateService
