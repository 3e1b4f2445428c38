import UpdateService.Step

/-!
# What every reachable state satisfies

`SessionInv` is the invariant of the session globals.  Its parent `TimerInv` is the part
that `cleanUp` does not touch.

* An armed timer wait is the current timer's, and the current timer belongs to the last
  admitted request.
* While the guard is set, the timer completion of the last admitted request is still in
  flight, armed or aborted.
* While the guard is set, the matchers are live.
* The two matchers are live together.
* Each live matcher belongs to the last admitted request.

Each operation keeps it, and `cleanUp` makes it true from any state where `TimerInv` holds.
So `step` keeps it, and `Reachable.inv` gives it for every state of every schedule.

* `guard_timer_pending`: the guard is never stuck.  While it is set, the last admission's
  timer completion is in flight, and delivering it runs `cleanUp`.
* `timeout_latest_unless_late`: only the current timer's wait is armed, so the expiry of an
  armed wait answers the last admitted request.  A destroyed timer that had expired answers
  its own, perhaps earlier, request.
* `matchers_follow_guard`: the matchers are live together and live while the guard is set.
  The converse fails (`guard_clear_matchers_live`), and nothing ties the timer to the guard.
* `callbacks_only_release`: no callback sets the guard or creates a matcher or a timer.
  Signals reach only the last admitted request.  The other callbacks carry no session, and
  they can release a later session (`stale_timer_clears_later_session`).
-/

namespace UpdateService

/-- Request `r`'s timer completion is in flight, armed or aborted. -/
def TimerPending (w : World) (r : Nat) : Prop := ∃ aborted, Pending.timer r aborted ∈ w.inFlight

/-- The timer part of the invariant: an armed wait is the current timer's, and the current
timer belongs to the last admitted request. -/
structure TimerInv (w : World) : Prop where
  armed_current : ∀ r, Pending.timer r false ∈ w.inFlight → w.session.fwAvailableTimer = some r
  timer_latest : ∀ r, w.session.fwAvailableTimer = some r → w.lastAdmitted = some r

/-- The session invariant. -/
structure SessionInv (w : World) extends TimerInv w : Prop where
  guard_timer : w.session.fwUpdateInProgress = true →
    ∃ r, w.lastAdmitted = some r ∧ TimerPending w r
  guard_matcher : w.session.fwUpdateInProgress = true → w.session.fwUpdateMatcher ≠ none
  matcher_pair : w.session.fwUpdateMatcher = none ↔ w.session.fwUpdateErrorMatcher = none
  matcher_latest : ∀ r, w.session.fwUpdateMatcher = some r → w.lastAdmitted = some r
  errorMatcher_latest : ∀ r url, w.session.fwUpdateErrorMatcher = some (r, url) →
    w.lastAdmitted = some r

/-! ## Completions in flight -/

/-- Destroying a timer keeps every timer completion in flight, perhaps now aborted. -/
theorem abortWait_timer (t r : Nat) (b : Bool) : ∃ b', abortWait t (.timer r b) = .timer r b' := by
  cases b
  · by_cases h : r = t <;> simp [abortWait, h]
  · exact ⟨true, rfl⟩

/-- Destroying a timer keeps a pending timer completion in flight. -/
theorem TimerPending.map_abortWait {w : World} {r : Nat} (t : Nat) (h : TimerPending w r) :
    ∃ b, Pending.timer r b ∈ w.inFlight.map (abortWait t) := by
  obtain ⟨b, hb⟩ := h
  obtain ⟨b', e⟩ := abortWait_timer t r b
  exact ⟨b', e ▸ List.mem_map_of_mem _ hb⟩

/-! ## The primitives keep the invariant -/

namespace SessionInv

variable {w : World}

/-- The invariant reads only the globals, what is in flight and the last admission. -/
theorem of_eq (h : SessionInv w) {w' : World} (hs : w'.session = w.session)
    (hf : w'.inFlight = w.inFlight) (ha : w'.lastAdmitted = w.lastAdmitted) : SessionInv w' where
  armed_current := by rw [hs, hf]; exact h.armed_current
  timer_latest := by rw [hs, ha]; exact h.timer_latest
  guard_timer := by unfold TimerPending; rw [hs, ha, hf]; exact h.guard_timer
  guard_matcher := by rw [hs]; exact h.guard_matcher
  matcher_pair := by rw [hs]; exact h.matcher_pair
  matcher_latest := by rw [hs, ha]; exact h.matcher_latest
  errorMatcher_latest := by rw [hs, ha]; exact h.errorMatcher_latest

theorem respond (h : SessionInv w) (req : Nat) (m : Message) : SessionInv (w.respond req m) :=
  h.of_eq rfl rfl rfl

theorem respondAll (h : SessionInv w) (req : Nat) (ms : List Message) :
    SessionInv (w.respondAll req ms) :=
  h.of_eq rfl rfl rfl

theorem call (h : SessionInv w) (c : Call) : SessionInv (w.call c) := h.of_eq rfl rfl rfl

theorem newRequest (h : SessionInv w) : SessionInv w.newRequest := h.of_eq rfl rfl rfl

/-- Posting anything but an armed wait keeps the invariant. -/
theorem post (h : SessionInv w) {x : Pending} (hx : ∀ r, x ≠ .timer r false) :
    SessionInv (w.post x) :=
  { h.of_eq rfl rfl rfl with
    armed_current := fun r hr => (List.mem_append.mp hr).elim (h.armed_current r)
      fun e => absurd (List.mem_singleton.mp e).symm (hx r)
    guard_timer := fun hg => by
      obtain ⟨r, hr, b, hb⟩ := h.guard_timer hg
      exact ⟨r, hr, b, List.mem_append_left _ hb⟩ }

/-- Delivering anything but a timer completion keeps the invariant. -/
theorem settle (h : SessionInv w) {x : Pending} (hx : ∀ r b, x ≠ .timer r b) :
    SessionInv (w.settle x) :=
  { h.of_eq rfl rfl rfl with
    armed_current := fun r hr => h.armed_current r (List.mem_of_mem_erase hr)
    guard_timer := fun hg => by
      obtain ⟨r, hr, b, hb⟩ := h.guard_timer hg
      exact ⟨r, hr, b, (List.mem_erase_of_ne (Ne.symm (hx r b))).mpr hb⟩ }

end SessionInv

namespace TimerInv

variable {w : World}

/-- Delivering any completion keeps the timer part. -/
theorem settle (h : TimerInv w) (x : Pending) : TimerInv (w.settle x) :=
  ⟨fun r hr => h.armed_current r (List.mem_of_mem_erase hr), h.timer_latest⟩

/-- Destroying the current timer `t` leaves no armed wait. -/
theorem not_armed_map_abortWait (h : TimerInv w) {t : Nat}
    (ht : w.session.fwAvailableTimer = some t) (r : Nat) :
    Pending.timer r false ∉ w.inFlight.map (abortWait t) := fun hr => by
  obtain ⟨x, hx, e⟩ := List.mem_map.mp hr
  obtain ⟨rfl, hne⟩ := abortWait_eq_armed.mp e
  exact hne (Option.some.inj ((h.armed_current r hx).symm.trans ht))

/-- Destroying the timer disarms its wait and leaves no timer. -/
theorem destroyTimer (h : TimerInv w) : TimerInv w.destroyTimer := by
  unfold World.destroyTimer
  split
  · exact h
  · exact ⟨fun r hr => absurd hr (h.not_armed_map_abortWait ‹_› r), fun _ e => nomatch e⟩

/-- After `destroyTimer` no wait is armed. -/
theorem not_armed_destroyTimer (h : TimerInv w) (r : Nat) :
    Pending.timer r false ∉ w.destroyTimer.inFlight := fun hr => by
  have e := h.destroyTimer.armed_current r hr
  rw [World.destroyTimer_timer] at e
  cases e

/-- **`cleanUp` restores the invariant** from any state where the timer part holds. -/
theorem cleanUp (h : TimerInv w) : SessionInv w.cleanUp where
  armed_current := h.armed_current
  timer_latest := h.timer_latest
  guard_timer := fun hg => nomatch hg
  guard_matcher := fun hg => nomatch hg
  matcher_pair := ⟨fun _ => rfl, fun _ => rfl⟩
  matcher_latest := fun _ hm => nomatch hm
  errorMatcher_latest := fun _ _ hm => nomatch hm

end TimerInv

namespace SessionInv

variable {w : World}

/-- Destroying the timer keeps the guard's completion in flight: an armed wait becomes the
posted `operation_aborted`. -/
theorem destroyTimer (h : SessionInv w) : SessionInv w.destroyTimer := by
  unfold World.destroyTimer
  split
  · exact h
  · rename_i t ht
    exact { h with
      armed_current := fun r hr => absurd hr (h.not_armed_map_abortWait ht r)
      timer_latest := fun _ e => nomatch e
      guard_timer := fun hg => by
        obtain ⟨r, hr, hp⟩ := h.guard_timer hg
        exact ⟨r, hr, hp.map_abortWait t⟩ }

/-- Clearing the guard alone, as the success branch does, keeps the invariant. -/
theorem clearGuard (h : SessionInv w) :
    SessionInv { w with session := { w.session with fwUpdateInProgress := false } } where
  armed_current := h.armed_current
  timer_latest := h.timer_latest
  guard_timer := fun hg => nomatch hg
  guard_matcher := fun hg => nomatch hg
  matcher_pair := h.matcher_pair
  matcher_latest := h.matcher_latest
  errorMatcher_latest := h.errorMatcher_latest

end SessionInv

/-! ## Each handler keeps the invariant -/

section Handlers

variable {w : World}

/-- A busy session only writes.  An admission destroys the old timer, so its wait is no longer
armed, and arms a new one with the guard and both matchers. -/
theorem monitorForSoftwareAvailable_inv (h : SessionInv w) (req : Nat) (url : String) :
    SessionInv (monitorForSoftwareAvailable w req url) := by
  unfold monitorForSoftwareAvailable
  split
  · exact h.respond _ _
  · refine ⟨⟨fun r hr => ?_, fun _ e => e⟩,
      fun _ => ⟨req, rfl, false, List.mem_append_right _ (List.mem_singleton_self _)⟩,
      fun _ => Option.some_ne_none _, by simp, fun _ e => e, fun _ _ e => by cases e; rfl⟩
    rcases List.mem_append.mp hr with hr | hr
    · exact absurd hr (h.not_armed_destroyTimer r)
    · cases List.mem_singleton.mp hr; rfl

/-- The timer handler runs `cleanUp` first, whatever the code. -/
theorem fwAvailableTimerHandler_inv (h : TimerInv w) (req : Nat) (aborted : Bool) :
    SessionInv (fwAvailableTimerHandler w req aborted) := by
  unfold fwAvailableTimerHandler
  split
  · exact h.cleanUp
  · exact h.cleanUp.respond _ _

/-- A software signal only asks for a `getDbusObject` reply. -/
theorem softwareInterfaceAdded_inv (h : SessionInv w) (req : Nat) (objPath : String)
    (interfaces : List String) : SessionInv (softwareInterfaceAdded w req objPath interfaces) := by
  unfold softwareInterfaceAdded
  split
  · exact h.post fun _ e => by cases e
  · exact h

/-- The success branch destroys the timer and clears the guard alone.  The other branch runs
`cleanUp`. -/
theorem getDbusObjectReply_inv (h : SessionInv w) (req : Nat) (objPath : String)
    (reply : Option (List String)) : SessionInv (getDbusObjectReply w req objPath reply) := by
  unfold getDbusObjectReply
  split
  · exact ((((h.destroyTimer).call _).call _).respond _ _).clearGuard
  · exact (h.respond _ _).cleanUp

/-- Each classified log entry destroys the timer and writes. -/
theorem errorMatcherCallback_inv (req : Nat) (url : String) :
    ∀ {w : World} (values : List DbusVariantType), SessionInv w →
      SessionInv (errorMatcherCallback w req url values)
  | _, [], h => h
  | _, .string _ :: rest, h =>
    errorMatcherCallback_inv req url rest ((h.destroyTimer).respondAll _ _)
  | _, .uint8 _ :: _, h => h
  | _, .other :: _, h => h

/-- A failed write runs `cleanUp`. -/
theorem uploadImageFile_inv (h : SessionInv w) (req : Nat) (body : String) (bad : Bool) :
    SessionInv (uploadImageFile w req body bad) := by
  unfold uploadImageFile
  split
  · exact ((h.call _).respond _ _).cleanUp
  · exact h.call _

/-- `setApplyTime` posts a property reply, which is no timer wait. -/
theorem setApplyTime_inv (h : SessionInv w) (req : Nat) (applyTime : String) :
    SessionInv (setApplyTime w req applyTime) := by
  unfold setApplyTime
  split
  · exact (h.call _).post fun _ e => by cases e
  split
  · exact (h.call _).post fun _ e => by cases e
  · exact h.respond _ _

/-- A failed download runs `cleanUp`. -/
theorem downloadViaTFTPReply_inv (h : SessionInv w) (failed : Bool) :
    SessionInv (downloadViaTFTPReply w failed) := by
  unfold downloadViaTFTPReply
  split
  · exact h.cleanUp
  · exact h

/-- The multipart handler writes, or sets the apply time and writes the image. -/
theorem updateMultipartContext_inv {p : Parsers} (h : SessionInv w) {req : Nat}
    {parts : List FormPart} {bad : Bool} {w' : World}
    (e : updateMultipartContext p w req parts bad = .ok w') : SessionInv w' := by
  unfold updateMultipartContext at e
  rcases hu : multipartUpload p parts with t | (msgs | ⟨data, applyTime⟩) <;>
    rw [hu] at e <;> cases e
  · exact h.respondAll _ _
  · exact uploadImageFile_inv (setApplyTime_inv h _ _) _ _ _

/-- Both content types go through `monitorForSoftwareAvailable` first. -/
theorem handleUpdateServicePost_inv {p : Parsers} (h : SessionInv w) {req : Nat}
    {contentType body : String} {bad : Bool} {w' : World}
    (e : handleUpdateServicePost p w req contentType body bad = .ok w') : SessionInv w' := by
  have hm := monitorForSoftwareAvailable_inv h req "/redfish/v1/UpdateService"
  unfold handleUpdateServicePost at e
  split at e
  · cases e
    exact uploadImageFile_inv hm _ _ _
  split at e
  · split at e
    · cases e
      exact hm.respond _ _
    · exact updateMultipartContext_inv hm e
  · cases e
    exact h.respond _ _

/-- SimpleUpdate writes, or admits and posts the `DownloadViaTFTP` reply. -/
theorem simpleUpdatePost_inv {p : Parsers} (h : SessionInv w) {req : Nat} {body : String}
    {w' : World} (e : simpleUpdatePost p w req body = .ok w') : SessionInv w' := by
  unfold simpleUpdatePost at e
  split at e
  · cases e
    exact h.respondAll _ _
  · rcases ht : simpleUpdateTarget _ _ with t | (m | ⟨tftpServer, fwFile⟩) <;>
      rw [ht] at e <;> cases e
    · exact h.respond _ _
    · exact (((monitorForSoftwareAvailable_inv h _ _).respond _ _).call _).post fun _ e => by
        cases e

end Handlers

/-! ## Steps and runs -/

/-- **The step lemma.** -/
theorem step_inv {p : Parsers} {w w' : World} (h : SessionInv w) :
    ∀ {e : Event}, step p w e = some w' → SessionInv w'
  | .updateServicePost .., hs =>
    handleUpdateServicePost_inv h.newRequest (Except.toOption_eq_some.mp hs)
  | .simpleUpdate _, hs => simpleUpdatePost_inv h.newRequest (Except.toOption_eq_some.mp hs)
  | .softwareAdded .., hs => by
    obtain ⟨req, -, rfl⟩ := Option.map_eq_some'.mp hs
    exact softwareInterfaceAdded_inv h _ _ _
  | .logEntryAdded _, hs => by
    obtain ⟨m, -, rfl⟩ := Option.map_eq_some'.mp hs
    exact errorMatcherCallback_inv _ _ _ h
  | .timerDone .., hs | .lateExpiry _, hs => by
    simp only [step, World.deliver_eq_some] at hs
    obtain ⟨-, rfl⟩ := hs
    exact fwAvailableTimerHandler_inv (h.toTimerInv.settle _) _ _
  | .getDbusObjectReply .., hs => by
    simp only [step, World.deliver_eq_some] at hs
    obtain ⟨-, rfl⟩ := hs
    exact getDbusObjectReply_inv (h.settle fun _ _ e => by cases e) _ _ _
  | .downloadViaTFTPReply .., hs => by
    simp only [step, World.deliver_eq_some] at hs
    obtain ⟨-, rfl⟩ := hs
    exact downloadViaTFTPReply_inv (h.settle fun _ _ e => by cases e) _
  | .setApplyTimeReply .., hs => by
    simp only [step, World.deliver_eq_some] at hs
    obtain ⟨-, rfl⟩ := hs
    exact (h.settle fun _ _ e => by cases e).respond _ _

/-- **The run lemma.**  Every reachable state satisfies the invariant. -/
theorem Reachable.inv {p : Parsers} {w : World} (hw : Reachable p w) : SessionInv w := by
  induction hw with
  | init =>
    have h : TimerInv World.init := ⟨fun _ e => (nomatch e), fun _ e => (nomatch e)⟩
    exact h.cleanUp.of_eq rfl rfl rfl
  | step _ _ hs ih => exact step_inv ih hs

/-! ## The guard is never stuck -/

/-- The timer handler's session is `cleanUp` of the one it found, for either code. -/
theorem fwAvailableTimerHandler_session (w : World) (req : Nat) (aborted : Bool) :
    (fwAvailableTimerHandler w req aborted).session = w.session.cleanUp := by
  cases aborted <;> rfl

/-- **The guard is never stuck.**  In every reachable state where `fwUpdateInProgress` is
set, the timer completion of the last admission is still in flight.  It is the expiry if the
timer is armed.  If the timer was destroyed, it is the `operation_aborted`, or the success that
an expiry queued before the destroy.  Delivering it runs `cleanUp`, which clears the guard. -/
theorem guard_timer_pending {p : Parsers} {w : World} (hw : Reachable p w)
    (hg : w.session.fwUpdateInProgress = true) :
    ∃ r aborted, w.lastAdmitted = some r ∧ Pending.timer r aborted ∈ w.inFlight ∧
      ∃ w', step p w (.timerDone r aborted) = some w' ∧ w'.session = w.session.cleanUp ∧
        w'.session.fwUpdateInProgress = false := by
  obtain ⟨r, hr, b, hb⟩ := hw.inv.guard_timer hg
  refine ⟨r, b, hr, hb, fwAvailableTimerHandler (w.settle (.timer r b)) r b, ?_,
    fwAvailableTimerHandler_session _ r b, by rw [fwAvailableTimerHandler_session]; rfl⟩
  simp only [step, World.deliver_eq_some]
  exact ⟨hb, trivial⟩

/-- One accepted upload sets the guard, and its armed timer is what clears it. -/
theorem guard_timer_pending_after_upload :
    let w : World := ⟨⟨some 0, some (0, "/redfish/v1/UpdateService"), true, some 0⟩,
      [.timer 0 false], [], [.uploadImageFile 0 "image"], 1, some 0⟩
    Reachable default w ∧ w.session.fwUpdateInProgress = true ∧
      ∃ r aborted, w.lastAdmitted = some r ∧ Pending.timer r aborted ∈ w.inFlight ∧
        ∃ w', step default w (.timerDone r aborted) = some w' ∧
          w'.session = w.session.cleanUp ∧ w'.session.fwUpdateInProgress = false := by
  intro w
  have hw : Reachable default w := Reachable.init.of_run
    (show run default World.init [.updateServicePost "application/octet-stream" "image" false]
      = some w from rfl)
  exact ⟨hw, rfl, guard_timer_pending hw rfl⟩

/-! ## Which request a timeout answers -/

/-- **The matchers follow the guard.**  In every reachable state the two matchers are live
together, and both are live while the guard is set.  The timer is not tied to the guard. -/
theorem matchers_follow_guard {p : Parsers} {w : World} (hw : Reachable p w) :
    (w.session.fwUpdateMatcher = none ↔ w.session.fwUpdateErrorMatcher = none) ∧
      (w.session.fwUpdateInProgress = true →
        w.session.fwUpdateMatcher ≠ none ∧ w.session.fwUpdateErrorMatcher ≠ none) :=
  have h := hw.inv
  ⟨h.matcher_pair, fun hg =>
    ⟨h.guard_matcher hg, fun he => h.guard_matcher hg (h.matcher_pair.mpr he)⟩⟩

/-- After one accepted upload both matchers are live with the guard. -/
theorem matchers_follow_guard_after_upload :
    let w : World := ⟨⟨some 0, some (0, "/redfish/v1/UpdateService"), true, some 0⟩,
      [.timer 0 false], [], [.uploadImageFile 0 "image"], 1, some 0⟩
    Reachable default w ∧
      (w.session.fwUpdateMatcher = none ↔ w.session.fwUpdateErrorMatcher = none) ∧
        (w.session.fwUpdateInProgress = true →
          w.session.fwUpdateMatcher ≠ none ∧ w.session.fwUpdateErrorMatcher ≠ none) := by
  intro w
  have hw : Reachable default w := Reachable.init.of_run
    (show run default World.init [.updateServicePost "application/octet-stream" "image" false]
      = some w from rfl)
  exact ⟨hw, matchers_follow_guard hw⟩

/-- **The guard and the live globals are not tied.**  After the success branch of the
`getDbusObject` reply, the guard is clear and both matchers are still live.  So "the guard is
set iff a matcher or the timer is live" fails in a reachable state. -/
theorem guard_clear_matchers_live :
    ¬ ∀ (p : Parsers) (w : World), Reachable p w →
      (w.session.fwUpdateInProgress = true ↔
        (w.session.fwUpdateMatcher ≠ none ∨ w.session.fwUpdateErrorMatcher ≠ none ∨
          w.session.fwAvailableTimer ≠ none)) := by
  intro h
  have hw : Reachable default _ := Reachable.init.of_run
    (show run default World.init
        [.updateServicePost "application/octet-stream" "image" false,
         .softwareAdded "/xyz/openbmc_project/software/1a2b"
           ["xyz.openbmc_project.Software.Activation"],
         .getDbusObjectReply 0 "/xyz/openbmc_project/software/1a2b"
           (some ["xyz.openbmc_project.Software.BMC.Updater"])] =
      some ⟨⟨some 0, some (0, "/redfish/v1/UpdateService"), false, none⟩, [.timer 0 true],
        [(0, .taskCreated "/xyz/openbmc_project/software/1a2b")],
        [.uploadImageFile 0 "image",
         .activateImage "/xyz/openbmc_project/software/1a2b"
           "xyz.openbmc_project.Software.BMC.Updater",
         .createTask "/xyz/openbmc_project/software/1a2b"], 1, some 0⟩ from rfl)
  exact absurd ((h _ _ hw).mpr (.inl (Option.some_ne_none _))) Bool.false_ne_true

/-! ## Callbacks only release -/

/-- The events that are callbacks: all but the two requests. -/
def Event.isCallback : Event → Bool
  | .updateServicePost .. => false
  | .simpleUpdate _ => false
  | _ => true

/-- `s'` arms nothing that `s` did not have.  The guard is not set, and each matcher and the
timer is kept or released. -/
def Releases (s s' : Session) : Prop :=
  (s'.fwUpdateInProgress = true → s.fwUpdateInProgress = true) ∧
  (s'.fwUpdateMatcher = s.fwUpdateMatcher ∨ s'.fwUpdateMatcher = none) ∧
  (s'.fwUpdateErrorMatcher = s.fwUpdateErrorMatcher ∨ s'.fwUpdateErrorMatcher = none) ∧
  (s'.fwAvailableTimer = s.fwAvailableTimer ∨ s'.fwAvailableTimer = none)

theorem Releases.refl (s : Session) : Releases s s := ⟨id, .inl rfl, .inl rfl, .inl rfl⟩

private theorem keep_or_none_trans {α : Type} {a b c : Option α} (h₁ : b = a ∨ b = none)
    (h₂ : c = b ∨ c = none) : c = a ∨ c = none := by
  rcases h₂ with h | h
  · exact h ▸ h₁
  · exact .inr h

theorem Releases.trans {s₁ s₂ s₃ : Session} (h₁ : Releases s₁ s₂) (h₂ : Releases s₂ s₃) :
    Releases s₁ s₃ :=
  ⟨h₁.1 ∘ h₂.1, keep_or_none_trans h₁.2.1 h₂.2.1, keep_or_none_trans h₁.2.2.1 h₂.2.2.1,
    keep_or_none_trans h₁.2.2.2 h₂.2.2.2⟩

/-- `cleanUp` only releases. -/
theorem Releases.cleanUp (s : Session) : Releases s s.cleanUp :=
  ⟨fun h => (nomatch h), .inr rfl, .inr rfl, .inl rfl⟩

/-- Destroying the timer only releases. -/
theorem Releases.destroyTimer (w : World) : Releases w.session w.destroyTimer.session := by
  unfold World.destroyTimer
  split
  · exact .refl _
  · exact ⟨id, .inl rfl, .inl rfl, .inr rfl⟩

/-- The error matcher's callback only destroys the timer. -/
theorem errorMatcherCallback_releases (req : Nat) (url : String) :
    ∀ (w : World) (values : List DbusVariantType),
      Releases w.session (errorMatcherCallback w req url values).session
  | _, [] => .refl _
  | w, .string _ :: rest =>
    (Releases.destroyTimer w).trans (errorMatcherCallback_releases req url _ rest)
  | _, .uint8 _ :: _ => .refl _
  | _, .other :: _ => .refl _

/-- The `getDbusObject` reply destroys the timer and clears the guard, or runs `cleanUp`. -/
theorem getDbusObjectReply_releases (w : World) (req : Nat) (objPath : String)
    (reply : Option (List String)) :
    Releases w.session (getDbusObjectReply w req objPath reply).session := by
  unfold getDbusObjectReply
  split
  · exact (Releases.destroyTimer w).trans ⟨fun h => (nomatch h), .inl rfl, .inl rfl, .inl rfl⟩
  · exact .cleanUp _

/-- **Callbacks only release**, one step at a time. -/
theorem step_releases {p : Parsers} {w w' : World} :
    ∀ {e : Event}, e.isCallback = true → step p w e = some w' → Releases w.session w'.session
  | .updateServicePost .., he, _ => nomatch he
  | .simpleUpdate _, he, _ => nomatch he
  | .softwareAdded .., _, hs => by
    obtain ⟨req, -, rfl⟩ := Option.map_eq_some'.mp hs
    unfold softwareInterfaceAdded
    split <;> exact .refl _
  | .logEntryAdded _, _, hs => by
    obtain ⟨m, -, rfl⟩ := Option.map_eq_some'.mp hs
    exact errorMatcherCallback_releases _ _ w _
  | .timerDone .., _, hs | .lateExpiry _, _, hs => by
    simp only [step, World.deliver_eq_some] at hs
    obtain ⟨-, rfl⟩ := hs
    rw [fwAvailableTimerHandler_session]
    exact .cleanUp _
  | .getDbusObjectReply .., _, hs => by
    simp only [step, World.deliver_eq_some] at hs
    obtain ⟨-, rfl⟩ := hs
    exact getDbusObjectReply_releases _ _ _ _
  | .downloadViaTFTPReply _ failed, _, hs => by
    simp only [step, World.deliver_eq_some] at hs
    obtain ⟨-, rfl⟩ := hs
    cases failed
    · exact .refl _
    · exact .cleanUp _
  | .setApplyTimeReply .., _, hs => by
    simp only [step, World.deliver_eq_some] at hs
    obtain ⟨-, rfl⟩ := hs
    exact .refl _

/-- **What holds of late callbacks.**  In every reachable state both match callbacks belong to
the last admitted request, so no signal reaches an earlier one.  Every callback, whoever it
belongs to, only releases: it never sets the guard, and never creates a matcher or a timer. -/
theorem callbacks_only_release {p : Parsers} {w : World} (hw : Reachable p w) :
    (∀ r, w.session.fwUpdateMatcher = some r → w.lastAdmitted = some r) ∧
      (∀ r url, w.session.fwUpdateErrorMatcher = some (r, url) → w.lastAdmitted = some r) ∧
        ∀ e w', e.isCallback = true → step p w e = some w' → Releases w.session w'.session :=
  ⟨hw.inv.matcher_latest, hw.inv.errorMatcher_latest, fun _ _ he hs => step_releases he hs⟩

/-- After one accepted upload the live matchers belong to it. -/
theorem callbacks_only_release_after_upload :
    let w : World := ⟨⟨some 0, some (0, "/redfish/v1/UpdateService"), true, some 0⟩,
      [.timer 0 false], [], [.uploadImageFile 0 "image"], 1, some 0⟩
    Reachable default w ∧
      (∀ r, w.session.fwUpdateMatcher = some r → w.lastAdmitted = some r) ∧
        (∀ r url, w.session.fwUpdateErrorMatcher = some (r, url) → w.lastAdmitted = some r) ∧
          ∀ e w', e.isCallback = true → step default w e = some w' →
            Releases w.session w'.session := by
  intro w
  have hw : Reachable default w := Reachable.init.of_run
    (show run default World.init [.updateServicePost "application/octet-stream" "image" false]
      = some w from rfl)
  exact ⟨hw, callbacks_only_release hw⟩

/-- **A late completion clears a later session.**  Request 0's image is accepted, so its timer
is destroyed and its `operation_aborted` completion is posted.  Request 1 is admitted before
that completion runs.  When it runs, `cleanUp` clears request 1's guard and releases
request 1's matchers. -/
theorem stale_timer_clears_later_session :
    ∃ w w', run default World.init
        [.updateServicePost "application/octet-stream" "image" false,
         .softwareAdded "/xyz/openbmc_project/software/1a2b"
           ["xyz.openbmc_project.Software.Activation"],
         .getDbusObjectReply 0 "/xyz/openbmc_project/software/1a2b"
           (some ["xyz.openbmc_project.Software.BMC.Updater"]),
         .updateServicePost "application/octet-stream" "image2" false] = some w ∧
      w.lastAdmitted = some 1 ∧
      w.session = ⟨some 1, some (1, "/redfish/v1/UpdateService"), true, some 1⟩ ∧
      step default w (.timerDone 0 true) = some w' ∧
      w'.session = ⟨none, none, false, some 1⟩ :=
  ⟨_, _, rfl, rfl, rfl, rfl, rfl⟩

end UpdateService
