import UpdateService.Invariant

/-!
# The guard is a lock

The guard `fwUpdateInProgress` and the last admission make a lock on the update service.  Its
holder is the request that `monitorForSoftwareAvailable` admitted last, while the guard is
set.  `LockStep` is a lock as an abstract step relation: keep the holder, release it, or give a
free lock to a request.

* `LockStep.chain_holds`: the lock's own law.  While a lock is never free, its holder stays.
* `step_refines_lock`: every step of the process is a lock step, and a free lock goes only to
  the request that arrives in that step.
* `holder_never_handed_over`: along every schedule, the lock passes from one request to another
  only through a state where it is free.

The refinement says nothing about who releases.  Any callback may release the lock, also one
of an earlier request (`stale_timer_clears_later_session`).  So may a rejected request whose write fails
(`holder_uploadImageFile`).
-/

namespace UpdateService

/-- The request that holds the lock: the last admission, while the guard is set. -/
def World.holder (w : World) : Option Nat :=
  if w.session.fwUpdateInProgress then w.lastAdmitted else none

/-- A lock as an abstract step: keep the holder, release it, or give a free lock to a
request. -/
inductive LockStep : Option Nat → Option Nat → Prop where
  | keep (h : Option Nat) : LockStep h h
  | release (h : Option Nat) : LockStep h none
  | acquire (r : Nat) : LockStep none (some r)

/-- **The lock's law.**  Along a chain of lock steps from holder `r` in which the lock is never
free, `r` holds it throughout. -/
theorem LockStep.chain_holds {r : Nat} :
    ∀ {l : List (Option Nat)}, List.Chain LockStep (some r) l → none ∉ l → ∀ x ∈ l, x = some r
  | [], _, _, _, hx => nomatch hx
  | x :: rest, .cons hs hc, hn, y, hy => by
    have hx : x = some r := by
      cases hs with
      | keep => rfl
      | release => exact absurd (List.mem_cons_self _ _) hn
    subst hx
    rcases List.mem_cons.mp hy with rfl | hy
    · rfl
    · exact chain_holds hc (fun h => hn (List.mem_cons_of_mem _ h)) y hy

/-! ## Requests -/

/-- What a request may do to the lock: keep it, release it, or take a free lock for itself. -/
def RequestLock (req : Nat) (h h' : Option Nat) : Prop :=
  h' = h ∨ h' = none ∨ (h = none ∧ h' = some req)

/-- A request that then keeps or releases the lock still did what a request may do. -/
theorem RequestLock.then {req : Nat} {h h' h'' : Option Nat} (hr : RequestLock req h h')
    (hk : h'' = h' ∨ h'' = none) : RequestLock req h h'' := by
  rcases hk with rfl | rfl
  · exact hr
  · exact .inr (.inl rfl)

section Requests

variable (w : World)

@[simp] theorem holder_respond (req : Nat) (m : Message) : (w.respond req m).holder = w.holder :=
  rfl

@[simp] theorem holder_respondAll (req : Nat) (ms : List Message) :
    (w.respondAll req ms).holder = w.holder := rfl

@[simp] theorem holder_call (c : Call) : (w.call c).holder = w.holder := rfl

@[simp] theorem holder_post (x : Pending) : (w.post x).holder = w.holder := rfl

/-- An admission takes the lock, which was free; a busy session keeps it. -/
theorem monitorForSoftwareAvailable_holder (req : Nat) (url : String) :
    RequestLock req w.holder (monitorForSoftwareAvailable w req url).holder := by
  unfold monitorForSoftwareAvailable
  split
  · exact .inl rfl
  · rename_i hg
    exact .inr (.inr ⟨by simp [World.holder, hg], rfl⟩)

/-- A failed write releases the lock, whoever holds it. -/
@[simp] theorem holder_uploadImageFile (req : Nat) (body : String) (bad : Bool) :
    (uploadImageFile w req body bad).holder = if bad then none else w.holder := by
  cases bad <;> rfl

@[simp] theorem holder_setApplyTime (req : Nat) (applyTime : String) :
    (setApplyTime w req applyTime).holder = w.holder := by
  unfold setApplyTime
  split
  · rfl
  split <;> rfl

variable {w}

/-- The multipart handler keeps the lock, or releases it on a failed write. -/
theorem updateMultipartContext_holder {p : Parsers} {req : Nat} {parts : List FormPart}
    {bad : Bool} {w' : World} (h : updateMultipartContext p w req parts bad = .ok w') :
    w'.holder = w.holder ∨ w'.holder = none := by
  unfold updateMultipartContext at h
  rcases hu : multipartUpload p parts with t | (msgs | ⟨data, applyTime⟩) <;>
    simp only [hu, bind, Except.bind, pure, Except.pure] at h <;> cases h
  · exact .inl rfl
  · cases bad
    · exact .inl (by simp)
    · exact .inr (by simp)

/-- Both content types admit first, and then only keep or release the lock. -/
theorem handleUpdateServicePost_holder {p : Parsers} {req : Nat} {contentType body : String}
    {bad : Bool} {w' : World} (h : handleUpdateServicePost p w req contentType body bad = .ok w') :
    RequestLock req w.holder w'.holder := by
  have hm := monitorForSoftwareAvailable_holder w req "/redfish/v1/UpdateService"
  unfold handleUpdateServicePost at h
  split at h
  · cases h
    exact hm.then (by cases bad <;> simp)
  split at h
  · split at h
    · cases h
      exact hm.then (.inl rfl)
    · exact hm.then (updateMultipartContext_holder h)
  · cases h
    exact .inl rfl

/-- SimpleUpdate admits after its ImageURI checks, and then keeps the lock. -/
theorem simpleUpdatePost_holder {p : Parsers} {req : Nat} {body : String} {w' : World}
    (h : simpleUpdatePost p w req body = .ok w') : RequestLock req w.holder w'.holder := by
  unfold simpleUpdatePost at h
  split at h
  · cases h
    exact .inl rfl
  · rcases ht : simpleUpdateTarget _ _ with t | (m | ⟨tftpServer, fwFile⟩) <;>
      rw [ht] at h <;> cases h
    · exact .inl rfl
    · exact (monitorForSoftwareAvailable_holder w req
        "/redfish/v1/UpdateService/Actions/UpdateService.SimpleUpdate").then (.inl (by simp))

end Requests

/-! ## Callbacks -/

section Callbacks

variable (w : World)

@[simp] theorem fwAvailableTimerHandler_lastAdmitted (req : Nat) (aborted : Bool) :
    (fwAvailableTimerHandler w req aborted).lastAdmitted = w.lastAdmitted := by
  cases aborted <;> rfl

@[simp] theorem softwareInterfaceAdded_lastAdmitted (req : Nat) (objPath : String)
    (interfaces : List String) :
    (softwareInterfaceAdded w req objPath interfaces).lastAdmitted = w.lastAdmitted := by
  unfold softwareInterfaceAdded
  split <;> rfl

@[simp] theorem getDbusObjectReply_lastAdmitted (req : Nat) (objPath : String)
    (reply : Option (List String)) :
    (getDbusObjectReply w req objPath reply).lastAdmitted = w.lastAdmitted := by
  unfold getDbusObjectReply
  split
  · simp [World.call, World.respond]
  · rfl

@[simp] theorem errorMatcherCallback_lastAdmitted (req : Nat) (url : String) :
    ∀ (w : World) (values : List DbusVariantType),
      (errorMatcherCallback w req url values).lastAdmitted = w.lastAdmitted
  | _, [] => rfl
  | w, .string _ :: rest => by
    rw [errorMatcherCallback, errorMatcherCallback_lastAdmitted req url _ rest]
    simp [World.respondAll]
  | _, .uint8 _ :: _ => rfl
  | _, .other :: _ => rfl

@[simp] theorem downloadViaTFTPReply_lastAdmitted (failed : Bool) :
    (downloadViaTFTPReply w failed).lastAdmitted = w.lastAdmitted := by
  cases failed <;> rfl

@[simp] theorem setApplyTimeReply_lastAdmitted (req : Nat) (failed : Bool) :
    (setApplyTimeReply w req failed).lastAdmitted = w.lastAdmitted := rfl

end Callbacks

/-- No callback admits: the last admission stays. -/
theorem step_lastAdmitted {p : Parsers} {w w' : World} {e : Event} (he : e.isCallback = true)
    (hs : step p w e = some w') : w'.lastAdmitted = w.lastAdmitted := by
  cases e with
  | updateServicePost | simpleUpdate => cases he
  | softwareAdded =>
    obtain ⟨req, -, rfl⟩ := Option.map_eq_some'.mp hs
    simp
  | logEntryAdded =>
    obtain ⟨m, -, rfl⟩ := Option.map_eq_some'.mp hs
    simp
  | timerDone | lateExpiry | getDbusObjectReply | downloadViaTFTPReply | setApplyTimeReply =>
    simp only [step, World.deliver_eq_some] at hs
    obtain ⟨-, rfl⟩ := hs
    simp [World.settle]

/-- A callback keeps the lock's holder or releases the lock. -/
theorem step_holder_callback {p : Parsers} {w w' : World} {e : Event}
    (he : e.isCallback = true) (hs : step p w e = some w') :
    w'.holder = w.holder ∨ w'.holder = none := by
  have hr := step_releases he hs
  unfold World.holder
  rw [step_lastAdmitted he hs]
  cases hg : w'.session.fwUpdateInProgress
  · exact .inr rfl
  · exact .inl (by simp [hr.1 hg])

/-! ## The refinement -/

/-- **Every step is a lock step.**  A step keeps the holder, releases the lock, or, when the
lock is free, gives it to the request that arrives in this step. -/
theorem step_refines_lock {p : Parsers} {w w' : World} {e : Event}
    (hs : step p w e = some w') :
    LockStep w.holder w'.holder ∧
      (w.holder = none → w'.holder = none ∨ w'.holder = some w.nextReq) := by
  have hreq : RequestLock w.nextReq w.holder w'.holder := by
    cases he : e.isCallback
    · cases e with
      | updateServicePost =>
        exact (handleUpdateServicePost_holder (Except.toOption_eq_some.mp hs) :)
      | simpleUpdate => exact (simpleUpdatePost_holder (Except.toOption_eq_some.mp hs) :)
      | _ => cases he
    · exact RequestLock.then (.inl rfl) (step_holder_callback he hs)
  rcases hreq with e | e | ⟨hf, e⟩ <;> rw [e]
  · exact ⟨.keep _, .inl⟩
  · exact ⟨.release _, fun _ => .inl rfl⟩
  · rw [hf]
    exact ⟨.acquire _, fun _ => .inr rfl⟩

/-- The holder after each event of a schedule, as far as it runs. -/
def holders (p : Parsers) (w : World) : List Event → List (Option Nat)
  | [] => []
  | e :: rest =>
    match step p w e with
    | none => []
    | some w' => w'.holder :: holders p w' rest

/-- **The run lemma.**  The holders along a schedule are a chain of lock steps. -/
theorem holders_chain (p : Parsers) :
    ∀ (w : World) (es : List Event), List.Chain LockStep w.holder (holders p w es)
  | _, [] => .nil
  | w, e :: rest => by
    unfold holders
    cases hs : step p w e with
    | none => exact .nil
    | some w' => exact .cons (step_refines_lock hs).1 (holders_chain p w' rest)

/-- **The lock is never handed over.**  Along every schedule from a state where request `r`
holds the lock, `r` holds it in every later state, as long as the lock is not free. -/
theorem holder_never_handed_over {p : Parsers} {w : World} {es : List Event} {r : Nat}
    (hr : w.holder = some r) (hfree : none ∉ holders p w es) :
    ∀ x ∈ holders p w es, x = some r :=
  LockStep.chain_holds (hr ▸ holders_chain p w es) hfree

/-- While request 0 holds the lock, a second upload is rejected and request 0 keeps it. -/
theorem holder_never_handed_over_busy :
    let w : World := ⟨⟨some 0, some (0, "/redfish/v1/UpdateService"), true, some 0⟩,
      [.timer 0 false], [], [.uploadImageFile 0 "image"], 1, some 0⟩
    let es : List Event := [.updateServicePost "application/octet-stream" "image2" false]
    w.holder = some 0 ∧ none ∉ holders default w es ∧
      ∀ x ∈ holders default w es, x = some 0 := by
  intro w es
  have hr : w.holder = some 0 := rfl
  have hfree : none ∉ holders default w es := by
    rw [show holders default w es = [some 0] from rfl]
    decide
  exact ⟨hr, hfree, holder_never_handed_over hr hfree⟩

/-- A second upload while the first holds the lock is rejected and leaves it with request 0.
The expiry of request 0's timer frees it. -/
example : holders default World.init
    [.updateServicePost "application/octet-stream" "image" false,
     .updateServicePost "application/octet-stream" "image2" false,
     .timerDone 0 false] = [some 0, some 0, none] := rfl

end UpdateService
