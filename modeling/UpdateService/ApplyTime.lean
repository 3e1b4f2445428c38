import UpdateService.Idle

/-!
# The apply time: the PATCH that sets it and the GET that reads it back

The UpdateService PATCH reads `HttpPushUriOptions`, then `HttpPushUriApplyTime` in it, then the
string `ApplyTime` in that, and hands the string to `setApplyTime`.  A read that fails has
written its messages, and the handler returns.  A level that is absent ends the handler with
nothing written.  The GET reads `RequestedApplyTime` back from the bus (`getApplyTimeReply`).
The JSON library is not in this file, so its value type is a parameter `J` and the three reads
are `PatchReads`.

A PATCH is a request of its own, beside the update POSTs, the signals and the deliveries of
`step`.  `serviceStep` is the event loop with PATCH requests added.

* `updateServicePatch_reads_back`: a PATCH sets the D-Bus value `v` exactly when its body
  carries an `ApplyTime` that the GET reads back from `v`.  Any other PATCH calls nothing.
* `patch_keeps_session`: with PATCH requests anywhere in a run, the guard is still never stuck,
  and a state with nothing in flight is still idle.
-/

namespace UpdateService

/-- The three `json_util` reads of the PATCH handler, over the library's JSON values `J`.  A
failed read gives the messages that it wrote. -/
structure PatchReads (J : Type) where
  /-- `readJsonPatch` of the optional `HttpPushUriOptions`. -/
  readJsonPatch : String → Except (List Message) (Option J)
  /-- `readJson` of the optional `HttpPushUriApplyTime`. -/
  readPushUriApplyTime : J → Except (List Message) (Option J)
  /-- `readJson` of the optional string `ApplyTime`. -/
  readApplyTime : J → Except (List Message) (Option String)

variable {J : Type}

/-- The PATCH handler of `requestRoutesUpdateService`. -/
def updateServicePatch (r : PatchReads J) (w : World) (req : Nat) (body : String) : World :=
  match r.readJsonPatch body with
  | .error msgs => w.respondAll req msgs
  | .ok none => w
  | .ok (some pushUriOptions) =>
    match r.readPushUriApplyTime pushUriOptions with
    | .error msgs => w.respondAll req msgs
    | .ok none => w
    | .ok (some pushUriApplyTime) =>
      match r.readApplyTime pushUriApplyTime with
      | .error msgs => w.respondAll req msgs
      | .ok none => w
      | .ok (some applyTime) => setApplyTime w req applyTime

/-- **What a PATCH does.**  When all three reads find their value, the handler is
`setApplyTime` of the `ApplyTime`.  Otherwise it only writes the messages of a failed read. -/
theorem updateServicePatch_cases (r : PatchReads J) (w : World) (req : Nat) (body : String) :
    (∃ pushUriOptions pushUriApplyTime applyTime,
      r.readJsonPatch body = .ok (some pushUriOptions) ∧
        r.readPushUriApplyTime pushUriOptions = .ok (some pushUriApplyTime) ∧
          r.readApplyTime pushUriApplyTime = .ok (some applyTime) ∧
            updateServicePatch r w req body = setApplyTime w req applyTime) ∨
      ((¬ ∃ pushUriOptions pushUriApplyTime applyTime,
        r.readJsonPatch body = .ok (some pushUriOptions) ∧
          r.readPushUriApplyTime pushUriOptions = .ok (some pushUriApplyTime) ∧
            r.readApplyTime pushUriApplyTime = .ok (some applyTime)) ∧
        ∃ msgs, updateServicePatch r w req body = w.respondAll req msgs) := by
  unfold updateServicePatch
  rcases h₁ : r.readJsonPatch body with msgs | _ | pushUriOptions <;> dsimp only
  case error => exact .inr ⟨by simp [h₁], msgs, rfl⟩
  case ok.none => exact .inr ⟨by simp [h₁], [], by simp [World.respondAll]⟩
  rcases h₂ : r.readPushUriApplyTime pushUriOptions with msgs | _ | pushUriApplyTime <;>
    dsimp only
  case error => exact .inr ⟨by simp [h₁, h₂], msgs, rfl⟩
  case ok.none => exact .inr ⟨by simp [h₁, h₂], [], by simp [World.respondAll]⟩
  rcases h₃ : r.readApplyTime pushUriApplyTime with msgs | _ | applyTime <;> dsimp only
  case error => exact .inr ⟨by simp [h₁, h₂, h₃], msgs, rfl⟩
  case ok.none => exact .inr ⟨by simp [h₁, h₂, h₃], [], by simp [World.respondAll]⟩
  exact .inl ⟨pushUriOptions, pushUriApplyTime, applyTime, rfl, h₂, h₃, rfl⟩

/-- `setApplyTime` calls nothing, or sets one D-Bus value, which reads back as its
`ApplyTime`. -/
theorem setApplyTime_calls (w : World) (req : Nat) (applyTime : String) :
    (setApplyTime w req applyTime).calls = w.calls ∨
      ∃ v, getApplyTimeReply v = some applyTime ∧
        (setApplyTime w req applyTime).calls = w.calls ++ [.setApplyTime v] := by
  unfold setApplyTime
  split_ifs with hI hO
  · exact .inr ⟨_, by simp [getApplyTimeReply, hI], rfl⟩
  · exact .inr ⟨_, by simp [getApplyTimeReply, hO], rfl⟩
  · exact .inl rfl

/-- An event of the whole service: one of the update session's, or an UpdateService PATCH. -/
inductive ServiceEvent where
  | session (e : Event)
  | patch (body : String)
  deriving DecidableEq, Repr

/-- The event loop with PATCH requests.  A PATCH is numbered as a request. -/
def serviceStep (p : Parsers) (r : PatchReads J) (w : World) : ServiceEvent → Option World
  | .session e => step p w e
  | .patch body => some (updateServicePatch r w.newRequest w.nextReq body)

/-- The states that some schedule of the whole service reaches from the start. -/
inductive ServiceReachable (p : Parsers) (r : PatchReads J) : World → Prop where
  | init : ServiceReachable p r World.init
  | step {w w' : World} (e : ServiceEvent) : ServiceReachable p r w →
      serviceStep p r w e = some w' → ServiceReachable p r w'

/-- A PATCH keeps both invariants. -/
theorem updateServicePatch_inv (r : PatchReads J) {w : World} (hs : SessionInv w)
    (hm : MatcherPending w) (req : Nat) (body : String) :
    SessionInv (updateServicePatch r w req body) ∧
      MatcherPending (updateServicePatch r w req body) := by
  rcases updateServicePatch_cases r w req body with ⟨-, -, t, -, -, -, e⟩ | ⟨-, msgs, e⟩ <;>
    rw [e]
  · exact ⟨setApplyTime_inv hs req t, setApplyTime_matcherPending hm req t⟩
  · exact ⟨hs.respondAll req msgs, hm.respondAll req msgs⟩

/-- Every state of the whole service satisfies both invariants. -/
theorem ServiceReachable.inv {p : Parsers} {r : PatchReads J} {w : World}
    (hw : ServiceReachable p r w) : SessionInv w ∧ MatcherPending w := by
  induction hw with
  | init => exact ⟨(Reachable.init (p := p)).inv, (Reachable.init (p := p)).matcherPending⟩
  | step e _ hs ih =>
    cases e with
    | session e => exact ⟨step_inv ih.1 hs, step_matcherPending ih.2 hs⟩
    | patch body =>
      cases hs
      exact updateServicePatch_inv r ih.1.newRequest ih.2.newRequest _ body

/-- **PATCH requests do not disturb an update.**  With UpdateService PATCH requests anywhere in
a run, the guard is still never stuck: while it is set, the last admission's timer completion
is in flight.  And a state with nothing in flight is still idle, with the guard clear and both
matchers released. -/
theorem patch_keeps_session {p : Parsers} {r : PatchReads J} {w : World}
    (hw : ServiceReachable p r w) :
    (w.session.fwUpdateInProgress = true →
      ∃ req aborted, w.lastAdmitted = some req ∧ Pending.timer req aborted ∈ w.inFlight) ∧
      (w.inFlight = [] → w.Idle) := by
  obtain ⟨hs, hm⟩ := hw.inv
  refine ⟨fun hg => ?_, World.idle_of_inFlight_nil hs hm⟩
  obtain ⟨req, hr, aborted, ha⟩ := hs.guard_timer hg
  exact ⟨req, aborted, hr, ha⟩

/-- A PATCH of `OnReset` during an upload, with a reader that finds the body itself at each
level.  The guard is set, and the upload's timer is in flight beside the property reply. -/
theorem patch_keeps_session_during_upload :
    let r : PatchReads String :=
      { readJsonPatch := fun body => .ok (some body), readPushUriApplyTime := fun j => .ok (some j),
        readApplyTime := fun j => .ok (some j) }
    let w : World := ⟨⟨some 0, some (0, "/redfish/v1/UpdateService"), true, some 0⟩,
      [.timer 0 false, .setApplyTime 1], [],
      [.uploadImageFile 0 "image",
       .setApplyTime "xyz.openbmc_project.Software.ApplyTime.RequestedApplyTimes.OnReset"],
      2, some 0⟩
    ServiceReachable default r w ∧
      (w.session.fwUpdateInProgress = true →
        ∃ req aborted, w.lastAdmitted = some req ∧ Pending.timer req aborted ∈ w.inFlight) ∧
        (w.inFlight = [] → w.Idle) := by
  intro r w
  have hw : ServiceReachable default r w :=
    .step (.patch "OnReset")
      (.step (.session (.updateServicePost "application/octet-stream" "image" false)) .init rfl)
      rfl
  exact ⟨hw, patch_keeps_session hw⟩

end UpdateService
