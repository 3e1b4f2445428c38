import UpdateService.Step

/-!
# Every staged image was requested

`uploadImageFile` writes an image to `/tmp/images`, where the updater picks it up.  This file
traces each such write back to the request that carried it.  Only the two branches of
`handleUpdateServicePost` call `uploadImageFile`: no callback does, and neither does
SimpleUpdate, which asks the updater to download instead.

* `busy_rejection_still_stages`: a request that `monitorForSoftwareAvailable` answers with
  `ServiceTemporarilyUnavailable` still stages its image, or still asks for the download.
* `step_upload`: one step stages nothing new, unless it is an `UpdateService` POST that carried
  the image.
* `staged_image_requested`: in every run, a staged image is the body of an octet-stream POST,
  or the content of an `UpdateFile` part of a multipart POST.  The multipart POST also had an
  `UpdateParameters` part whose `Targets` read exactly `["/redfish/v1/Managers/bmc"]`.  An
  octet-stream body is staged with no check on its target.
-/

namespace UpdateService

/-- The images that an event can stage: its octet-stream body, or what the part loop of its
multipart body hands to `uploadImageFile`. -/
def Stages (p : Parsers) : Event → String → Prop
  | .updateServicePost contentType body _, data =>
    (iequals contentType "application/octet-stream" = true ∧ data = body) ∨
    ∃ parts, p.multipart contentType body = some parts ∧
      ∃ applyTime, multipartUpload p parts = .ok (.ok (data, applyTime))
  | _, _ => False

/-! ## The calls of each handler -/

section Calls

variable (w : World)

@[simp] theorem newRequest_calls : w.newRequest.calls = w.calls := rfl

@[simp] theorem monitorForSoftwareAvailable_calls (req : Nat) (url : String) :
    (monitorForSoftwareAvailable w req url).calls = w.calls := by
  unfold monitorForSoftwareAvailable
  split <;> simp

@[simp] theorem fwAvailableTimerHandler_calls (req : Nat) (aborted : Bool) :
    (fwAvailableTimerHandler w req aborted).calls = w.calls := by
  cases aborted <;> rfl

@[simp] theorem softwareInterfaceAdded_calls (req : Nat) (objPath : String)
    (interfaces : List String) :
    (softwareInterfaceAdded w req objPath interfaces).calls = w.calls := by
  unfold softwareInterfaceAdded
  split <;> rfl

@[simp] theorem errorMatcherCallback_calls (req : Nat) (url : String) :
    ∀ (w : World) (values : List DbusVariantType),
      (errorMatcherCallback w req url values).calls = w.calls
  | _, [] => rfl
  | w, .string _ :: rest => by
    rw [errorMatcherCallback, errorMatcherCallback_calls req url _ rest]
    simp
  | _, .uint8 _ :: _ => rfl
  | _, .other :: _ => rfl

@[simp] theorem uploadImageFile_calls (req : Nat) (body : String) (bad : Bool) :
    (uploadImageFile w req body bad).calls = w.calls ++ [.uploadImageFile req body] := by
  unfold uploadImageFile
  split <;> rfl

@[simp] theorem downloadViaTFTPReply_calls (failed : Bool) :
    (downloadViaTFTPReply w failed).calls = w.calls := by
  cases failed <;> rfl

@[simp] theorem setApplyTimeReply_calls (req : Nat) (failed : Bool) :
    (setApplyTimeReply w req failed).calls = w.calls := rfl

/-- The `getDbusObject` reply activates an image and creates a task, and stages nothing. -/
@[simp] theorem mem_getDbusObjectReply_calls (req : Nat) (objPath : String)
    (reply : Option (List String)) {r : Nat} {data : String} :
    Call.uploadImageFile r data ∈ (getDbusObjectReply w req objPath reply).calls ↔
      Call.uploadImageFile r data ∈ w.calls := by
  unfold getDbusObjectReply
  split <;> simp

/-- `setApplyTime` sets a property and stages nothing. -/
@[simp] theorem mem_setApplyTime_calls (req : Nat) (applyTime : String) {r : Nat}
    {data : String} :
    Call.uploadImageFile r data ∈ (setApplyTime w req applyTime).calls ↔
      Call.uploadImageFile r data ∈ w.calls := by
  unfold setApplyTime
  split
  · simp
  split <;> simp

end Calls

/-! ## The request handlers -/

section Requests

variable {p : Parsers} {w w' : World} {req r : Nat} {data : String}

/-- The multipart loop stages what it returned, and nothing else. -/
theorem updateMultipartContext_upload {parts : List FormPart} {bad : Bool}
    (h : updateMultipartContext p w req parts bad = .ok w')
    (hc : Call.uploadImageFile r data ∈ w'.calls) :
    Call.uploadImageFile r data ∈ w.calls ∨
      ∃ applyTime, multipartUpload p parts = .ok (.ok (data, applyTime)) := by
  unfold updateMultipartContext at h
  rcases hu : multipartUpload p parts with t | (msgs | ⟨d, applyTime⟩) <;>
    simp only [hu, bind, Except.bind, pure, Except.pure] at h <;> cases h
  · exact .inl hc
  · simp only [uploadImageFile_calls, List.mem_append, mem_setApplyTime_calls,
      List.mem_singleton, Call.uploadImageFile.injEq] at hc
    rcases hc with hc | ⟨-, rfl⟩
    · exact .inl hc
    · exact .inr ⟨applyTime, rfl⟩

/-- An `UpdateService` POST stages its octet-stream body, or what the multipart loop
returned. -/
theorem handleUpdateServicePost_upload {contentType body : String} {bad : Bool}
    (h : handleUpdateServicePost p w req contentType body bad = .ok w')
    (hc : Call.uploadImageFile r data ∈ w'.calls) :
    Call.uploadImageFile r data ∈ w.calls ∨
      Stages p (.updateServicePost contentType body bad) data := by
  unfold handleUpdateServicePost at h
  split at h
  · cases h
    simp only [uploadImageFile_calls, monitorForSoftwareAvailable_calls, List.mem_append,
      List.mem_singleton, Call.uploadImageFile.injEq] at hc
    rcases hc with hc | ⟨-, rfl⟩
    · exact .inl hc
    · exact .inr (.inl ⟨‹_›, rfl⟩)
  split at h
  · split at h
    · cases h
      exact .inl (by simpa using hc)
    · rename_i parts hparts
      rcases updateMultipartContext_upload h hc with hc | hu
      · exact .inl (by simpa using hc)
      · exact .inr (.inr ⟨parts, hparts, hu⟩)
  · cases h
    exact .inl hc

/-- SimpleUpdate asks for a download and stages nothing itself. -/
theorem simpleUpdatePost_upload {body : String} (h : simpleUpdatePost p w req body = .ok w')
    (hc : Call.uploadImageFile r data ∈ w'.calls) : Call.uploadImageFile r data ∈ w.calls := by
  unfold simpleUpdatePost at h
  split at h
  · cases h
    exact hc
  · rcases ht : simpleUpdateTarget _ _ with t | (m | ⟨tftpServer, fwFile⟩) <;>
      rw [ht] at h <;> cases h
    · exact hc
    · simpa using hc

end Requests

/-- **A rejected request still stages its image.**  A second octet-stream upload while the
first is in flight is answered `ServiceTemporarilyUnavailable`, and its image is written
anyway.  A SimpleUpdate in the same position gets `ServiceTemporarilyUnavailable` and then
`Success`, and `DownloadViaTFTP` is called.  A multipart body that fails to parse is answered
`InternalError` with the session already admitted. -/
theorem busy_rejection_still_stages :
    (run default World.init
        [.updateServicePost "application/octet-stream" "image" false,
         .updateServicePost "application/octet-stream" "image2" false]).map
        (fun w => (w.session, w.responses, w.calls)) =
      some (⟨some 0, some (0, "/redfish/v1/UpdateService"), true, some 0⟩,
        [(1, .serviceTemporarilyUnavailable "30")],
        [.uploadImageFile 0 "image", .uploadImageFile 1 "image2"]) ∧
    (run { (default : Parsers) with
            readJsonAction := fun _ => .ok (none, "tftp://10.0.0.5/image.bin") } World.init
        [.updateServicePost "application/octet-stream" "image" false,
         .simpleUpdate "{}"]).map (fun w => (w.responses, w.calls)) =
      some ([(1, .serviceTemporarilyUnavailable "30"), (1, .success)],
        [.uploadImageFile 0 "image", .downloadViaTFTP "image.bin" "10.0.0.5"]) ∧
    (run default World.init
        [.updateServicePost "multipart/form-data; boundary=b" "no parts" false]).map
        (fun w => (w.session, w.responses)) =
      some (⟨some 0, some (0, "/redfish/v1/UpdateService"), true, some 0⟩,
        [(0, .internalError)]) :=
  ⟨rfl, rfl, rfl⟩

/-! ## Steps and runs -/

/-- **The step lemma.**  A step stages nothing new, unless it is an `UpdateService` POST that
carried the image. -/
theorem step_upload {p : Parsers} {w w' : World} {e : Event} (hs : step p w e = some w')
    {r : Nat} {data : String} (hc : Call.uploadImageFile r data ∈ w'.calls) :
    Call.uploadImageFile r data ∈ w.calls ∨ Stages p e data := by
  cases e with
  | updateServicePost =>
    exact (handleUpdateServicePost_upload (Except.toOption_eq_some.mp hs) hc :)
  | simpleUpdate => exact .inl (simpleUpdatePost_upload (Except.toOption_eq_some.mp hs) hc :)
  | softwareAdded =>
    obtain ⟨req, -, rfl⟩ := Option.map_eq_some'.mp hs
    exact .inl (by simpa using hc)
  | logEntryAdded =>
    obtain ⟨m, -, rfl⟩ := Option.map_eq_some'.mp hs
    exact .inl (by simpa using hc)
  | timerDone | lateExpiry | getDbusObjectReply | downloadViaTFTPReply | setApplyTimeReply =>
    simp only [step, World.deliver_eq_some] at hs
    obtain ⟨-, rfl⟩ := hs
    exact .inl (by simpa using hc)

/-- **The run lemma.** -/
theorem run_upload {p : Parsers} {r : Nat} {data : String} :
    ∀ {w w' : World} {es : List Event}, run p w es = some w' →
      Call.uploadImageFile r data ∈ w'.calls →
        Call.uploadImageFile r data ∈ w.calls ∨ ∃ e ∈ es, Stages p e data
  | _, _, [], h, hc => by cases h; exact .inl hc
  | _, _, e :: rest, h, hc => by
    simp only [run, Option.bind_eq_some] at h
    obtain ⟨w₁, h₁, h₂⟩ := h
    rcases run_upload h₂ hc with hc | ⟨e', he', hst⟩
    · exact (step_upload h₁ hc).imp_right fun hst => ⟨e, List.mem_cons_self _ _, hst⟩
    · exact .inr ⟨e', List.mem_cons_of_mem _ he', hst⟩

/-- **Every staged image was requested.**  In every run from the start, an image handed to
`uploadImageFile` is the body of an octet-stream POST.  Otherwise it is the content of an
`UpdateFile` part of a multipart POST, and that POST also had an `UpdateParameters` part whose
`Targets` read exactly `["/redfish/v1/Managers/bmc"]`. -/
theorem staged_image_requested {p : Parsers} {es : List Event} {w : World}
    (hrun : run p World.init es = some w) {r : Nat} {data : String}
    (hc : Call.uploadImageFile r data ∈ w.calls) :
    ∃ contentType body bad, Event.updateServicePost contentType body bad ∈ es ∧
      ((iequals contentType "application/octet-stream" = true ∧ data = body) ∨
        ∃ parts, p.multipart contentType body = some parts ∧
          (∃ part ∈ parts, part.content = data ∧ ("name", "UpdateFile") ∈ partParams p part) ∧
          ∃ part ∈ parts, ("name", "UpdateParameters") ∈ partParams p part ∧
            ∃ a, p.readUpdateParameters part.content =
              .ok (.ok (["/redfish/v1/Managers/bmc"], a))) := by
  rcases run_upload hrun hc with hc | ⟨e, he, hst⟩
  · cases hc
  cases e with
  | updateServicePost contentType body bad =>
    refine ⟨contentType, body, bad, he, hst.imp_right ?_⟩
    rintro ⟨parts, hparts, applyTime, hu⟩
    obtain ⟨hfile, hparams, -⟩ := multipartUpload_sound hu
    exact ⟨parts, hparts, hfile, hparams⟩
  | _ => exact hst.elim

/-- The image of one octet-stream upload is staged, and it is that POST's body. -/
theorem staged_image_requested_octet_stream :
    let p : Parsers := default
    let es : List Event := [.updateServicePost "application/octet-stream" "image" false]
    ∃ w, run p World.init es = some w ∧ Call.uploadImageFile 0 "image" ∈ w.calls ∧
    ∃ contentType body bad, Event.updateServicePost contentType body bad ∈ es ∧
      ((iequals contentType "application/octet-stream" = true ∧ "image" = body) ∨
        ∃ parts, p.multipart contentType body = some parts ∧
          (∃ part ∈ parts, part.content = "image" ∧
            ("name", "UpdateFile") ∈ partParams p part) ∧
          ∃ part ∈ parts, ("name", "UpdateParameters") ∈ partParams p part ∧
            ∃ a, p.readUpdateParameters part.content =
              .ok (.ok (["/redfish/v1/Managers/bmc"], a))) := by
  intro p es
  have hrun : run p World.init es =
      some ⟨⟨some 0, some (0, "/redfish/v1/UpdateService"), true, some 0⟩,
        [.timer 0 false], [], [.uploadImageFile 0 "image"], 1, some 0⟩ := rfl
  have hc : Call.uploadImageFile 0 "image" ∈ _ := List.mem_singleton_self _
  exact ⟨_, hrun, hc, staged_image_requested hrun hc⟩

end UpdateService
