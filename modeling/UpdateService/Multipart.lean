import UpdateService.Basic

/-!
# The multipart upload: the part loop of `updateMultipartContext`

`updateMultipartContext` walks the parts of a `multipart/form-data` body.  For each part it
reads the `name` parameters of its `Content-Disposition`.  An `UpdateParameters` part is parsed
as JSON and its `Targets` checked.  An `UpdateFile` part gives the image.  The loop can throw (in
`json::parse`) or return early, having written messages.  After the loop the function checks
that it saw both parts.  It then calls `setApplyTime` and `uploadImageFile`, which touch the
session, so `Session.lean` models those two calls.

Both nested loops are one loop, `scanAll`, over a body that may throw or return early.

* `multipartUpload_missing_disposition`: a part without `Content-Disposition` ends the
  function.  No message is written and no file.
* `multipartUpload_parse_error`: an `UpdateParameters` part that is not JSON throws out of
  the function.
* `multipartUpload_sound`: the function reaches its upload only with the content of a part
  named `UpdateFile`, and only after a part named `UpdateParameters` whose `Targets` was
  exactly `["/redfish/v1/Managers/bmc"]`.  The apply time it passes is `OnReset` or one that
  such a part gave.
* `multipartUpload_wellFormed`: the converse, exactly.  On a form whose parts all have a
  `Content-Disposition` and whose parameters all name the BMC, the function uploads when it
  has both parts.  The image is the last `UpdateFile` part's, and the apply time is the last
  one given.
-/

namespace UpdateService

/-- The variables of the part loop: `uploadData`, `applyTime` (`"OnReset"` at first) and
`targetFound`. -/
structure MultipartScan where
  uploadData : Option String
  applyTime : String
  targetFound : Bool
  deriving DecidableEq, Repr

/-- The loop variables before the first part. -/
def MultipartScan.init : MultipartScan := ⟨none, "OnReset", false⟩

/-- A loop whose body may throw, or `return` early with the messages it wrote. -/
def scanAll {α : Type}
    (body : α → MultipartScan → Except Throw (Except (List Message) MultipartScan)) :
    List α → MultipartScan → Except Throw (Except (List Message) MultipartScan)
  | [], st => .ok (.ok st)
  | a :: rest, st =>
    match body a st with
    | .ok (.ok st') => scanAll body rest st'
    | r => r

/-- `http::fields::find`: the value of the first field whose name is `name` up to case. -/
def findField (fields : List (String × String)) (name : String) : Option String :=
  (fields.find? fun f => iequals f.1 name).map (·.2)

/-- The body of the inner loop: one parameter of a part's `Content-Disposition`. -/
def scanParam (p : Parsers) (content : String) (param : String × String) (st : MultipartScan) :
    Except Throw (Except (List Message) MultipartScan) :=
  if param.1 ≠ "name" ∨ param.2 = "" then .ok (.ok st)
  else if param.2 = "UpdateParameters" then do
    let read ← p.readUpdateParameters content
    pure <| match read with
      | .error msgs => .error msgs
      | .ok (targets, applyTime) =>
        match targets with
        | [target] =>
          if target ≠ "/redfish/v1/Managers/bmc" then
            .error [.propertyValueNotInList "Targets/0" target]
          else .ok { st with applyTime := applyTime.getD st.applyTime, targetFound := true }
        | _ => .error [.propertyValueFormatError "Targets" ""]
  else if param.2 = "UpdateFile" then .ok (.ok { st with uploadData := some content })
  else .ok (.ok st)

/-- The body of the outer loop: one form part.  Without `Content-Disposition` the function
returns, having only logged.  Without a `;` in it the part is skipped. -/
def scanPart (p : Parsers) (part : FormPart) (st : MultipartScan) :
    Except Throw (Except (List Message) MultipartScan) :=
  match findField part.fields "Content-Disposition" with
  | none => .ok (.error [])
  | some value =>
    match find value ';'.toUInt8 with
    | none => .ok (.ok st)
    | some index => do
      let tail ← substr value index none
      scanAll (scanParam p part.content) (p.paramList tail) st

/-- `updateMultipartContext` up to its last two calls.  Its result is the upload data and
apply time that it passes to `setApplyTime` and `uploadImageFile`, or the messages written
before an early return. -/
def multipartUpload (p : Parsers) (parts : List FormPart) :
    Except Throw (Except (List Message) (String × String)) := do
  let scan ← scanAll (scanPart p) parts .init
  pure <| match scan with
    | .error msgs => .error msgs
    | .ok st =>
      match st.uploadData with
      | none => .error [.propertyMissing "UpdateFile"]
      | some data =>
        if !st.targetFound then .error [.propertyMissing "targets"] else .ok (data, st.applyTime)

/-- A part without `Content-Disposition` ends the whole function.  Whatever the parts after
it, nothing is written and no file is uploaded. -/
theorem multipartUpload_missing_disposition (p : Parsers) (part : FormPart)
    (h : findField part.fields "Content-Disposition" = none) (rest : List FormPart) :
    multipartUpload p (part :: rest) = .ok (.error []) := by
  simp only [multipartUpload, scanAll, scanPart, h]
  rfl

/-! ## What an upload needs -/

/-- **The loop invariant principle.**  An invariant of the loop variables that each
successful iteration keeps holds after a loop that runs to its end. -/
theorem scanAll_invariant {α : Type}
    {body : α → MultipartScan → Except Throw (Except (List Message) MultipartScan)}
    (I : MultipartScan → Prop) :
    ∀ {xs : List α}, (∀ a ∈ xs, ∀ st st', I st → body a st = .ok (.ok st') → I st') →
      ∀ {st st' : MultipartScan}, I st → scanAll body xs st = .ok (.ok st') → I st'
  | [], _, _, _, hI, h => by cases h; exact hI
  | a :: rest, hstep, st, st', hI, h => by
    rcases hb : body a st with t | (msgs | st₁) <;> simp only [scanAll, hb] at h <;> try cases h
    exact scanAll_invariant I (fun b hb => hstep b (List.mem_cons_of_mem a hb))
      (hstep a (List.mem_cons_self a rest) st st₁ hI hb) h

/-- The `(name, value)` parameters that the loop reads from a part's `Content-Disposition`. -/
def partParams (p : Parsers) (part : FormPart) : List (String × String) :=
  match findField part.fields "Content-Disposition" with
  | none => []
  | some value =>
    match find value ';'.toUInt8 with
    | none => []
    | some index => p.paramList ((utf8 value).drop index)

/-- An `UpdateParameters` part that `json::parse` rejects throws `parse_error` out of the
function. -/
theorem multipartUpload_parse_error (p : Parsers) (part : FormPart)
    (hp : partParams p part = [("name", "UpdateParameters")])
    (hj : p.readUpdateParameters part.content = .error .parseError) (rest : List FormPart) :
    multipartUpload p (part :: rest) = .error .parseError := by
  unfold partParams at hp
  rcases hd : findField part.fields "Content-Disposition" with _ | value <;>
    simp only [hd] at hp
  · cases hp
  rcases hi : find value ';'.toUInt8 with _ | index <;> simp only [hi] at hp
  · cases hp
  have hs : substr value index none = .ok ((utf8 value).drop index) :=
    substr_of_le (Nat.le_of_lt (firstIndex_lt hi)) none
  simp only [multipartUpload, scanAll, scanPart, hd, hi, hs, bind, Except.bind, hp, scanParam, hj]
  rfl

/-- What the loop variables record of the parts seen.  Upload data is the content of an
`UpdateFile` part.  A found target comes from an `UpdateParameters` part that read
`["/redfish/v1/Managers/bmc"]`.  The apply time is `OnReset` or one that a read part gave. -/
def ScanSound (p : Parsers) (parts : List FormPart) (st : MultipartScan) : Prop :=
  (∀ d, st.uploadData = some d →
    ∃ part ∈ parts, part.content = d ∧ ("name", "UpdateFile") ∈ partParams p part) ∧
  (st.targetFound = true → ∃ part ∈ parts, ("name", "UpdateParameters") ∈ partParams p part ∧
    ∃ a, p.readUpdateParameters part.content = .ok (.ok (["/redfish/v1/Managers/bmc"], a))) ∧
  (st.applyTime = "OnReset" ∨ ∃ part ∈ parts, ∃ targets,
    p.readUpdateParameters part.content = .ok (.ok (targets, some st.applyTime)))

/-- One parameter of a part keeps `ScanSound`. -/
theorem scanParam_sound {p : Parsers} {parts : List FormPart} {part : FormPart}
    (hpart : part ∈ parts) {param : String × String} (hparam : param ∈ partParams p part)
    {st st' : MultipartScan} (hI : ScanSound p parts st)
    (h : scanParam p part.content param st = .ok (.ok st')) : ScanSound p parts st' := by
  obtain ⟨n, v⟩ := param
  unfold scanParam at h
  dsimp only at h
  by_cases hskip : n ≠ "name" ∨ v = ""
  · rw [if_pos hskip] at h
    cases h; exact hI
  rw [if_neg hskip] at h
  obtain rfl : n = "name" := not_not.mp (not_or.mp hskip).1
  by_cases hup : v = "UpdateParameters"
  · rw [if_pos hup] at h
    subst hup
    rcases hr : p.readUpdateParameters part.content with t | (msgs | ⟨targets, a⟩) <;>
      simp only [hr, bind, Except.bind, pure, Except.pure] at h <;> try cases h
    rcases targets with _ | ⟨target, _ | ⟨_, _⟩⟩ <;> try cases h
    by_cases htarget : target = "/redfish/v1/Managers/bmc"
    · subst htarget
      cases h
      refine ⟨hI.1, fun _ => ⟨part, hpart, hparam, a, hr⟩, ?_⟩
      cases a with
      | none => exact hI.2.2
      | some a => exact .inr ⟨part, hpart, _, hr⟩
    · simp [htarget] at h
  rw [if_neg hup] at h
  by_cases hfile : v = "UpdateFile"
  · rw [if_pos hfile] at h
    subst hfile
    cases h
    exact ⟨fun d e => ⟨part, hpart, Option.some.inj e, hparam⟩, hI.2⟩
  · rw [if_neg hfile] at h
    cases h; exact hI

/-- One part keeps `ScanSound`. -/
theorem scanPart_sound {p : Parsers} {parts : List FormPart} {part : FormPart}
    (hpart : part ∈ parts) {st st' : MultipartScan} (hI : ScanSound p parts st)
    (h : scanPart p part st = .ok (.ok st')) : ScanSound p parts st' := by
  unfold scanPart at h
  split at h
  · cases h
  rename_i value hv
  split at h
  · cases h; exact hI
  rename_i index hi
  rw [substr_of_le (Nat.le_of_lt (firstIndex_lt hi)) none] at h
  have hparams : partParams p part = p.paramList ((utf8 value).drop index) := by
    simp only [partParams, hv, hi]
  exact scanAll_invariant (ScanSound p parts)
    (fun param hparam _ _ hI' h' => scanParam_sound hpart (hparams ▸ hparam) hI' h') hI h

/-- **What an upload needs.**  `updateMultipartContext` reaches `uploadImageFile` only with
the content of a part named `UpdateFile`, and only after a part named `UpdateParameters`
whose `Targets` read exactly `["/redfish/v1/Managers/bmc"]`.  The apply time that it passes
to `setApplyTime` is `OnReset` or one that such a read gave, and nothing checks it. -/
theorem multipartUpload_sound {p : Parsers} {parts : List FormPart} {data applyTime : String}
    (h : multipartUpload p parts = .ok (.ok (data, applyTime))) :
    (∃ part ∈ parts, part.content = data ∧ ("name", "UpdateFile") ∈ partParams p part) ∧
    (∃ part ∈ parts, ("name", "UpdateParameters") ∈ partParams p part ∧
      ∃ a, p.readUpdateParameters part.content = .ok (.ok (["/redfish/v1/Managers/bmc"], a))) ∧
    (applyTime = "OnReset" ∨ ∃ part ∈ parts, ∃ targets,
      p.readUpdateParameters part.content = .ok (.ok (targets, some applyTime))) := by
  unfold multipartUpload at h
  rcases hs : scanAll (scanPart p) parts .init with t | (msgs | st) <;>
    simp only [hs, bind, Except.bind, pure, Except.pure] at h <;> try cases h
  have hI : ScanSound p parts st :=
    scanAll_invariant (ScanSound p parts) (fun _ hpart _ _ hI' h' => scanPart_sound hpart hI' h')
      ⟨fun _ e => (by cases e), fun e => (by cases e), .inl rfl⟩ hs
  rcases hu : st.uploadData with _ | d <;> simp only [hu] at h
  · cases h
  · split at h
    · cases h
    · cases h
      rename_i htf
      simp only [Bool.not_eq_true', Bool.not_eq_false] at htf
      exact ⟨hI.1 _ hu, hI.2.1 htf, hI.2.2⟩

/-! ## What a well-formed form uploads -/

/-- A loop whose body never returns early computes the left fold of the body. -/
theorem scanAll_ok {α : Type}
    {body : α → MultipartScan → Except Throw (Except (List Message) MultipartScan)}
    (f : MultipartScan → α → MultipartScan) :
    ∀ {xs : List α}, (∀ a ∈ xs, ∀ st, body a st = .ok (.ok (f st a))) →
      ∀ st, scanAll body xs st = .ok (.ok (xs.foldl f st))
  | [], _, _ => rfl
  | a :: rest, h, st => by
    rw [scanAll, h a (List.mem_cons_self a rest) st]
    exact scanAll_ok f (fun b hb => h b (List.mem_cons_of_mem a hb)) _

/-- The apply time that a part's `UpdateParameters` read gives, if it names one. -/
def partApplyTime (p : Parsers) (part : FormPart) : Option String :=
  if ("name", "UpdateParameters") ∈ partParams p part then
    match p.readUpdateParameters part.content with
    | .ok (.ok (_, applyTime)) => applyTime
    | _ => none
  else none

/-- The last of the parts whose `Content-Disposition` has the parameter `name=n`. -/
def lastNamed (p : Parsers) (n : String) : List FormPart → Option FormPart
  | [] => none
  | part :: rest =>
    (lastNamed p n rest).or (if ("name", n) ∈ partParams p part then some part else none)

/-- The apply time of the last `UpdateParameters` part that gives one. -/
def lastApplyTime (p : Parsers) : List FormPart → Option String
  | [] => none
  | part :: rest => (lastApplyTime p rest).or (partApplyTime p part)

/-- What one parameter does to the loop variables when its read succeeds. -/
def paramUpdate (content : String) (applyTime : Option String) (st : MultipartScan)
    (param : String × String) : MultipartScan :=
  if param = ("name", "UpdateParameters") then
    { st with applyTime := applyTime.getD st.applyTime, targetFound := true }
  else if param = ("name", "UpdateFile") then { st with uploadData := some content }
  else st

theorem scanParam_ok {p : Parsers} {content : String} {applyTime : Option String}
    {param : String × String}
    (hread : param = ("name", "UpdateParameters") →
      p.readUpdateParameters content = .ok (.ok (["/redfish/v1/Managers/bmc"], applyTime)))
    (st : MultipartScan) :
    scanParam p content param st = .ok (.ok (paramUpdate content applyTime st param)) := by
  unfold scanParam paramUpdate
  by_cases hup : param = ("name", "UpdateParameters")
  · subst hup
    simp only [hread rfl]
    rfl
  by_cases hfile : param = ("name", "UpdateFile")
  · subst hfile
    rfl
  · obtain ⟨n, v⟩ := param
    simp only [Prod.mk.injEq, not_and] at hup hfile
    by_cases hn : n = "name" <;> simp_all

/-- The loop variables after a part's parameters, when every read succeeds. -/
def partUpdate (p : Parsers) (st : MultipartScan) (part : FormPart) : MultipartScan :=
  (partParams p part).foldl (paramUpdate part.content (partApplyTime p part)) st

/-- A part's parameters set each loop variable at most once over: `UpdateFile` stores the
content, and `UpdateParameters` sets the target flag and the apply time that the part's read
gave. -/
theorem foldl_paramUpdate (content : String) (applyTime : Option String) :
    ∀ (params : List (String × String)) (st : MultipartScan),
      params.foldl (paramUpdate content applyTime) st =
        { uploadData := if ("name", "UpdateFile") ∈ params then some content else st.uploadData,
          applyTime := if ("name", "UpdateParameters") ∈ params then applyTime.getD st.applyTime
            else st.applyTime,
          targetFound := st.targetFound || decide (("name", "UpdateParameters") ∈ params) }
  | [], _ => by simp
  | param :: rest, st => by
    rw [List.foldl_cons, foldl_paramUpdate content applyTime rest]
    unfold paramUpdate
    by_cases h₁ : param = ("name", "UpdateParameters")
    · subst h₁
      cases applyTime <;> simp
    by_cases h₂ : param = ("name", "UpdateFile")
    · subst h₂
      simp
    · simp [h₁, h₂, Ne.symm h₁, Ne.symm h₂]

/-- A part's `UpdateParameters` read gives `partApplyTime` when it succeeds. -/
theorem readUpdateParameters_partApplyTime {p : Parsers} {part : FormPart}
    (hn : ("name", "UpdateParameters") ∈ partParams p part) {targets : List String}
    {applyTime : Option String}
    (hr : p.readUpdateParameters part.content = .ok (.ok (targets, applyTime))) :
    partApplyTime p part = applyTime := by
  rw [partApplyTime, if_pos hn, hr]

/-- A part with a `Content-Disposition`, whose `UpdateParameters` reads all succeed with the
BMC as target, runs to its end and does `partUpdate`. -/
theorem scanPart_ok {p : Parsers} {part : FormPart}
    (hd : findField part.fields "Content-Disposition" ≠ none)
    (hu : ("name", "UpdateParameters") ∈ partParams p part →
      ∃ a, p.readUpdateParameters part.content = .ok (.ok (["/redfish/v1/Managers/bmc"], a)))
    (st : MultipartScan) : scanPart p part st = .ok (.ok (partUpdate p st part)) := by
  obtain ⟨value, hv⟩ := Option.ne_none_iff_exists'.mp hd
  unfold scanPart partUpdate
  rw [hv]
  dsimp only
  cases hi : find value ';'.toUInt8 with
  | none => simp only [partParams, hv, hi, List.foldl_nil]
  | some index =>
    dsimp only
    have hpp : partParams p part = p.paramList ((utf8 value).drop index) := by
      simp only [partParams, hv, hi]
    rw [substr_of_le (Nat.le_of_lt (firstIndex_lt hi)) none, hpp]
    refine scanAll_ok _ (fun param hparam st => scanParam_ok (fun e => ?_) st) st
    have hn : ("name", "UpdateParameters") ∈ partParams p part := hpp ▸ e ▸ hparam
    obtain ⟨a, ha⟩ := hu hn
    rwa [readUpdateParameters_partApplyTime hn ha]

section PartFold

variable (p : Parsers)

theorem foldl_partUpdate_uploadData :
    ∀ (parts : List FormPart) (st : MultipartScan),
      (parts.foldl (partUpdate p) st).uploadData =
        ((lastNamed p "UpdateFile" parts).map (·.content)).or st.uploadData
  | [], _ => rfl
  | part :: rest, st => by
    rw [List.foldl_cons, foldl_partUpdate_uploadData rest, partUpdate,
      foldl_paramUpdate, lastNamed]
    cases lastNamed p "UpdateFile" rest <;>
      by_cases h : ("name", "UpdateFile") ∈ partParams p part <;> simp [h]

theorem foldl_partUpdate_targetFound :
    ∀ (parts : List FormPart) (st : MultipartScan),
      (parts.foldl (partUpdate p) st).targetFound =
        (st.targetFound || (lastNamed p "UpdateParameters" parts).isSome)
  | [], _ => by simp [lastNamed]
  | part :: rest, st => by
    rw [List.foldl_cons, foldl_partUpdate_targetFound rest, partUpdate,
      foldl_paramUpdate, lastNamed]
    cases lastNamed p "UpdateParameters" rest <;>
      by_cases h : ("name", "UpdateParameters") ∈ partParams p part <;> simp [h]

theorem foldl_partUpdate_applyTime :
    ∀ (parts : List FormPart) (st : MultipartScan),
      (parts.foldl (partUpdate p) st).applyTime = (lastApplyTime p parts).getD st.applyTime
  | [], _ => rfl
  | part :: rest, st => by
    rw [List.foldl_cons, foldl_partUpdate_applyTime rest, partUpdate,
      foldl_paramUpdate, lastApplyTime]
    have hnone :
        ("name", "UpdateParameters") ∉ partParams p part → partApplyTime p part = none :=
      fun h => if_neg h
    cases lastApplyTime p rest <;>
      by_cases h : ("name", "UpdateParameters") ∈ partParams p part <;> simp [h, hnone]

end PartFold

/-- **What a well-formed form uploads.**  Take a form whose parts all have a
`Content-Disposition`, and whose `UpdateParameters` parts all read with `Targets` exactly
`["/redfish/v1/Managers/bmc"]`.  `updateMultipartContext` uploads it exactly when it has a
part named `UpdateFile` and a part named `UpdateParameters`.  The image is the content of the
last `UpdateFile` part, and the apply time is the one that the last `UpdateParameters` part
giving one gave, `OnReset` if none did.  Otherwise it answers `PropertyMissing`, for
`UpdateFile` first. -/
theorem multipartUpload_wellFormed {p : Parsers} {parts : List FormPart}
    (hd : ∀ part ∈ parts, findField part.fields "Content-Disposition" ≠ none)
    (hu : ∀ part ∈ parts, ("name", "UpdateParameters") ∈ partParams p part →
      ∃ a, p.readUpdateParameters part.content = .ok (.ok (["/redfish/v1/Managers/bmc"], a))) :
    multipartUpload p parts =
      .ok (match lastNamed p "UpdateFile" parts with
        | none => .error [.propertyMissing "UpdateFile"]
        | some file =>
          if (lastNamed p "UpdateParameters" parts).isNone then .error [.propertyMissing "targets"]
          else .ok (file.content, (lastApplyTime p parts).getD "OnReset")) := by
  have hscan := scanAll_ok (partUpdate p)
    (fun part hpart st => scanPart_ok (hd part hpart) (hu part hpart) st) MultipartScan.init
  unfold multipartUpload
  rw [hscan]
  simp only [bind, Except.bind, pure, Except.pure, foldl_partUpdate_uploadData,
    foldl_partUpdate_targetFound, foldl_partUpdate_applyTime]
  cases lastNamed p "UpdateFile" parts <;> cases lastNamed p "UpdateParameters" parts <;> rfl

/-- A two-part form: its parameters name the BMC and `Immediate`, then its image. -/
theorem multipartUpload_wellFormed_two_parts :
    let p : Parsers :=
      { (default : Parsers) with
        paramList := fun tail =>
          if tail = "; name=\"UpdateParameters\"" then [("name", "UpdateParameters")]
          else [("name", "UpdateFile")],
        readUpdateParameters := fun _ =>
          .ok (.ok (["/redfish/v1/Managers/bmc"], some "Immediate")) }
    let parts : List FormPart :=
      [⟨[("Content-Disposition", "form-data; name=\"UpdateParameters\"")], "parameters"⟩,
       ⟨[("Content-Disposition", "form-data; name=\"UpdateFile\"")], "image"⟩]
    (∀ part ∈ parts, findField part.fields "Content-Disposition" ≠ none) ∧
      (∀ part ∈ parts, ("name", "UpdateParameters") ∈ partParams p part →
        ∃ a, p.readUpdateParameters part.content =
          .ok (.ok (["/redfish/v1/Managers/bmc"], a))) ∧
      multipartUpload p parts =
        .ok (match lastNamed p "UpdateFile" parts with
          | none => .error [.propertyMissing "UpdateFile"]
          | some file =>
            if (lastNamed p "UpdateParameters" parts).isNone then
              .error [.propertyMissing "targets"]
            else .ok (file.content, (lastApplyTime p parts).getD "OnReset")) := by
  intro p parts
  have hd : ∀ part ∈ parts, findField part.fields "Content-Disposition" ≠ none := by decide
  have hu : ∀ part ∈ parts, ("name", "UpdateParameters") ∈ partParams p part →
      ∃ a, p.readUpdateParameters part.content = .ok (.ok (["/redfish/v1/Managers/bmc"], a)) :=
    fun _ _ _ => ⟨some "Immediate", rfl⟩
  exact ⟨hd, hu, multipartUpload_wellFormed hd hu⟩

end UpdateService
