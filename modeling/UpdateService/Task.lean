import UpdateService.Basic

/-!
# The update task: the callback on `PropertiesChanged`

Once the platform has accepted an image, `softwareInterfaceAdded` creates a task.  The task
watches `PropertiesChanged` on the image's object, and its callback turns each signal into a
state, a percentage and a message log.  A run of the task is the callback applied to a list of
signals.  The task framework stops delivering only after a `post`, so that list may continue
past a signal that the callback answered `task::completed`.

* `getIf`: the loop that looks a property up with `std::get_if`.  Its result is the last entry
  of the key, or an error at the first entry of the key that has another type.
* `updateTaskCallback_cases`: the seven things one signal can do, from which the lemmas on one
  signal follow.
* `walk_of_updateTaskCallback` / `states_walk`: one signal leaves the state alone or sets it
  to `Stopping`, `Completed` or `Exception`.  So every run is a walk in which `Running`, once
  left, is never entered again.
* `completed_not_absorbing`: the callback never reads the state.  A late `Failed` signal
  moves a `Completed` task to `Exception` and appends `TaskAborted`.
* `percentComplete_bounded` / `out_of_range_progress_accepted`: `percentComplete` always
  holds a `uint8`, but no range check is made, so a progress of 200 is stored as it is.
-/

namespace UpdateService

/-- The fields of `task::TaskData` that the update callback reads and writes.  `timeout` is
the duration in seconds that the task's timer was last armed for. -/
structure TaskData where
  index : Nat
  state : String
  status : String
  percentComplete : Nat
  messages : List Message
  timeout : Nat
  deriving DecidableEq, Repr

/-- Modelled from the spec: `task::TaskData::createTask` (in `task.hpp`, not in this file).
A new task is `Running` with status `OK`, 0 percent and no messages.  The `timeout` of 300 s
is `task->startTimer(std::chrono::minutes(5))` in `softwareInterfaceAdded`. -/
def createTask (index : Nat) : TaskData := ⟨index, "Running", "OK", 0, [], 300⟩

/-- A `PropertiesChanged` signal as the callback reads it: whether its delivery carried an
error code, then `msg.read(iface, values)`. -/
structure Signal where
  ec : Bool
  iface : String
  values : List (String × DbusVariantType)
  deriving DecidableEq, Repr

/-- The loop over `values` that looks `key` up with `std::get_if` (through `pick`).  It gives
the last accepted value, or `.error ()` at the first `key` entry of another type, where the
loop returns. -/
def getIf {α : Type} (key : String) (pick : DbusVariantType → Option α) (found : Option α) :
    List (String × DbusVariantType) → Except Unit (Option α)
  | [] => .ok found
  | (k, v) :: rest =>
    if k = key then
      match pick v with
      | some a => getIf key pick (some a) rest
      | none => .error ()
    else getIf key pick found rest

/-- The callback passed to `createTask` in `softwareInterfaceAdded`.  It returns the task
after the signal and whether it answered `task::completed`. -/
def updateTaskCallback (sig : Signal) (t : TaskData) : TaskData × Bool :=
  if sig.ec then (t, true) else
  let index := toString t.index
  if sig.iface = "xyz.openbmc_project.Software.Activation" then
    match getIf "Activation" DbusVariantType.asString none sig.values with
    | .error () => ({ t with messages := t.messages ++ [.internalError] }, true)
    | .ok none => (t, false)
    | .ok (some state) =>
      if endsWith state "Invalid" || endsWith state "Failed" then
        ({ t with state := "Exception", status := "Warning",
                  messages := t.messages ++ [.taskAborted index] }, true)
      else if endsWith state "Staged" then
        ({ t with state := "Stopping", messages := t.messages ++ [.taskPaused index],
                  timeout := 18000 }, false)
      else if endsWith state "Active" then
        ({ t with messages := t.messages ++ [.taskCompletedOK index], state := "Completed" },
          true)
      else (t, false)
  else if sig.iface = "xyz.openbmc_project.Software.ActivationProgress" then
    match getIf "Progress" DbusVariantType.asUInt8 none sig.values with
    | .error () => ({ t with messages := t.messages ++ [.internalError] }, true)
    | .ok none => (t, false)
    | .ok (some progress) =>
      ({ t with percentComplete := progress.toNat,
                messages := t.messages ++ [.taskProgressChanged index progress.toNat],
                timeout := 300 }, false)
  else (t, false)

/-- The task after each signal of a list, in order. -/
def runTask : TaskData → List Signal → TaskData
  | t, [] => t
  | t, sig :: rest => runTask (updateTaskCallback sig t).1 rest

/-- The states that the task passes through, one after each signal. -/
def taskStates : TaskData → List Signal → List String
  | _, [] => []
  | t, sig :: rest =>
    let t' := (updateTaskCallback sig t).1
    t'.state :: taskStates t' rest

/-! ## The property lookup -/

/-- The lookup fails exactly when some entry of the key has a value of another type. -/
theorem getIf_eq_error {α : Type} {key : String} {pick : DbusVariantType → Option α}
    {found : Option α} {values : List (String × DbusVariantType)} :
    getIf key pick found values = .error () ↔ ∃ v, (key, v) ∈ values ∧ pick v = none := by
  induction values generalizing found with
  | nil => simp [getIf]
  | cons e rest ih =>
    obtain ⟨k, v⟩ := e
    by_cases hk : k = key
    · subst hk
      cases hv : pick v <;> simp [getIf, hv, ih]
    · simp [getIf, hk, ih, Ne.symm hk]

/-! ## One signal -/

/-- **What one signal can do.**  The callback completes or keeps the task as it is, appends
`InternalError` and completes it, ends it in `Exception`, pauses it in `Stopping`, completes
it in `Completed`, or records a progress. -/
theorem updateTaskCallback_cases (sig : Signal) (t : TaskData) :
    updateTaskCallback sig t = (t, true) ∨ updateTaskCallback sig t = (t, false) ∨
    updateTaskCallback sig t = ({ t with messages := t.messages ++ [.internalError] }, true) ∨
    updateTaskCallback sig t =
      ({ t with state := "Exception", status := "Warning",
                messages := t.messages ++ [.taskAborted (toString t.index)] }, true) ∨
    updateTaskCallback sig t =
      ({ t with state := "Stopping", messages := t.messages ++ [.taskPaused (toString t.index)],
                timeout := 18000 }, false) ∨
    updateTaskCallback sig t =
      ({ t with state := "Completed",
                messages := t.messages ++ [.taskCompletedOK (toString t.index)] }, true) ∨
    ∃ progress : UInt8, updateTaskCallback sig t =
      ({ t with percentComplete := progress.toNat, timeout := 300,
                messages :=
                  t.messages ++ [.taskProgressChanged (toString t.index) progress.toNat] },
        false) := by
  unfold updateTaskCallback
  dsimp only
  by_cases hec : sig.ec = true
  · exact .inl (if_pos hec)
  rw [if_neg hec]
  by_cases ha : sig.iface = "xyz.openbmc_project.Software.Activation"
  · rw [if_pos ha]
    rcases getIf "Activation" DbusVariantType.asString none sig.values with _ | _ | state
    · exact .inr (.inr (.inl rfl))
    · exact .inr (.inl rfl)
    · dsimp only
      cases endsWith state "Invalid" || endsWith state "Failed" with
      | true => exact .inr (.inr (.inr (.inl rfl)))
      | false =>
        cases endsWith state "Staged" with
        | true => exact .inr (.inr (.inr (.inr (.inl rfl))))
        | false =>
          cases endsWith state "Active" with
          | true => exact .inr (.inr (.inr (.inr (.inr (.inl rfl)))))
          | false => exact .inr (.inl rfl)
  rw [if_neg ha]
  split_ifs
  · rcases getIf "Progress" DbusVariantType.asUInt8 none sig.values with _ | _ | progress
    · exact .inr (.inr (.inl rfl))
    · exact .inr (.inl rfl)
    · exact .inr (.inr (.inr (.inr (.inr (.inr ⟨progress, rfl⟩)))))
  · exact .inr (.inl rfl)

/-- The states that one signal may leave: the state it found, or one of the three that the
callback writes. -/
def Walk (a b : String) : Prop := b = a ∨ b = "Stopping" ∨ b = "Completed" ∨ b = "Exception"

/-- **One step of the walk.**  A signal leaves the state alone or sets it to `Stopping`,
`Completed` or `Exception`.  The callback writes no other state. -/
theorem walk_of_updateTaskCallback (sig : Signal) (t : TaskData) :
    Walk t.state (updateTaskCallback sig t).1.state := by
  rcases updateTaskCallback_cases sig t with h | h | h | h | h | h | ⟨_, h⟩ <;> rw [h] <;>
    simp [Walk]

/-- One signal leaves `percentComplete` alone or stores a `uint8` in it. -/
theorem percentComplete_updateTaskCallback (sig : Signal) (t : TaskData) :
    (updateTaskCallback sig t).1.percentComplete = t.percentComplete ∨
      (updateTaskCallback sig t).1.percentComplete < 256 := by
  rcases updateTaskCallback_cases sig t with h | h | h | h | h | h | ⟨progress, h⟩ <;> rw [h]
  all_goals first | exact .inl rfl | exact .inr (UInt8.toNat_lt_size progress)

/-! ## Whole runs -/

/-- **The walk.**  Along every run, each signal leaves the state alone or enters `Stopping`,
`Completed` or `Exception`.  Late signals after a `task::completed` are included. -/
theorem states_walk (t : TaskData) (sigs : List Signal) :
    List.Chain Walk t.state (taskStates t sigs) := by
  induction sigs generalizing t with
  | nil => exact .nil
  | cons sig rest ih => exact .cons (walk_of_updateTaskCallback sig t) (ih _)

/-- **Completed is not absorbing.**  A task that the callback has completed still takes a late
`Activation` signal: a value ending in `Failed` moves it to `Exception` and appends
`TaskAborted`. -/
theorem completed_not_absorbing :
    let done := runTask (createTask 0)
      [⟨false, "xyz.openbmc_project.Software.Activation",
        [("Activation", .string "xyz.openbmc_project.Software.Activation.Activations.Active")]⟩]
    let late := runTask done
      [⟨false, "xyz.openbmc_project.Software.Activation",
        [("Activation", .string "xyz.openbmc_project.Software.Activation.Activations.Failed")]⟩]
    done.state = "Completed" ∧ late.state = "Exception" ∧
      late.messages = done.messages ++ [.taskAborted "0"] :=
  ⟨rfl, rfl, rfl⟩

/-- The percentage after a run is the one the task started with, or a `uint8`. -/
theorem percentComplete_runTask (t : TaskData) (sigs : List Signal) :
    (runTask t sigs).percentComplete = t.percentComplete ∨
      (runTask t sigs).percentComplete < 256 := by
  induction sigs generalizing t with
  | nil => exact .inl rfl
  | cons sig rest ih =>
    rcases ih (updateTaskCallback sig t).1 with h | h
    · rw [runTask, h]; exact percentComplete_updateTaskCallback sig t
    · exact .inr h

/-- A progress signal whose `Progress` entry is not a `uint8` is rejected: `InternalError` is
appended and nothing else changes. -/
theorem progress_not_uint8_rejected (t : TaskData) (values : List (String × DbusVariantType))
    (h : ∃ v, ("Progress", v) ∈ values ∧ v.asUInt8 = none) :
    updateTaskCallback ⟨false, "xyz.openbmc_project.Software.ActivationProgress", values⟩ t =
      ({ t with messages := t.messages ++ [.internalError] }, true) := by
  have he : getIf "Progress" DbusVariantType.asUInt8 none values = .error () :=
    getIf_eq_error.mpr h
  simp only [updateTaskCallback, if_false, he]
  rfl

/-- **The percentage is a byte.**  From a new task, along every run, `percentComplete` stays
within 0..255.  A `Progress` entry whose value is not a `uint8` is rejected with
`InternalError`, and `percentComplete` and the state stay as they were. -/
theorem percentComplete_bounded (index : Nat) (sigs : List Signal) :
    (runTask (createTask index) sigs).percentComplete ≤ 255 ∧
      ∀ (t : TaskData) (values : List (String × DbusVariantType)),
        (∃ v, ("Progress", v) ∈ values ∧ v.asUInt8 = none) →
          updateTaskCallback ⟨false, "xyz.openbmc_project.Software.ActivationProgress", values⟩ t =
            ({ t with messages := t.messages ++ [.internalError] }, true) := by
  refine ⟨?_, progress_not_uint8_rejected⟩
  rcases percentComplete_runTask (createTask index) sigs with h | h
  · rw [h]; exact Nat.zero_le _
  · omega

/-- **Out-of-range progress is accepted.**  A `Progress` of 200 is stored in
`percentComplete` and reported as a progress change, not rejected. -/
theorem out_of_range_progress_accepted :
    let t := runTask (createTask 0)
      [⟨false, "xyz.openbmc_project.Software.ActivationProgress", [("Progress", .uint8 200)]⟩]
    t.percentComplete = 200 ∧ t.state = "Running" ∧ t.messages = [.taskProgressChanged "0" 200] :=
  ⟨rfl, rfl, rfl⟩

end UpdateService
