import UpdateService.Basic

/-!
# The FirmwareInventory member

`GET /redfish/v1/UpdateService/FirmwareInventory/<swId>` writes its `@odata.id` and asks the
object mapper for every object that implements `xyz.openbmc_project.Software.Version`.  The
reply handler walks that subtree.  For each object whose path ends with `swId` and that has a
service, it calls `getSwStatus` and `getSoftwareVersion` on the first service.  If no object
matched, it writes `ResourceMissingAtURI`; otherwise it writes the member's fixed fields.  The
reply handler of `getSoftwareVersion` writes `Version` and `Id`, then a `Description` made
from what follows the last `.` of the image's `Purpose`, and links the related manager or BIOS.

`getSwStatus`, `getSwUpdatableStatus` and the constants `sw_util::bmcPurpose` and
`sw_util::biosPurpose` are in `sw_utils.hpp`, and the percent-encoding that
`boost::urls::format` applies to `swId` is the library's.  The two calls are recorded, and the
constants and the encoding are parameters.

* `getSoftwareVersion_mem_inventoryLoop`: every object whose path ends with `swId` and that has
  a service is asked for its version.
* `inventory_matches_by_suffix`: so the object that `swId` names, the one whose last path
  segment it is, is always asked.  But so are others: `swId` `bc` matches the object
  `/xyz/openbmc_project/software/abc`, both calls are made for it, and no
  `ResourceMissingAtURI` is written.
-/

namespace UpdateService

/-- `dbus::utility::MapperGetSubTreeResponse`: each object path with the services that
implement the interface on it, each service with its interfaces. -/
abbrev MapperGetSubTreeResponse := List (String × List (String × List String))

/-- The calls that the FirmwareInventory handlers make out of this file. -/
inductive InventoryCall where
  | getSwStatus (swId service : String)
  | getSoftwareVersion (service path swId : String)
  | getSwUpdatableStatus (swId : String)
  deriving DecidableEq, Repr

/-- The FirmwareInventory member as its handlers write it: the JSON fields they set, the
messages, and the calls made. -/
structure InventoryResponse where
  odataId : String
  odataType : Option String := none
  name : Option String := none
  healthRollup : Option String := none
  updateable : Option Bool := none
  version : Option String := none
  id : Option String := none
  description : Option StdString := none
  relatedItem : List String := []
  relatedItemCount : Option Nat := none
  messages : List Message := []
  calls : List InventoryCall := []
  deriving DecidableEq, Repr

/-- A message written to the response. -/
def InventoryResponse.message (res : InventoryResponse) (m : Message) : InventoryResponse :=
  { res with messages := res.messages ++ [m] }

/-- `RelatedItem.emplace_back` of an item with `@odata.id` `item`, then
`RelatedItem@odata.count`. -/
def InventoryResponse.relate (res : InventoryResponse) (item : String) : InventoryResponse :=
  { res with relatedItem := res.relatedItem ++ [item],
             relatedItemCount := some (res.relatedItem.length + 1) }

/-! ## The member and its subtree -/

section Subtree

variable (urlEncode : String → String)

/-- `boost::urls::format("/redfish/v1/UpdateService/FirmwareInventory/{}", swId)`. -/
def inventoryUrl (swId : String) : String :=
  "/redfish/v1/UpdateService/FirmwareInventory/" ++ urlEncode swId

/-- The handler of `requestRoutesSoftwareInventory` up to its `getSubTree`: it writes
`@odata.id`. -/
def softwareInventory (swId : String) : InventoryResponse :=
  { odataId := inventoryUrl urlEncode swId }

/-- The loop of the `getSubTree` reply handler: whether an object was found, and the calls
made, in order.  An object is skipped when its path does not end with `swId` or it has no
service.  Otherwise its first service is asked for the status and the version. -/
def inventoryLoop (swId : String) : MapperGetSubTreeResponse → Bool × List InventoryCall
  | [] => (false, [])
  | (path, services) :: rest =>
    if !endsWith path swId then inventoryLoop swId rest
    else
      match services with
      | [] => inventoryLoop swId rest
      | (service, _) :: _ =>
        (true, .getSwStatus swId service :: .getSoftwareVersion service path swId ::
          (inventoryLoop swId rest).2)

/-- The reply handler of `getSubTree`; `reply` is `none` for an error code. -/
def softwareInventorySubtreeReply (swId : String) (res : InventoryResponse) :
    Option MapperGetSubTreeResponse → InventoryResponse
  | none => res.message .internalError
  | some subtree =>
    let res := { res with calls := res.calls ++ (inventoryLoop swId subtree).2 }
    if !(inventoryLoop swId subtree).1 then
      res.message (.resourceMissingAtURI (inventoryUrl urlEncode swId))
    else
      { res with odataType := some "#SoftwareInventory.v1_1_0.SoftwareInventory",
                 name := some "Software Inventory", healthRollup := some "OK",
                 updateable := some false, calls := res.calls ++ [.getSwUpdatableStatus swId] }

/-- An object whose path ends with `swId` and that has a service is asked, on its first
service, for its version. -/
theorem getSoftwareVersion_mem_inventoryLoop {swId path service : String} {ifaces : List String}
    {services : List (String × List String)} (hm : endsWith path swId = true) :
    ∀ {subtree : MapperGetSubTreeResponse}, (path, (service, ifaces) :: services) ∈ subtree →
      .getSoftwareVersion service path swId ∈ (inventoryLoop swId subtree).2
  | (path', services') :: rest, h => by
    rcases List.mem_cons.mp h with e | h
    · cases e
      simp [inventoryLoop, hm]
    · have ih := getSoftwareVersion_mem_inventoryLoop hm h
      unfold inventoryLoop
      split
      · exact ih
      · split <;> simp [ih]

/-- The subtree reply makes the loop's calls, then `getSwUpdatableStatus` once an object was
found. -/
theorem softwareInventorySubtreeReply_calls (swId : String) (res : InventoryResponse)
    (subtree : MapperGetSubTreeResponse) :
    (softwareInventorySubtreeReply urlEncode swId res (some subtree)).calls =
      res.calls ++ (inventoryLoop swId subtree).2 ++
        if (inventoryLoop swId subtree).1 then [.getSwUpdatableStatus swId] else [] := by
  unfold softwareInventorySubtreeReply
  cases h : (inventoryLoop swId subtree).1 <;> simp [h, InventoryResponse.message]

end Subtree

/-! ## Which object a `swId` names -/

/-- The last segment of an object path: what follows its last `/`.  The object that a `swId`
names is the one whose last segment it is (`sdbusplus::message::object_path::filename`,
without its unescaping). -/
def lastSegment (path : StdString) : StdString :=
  (path.reverse.takeWhile (· ≠ '/'.toUInt8)).reverse

/-- A path ends with its last segment. -/
theorem endsWith_of_lastSegment (path : StdString) : endsWith path (lastSegment path) = true := by
  have h := List.reverse_suffix.mpr (@List.takeWhile_prefix _ path.reverse (· ≠ '/'.toUInt8))
  rw [List.reverse_reverse] at h
  exact List.isSuffixOf_iff_suffix.mpr h

/-- **The match is by suffix.**  The object that a `swId` names is always asked for its
version, when it has a service.  But so are others.  The `swId` `bc` names no object of this
subtree, because the last segment of `/xyz/openbmc_project/software/abc` is `abc`.  Yet the
handler calls `getSwStatus` and `getSoftwareVersion` for that object under `bc`, and writes no
`ResourceMissingAtURI`. -/
theorem inventory_matches_by_suffix (urlEncode : String → String) :
    let subtree : MapperGetSubTreeResponse :=
      [("/xyz/openbmc_project/software/abc",
        [("xyz.openbmc_project.Software.BMC.Updater", ["xyz.openbmc_project.Software.Version"])])]
    let res := softwareInventorySubtreeReply urlEncode "bc" (softwareInventory urlEncode "bc")
      (some subtree)
    lastSegment "/xyz/openbmc_project/software/abc" = "abc" ∧
      res.calls = [.getSwStatus "bc" "xyz.openbmc_project.Software.BMC.Updater",
        .getSoftwareVersion "xyz.openbmc_project.Software.BMC.Updater"
          "/xyz/openbmc_project/software/abc" "bc",
        .getSwUpdatableStatus "bc"] ∧
      res.messages = [] ∧
      ∀ (objects : MapperGetSubTreeResponse) (path service swId : String) (ifaces : List String)
        (services : List (String × List String)),
        (path, (service, ifaces) :: services) ∈ objects → lastSegment path = swId →
          .getSoftwareVersion service path swId ∈
            (softwareInventorySubtreeReply urlEncode swId (softwareInventory urlEncode swId)
              (some objects)).calls := by
  refine ⟨rfl, rfl, rfl, fun objects path service swId ifaces services ho hs => ?_⟩
  have hm : endsWith path swId = true := hs ▸ endsWith_of_lastSegment _
  rw [softwareInventorySubtreeReply_calls]
  exact List.mem_append_left _
    (List.mem_append_right _ (getSoftwareVersion_mem_inventoryLoop hm ho))

/-! ## The version of one image -/

section Version

variable (bmcPurpose biosPurpose : String)

/-- `getRelatedItems`: the BMC image is related to the manager, the host image to the BIOS. -/
def getRelatedItems (res : InventoryResponse) (purpose : String) : InventoryResponse :=
  if purpose = bmcPurpose then res.relate "/redfish/v1/Managers/bmc"
  else if purpose = biosPurpose then res.relate "/redfish/v1/Systems/system/Bios"
  else res

/-- The reply handler of `getSoftwareVersion`'s `getAllProperties`.  `reply` is `none` for an
error code.  Otherwise it is what `unpackPropertiesNoThrow` gave: `none` when it failed, else
the `Purpose` and `Version` pointers, each `none` when its property is missing.  Each of
these four failures writes `InternalError` alone. -/
def softwareVersionReply (swId : String) (res : InventoryResponse) :
    Option (Option (Option String × Option String)) → InventoryResponse
  | some (some (some purpose, some version)) =>
    let res := { res with version := some version, id := some swId }
    match rfind purpose '.'.toUInt8 with
    | none => res.message .internalError
    | some endDesc =>
      if endDesc + 1 ≥ (utf8 purpose).length then res.message .internalError
      else
        getRelatedItems bmcPurpose biosPurpose
          { res with description := some ((utf8 purpose).drop (endDesc + 1) ++ utf8 " image") }
          purpose
  | _ => res.message .internalError

end Version

end UpdateService
