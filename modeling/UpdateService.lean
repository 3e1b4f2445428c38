import UpdateService.Basic
import UpdateService.Task
import UpdateService.Inventory
import UpdateService.SimpleUpdate
import UpdateService.Multipart
import UpdateService.Session
import UpdateService.Step
import UpdateService.Invariant
import UpdateService.Staging
import UpdateService.Lock
import UpdateService.Idle
import UpdateService.Provenance
import UpdateService.ApplyTime
import UpdateService.Answer
