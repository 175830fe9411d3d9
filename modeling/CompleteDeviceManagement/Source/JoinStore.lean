import CompleteDeviceManagement.Source.Runtime

/-!
# The store of JOIN requests

Source: glue-services/iot-bridge-api/app/clients/join_store.py. The lock is
taken around the file operation only.
-/

set_option autoImplicit false

namespace CompleteDeviceManagement.Source.JoinStore
open CompleteDeviceManagement.Library CompleteDeviceManagement.Source.Models
  CompleteDeviceManagement.Source.Runtime
open CompleteDeviceManagement.Library.Fallible

/-- `async with _store_lock:` around a synchronous step. -/
def withStoreLock {α : Type} (step : World → α × World) : App α := do
  perform (Proc.waitFor fun w => !w.storeLocked)
  perform (Proc.modify fun w => { w with storeLocked := true })
  let w ← perform Proc.get
  perform (Proc.modify fun w => (step w).2)
  perform (Proc.modify fun w => { w with storeLocked := false })
  pure (step w).1

def loadStore : App JoinStore := do
  let w ← perform Proc.get
  match w.requests with
  | none => pure Dict.empty
  | some _ => withStoreLock fun w => (w.requests.getD Dict.empty, w)

def saveStore (data : JoinStore) : App Unit :=
  withStoreLock fun w => ((), { w with requests := some data })

/-! ## What one call does while nobody holds the lock -/

/-- The requests on file. -/
def entries (w : World) : JoinStore := w.requests.getD Dict.empty

theorem loadStore_runs {w : World} (h : w.storeLocked = false) :
    Proc.RunsTo loadStore.run w (.ok (entries w)) w := by
  cases w with
  | mk requests keys storeLocked keyLocked ticks choices =>
    simp only at h
    subst h
    cases requests <;> rfl

theorem saveStore_runs (data : JoinStore) {w : World} (h : w.storeLocked = false) :
    Proc.RunsTo (saveStore data).run w (.ok ()) { w with requests := some data } := by
  cases w with
  | mk requests keys storeLocked keyLocked ticks choices =>
    simp only at h
    subst h
    rfl

end CompleteDeviceManagement.Source.JoinStore
