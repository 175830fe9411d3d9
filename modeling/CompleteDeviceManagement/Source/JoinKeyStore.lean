import CompleteDeviceManagement.Source.Runtime

/-!
# The store of JOIN keys

Source: glue-services/iot-bridge-api/app/clients/join_key_store.py.
-/

set_option autoImplicit false

namespace CompleteDeviceManagement.Source.JoinKeyStore
open CompleteDeviceManagement.Library CompleteDeviceManagement.Source.Models
  CompleteDeviceManagement.Source.Runtime
open CompleteDeviceManagement.Library.Fallible

/-- JOIN keys expire 7 days after generation. -/
def joinKeyTtlHours : Nat := 7 * 24

/-- `string.ascii_uppercase + string.digits` -/
def alphabet : List Char := "ABCDEFGHIJKLMNOPQRSTUVWXYZ0123456789".toList

def groupLen : Nat := 4

def numGroups : Nat := 4

/-- The key that `generate_join_key` makes of the readings from `start` on. -/
def joinKeyAt (env : Env) (start : Nat) : String :=
  .ofList (['-'].intercalate
    ((List.range numGroups).map fun i => chosen env alphabet (start + i * groupLen) groupLen))

def generateJoinKey (env : Env) : App String := do
  let w ← perform Proc.get
  perform (Proc.modify fun w => { w with choices := w.choices + numGroups * groupLen })
  pure (joinKeyAt env w.choices)

/-- `async with _key_lock:` around a synchronous step. -/
def withKeyLock {α : Type} (step : World → α × World) : App α := do
  perform (Proc.waitFor fun w => !w.keyLocked)
  perform (Proc.modify fun w => { w with keyLocked := true })
  let w ← perform Proc.get
  perform (Proc.modify fun w => (step w).2)
  perform (Proc.modify fun w => { w with keyLocked := false })
  pure (step w).1

def loadKeys : App KeyStore := do
  let w ← perform Proc.get
  match w.keys with
  | none => pure Dict.empty
  | some _ => withKeyLock fun w => (w.keys.getD Dict.empty, w)

def saveKeys (data : KeyStore) : App Unit :=
  withKeyLock fun w => ((), { w with keys := some data })

def openEntry (key tenantId displayName : String) (createdAt : Datetime) : JoinKeyEntry where
  key := key
  tenantId := tenantId
  displayName := displayName
  status := .open
  createdAt := createdAt
  expiresAt := createdAt.addHours joinKeyTtlHours
  usedAt := none

def createKey (env : Env) (tenantId displayName : String) : App String := do
  let key ← generateJoinKey env
  let createdAt ← now env
  let keys ← loadKeys
  saveKeys (keys.set key (openEntry key tenantId displayName createdAt))
  pure key

def validateAndConsume (env : Env) (key : String) : App JoinKeyEntry := do
  let keys ← loadKeys
  match keys.get? key with
  | none => fail (.language (.keyError ("JOIN key not found: " ++ env.py.repr key)))
  | some entry =>
      if entry.status ≠ .open then
        fail (.language (.valueError ("JOIN key is " ++ env.py.repr entry.status.text ++
          " – each key may only be used once.")))
      else do
        let checkedAt ← now env
        if entry.expiresAt.micros < checkedAt.micros then do
          saveKeys (keys.set key { entry with status := .expired })
          fail (.language (.valueError "JOIN key has expired."))
        else do
          let usedAt ← now env
          let entry := { entry with status := .used, usedAt := some usedAt }
          saveKeys (keys.set key entry)
          pure entry

/-! ## What one call does while nobody holds the lock -/

/-- The keys on file. -/
def table (w : World) : KeyStore := w.keys.getD Dict.empty

theorem loadKeys_runs {w : World} (h : w.keyLocked = false) :
    Proc.RunsTo loadKeys.run w (.ok (table w)) w := by
  cases w with
  | mk requests keys storeLocked keyLocked ticks choices =>
    simp only at h
    subst h
    cases keys <;> rfl

theorem saveKeys_runs (data : KeyStore) {w : World} (h : w.keyLocked = false) :
    Proc.RunsTo (saveKeys data).run w (.ok ()) { w with keys := some data } := by
  cases w with
  | mk requests keys storeLocked keyLocked ticks choices =>
    simp only at h
    subst h
    rfl

theorem generateJoinKey_runs (env : Env) (w : World) :
    Proc.RunsTo (generateJoinKey env).run w (.ok (joinKeyAt env w.choices))
      { w with choices := w.choices + numGroups * groupLen } := rfl

def createKeyEffect (env : Env) (tenantId displayName : String) (w : World) :
    Except Raised String × World :=
  (.ok (joinKeyAt env w.choices),
    { w with
      choices := w.choices + numGroups * groupLen
      ticks := w.ticks + 1
      keys := some ((table w).set (joinKeyAt env w.choices)
        (openEntry (joinKeyAt env w.choices) tenantId displayName (env.clock w.ticks))) })

theorem createKey_runs (env : Env) (tenantId displayName : String) {w : World}
    (h : w.keyLocked = false) :
    Proc.RunsTo (createKey env tenantId displayName).run w
      (createKeyEffect env tenantId displayName w).1
      (createKeyEffect env tenantId displayName w).2 := by
  refine runsTo_bind (generateJoinKey_runs env w) ?_
  refine runsTo_bind (now_runs env _) ?_
  refine runsTo_bind (loadKeys_runs h) ?_
  exact runsTo_bind (saveKeys_runs _ h) (Proc.RunsTo.ret _ _)

def validateEffect (env : Env) (key : String) (w : World) : Except Raised JoinKeyEntry × World :=
  match (table w).get? key with
  | none => (.error (.language (.keyError ("JOIN key not found: " ++ env.py.repr key))), w)
  | some entry =>
      if entry.status ≠ .open then
        (.error (.language (.valueError ("JOIN key is " ++ env.py.repr entry.status.text ++
          " – each key may only be used once."))), w)
      else if entry.expiresAt.micros < (env.clock w.ticks).micros then
        (.error (.language (.valueError "JOIN key has expired.")),
          { w with
            ticks := w.ticks + 1
            keys := some ((table w).set key { entry with status := .expired }) })
      else
        let entry := { entry with status := .used, usedAt := some (env.clock (w.ticks + 1)) }
        (.ok entry, { w with ticks := w.ticks + 2, keys := some ((table w).set key entry) })

theorem validateAndConsume_runs (env : Env) (key : String) {w : World}
    (h : w.keyLocked = false) :
    Proc.RunsTo (validateAndConsume env key).run w
      (validateEffect env key w).1 (validateEffect env key w).2 := by
  refine runsTo_bind (loadKeys_runs h) ?_
  unfold validateEffect
  cases hkey : (table w).get? key with
  | none => exact Proc.RunsTo.ret _ _
  | some entry =>
    by_cases hopen : entry.status ≠ .open
    · simp only [hopen, if_true, ne_eq, not_false_eq_true]
      exact Proc.RunsTo.ret _ _
    · simp only [hopen, if_false]
      refine runsTo_bind (now_runs env w) ?_
      by_cases hlate : entry.expiresAt.micros < (env.clock w.ticks).micros
      · simp only [hlate, if_true]
        exact runsTo_bind (saveKeys_runs _ h) (Proc.RunsTo.ret _ _)
      · simp only [hlate, if_false]
        refine runsTo_bind (now_runs env _) ?_
        exact runsTo_bind (saveKeys_runs _ h) (Proc.RunsTo.ret _ _)

def usedEntry (entry : JoinKeyEntry) (usedAt : Datetime) : JoinKeyEntry :=
  { entry with status := .used, usedAt := some usedAt }

/-- The three things a call of `validate_and_consume` can do. -/
theorem validateEffect_cases (env : Env) (key : String) (w : World) :
    ((∀ entry, (table w).get? key = some entry → entry.status ≠ .open) ∧
      ∃ error, (∃ text, error = .keyError text ∨ error = .valueError text) ∧
        validateEffect env key w = (.error (.language error), w)) ∨
    (∃ entry, (table w).get? key = some entry ∧ entry.status = .open ∧
      entry.expiresAt.micros < (env.clock w.ticks).micros ∧
      validateEffect env key w = (.error (.language (.valueError "JOIN key has expired.")),
        { w with
          ticks := w.ticks + 1
          keys := some ((table w).set key { entry with status := .expired }) })) ∨
    (∃ entry, (table w).get? key = some entry ∧ entry.status = .open ∧
      (env.clock w.ticks).micros ≤ entry.expiresAt.micros ∧
      validateEffect env key w = (.ok (usedEntry entry (env.clock (w.ticks + 1))),
        { w with
          ticks := w.ticks + 2
          keys := some ((table w).set key (usedEntry entry (env.clock (w.ticks + 1)))) })) := by
  unfold validateEffect
  cases hkey : (table w).get? key with
  | none =>
    refine Or.inl ⟨fun entry h => ?_, _, ⟨_, Or.inl rfl⟩, rfl⟩
    cases h
  | some entry =>
    by_cases hopen : entry.status ≠ .open
    · refine Or.inl ⟨fun entry' h => ?_, _, ⟨_, Or.inr rfl⟩, if_pos hopen⟩
      cases h
      exact hopen
    · have isOpen : entry.status = .open := Decidable.not_not.mp hopen
      by_cases hlate : entry.expiresAt.micros < (env.clock w.ticks).micros
      · exact Or.inr (Or.inl ⟨entry, rfl, isOpen, hlate, (if_neg hopen).trans (if_pos hlate)⟩)
      · exact Or.inr (Or.inr ⟨entry, rfl, isOpen, Nat.le_of_not_lt hlate,
          (if_neg hopen).trans (if_neg hlate)⟩)

end CompleteDeviceManagement.Source.JoinKeyStore
