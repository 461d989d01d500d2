import EventConsistency.Models

/-!
# Quarantine records

`create_quarantine` and `release_quarantine` of `app/services/quarantine_service.py`. Each of them reads once and writes
at most one row, so that a transaction of the service is what it has read together with the row that its commit writes.

* `QuarantineTransaction.commit` : the table after such a commit; the read may be older;
* `QuarantineRecord.bars` : the record keeps an account from being written.
-/

namespace EventConsistency

namespace QuarantineService

/-- `create_quarantine`: the record that it returns and the row that it inserts. `active` is the answer of
`get_active`. -/
def createQuarantine (active : Option QuarantineRecord) (targetType : QuarantineTargetType) (targetId : String)
    (id : Nat) (uuid : String) (now : Time) : QuarantineRecord × Option QuarantineRecord :=
  match active with
  | some q => (q, none)
  | none =>
      let quarantine : QuarantineRecord :=
        { id := id, quarantineId := "qr-" ++ String.ofList (uuid.toList.take 16), targetType := targetType.value,
          targetId := targetId, active := true, activatedAt := now }
      (quarantine, some quarantine)

/-- `release_quarantine`: the record that it returns and the row that it updates, or `QuarantineRecordNotFound`.
`found` is the answer of `get_by_quarantine_id`. -/
def releaseQuarantine (found : Option QuarantineRecord) : Option (QuarantineRecord × Option QuarantineRecord) :=
  found.map fun quarantine =>
    if quarantine.active then
      let released := { quarantine with active := false }
      (released, some released)
    else (quarantine, none)

end QuarantineService

open QuarantineService

/-- A transaction of the service at its commit, with what it has read. -/
inductive QuarantineTransaction where
  | create (active : Option QuarantineRecord) (targetType : QuarantineTargetType) (targetId : String) (id : Nat)
      (uuid : String) (now : Time)
  | release (found : Option QuarantineRecord)

namespace QuarantineTransaction

/-- The row that the transaction inserts. -/
def inserted : QuarantineTransaction → Option QuarantineRecord
  | create active targetType targetId id uuid now => (createQuarantine active targetType targetId id uuid now).2
  | release _ => none

/-- The row that the transaction updates. -/
def released : QuarantineTransaction → Option QuarantineRecord
  | create .. => none
  | release found => (releaseQuarantine found).bind Prod.snd

/-- The table after the commit. An UPDATE writes the column `active` of the row with its id. -/
def commit (x : QuarantineTransaction) (quarantines : List QuarantineRecord) : List QuarantineRecord :=
  match x.released with
  | none => quarantines ++ x.inserted.toList
  | some row => quarantines.map fun q => if q.id = row.id then { q with active := row.active } else q

/-- The transaction releases the record. -/
def releases (x : QuarantineTransaction) (q : QuarantineRecord) : Bool := x.released.any fun row => row.id == q.id

theorem released_active {x : QuarantineTransaction} {row : QuarantineRecord} (h : x.released = some row) :
    row.active = false := by
  cases x with
  | create _ _ _ _ _ _ => cases h
  | release found =>
      cases found with
      | none => cases h
      | some q =>
          simp only [released, releaseQuarantine, Option.map_some, Option.bind_some] at h
          split at h
          · cases h
            rfl
          · cases h

/-- A record stays as it is until its release. -/
theorem mem_commit {x : QuarantineTransaction} {quarantines : List QuarantineRecord} {q : QuarantineRecord}
    (h : q ∈ quarantines) (hx : x.releases q = false) : q ∈ x.commit quarantines := by
  unfold commit
  split
  · exact List.mem_append_left _ h
  · rename_i row hrow
    have hne : ¬ q.id = row.id := by
      have : (row.id == q.id) = false := by simpa [releases, hrow] using hx
      exact fun heq => by simp [heq] at this
    exact List.mem_map.mpr ⟨q, h, if_neg hne⟩

/-- An active record was there before, or it is the one that the transaction inserts. -/
theorem active_commit {x : QuarantineTransaction} {quarantines : List QuarantineRecord} {q : QuarantineRecord}
    (h : q ∈ x.commit quarantines) (ha : q.active = true) : q ∈ quarantines ∨ x.inserted = some q := by
  unfold commit at h
  split at h
  · rcases List.mem_append.mp h with h | h
    · exact Or.inl h
    · exact Or.inr (Option.mem_toList.mp h)
  · rename_i row hrow
    obtain ⟨q₀, h₀, heq⟩ := List.mem_map.mp h
    split at heq
    · subst heq
      have hrel : row.active = true := ha
      rw [released_active hrow] at hrel
      cases hrel
    · subst heq
      exact Or.inl h₀

end QuarantineTransaction

/-- The record keeps the account from being written. -/
def QuarantineRecord.bars (q : QuarantineRecord) (accountId : Nat) : Bool :=
  q.active && q.targetType == QuarantineTargetType.account.value && q.targetId == toString accountId

/-- `get_active` finds nothing when there is nothing to find. -/
theorem Db.activeQuarantine_eq_none {db : Db} {accountId : Nat} :
    db.activeQuarantine QuarantineTargetType.account.value (toString accountId) = none ↔
      ∀ q ∈ db.quarantines, q.bars accountId = false := by
  unfold Db.activeQuarantine
  rw [Lib.foldl_eq_none, List.filter_eq_nil_iff]
  · simp [QuarantineRecord.bars]
  · intro best q
    cases best with
    | none => simp
    | some b => dsimp only; split <;> simp

end EventConsistency
