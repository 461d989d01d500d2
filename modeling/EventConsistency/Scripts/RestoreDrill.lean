import EventConsistency.Lib.Shell
import EventConsistency.Restore
import EventConsistency.Services.Reconciliation

/-!
# The scripts of the restore drill

`scripts/postgres_backup.sh`, `postgres_restore_drill.sh` and `postgres_dr_drill.sh` as commands of a shell, with all the
checks of `scripts/sql/dr_consistency_check.sql`.

* `DrConsistencyCheck.checks` : the rows of the query;
* `World` : the databases, the dump and checksum files, what a command in `$(...)` has printed, the report and the clock;
* `Program`, `effect` : what the scripts start and what it does; one that fails may leave anything in its database;
* `backup`, `restoreDrill`, `drDrill` : the scripts.
-/

namespace EventConsistency

open Lib Lib.Shell Lib.Shell.Command

/-! ## `dr_consistency_check.sql` -/

namespace DrConsistencyCheck

/-- `last_value` of the sequences, 0 where it is null. -/
structure SequencePositions where
  accounts : Nat := 0
  events : Nat := 0
  ledger : Nat := 0
  records : Nat := 0
  histories : Nat := 0
  deriving DecidableEq

/-- A migrated database: its tables and its sequences. -/
structure Database where
  db : Db
  positions : SequencePositions
  deriving DecidableEq

def duplicatedExternalEventCount (db : Db) : Nat :=
  (groupDuplicates (db.events.map TransactionEvent.externalEventId)).length

def duplicatedLedgerEventCount (db : Db) : Nat :=
  (groupDuplicates (db.ledger.map LedgerEntry.transactionEventId)).length

def orphanLedgerCount (db : Db) : Nat :=
  (db.ledger.filter fun le => !db.events.any fun te => te.id == le.transactionEventId).length

def completedEventWithoutLedgerCount (db : Db) : Nat :=
  (db.events.filter fun te => [.completed, .settled].contains te.status &&
    !db.ledger.any fun le => le.transactionEventId == te.id).length

def ledgerAccountMismatchCount (db : Db) : Nat :=
  (db.ledger.flatMap fun le => db.events.filter fun te =>
    te.id == le.transactionEventId && le.accountId != te.accountId).length

def duplicatedIdempotencyKeyCount (db : Db) : Nat :=
  (groupDuplicates (db.records.map IdempotencyRecord.idempotencyKey)).length

/-- `COALESCE(MAX(id), 0)`. -/
def maxId (ids : List Nat) : Nat := ids.foldr max 0

/-- `max_id` and `sequence_last_value` of `sequence_positions`. -/
def sequencePositions (d : Database) : List (Nat × Nat) := [
  (maxId (d.db.accounts.map Account.id), d.positions.accounts),
  (maxId (d.db.events.map TransactionEvent.id), d.positions.events),
  (maxId (d.db.ledger.map LedgerEntry.id), d.positions.ledger),
  (maxId (d.db.records.map IdempotencyRecord.id), d.positions.records),
  (maxId (d.db.histories.map EventStateHistory.id), d.positions.histories)]

def sequencePositionLagCount (d : Database) : Nat := (sequencePositions d).countP fun x => x.2 < x.1

/-- The rows, by `check_name`. -/
def checks (d : Database) : List (String × Nat) := [
  ("account_balance_mismatch_count", accountBalanceMismatchCount d.db),
  ("completed_event_without_ledger_count", completedEventWithoutLedgerCount d.db),
  ("duplicated_external_event_count", duplicatedExternalEventCount d.db),
  ("duplicated_idempotency_key_count", duplicatedIdempotencyKeyCount d.db),
  ("duplicated_ledger_event_count", duplicatedLedgerEventCount d.db),
  ("ledger_account_mismatch_count", ledgerAccountMismatchCount d.db),
  ("orphan_ledger_count", orphanLedgerCount d.db),
  ("sequence_position_lag_count", sequencePositionLagCount d)]

end DrConsistencyCheck

namespace RestoreDrill

open DrConsistencyCheck

/-! ## What the scripts meet -/

/-- The variables of the scripts. `drDrillStartEpoch` is what `postgres_dr_drill.sh` exports. -/
structure Options where
  backupDir : String := "backups/postgres"
  sourceService : String := "postgres"
  sourceDb : String := "financial_events"
  sourceUser : String := "postgres"
  restoreService : String := "postgres-restore"
  restoreDb : String := "financial_events_restore"
  restoreUser : String := "appuser"
  requireChecksum : Bool := false
  backupCreatedInThisRun : Bool := false
  rtoTargetSeconds : String := "600"
  drDrillStartEpoch : Option Nat := none

/-- The statements that are given to `psql`. -/
inductive Statement where
  | terminateBackends (db : String)
  | dropDatabase (db : String)
  | createDatabase (db owner : String)
  | countRequiredTables
  | consistencyCheck
  deriving DecidableEq

/-- What the scripts start. -/
inductive Program where
  | tool (name : String)
  | composeUp (service : String)
  | pgIsready (service user db : String)
  | pgDump (service user db file : String)
  /-- `sha256sum` or `shasum -a 256`, into the checksum file. -/
  | sha256 (tool file : String)
  /-- The same with `-c`. -/
  | sha256Check (tool file : String)
  /-- `du -h`, and the `awk` behind it. -/
  | du (file : String)
  | psql (service user db : String) (statement : Statement)
  | pgRestore (service user db file : String)
  deriving DecidableEq

/-- A file of `pg_dump`, of a database with the tables of the service or without. -/
inductive DumpFile where
  | empty
  | dump (content : Option Database)
  deriving DecidableEq

/-- The report, without its texts. -/
structure Report where
  backupResult : String
  checksumFileResult : String
  checksumStatus : String
  checkOutput : List (String × String)
  accountBalanceResult : String
  restoreDurationSeconds : Nat
  drDrillDurationSeconds : Nat
  drStatus : String
  rtoResult : String
  deriving DecidableEq

structure World where
  /-- The databases of each service; a new one has no tables. -/
  databases : String × String → Option (Option Database)
  dumps : String → Option DumpFile
  /-- A checksum file stands for the dump that it was made of. -/
  checksums : String → Option DumpFile
  /-- What was printed, each line split at its first `=`; lines that nothing reads are left out. -/
  output : List (String × String)
  report : Option Report
  clock : Nat
  /-- How many programs have run. -/
  steps : Nat

/-- What is not up to the scripts. -/
structure Surroundings where
  answer : List (Program × Nat) → Program → Nat
  /-- The seconds that each program takes. -/
  lasts : Nat → Nat
  /-- What a program that fails leaves in its database. -/
  left : Nat → Option (Option Database)
  /-- `date +%Y%m%dT%H%M%S`. -/
  stamp : Nat → String

namespace World

def setDatabase (w : World) (key : String × String) (content : Option (Option Database)) : World :=
  { w with databases := fun k => if k = key then content else w.databases k }

def setDump (w : World) (file : String) (content : DumpFile) : World :=
  { w with dumps := fun f => if f = file then some content else w.dumps f }

def setChecksum (w : World) (file : String) (content : DumpFile) : World :=
  { w with checksums := fun f => if f = file then some content else w.checksums f }

/-- `rm -f` of a dump and its checksum. -/
def remove (w : World) (file : String) : World :=
  { w with
    dumps := fun f => if f = file then none else w.dumps f
    checksums := fun f => if f = file then none else w.checksums f }

def print (w : World) (lines : List (String × String)) : World := { w with output := w.output ++ lines }

/-- The world when a program has run. -/
def tick (x : Surroundings) (w : World) : World := { w with clock := w.clock + x.lasts w.steps, steps := w.steps + 1 }

end World

/-- The rows as they are printed. -/
def rows (d : Database) : List (String × String) := (checks d).map fun c => (c.1, toString c.2)

/-- The characters that fit into `n` bytes. -/
def clip : Nat → List Char → List Char
  | _, [] => []
  | n, c :: cs => if c.utf8Size ≤ n then c :: clip (n - c.utf8Size) cs else []

/-- PostgreSQL takes 63 bytes of a name. -/
def clipped (name : String) : String := String.ofList (clip 63 name.toList)

/-- Unquoted, it takes them in lower case. -/
def folded (name : String) : String := String.ofList ((clip 63 name.toList).map Char.toLower)

/-- What a statement does and prints. -/
def Statement.execute (service db : String) (w : World) : Statement → World
  | terminateBackends _ => w
  | dropDatabase name => w.setDatabase (service, folded name) none
  | createDatabase name _ => w.setDatabase (service, folded name) (some none)
  | countRequiredTables => match w.databases (service, clipped db) with
      | some (some _) => w.print [("5", "")]
      | _ => w.print [("0", "")]
  | consistencyCheck => match w.databases (service, clipped db) with
      | some (some d) => w.print (rows d)
      | _ => w

/-- What a statement that fails leaves. -/
def Statement.fail (service : String) (left : Option (Option Database)) (w : World) : Statement → World
  | dropDatabase name | createDatabase name _ => w.setDatabase (service, folded name) left
  | _ => w

/-- What a program does when it ends with `code`. -/
def effect (x : Surroundings) : Program → Nat → World → World
  | .pgDump service _ db file, 0, w => (w.tick x).setDump file (.dump (w.databases (service, clipped db)).join)
  | .pgDump _ _ _ file, _, w => (w.tick x).setDump file .empty
  | .sha256 _ file, 0, w => (w.tick x).setChecksum file ((w.dumps file).getD .empty)
  | .sha256 _ file, _, w => (w.tick x).setChecksum file .empty
  | .psql service _ db statement, 0, w => statement.execute service db (w.tick x)
  | .psql service _ _ statement, _, w => statement.fail service (x.left w.steps) (w.tick x)
  | .pgRestore service _ db file, 0, w => match w.dumps file with
      | some (.dump content) => (w.tick x).setDatabase (service, clipped db) (some content)
      | _ => w.tick x
  | .pgRestore service _ db _, _, w => (w.tick x).setDatabase (service, clipped db) (x.left w.steps)
  | _, _, w => w.tick x

def outside (x : Surroundings) : Outside Program World := ⟨x.answer, effect x⟩

abbrev Script : Type := Command Program World

/-! ## The scripts -/

/-- `var="$(...)"`: what is printed is read from the world behind it. -/
def capturing (p : Script) : Script := block [assign fun w => { w with output := [] }, capture p]

/-- The loops of `wait_for_source_db` and `wait_for_restore_db`. -/
def attempts (ready : Program) : Nat → Script
  | 0 => ret 1
  | n + 1 => block [
      cond (run ready) (ret 0) skip,
      assign fun w => { w with clock := w.clock + 2 },
      attempts ready n]

def waitForSourceDb (o : Options) : Script :=
  call (attempts (.pgIsready o.sourceService o.sourceUser o.sourceDb) 30)

def waitForRestoreDb (o : Options) : Script :=
  call (attempts (.pgIsready o.restoreService o.restoreUser o.restoreDb) 30)

def checksumFile (file : String) : Script :=
  call (cond (run (.tool "sha256sum")) (run (.sha256 "sha256sum" file)) (run (.sha256 "shasum" file)))

/-- `[ -s file ]`. -/
def World.filled (w : World) (file : String) : Bool :=
  match w.dumps file with
  | some (.dump _) => true
  | _ => false

/-- The file of a backup that begins now. -/
def backupFile (x : Surroundings) (o : Options) (w : World) : String :=
  o.backupDir ++ "/financial_events_" ++ x.stamp w.clock ++ ".dump"

/-- `postgres_backup.sh`. -/
def backup (x : Surroundings) (o : Options) : Script :=
  letIn (backupFile x o) fun file => block [
    run (.composeUp o.sourceService),
    waitForSourceDb o,
    orElse (run (.pgDump o.sourceService o.sourceUser o.sourceDb file)) (block [assign (World.remove · file), exit 1]),
    orElse (test (World.filled · file)) (block [assign (World.remove · file), exit 1]),
    checksumFile file,
    run (.du file),
    assign (World.print · [("backup_file", file), ("checksum_file", file ++ ".sha256")])]

/-- `validate_identifier`. -/
def validIdentifier (value : String) : Bool :=
  value != "" && value.toList.all fun c => c.isAlphanum || c == '_'

def validateIdentifier (value : String) : Script := orElse (test fun _ => validIdentifier value) (exit 1)

def verifyChecksum (o : Options) (file : String) : Script := call (block [
  orElse (test fun w => (w.checksums file).isSome) (block [
    if o.requireChecksum then exit 1 else skip,
    assign (World.print · [("checksum_status", "SKIPPED")]),
    ret 0]),
  cond (run (.tool "sha256sum")) (run (.sha256Check "sha256sum" file)) (run (.sha256Check "shasum" file)),
  assign (World.print · [("checksum_status", "PASS")])])

def requiredChecks : List String := [
  "duplicated_external_event_count",
  "duplicated_ledger_event_count",
  "orphan_ledger_count",
  "completed_event_without_ledger_count",
  "ledger_account_mismatch_count",
  "duplicated_idempotency_key_count",
  "account_balance_mismatch_count",
  "sequence_position_lag_count"]

/-- The loop over the lines of `check_output`. -/
def countsPass (checkOutput : List (String × String)) : Bool := checkOutput.all fun c => c.1 == "" || c.2 == "0"

def result (b : Bool) : String := if b then "PASS" else "FAIL"

/-- The digits at the start of a text that has only blanks behind them. -/
def digits (text : List Char) : Option Nat :=
  let number := text.takeWhile Char.isDigit
  if number.isEmpty || (text.dropWhile Char.isDigit).any (fun c => c != ' ' && c != '\t') then none
  else some (Nat.ofDigitChars 10 number 0)

/-- What `[` takes for an integer: a sign, and 64 bits. -/
def integer (text : String) : Option Int :=
  let number := match text.toList.dropWhile (fun c => c == ' ' || decide (9 ≤ c.toNat) && decide (c.toNat ≤ 13)) with
    | '-' :: rest => (digits rest).map fun n => -(n : Int)
    | '+' :: rest => (digits rest).map fun n => (n : Int)
    | rest => (digits rest).map fun n => (n : Int)
  number.filter fun n => decide (-(2 ^ 63) ≤ n) && decide (n < 2 ^ 63)

/-- `[ "$restore_duration_seconds" -gt "$RTO_TARGET_SECONDS" ]`; with another text it fails, and so does the `if`. -/
def exceeds (restoreDurationSeconds : Nat) (rtoTargetSeconds : String) : Bool :=
  match integer rtoTargetSeconds with
  | some n => decide (n < restoreDurationSeconds)
  | none => false

def Options.report (o : Options) (w : World) (file checksumStatus : String) (checkOutput : List (String × String))
    (restoreStartEpoch restoreEndEpoch : Nat) : Report where
  backupResult := if o.backupCreatedInThisRun then "PASS" else "EXISTING_DUMP"
  checksumFileResult := if (w.checksums file).isSome then "PASS" else "N/A"
  checksumStatus := checksumStatus
  checkOutput := checkOutput
  accountBalanceResult := result ((checkOutput.lookup "account_balance_mismatch_count").getD "1" == "0")
  restoreDurationSeconds := restoreEndEpoch - restoreStartEpoch
  drDrillDurationSeconds := restoreEndEpoch - o.drDrillStartEpoch.getD restoreStartEpoch
  drStatus := result (countsPass checkOutput && !exceeds (restoreEndEpoch - restoreStartEpoch) o.rtoTargetSeconds)
  rtoResult := result (!exceeds (restoreEndEpoch - restoreStartEpoch) o.rtoTargetSeconds)

/-- `postgres_restore_drill.sh` behind the queries. -/
def evaluate (o : Options) (file checksumStatus : String) (checkOutput : List (String × String))
    (restoreStartEpoch restoreEndEpoch : Nat) : Script := block [
  orElse (test fun _ => requiredChecks.all fun name => checkOutput.any fun c => c.1 == name) (exit 1),
  run (.du file),
  assign fun w => { w with
    report := some (o.report w file checksumStatus checkOutput restoreStartEpoch restoreEndEpoch) },
  orElse (test fun w => w.report.any fun r => r.drStatus == "PASS") (exit 1),
  skip]

/-- The same from its first program on. -/
def restore (o : Options) (file checksumStatus : String) : Script :=
  letIn World.clock fun restoreStartEpoch => block [
    run (.composeUp o.restoreService),
    waitForRestoreDb o,
    run (.psql o.restoreService o.restoreUser "postgres" (.terminateBackends o.restoreDb)),
    run (.psql o.restoreService o.restoreUser "postgres" (.dropDatabase o.restoreDb)),
    run (.psql o.restoreService o.restoreUser "postgres" (.createDatabase o.restoreDb o.restoreUser)),
    orElse (run (.pgRestore o.restoreService o.restoreUser o.restoreDb file)) (exit 1),
    capturing (run (.psql o.restoreService o.restoreUser o.restoreDb .countRequiredTables)),
    orElse (test fun w => w.output == [("5", "")]) (exit 1),
    capturing (run (.psql o.restoreService o.restoreUser o.restoreDb .consistencyCheck)),
    letIn World.output fun checkOutput => letIn World.clock fun restoreEndEpoch =>
      evaluate o file checksumStatus checkOutput restoreStartEpoch restoreEndEpoch]

/-- `postgres_restore_drill.sh`, with its argument. -/
def restoreDrill (o : Options) (file : String) : Script := block [
  validateIdentifier o.restoreDb,
  validateIdentifier o.restoreUser,
  orElse (test fun w => (w.dumps file).isSome) (exit 1),
  orElse (test (World.filled · file)) (exit 1),
  capturing (verifyChecksum o file),
  letIn (fun w => (w.output.lookup "checksum_status").getD "") fun checksumStatus => block [
    orElse (test fun _ => checksumStatus == "PASS" || checksumStatus == "SKIPPED") (exit 1),
    restore o file checksumStatus]]

/-- `awk -F=` with `$1==key` and `print $2`. -/
def second (w : World) (key : String) : String :=
  String.ofList (((w.output.lookup key).getD "").toList.takeWhile (· != '='))

/-- `postgres_dr_drill.sh`. -/
def drDrill (x : Surroundings) (o : Options) : Script :=
  letIn World.clock fun drDrillStartEpoch => block [
    capturing (child (backup x o)),
    letIn (second · "backup_file") fun file => block [
      orElse (test fun _ => file != "") (exit 1),
      child (restoreDrill { o with
        backupCreatedInThisRun := true, requireChecksum := true, drDrillStartEpoch := some drDrillStartEpoch } file)]]

end RestoreDrill

end EventConsistency
