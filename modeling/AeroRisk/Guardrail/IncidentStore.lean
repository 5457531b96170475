import AeroRisk.Event
import AeroRisk.Library.SharedConnection
import Mathlib.Data.List.Nodup
import Mathlib.Data.List.Sort

/-!
# The store of incidents

`PostgresStorageClient` keeps the incidents and the audit log.  Each of its
calls runs in a thread of an executor, executes one statement on the one
connection of the client, and commits it if it writes; nothing rolls back.

How the database checks and converts the parameters of a statement to the types
of the columns is a parameter.  `CURRENT_TIMESTAMP` is the start of the
transaction, which a call that only reads begins and does not end.
-/

namespace AeroRisk.Guardrail.Storage

open AeroRisk.Library
open AeroRisk.Library.SharedConnection

/-- The columns of a report which a later save replaces. -/
structure ReportDetails where
  decisionType : String
  riskScore : Float
  confidence : Float
  reason : String
  requiresHumanReview : Bool
  sanctionsTriggered : Bool
  pipelineError : Bool
  /-- `json.dumps(report.metadata)`, if there is metadata. -/
  metadata : Option String

/-- What `save_incident_report` reads of a report. -/
structure SavedReport where
  incidentID : String
  eventID : String
  accountID : String
  details : ReportDetails

/-- The columns which `update_incident_review` sets. -/
structure Review where
  reviewedAt : Int
  reviewerID : String
  resolutionNotes : String

/-- A row of `incident_reports`. -/
structure IncidentRow where
  id : Nat
  incidentID : String
  eventID : String
  accountID : String
  details : ReportDetails
  createdAt : Int
  review : Option Review

/-- The parameters of `log_audit_event`. -/
structure LoggedEvent where
  logID : String
  eventID : Option String
  accountID : Option String
  actionType : String
  actor : String
  details : String
  ipAddress : Option String

/-- A row of `audit_logs`. -/
structure LogRow where
  id : Nat
  event : LoggedEvent
  createdAt : Int

/-- The tables. -/
structure Tables where
  incidentReports : List IncidentRow
  auditLogs : List LogRow

/-- `CREATE TABLE IF NOT EXISTS` in an empty database. -/
def emptyTables : Tables where
  incidentReports := []
  auditLogs := []

/-- The calls of the client. -/
inductive StoreCall where
  | saveIncidentReport (report : SavedReport)
  | getIncidentHistory (accountID : String) (limit : Int)
  | logAuditEvent (event : LoggedEvent)
  | getPendingReviews (limit : Int)
  | updateIncidentReview (incidentID reviewerID resolutionNotes : String)

/-- What the calls return. -/
inductive StoreResult where
  | recordID (id : Nat)
  | rows (rows : List IncidentRow)
  | nothing

/-- The types of the columns, and how they keep what they take. -/
structure ColumnTypes where
  /-- The error of a parameter which a column does not take. -/
  check : StoreCall → Except String Unit
  report : SavedReport → SavedReport
  event : LoggedEvent → LoggedEvent
  reviewerID : String → String

/-- `INSERT INTO incident_reports … ON CONFLICT (incident_id) DO UPDATE`. -/
def upsertReport (report : SavedReport) (now : Int) (number : Nat)
    (rows : List IncidentRow) : List IncidentRow :=
  if ∃ row ∈ rows, row.incidentID = report.incidentID then
    rows.map fun row =>
      if row.incidentID = report.incidentID then
        { row with details := report.details }
      else
        row
  else
    rows ++
      [{ id := number
         incidentID := report.incidentID
         eventID := report.eventID
         accountID := report.accountID
         details := report.details
         createdAt := now
         review := none }]

/-- `RETURNING id`. -/
def recordID (incidentID : String) (rows : List IncidentRow) : StoreResult :=
  match rows.find? fun row => row.incidentID = incidentID with
  | some row => .recordID row.id
  | none => .nothing

/-- `UPDATE incident_reports SET reviewed_at = CURRENT_TIMESTAMP, …`. -/
def setReview (incidentID : String) (review : Review)
    (rows : List IncidentRow) : List IncidentRow :=
  rows.map fun row =>
    if row.incidentID = incidentID then { row with review := some review }
    else row

/-- `INSERT INTO audit_logs … ON CONFLICT (log_id) DO NOTHING`. -/
def insertLog (event : LoggedEvent) (now : Int) (number : Nat)
    (rows : List LogRow) : List LogRow :=
  if ∃ row ∈ rows, row.event.logID = event.logID then rows
  else rows ++ [{ id := number, event, createdAt := now }]

/-- `ORDER BY … LIMIT limit`, where no limit is negative. -/
def ordered (order : IncidentRow → IncidentRow → Bool) (limit : Int)
    (rows : List IncidentRow) : Except String StoreResult :=
  if limit < 0 then
    .error "LIMIT must not be negative"
  else
    .ok (.rows ((rows.mergeSort order).take limit.toNat))

/-- The incidents which wait for a review. -/
def IncidentRow.Pending (row : IncidentRow) : Prop :=
  row.details.requiresHumanReview = true ∧ row.review.isNone = true

instance IncidentRow.decidablePending (row : IncidentRow) :
    Decidable row.Pending :=
  inferInstanceAs (Decidable (_ ∧ _))

/-- What the statement of a call does, when the columns take its parameters. -/
def perform (columns : ColumnTypes) (call : StoreCall) (now : Int)
    (number : Nat) (tables : Tables) : Except String (Tables × StoreResult) :=
  match call with
  | .saveIncidentReport report =>
      let kept := columns.report report
      let rows := upsertReport kept now number tables.incidentReports
      .ok
        ({ tables with incidentReports := rows }, recordID kept.incidentID rows)
  | .getIncidentHistory accountID limit => do
      let found ←
        ordered (fun first second => decide (second.createdAt ≤ first.createdAt))
          limit
          (tables.incidentReports.filter fun row => row.accountID = accountID)
      return (tables, found)
  | .logAuditEvent event =>
      .ok
        ({ tables with
          auditLogs :=
            insertLog (columns.event event) now number tables.auditLogs },
        .nothing)
  | .getPendingReviews limit => do
      let found ←
        ordered (fun first second => decide (first.createdAt ≤ second.createdAt))
          limit
          (tables.incidentReports.filter fun row => decide row.Pending)
      return (tables, found)
  | .updateIncidentReview incidentID reviewerID resolutionNotes =>
      .ok
        ({ tables with
          incidentReports :=
            setReview incidentID
              { reviewedAt := now
                reviewerID := columns.reviewerID reviewerID
                resolutionNotes }
              tables.incidentReports },
        .nothing)

/-- The statement of a call. -/
def statement (columns : ColumnTypes) (call : StoreCall) (now : Int)
    (number : Nat) (tables : Tables) :
    Except String (Tables × StoreResult) := do
  columns.check call
  perform columns call now number tables

/-- `PostgresStorageClient`. -/
def storage (columns : ColumnTypes) :
    Database Tables StoreCall StoreResult String where
  writes := fun
    | .saveIncidentReport _ => true
    | .getIncidentHistory _ _ => false
    | .logAuditEvent _ => true
    | .getPendingReviews _ => false
    | .updateIncidentReview _ _ _ => true
  execute := statement columns
  inFailedTransaction := "current transaction is aborted"

/-! ## The rows of the incidents -/

/-- What a row keeps. -/
structure IncidentRow.Follows (later row : IncidentRow) : Prop where
  id : later.id = row.id
  incidentID : later.incidentID = row.incidentID
  eventID : later.eventID = row.eventID
  accountID : later.accountID = row.accountID
  createdAt : later.createdAt = row.createdAt
  isReviewed : row.review.isSome → later.review.isSome

theorem IncidentRow.Follows.refl (row : IncidentRow) : row.Follows row :=
  ⟨rfl, rfl, rfl, rfl, rfl, fun isReviewed => isReviewed⟩

theorem IncidentRow.Follows.trans {last later row : IncidentRow}
    (second : last.Follows later) (first : later.Follows row) :
    last.Follows row where
  id := second.id.trans first.id
  incidentID := second.incidentID.trans first.incidentID
  eventID := second.eventID.trans first.eventID
  accountID := second.accountID.trans first.accountID
  createdAt := second.createdAt.trans first.createdAt
  isReviewed := second.isReviewed ∘ first.isReviewed

/-- The incidents of the rows. -/
def incidentIDs (tables : Tables) : List String :=
  tables.incidentReports.map IncidentRow.incidentID

/-- Every row is still there, and no incident has two. -/
structure Tables.Follows (later tables : Tables) : Prop where
  rows :
    ∀ row ∈ tables.incidentReports, ∃ follower ∈ later.incidentReports,
      follower.Follows row
  nodup : (incidentIDs tables).Nodup → (incidentIDs later).Nodup

theorem Tables.Follows.refl (tables : Tables) : tables.Follows tables :=
  ⟨fun row member => ⟨row, member, .refl row⟩, fun nodup => nodup⟩

theorem Tables.Follows.trans {last later tables : Tables}
    (second : last.Follows later) (first : later.Follows tables) :
    last.Follows tables where
  rows := by
    intro row member
    obtain ⟨middle, isMiddle, follows⟩ := first.rows row member
    obtain ⟨follower, isFollower, followsMiddle⟩ :=
      second.rows middle isMiddle
    exact ⟨follower, isFollower, followsMiddle.trans follows⟩
  nodup := second.nodup ∘ first.nodup

/-- Rows which are changed in place follow those before. -/
theorem follows_map {tables : Tables} {change : IncidentRow → IncidentRow}
    (follows : ∀ row, (change row).Follows row) :
    Tables.Follows
      { tables with incidentReports := tables.incidentReports.map change }
      tables where
  rows := fun row member =>
    ⟨change row, List.mem_map_of_mem member, follows row⟩
  nodup := by
    intro nodup
    have same :
        (tables.incidentReports.map change).map IncidentRow.incidentID =
          incidentIDs tables := by
      rw [List.map_map]
      exact List.map_congr_left fun row _ => (follows row).incidentID
    rw [incidentIDs, same]
    exact nodup

theorem follows_upsertReport (tables : Tables) (report : SavedReport)
    (now : Int) (number : Nat) :
    Tables.Follows
      { tables with
        incidentReports :=
          upsertReport report now number tables.incidentReports }
      tables := by
  rw [upsertReport]
  split
  · refine follows_map fun row => ?_
    split
    · exact ⟨rfl, rfl, rfl, rfl, rfl, fun isReviewed => isReviewed⟩
    · exact .refl row
  · next isNew =>
      refine
        ⟨fun row member =>
          ⟨row, List.mem_append_left _ member, .refl row⟩, ?_⟩
      intro nodup
      rw [incidentIDs, List.map_append]
      refine nodup.append (List.nodup_singleton _) ?_
      intro incidentID isOld isAdded
      obtain ⟨row, member, rfl⟩ := List.mem_map.mp isOld
      exact isNew ⟨row, member, List.mem_singleton.mp isAdded⟩

theorem follows_setReview (tables : Tables) (incidentID : String)
    (review : Review) :
    Tables.Follows
      { tables with
        incidentReports := setReview incidentID review tables.incidentReports }
      tables := by
  refine follows_map fun row => ?_
  split
  · exact ⟨rfl, rfl, rfl, rfl, rfl, fun _ => rfl⟩
  · exact .refl row

variable {columns : ColumnTypes}

theorem perform_of_statement {call : StoreCall} {now : Int} {number : Nat}
    {tables later : Tables} {result : StoreResult}
    (executes :
      statement columns call now number tables = .ok (later, result)) :
    perform columns call now number tables = .ok (later, result) := by
  rw [statement] at executes
  cases checked : columns.check call with
  | error error =>
      rw [checked] at executes
      cases executes
  | ok passed =>
      rw [checked] at executes
      exact executes

/-- A listing leaves the tables as they are. -/
theorem tables_of_listing {listing : Except String StoreResult}
    {tables later : Tables} {result : StoreResult}
    (executes :
      (do
        let found ← listing
        return (tables, found)) = Except.ok (later, result)) :
    later = tables ∧ listing = .ok result := by
  cases isListing : listing with
  | error error =>
      rw [isListing] at executes
      cases executes
  | ok found =>
      rw [isListing] at executes
      cases executes
      exact ⟨rfl, rfl⟩

theorem follows_statement {call : StoreCall} {now : Int} {number : Nat}
    {tables later : Tables} {result : StoreResult}
    (executes :
      statement columns call now number tables = .ok (later, result)) :
    later.Follows tables := by
  have performs := perform_of_statement executes
  cases call with
  | saveIncidentReport report =>
      cases performs
      exact follows_upsertReport tables _ now number
  | getIncidentHistory accountID limit =>
      rw [(tables_of_listing performs).1]
      exact .refl tables
  | logAuditEvent event =>
      cases performs
      exact ⟨fun row member => ⟨row, member, .refl row⟩, fun nodup => nodup⟩
  | getPendingReviews limit =>
      rw [(tables_of_listing performs).1]
      exact .refl tables
  | updateIncidentReview incidentID reviewerID resolutionNotes =>
      cases performs
      exact follows_setReview tables incidentID _

/-! ## Listings -/

/-- The rows which `ORDER BY … LIMIT limit` selects of some rows. -/
structure Selects (order : IncidentRow → IncidentRow → Prop) (limit : Int)
    (rows listed : List IncidentRow) : Prop where
  sorted : listed.Pairwise order
  nodup : listed.Nodup
  member : ∀ row ∈ listed, row ∈ rows
  length : listed.length = min limit.toNat rows.length
  first :
    ∀ row ∈ rows, row ∉ listed → ∀ other ∈ listed, order other row

theorem selects_ordered {order : IncidentRow → IncidentRow → Bool}
    (trans :
      ∀ first second third, order first second = true →
        order second third = true → order first third = true)
    (total : ∀ first second, (order first second || order second first) = true)
    {limit : Int} {rows listed : List IncidentRow} (nodup : rows.Nodup)
    (lists : ordered order limit rows = .ok (.rows listed)) :
    Selects (fun first second => order first second = true) limit rows
      listed := by
  rw [ordered] at lists
  split at lists
  · cases lists
  · cases lists
    have sorted := List.pairwise_mergeSort trans total rows
    have parts := List.take_append_drop limit.toNat (rows.mergeSort order)
    refine ⟨sorted.sublist (List.take_sublist _ _), ?_, ?_, ?_, ?_⟩
    · have distinct : (rows.mergeSort order).Nodup :=
        (List.mergeSort_perm rows order).nodup_iff.mpr nodup
      exact distinct.sublist (List.take_sublist _ _)
    · intro row member
      exact List.mem_mergeSort.mp (List.mem_of_mem_take member)
    · rw [List.length_take, List.length_mergeSort]
    · intro row member isUnlisted other isListed
      have isRest : row ∈ (rows.mergeSort order).drop limit.toNat := by
        have isSorted : row ∈ rows.mergeSort order :=
          List.mem_mergeSort.mpr member
        rw [← parts] at isSorted
        exact (List.mem_append.mp isSorted).resolve_left isUnlisted
      rw [← parts] at sorted
      exact (List.pairwise_append.mp sorted).2.2 other isListed row isRest

/-! ## Runs of the client -/

/-- The client with its threads. -/
abbrev Client (Thread : Type*) : Type _ :=
  Connection Thread Tables StoreCall StoreResult String

/-- The client of an empty database after some steps of its threads. -/
def runFromEmpty {Thread : Type*} [DecidableEq Thread] (columns : ColumnTypes)
    (schedule : List (Label Thread StoreCall)) : Client Thread :=
  (connect emptyTables : Client Thread).run (storage columns) schedule

variable {Thread : Type*} [DecidableEq Thread]

theorem sound_runFromEmpty (schedule : List (Label Thread StoreCall)) :
    (runFromEmpty columns schedule).Sound (storage columns) emptyTables :=
  Connection.sound_connect.run schedule

/-- What is committed later follows what is committed now. -/
theorem committed_follows {client : Client Thread}
    (sound : client.Sound (storage columns) emptyTables)
    (later : List (Label Thread StoreCall)) :
    (client.run (storage columns) later).committed.Follows client.committed :=
  sound.committed_follows Tables.Follows.refl Tables.Follows.trans
    follows_statement later

omit [DecidableEq Thread] in
/-- The transaction of a thread follows what is committed. -/
theorem working_follows {client : Client Thread}
    (sound : client.Sound (storage columns) emptyTables) :
    client.working.Follows client.committed :=
  sound.working_follows Tables.Follows.refl Tables.Follows.trans
    follows_statement

omit [DecidableEq Thread] in
theorem nodup_committed {client : Client Thread}
    (sound : client.Sound (storage columns) emptyTables) :
    (incidentIDs client.committed).Nodup := by
  have follows : client.committed.Follows emptyTables := by
    rw [sound.committed]
    exact
      Connection.replay_follows Tables.Follows.refl Tables.Follows.trans
        follows_statement _ _
  exact follows.nodup List.nodup_nil

omit [DecidableEq Thread] in
theorem nodup_working {client : Client Thread}
    (sound : client.Sound (storage columns) emptyTables) :
    (incidentIDs client.working).Nodup :=
  (working_follows sound).nodup (nodup_committed sound)

/-- The row of an incident is there after its report is saved. -/
theorem exists_row_of_save {report : SavedReport} {now : Int} {number : Nat}
    {tables later : Tables} {result : StoreResult}
    (saves :
      statement columns (.saveIncidentReport report) now number tables =
        .ok (later, result)) :
    ∃ row ∈ later.incidentReports,
      row.incidentID = (columns.report report).incidentID := by
  cases perform_of_statement saves
  rw [upsertReport]
  split
  · next isOld =>
      obtain ⟨row, member, same⟩ := isOld
      refine ⟨_, List.mem_map_of_mem member, ?_⟩
      rw [if_pos same]
      exact same
  · exact ⟨_, List.mem_append_right _ (List.mem_singleton_self _), rfl⟩

/--
A save reports success when its thread commits.  Its row is then committed for
good if no statement of any thread failed before somebody committed; if one
did, the statement of the save is lost, and the save reports success as well.
-/
theorem save_incident_report_durable_iff {Thread : Type*} [DecidableEq Thread]
    (columns : ColumnTypes) (schedule : List (Label Thread StoreCall))
    (label : Label Thread StoreCall) (report : SavedReport)
    (isSave : label.call = .saveIncidentReport report)
    (idle : (runFromEmpty columns schedule).committing label.thread = none)
    (executes : ¬ (runFromEmpty columns schedule).Fails (storage columns) label)
    (between : List (Label Thread StoreCall))
    (others : ∀ other ∈ between, other.thread ≠ label.thread)
    (last : Label Thread StoreCall) (same : last.thread = label.thread)
    (later : List (Label Thread StoreCall)) :
    let client := runFromEmpty columns schedule
    let executed := client.next (storage columns) label
    let before := executed.run (storage columns) between
    let after := before.next (storage columns) last
    let final := after.run (storage columns) later
    (∃ result,
        after.returned =
          before.returned ++ [(label.thread, label.call, .ok result)]) ∧
      final.committed =
        Connection.replay (storage columns) emptyTables final.kept ∧
      (client.entry label ∈ final.kept ↔
        ¬ executed.FailsFirst (storage columns) between) ∧
      (¬ executed.FailsFirst (storage columns) between →
        ∃ row ∈ final.committed.incidentReports,
          row.incidentID = (columns.report report).incidentID) := by
  intro client executed before after final
  have sound : client.Sound (storage columns) emptyTables :=
    sound_runFromEmpty schedule
  have isWrite : (storage columns).writes label.call = true := by
    rw [isSave]
    rfl
  obtain ⟨reported, isKept⟩ :=
    sound.durable_iff idle executes isWrite others same later
  have soundFinal : final.Sound (storage columns) emptyTables :=
    (((sound.next label).run between).next last).run later
  refine ⟨reported, soundFinal.committed, isKept, fun keeps => ?_⟩
  obtain ⟨table, saved, result, saves, follows⟩ :=
    soundFinal.committed_follows_of_mem Tables.Follows.refl
      Tables.Follows.trans follows_statement (isKept.mpr keeps)
  change
    statement columns label.call _ _ table = .ok (saved, result) at saves
  rw [isSave] at saves
  obtain ⟨row, member, sameIncident⟩ := exists_row_of_save saves
  obtain ⟨follower, isFollower, followsRow⟩ := follows.rows row member
  exact ⟨follower, isFollower, followsRow.incidentID.trans sameIncident⟩

/-- Columns which take everything as it is. -/
def plainColumns : ColumnTypes where
  check := fun _ => .ok ()
  report := fun report => report
  event := fun event => event
  reviewerID := fun reviewerID => reviewerID

def sampleReport : SavedReport where
  incidentID := "INC-1"
  eventID := "EVT-1"
  accountID := "ACC001"
  details :=
    { decisionType := "soft_flag"
      riskScore := 0.5
      confidence := 0.9
      reason := "velocity"
      requiresHumanReview := true
      sanctionsTriggered := false
      pipelineError := false
      metadata := none }

/-- A listing fails between the statement of a save and its commit. -/
theorem save_incident_report_durable_iff_sample :
    let client : Client Nat := runFromEmpty plainColumns []
    let save : Label Nat StoreCall :=
      ⟨0, .saveIncidentReport sampleReport, 100, 1⟩
    let listing : Label Nat StoreCall := ⟨1, .getPendingReviews (-1), 101, 2⟩
    let executed := client.next (storage plainColumns) save
    let final :=
      (executed.run (storage plainColumns) [listing]).next
        (storage plainColumns) save
    client.entry save ∈ final.kept ↔
      ¬ executed.FailsFirst (storage plainColumns) [listing] :=
  (save_incident_report_durable_iff plainColumns []
    ⟨0, .saveIncidentReport sampleReport, 100, 1⟩ sampleReport rfl rfl
    (by
      rintro ⟨-, isFailed | ⟨error, isError⟩⟩
      · cases isFailed
      · cases isError)
    [⟨1, .getPendingReviews (-1), 101, 2⟩]
    (by
      intro other member
      rw [List.mem_singleton.mp member]
      decide)
    ⟨0, .saveIncidentReport sampleReport, 100, 1⟩ rfl []).2.2.1

/-- What a listing of the pending reviews shows. -/
structure ListsPending (earlier : Tables) (client : Client Thread)
    (limit : Int) (listed : List IncidentRow) : Prop where
  selects :
    Selects (fun first second => first.createdAt ≤ second.createdAt) limit
      (client.working.incidentReports.filter fun row => decide row.Pending)
      listed
  /-- What was reviewed earlier is not listed. -/
  notReviewed :
    ∀ row ∈ listed, ∀ reviewed ∈ earlier.incidentReports,
      reviewed.incidentID = row.incidentID → reviewed.review = none

theorem eq_of_incidentID {tables : Tables}
    (nodup : (incidentIDs tables).Nodup) {row other : IncidentRow}
    (member : row ∈ tables.incidentReports)
    (isOther : other ∈ tables.incidentReports)
    (same : row.incidentID = other.incidentID) : row = other :=
  List.inj_on_of_nodup_map nodup member isOther same

theorem selects_of_getPendingReviews {limit now : Int} {number : Nat}
    {tables later : Tables} {listed : List IncidentRow}
    (nodup : (incidentIDs tables).Nodup)
    (lists :
      statement columns (.getPendingReviews limit) now number tables =
        .ok (later, .rows listed)) :
    Selects (fun first second => first.createdAt ≤ second.createdAt) limit
      (tables.incidentReports.filter fun row => decide row.Pending) listed := by
  have isListing := (tables_of_listing (perform_of_statement lists)).2
  have selects :=
    selects_ordered
      (by
        intro first second third
        simp only [decide_eq_true_eq]
        exact le_trans)
      (by
        intro first second
        simp only [Bool.or_eq_true, decide_eq_true_eq]
        exact le_total _ _)
      ((List.Nodup.of_map _ nodup).filter _)
      isListing
  simpa only [decide_eq_true_eq] using selects

/-- A row which is reviewed stays so, and its incident is not pending. -/
theorem review_eq_none {tables later : Tables} (follows : later.Follows tables)
    (nodup : (incidentIDs later).Nodup) {row reviewed : IncidentRow}
    (member : row ∈ later.incidentReports) (isPending : row.Pending)
    (isReviewed : reviewed ∈ tables.incidentReports)
    (same : reviewed.incidentID = row.incidentID) :
    reviewed.review = none := by
  obtain ⟨follower, isFollower, followsReviewed⟩ :=
    follows.rows reviewed isReviewed
  have isRow : follower = row :=
    eq_of_incidentID nodup isFollower member
      (followsReviewed.incidentID.trans same)
  subst isRow
  by_contra someReview
  have stillReviewed :=
    followsReviewed.isReviewed (Option.isSome_iff_ne_none.mpr someReview)
  have notReviewed := isPending.2
  rw [Option.isNone_iff_eq_none.mp notReviewed] at stillReviewed
  cases stillReviewed

/--
In every run of the threads an incident has one committed row, which never
goes away, keeps its identifiers and its time of creation, and stays reviewed.
A listing of the pending reviews shows the oldest pending rows of the
transaction, each once, and no incident whose review was committed before, even if its
report was saved again.
-/
theorem review_workflow {Thread : Type*} [DecidableEq Thread]
    (columns : ColumnTypes) (schedule later : List (Label Thread StoreCall)) :
    let client := runFromEmpty columns schedule
    let final := client.run (storage columns) later
    (incidentIDs final.committed).Nodup ∧
      final.committed.Follows client.committed ∧
      ∀ label limit listed,
        label.call = .getPendingReviews limit →
          (final.execute (storage columns) label).returned =
            final.returned ++
              [(label.thread, label.call, .ok (.rows listed))] →
          ListsPending client.committed final limit listed := by
  intro client final
  have sound : client.Sound (storage columns) emptyTables :=
    sound_runFromEmpty schedule
  have soundFinal : final.Sound (storage columns) emptyTables :=
    sound.run later
  have follows : final.committed.Follows client.committed :=
    committed_follows sound later
  refine ⟨nodup_committed soundFinal, follows, ?_⟩
  intro label limit listed isListing reports
  obtain ⟨start, working, executes⟩ := Connection.execute_of_reports reports
  change
    statement columns label.call start label.number final.working =
      .ok (working, .rows listed) at executes
  rw [isListing] at executes
  have selects :=
    selects_of_getPendingReviews (nodup_working soundFinal) executes
  refine ⟨selects, ?_⟩
  intro row isListed reviewed isReviewed sameIncident
  obtain ⟨member, isPending⟩ :=
    List.mem_filter.mp (selects.member row isListed)
  exact
    review_eq_none ((working_follows soundFinal).trans follows)
      (nodup_working soundFinal) member (of_decide_eq_true isPending)
      isReviewed sameIncident

/-! ## A statement which fails -/

/--
Nothing rolls back.  When a statement fails while no thread has to commit,
every call after it fails, also those which only read, and nothing is written.
-/
theorem every_call_fails_after_failure {Thread : Type*} [DecidableEq Thread]
    (columns : ColumnTypes) (schedule : List (Label Thread StoreCall))
    (label : Label Thread StoreCall)
    (idle : ∀ thread, (runFromEmpty columns schedule).committing thread = none)
    (fails : (runFromEmpty columns schedule).Fails (storage columns) label)
    (later : List (Label Thread StoreCall)) :
    let client := runFromEmpty columns schedule
    let failed := client.next (storage columns) label
    let final := failed.run (storage columns) later
    final.committed = client.committed ∧
      final.returned =
        failed.returned ++
          later.map fun call =>
            (call.thread, call.call,
              .error "current transaction is aborted") := by
  intro client failed final
  obtain ⟨isFailed, sameCommitting, sameTables⟩ :=
    Connection.transaction_of_fails fails
  have stillIdle : ∀ thread, failed.committing thread = none := by
    intro thread
    rw [sameCommitting]
    exact idle thread
  obtain ⟨stillSame, errors⟩ :=
    Connection.run_of_stuck (storage columns) isFailed stillIdle later
  exact ⟨stillSame.trans sameTables, errors⟩

/-- A listing with a negative limit, before anybody saved a report. -/
theorem every_call_fails_after_failure_sample :
    ((runFromEmpty plainColumns []).next (storage plainColumns)
          ⟨0, .getPendingReviews (-1), 100, 0⟩ |>.run (storage plainColumns)
        [⟨1, .getIncidentHistory "ACC001" 50, 200, 0⟩]).returned =
      [((0 : Nat), .getPendingReviews (-1),
          .error "LIMIT must not be negative"),
        (1, .getIncidentHistory "ACC001" 50,
          .error "current transaction is aborted")] :=
  (every_call_fails_after_failure plainColumns []
    ⟨0, .getPendingReviews (-1), 100, 0⟩ (fun _ => rfl)
    ⟨rfl, .inr ⟨"LIMIT must not be negative", rfl⟩⟩
    [⟨1, .getIncidentHistory "ACC001" 50, 200, 0⟩]).2

end AeroRisk.Guardrail.Storage
