import SecretServer.DataLayer.Repositories
import SecretServer.Migrations.EntityStages

namespace SecretServer.DataLayer

open Text Data Schema Database Migrations Concurrency

/-! The repositories on the entities, and on the migrated tables by the SQL that they
send.  A method that several others overlap with makes these calls one by one, so lists
of calls cover every interleaving. -/

inductive RepositoryCall (ω : Type) where
  | tryGetByGuid (uid : Guid)
  | getAllCreatedByUser (userId : Guid)
  | createSecret (utcNow : Nat → DateTime) (secret : Secret)
  | deleteSecret (utcNow : Nat → DateTime) (secret : Secret)
  | tryFindByAuthProviderId (authProviderId : Option Utf16)
  | createUser (utcNow : Nat → DateTime) (user : User)
  | saveChanges (method : SaveMethod) (order : CommandOrder ω) (utcNow : Nat → DateTime)
      (entries : List (EntityEntry ω))

abbrev SqlCatalog := Catalog ColumnType SqlValue

/-- The rows that are given back, `none` after an exception. -/
abbrev Answer := Option (List SqlRow)

namespace RepositoryCall

variable {ω α : Type}

def answer (shown : α → List SqlRow) (task : DbTask α) : Program Db Answer := do
  let outcome ← task.run
  return outcome.toOption.map shown

def onEntities : RepositoryCall ω → Program Db Answer
  | .tryGetByGuid uid =>
      answer (fun secret => secret.toList.map secretRow)
        (SecretRepository.tryGetByGuidAsync uid)
  | .getAllCreatedByUser userId =>
      answer (fun secrets => secrets.map secretRow)
        (SecretRepository.getAllCreatedByUserAsync userId)
  | .createSecret utcNow secret =>
      answer (fun created => [secretRow created]) (SecretRepository.createAsync utcNow secret)
  | .deleteSecret utcNow secret =>
      answer (fun deleted => [secretRow deleted]) (SecretRepository.deleteAsync utcNow secret)
  | .tryFindByAuthProviderId authProviderId =>
      answer (fun user => user.toList.map userRow)
        (UserRepository.tryFindByAuthProviderIdAsync authProviderId)
  | .createUser utcNow user =>
      answer (fun created => [userRow created]) (UserRepository.createAsync utcNow user)
  | .saveChanges method order utcNow entries =>
      answer (fun _ => []) (method.call order utcNow entries)

def query (read : SqlCatalog → List SqlRow) : Program SqlCatalog Answer :=
  Program.atomically fun catalog => (some (read catalog), catalog)

def transaction (collation : Utf16 → Utf16) (statements : List (Statement SqlValue))
    (rows : List SqlRow) : Program SqlCatalog Answer :=
  Program.atomically fun catalog =>
    match catalog.executeAll (sqlServer collation) statements with
    | some next => (some rows, next)
    | none => (none, catalog)

def onTables (collation : Utf16 → Utf16) : RepositoryCall ω → Program SqlCatalog Answer
  | .tryGetByGuid uid =>
      if uid = Guid.empty then .done none
      else query fun catalog =>
        catalog.select (sqlServer collation) ⟨"secret", "Secret"⟩ "Id" (.guid uid)
  | .getAllCreatedByUser userId =>
      if userId = Guid.empty then .done none
      else query fun catalog =>
        catalog.select (sqlServer collation) ⟨"secret", "Secret"⟩ "UserId" (.guid userId)
  | .createSecret utcNow secret =>
      transaction collation
        [.insert ⟨"secret", "Secret"⟩ (secretRow (secret.stamped utcNow).materialized)]
        [secretRow (secret.stamped utcNow)]
  | .deleteSecret _ secret =>
      transaction collation [.delete ⟨"secret", "Secret"⟩ (.guid secret.id)]
        [secretRow secret]
  | .tryFindByAuthProviderId none => .done none
  | .tryFindByAuthProviderId (some authProviderId) =>
      if Utf16.isNullOrWhiteSpace (some authProviderId) then .done none
      else query fun catalog =>
        (catalog.select (sqlServer collation) ⟨"users", "User"⟩ "AuthProviderId"
          (.string authProviderId)).take 1
  | .createUser utcNow user =>
      transaction collation
        [.insert ⟨"users", "User"⟩ (userRow (user.stamped utcNow).materialized)]
        [userRow (user.stamped utcNow)]
  | .saveChanges _ order utcNow entries =>
      match order.arrange (AppDbContext.modificationCommands
          (AppDbContext.setTimeAuditedColumns utcNow entries)) with
      | .ok commands => transaction collation (commands.filterMap statement?) []
      | .error _ => .done none

section Simulation

variable {collation : Utf16 → Utf16}

abbrev StoredIn (collation : Utf16 → Utf16) (db : Db) (catalog : SqlCatalog) : Prop :=
  Stores collation catalog db

theorem run_answer (shown : α → List SqlRow) (task : DbTask α) (db : Db) :
    (answer shown task).run db =
      ((task.run.run db).1.toOption.map shown, (task.run.run db).2) := by
  unfold answer
  rw [Program.run_bind]
  rfl

theorem query_simulates {shown : α → List SqlRow} {read : Db → α}
    {readTables : SqlCatalog → List SqlRow}
    (same : ∀ db catalog, Stores collation catalog db → readTables catalog = shown (read db)) :
    Simulates (StoredIn collation) Eq (answer shown (DbTask.query read))
      (query readTables) := by
  intro db catalog stores
  rw [run_answer]
  exact ⟨congrArg some (same db catalog stores).symm, stores⟩

theorem refused_simulates {shown : α → List SqlRow} (exception : Exception) :
    Simulates (StoredIn collation) Eq
      (answer shown (DbTask.ofExcept (.error exception))) (.done none) := by
  intro db catalog stores
  exact ⟨rfl, stores⟩

theorem statement_simulates {shown : α → List SqlRow} {save : Db → Except Exception Db}
    {result : α} {statements : List (Statement SqlValue)}
    (agrees : ∀ db catalog, Stores collation catalog db →
      Agrees collation (save db) (catalog.executeAll (sqlServer collation) statements)) :
    Simulates (StoredIn collation) Eq
      (answer shown (DbTask.statement fun db => (save db).map fun next => (result, next)))
      (transaction collation statements (shown result)) := by
  intro db catalog stores
  have agreed := agrees db catalog stores
  have ran (attempt : Db → Except Exception (α × Db)) :
      (DbTask.statement attempt).run.run db = DbTask.commit (attempt db) db :=
    Program.run_atomically _ _
  rw [run_answer, ran]
  unfold transaction
  rw [Program.run_atomically]
  generalize save db = saved at agreed ⊢
  generalize catalog.executeAll (sqlServer collation) statements = executed at agreed ⊢
  cases saved with
  | ok next =>
      cases executed with
      | some changed => exact ⟨rfl, agreed⟩
      | none => exact agreed.elim
  | error exception =>
      cases executed with
      | some changed => exact agreed.elim
      | none => exact ⟨rfl, stores⟩

theorem executeAll_singleton (catalog : SqlCatalog) (statement : Statement SqlValue) :
    catalog.executeAll (sqlServer collation) [statement] =
      catalog.execute (sqlServer collation) statement := by
  unfold Catalog.executeAll
  rw [List.foldlM_cons]
  cases catalog.execute (sqlServer collation) statement <;> rfl

variable {db : Db} {catalog : SqlCatalog}

theorem select_secret (stores : Stores collation catalog db) (uid : Guid) :
    catalog.select (sqlServer collation) ⟨"secret", "Secret"⟩ "Id" (.guid uid) =
      (db.secrets.find? uid).toList.map secretRow := by
  obtain ⟨schemas, consists⟩ := stores.consists
  have split : catalog.Consists schemas
      ([] ++ secretsTable db.secrets.rows :: [usersTable db.users.rows]) := consists
  apply (split.select_eq "Id" (.guid uid)).trans
  change (db.secrets.rows.map secretRow).filter _ = _
  rw [List.filter_map, ← Table.filter_key_eq]
  congr 1
  apply List.filter_congr
  intro secret _
  simp [sqlServer]

theorem select_secrets_of_user (stores : Stores collation catalog db) (userId : Guid) :
    catalog.select (sqlServer collation) ⟨"secret", "Secret"⟩ "UserId" (.guid userId) =
      (db.secrets.rows.filter fun secret => secret.userId = some userId).map secretRow := by
  obtain ⟨schemas, consists⟩ := stores.consists
  have split : catalog.Consists schemas
      ([] ++ secretsTable db.secrets.rows :: [usersTable db.users.rows]) := consists
  apply (split.select_eq "UserId" (.guid userId)).trans
  change (db.secrets.rows.map secretRow).filter _ = _
  rw [List.filter_map]
  congr 1
  apply List.filter_congr
  intro secret _
  cases owner : secret.userId <;> simp [owner, sqlServer]

theorem select_user (stores : Stores collation catalog db) (authProviderId : Utf16) :
    (catalog.select (sqlServer collation) ⟨"users", "User"⟩ "AuthProviderId"
        (.string authProviderId)).take 1 =
      (db.findByAuthProviderId? authProviderId).toList.map userRow := by
  obtain ⟨schemas, consists⟩ := stores.consists
  have split : catalog.Consists schemas
      ([secretsTable db.secrets.rows] ++ usersTable db.users.rows :: []) := consists
  have selected : catalog.select (sqlServer collation) ⟨"users", "User"⟩ "AuthProviderId"
      (.string authProviderId) = _ := split.select_eq "AuthProviderId" (.string authProviderId)
  apply (congrArg (List.take 1) selected).trans
  change ((db.users.rows.map userRow).filter _).take 1 = _
  rw [List.filter_map, ← List.map_take, List.take_one, List.head?_filter]
  congr 2
  unfold Db.findByAuthProviderId?
  rw [stores.collation_eq]
  congr 1
  funext user
  simp [sqlServer]

theorem call_eq (method : SaveMethod) (order : CommandOrder ω) (utcNow : Nat → DateTime)
    (entries : List (EntityEntry ω)) :
    method.call order utcNow entries = DbTask.statement fun db =>
      (AppDbContext.saveAll order (AppDbContext.setTimeAuditedColumns utcNow entries) db).map
        fun next => (AppDbContext.setTimeAuditedColumns utcNow entries, next) := by
  have attempt (db : Db) : (do
      let next ←
        AppDbContext.saveAll order (AppDbContext.setTimeAuditedColumns utcNow entries) db
      return (AppDbContext.setTimeAuditedColumns utcNow entries, next)) =
      (AppDbContext.saveAll order (AppDbContext.setTimeAuditedColumns utcNow entries) db).map
        fun next => (AppDbContext.setTimeAuditedColumns utcNow entries, next) := by
    cases AppDbContext.saveAll order (AppDbContext.setTimeAuditedColumns utcNow entries) db <;>
      rfl
  cases method with
  | saveChanges => exact congrArg DbTask.statement (funext attempt)
  | saveChangesAsync => exact congrArg DbTask.statement (funext attempt)

theorem saveChanges_simulates (method : SaveMethod) (order : CommandOrder ω)
    (utcNow : Nat → DateTime) (entries : List (EntityEntry ω)) :
    Simulates (StoredIn collation) Eq (onEntities (.saveChanges method order utcNow entries))
      (onTables collation (.saveChanges method order utcNow entries)) := by
  unfold onEntities onTables
  dsimp only
  rw [call_eq]
  unfold AppDbContext.saveAll
  cases order.arrange (AppDbContext.modificationCommands
      (AppDbContext.setTimeAuditedColumns utcNow entries)) with
  | error exception =>
      intro db catalog stores
      rw [run_answer]
      exact ⟨rfl, stores⟩
  | ok commands =>
      apply statement_simulates
      intro db catalog stores
      exact commands_agree stores commands

theorem simulates (call : RepositoryCall ω) :
    Simulates (StoredIn collation) Eq call.onEntities (call.onTables collation) := by
  cases call with
  | tryGetByGuid uid =>
      unfold onEntities onTables SecretRepository.tryGetByGuidAsync
      dsimp only
      split_ifs
      · exact refused_simulates _
      · apply query_simulates
        intro db catalog stores
        exact select_secret stores uid
  | getAllCreatedByUser userId =>
      unfold onEntities onTables SecretRepository.getAllCreatedByUserAsync
      dsimp only
      split_ifs
      · exact refused_simulates _
      · apply query_simulates
        intro db catalog stores
        exact select_secrets_of_user stores userId
  | createSecret utcNow secret =>
      unfold onEntities onTables
      dsimp only
      rw [SecretRepository.createAsync_eq]
      apply statement_simulates
      intro db catalog stores
      rw [executeAll_singleton]
      exact insertSecret_agrees stores _
  | deleteSecret utcNow secret =>
      unfold onEntities onTables
      dsimp only
      rw [SecretRepository.deleteAsync_eq]
      apply statement_simulates
      intro db catalog stores
      rw [executeAll_singleton]
      exact deleteSecret_agrees stores _
  | tryFindByAuthProviderId authProviderId =>
      cases authProviderId with
      | none => exact refused_simulates _
      | some value =>
          unfold onEntities onTables UserRepository.tryFindByAuthProviderIdAsync
          dsimp only
          split_ifs
          · exact refused_simulates _
          · apply query_simulates
            intro db catalog stores
            exact select_user stores value
  | createUser utcNow user =>
      unfold onEntities onTables
      dsimp only
      rw [UserRepository.createAsync_eq]
      apply statement_simulates
      intro db catalog stores
      rw [executeAll_singleton]
      exact insertUser_agrees stores _
  | saveChanges method order utcNow entries =>
      exact saveChanges_simulates method order utcNow entries

end Simulation

end RepositoryCall

theorem stores_iff {collation : Utf16 → Utf16} {catalog : SqlCatalog} {db : Db}
    (stores : Stores collation catalog db) (other : Db) :
    Stores collation catalog other ↔ other = db := by
  constructor
  · intro alike
    obtain ⟨schemas, consists⟩ := stores.consists
    obtain ⟨otherSchemas, otherConsists⟩ := alike.consists
    have tables := consists.rows_eq.symm.trans otherConsists.rows_eq
    obtain ⟨secretTables, userTables⟩ := List.cons.inj tables
    have secretRows : db.secrets.rows.map secretRow = other.secrets.rows.map secretRow :=
      congrArg Relation.rows secretTables
    have userRows : db.users.rows.map userRow = other.users.rows.map userRow :=
      congrArg Relation.rows (List.cons.inj userTables).1
    have secrets := Table.ext (List.map_injective_iff.mpr secretRow_injective secretRows)
    have users := Table.ext (List.map_injective_iff.mpr userRow_injective userRows)
    have collations := stores.collation_eq.trans alike.collation_eq.symm
    cases db
    cases other
    dsimp only at secrets users collations
    subst secrets users collations
    rfl
  · intro same
    exact same ▸ stores

/-- Wherever a run of the chain ends with all migrations applied, the tables store the
entities of one database, on which any calls give the answers that the tables give. -/
theorem repositories_refine_migrated_tables {ω : Type} {collation : Utf16 → Utf16}
    {actions : List (Action SqlValue)} {catalog : SqlCatalog}
    (migrated : (migrator collation).run fresh actions = some ⟨3, catalog⟩) :
    ∃ db, (∀ other, Stores collation catalog other ↔ other = db) ∧
      ∀ calls : List (RepositoryCall ω),
        (runAll RepositoryCall.onEntities calls db).1 =
            (runAll (RepositoryCall.onTables collation) calls catalog).1 ∧
          Stores collation (runAll (RepositoryCall.onTables collation) calls catalog).2
            (runAll RepositoryCall.onEntities calls db).2 := by
  obtain ⟨result, reached, stage⟩ :=
    Migrator.run_invariant (EntityStage.step collation) (.fresh .empty) actions
  obtain rfl := Option.some.inj (migrated.symm.trans reached)
  cases stage with
  | @owned _ db stores =>
      refine ⟨db, stores_iff stores, ?_⟩
      intro calls
      exact runAll_eq_of_simulates RepositoryCall.simulates calls stores

/-! A secret and its owner, tracked in this order and saved together into the tables that
the three migrations leave. -/

namespace OwnedSecret

def owner : User := { id := 1, authProviderId := Utf16.ofString "auth0|1" }

def secret : Secret where
  id := 2
  userId := some owner.id
  value := Utf16.ofString "AAAA"
  ttl := some TimeToLive.hour.getStringValue

def calls : List (RepositoryCall Empty) :=
  [.saveChanges .saveChanges .principalsFirst (fun _ => .minValue)
      [⟨.secret secret, .added⟩, ⟨.user owner, .added⟩],
    .getAllCreatedByUser owner.id]

def start : Db := ⟨id, .empty, .empty⟩

theorem answers : (runAll RepositoryCall.onEntities calls start).1.map Prod.snd =
    [some [], some [secretRow secret.materialized]] := rfl

theorem migrated : ∃ catalog, (migrator id).run fresh [.up, .up, .up] = some ⟨3, catalog⟩ ∧
    catalog.tables.rows = [secretsTable [], usersTable []] := ⟨_, rfl, rfl⟩

theorem stores_start {catalog : SqlCatalog}
    (rows : catalog.tables.rows = [secretsTable [], usersTable []]) :
    Stores id catalog start where
  collation_eq := rfl
  sound := {
    labelled := by nofun
    owned := by nofun
    narrow := by nofun
    uniqueLogins := by nofun }
  consists := ⟨_, rfl, rows⟩

end OwnedSecret

open OwnedSecret in
theorem repositories_refine_migrated_tables_ownedSecret :
    ∃ catalog, (migrator id).run fresh [.up, .up, .up] = some ⟨3, catalog⟩ ∧
      (runAll (RepositoryCall.onTables id) calls catalog).1.map Prod.snd =
        [some [], some [secretRow secret.materialized]] := by
  obtain ⟨catalog, reached, rows⟩ := migrated
  obtain ⟨db, stores, refines⟩ := repositories_refine_migrated_tables reached
  obtain rfl := (stores start).mp (stores_start rows)
  refine ⟨catalog, reached, ?_⟩
  rw [← (refines calls).1]
  exact answers

end SecretServer.DataLayer
