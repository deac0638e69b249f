import DeviceRegistry.Store.Search

/-! Tables of entities. Things and channels are rows with an identifier, an owner, a name and
metadata, and what is done with both is the same. They differ in what else a row holds, in the rows
that are refused, and in the end of a connection at which they stand. -/
namespace DeviceRegistry

/-- What every entity says of itself. -/
structure Description where
  id : String
  owner : String
  name : String
  metadata : Mapping

/-- A column of a table: what errors call it, and what a row holds there. -/
structure Column (Row : Type) where
  title : String
  content : Row → Cell

/-- A table of the entities of one kind: where its rows are held, what they hold, and how entities
become rows and rows entities. A row that is added has the identifier, the owner and the name of its
entity, and a row that is shown gives them back. -/
structure EntityTable (Row Entity : Type) where
  kind : EntityKind
  /-- What errors call the table. -/
  title : String
  rows : Store → List Row
  withRows : Store → List Row → Store
  id : Row → String
  owner : Row → String
  name : Row → String
  metadata : Row → Cell
  /-- The row with another name and other metadata. -/
  withContent : Row → String → Cell → Row
  /-- What a row holds beside what all entities have. No two rows hold the same there, and it has a
  greatest length. -/
  keys : List (Column Row × Nat)
  describe : Entity → Description
  /-- The row of a new entity, given the metadata, and the identifiers that are left. -/
  ofEntity : Identifier.Supply → Entity → (Cell → Row) × Identifier.Supply
  /-- The entity of a row and its metadata. -/
  toEntity : Row × Mapping → Except Failure Entity
  /-- The end of a connection at which the rows of the table stand, and the other end. -/
  endId : ConnectionRow → String
  endOwner : ConnectionRow → String
  otherId : ConnectionRow → String
  rows_withRows : ∀ store held, rows (withRows store held) = held := by intros; rfl
  withRows_rows : ∀ store, withRows store (rows store) = store := by exact Eq.refl
  withRows_withRows :
    ∀ store first held, withRows (withRows store first) held = withRows store held := by
      intros; rfl
  connections_withRows : ∀ store held, (withRows store held).connections = store.connections := by
    intros; rfl
  rows_withConnections : ∀ store connections, rows { store with connections } = rows store := by
    intros; rfl
  id_withContent : ∀ row called content, id (withContent row called content) = id row := by
    intros; rfl
  owner_withContent : ∀ row called content, owner (withContent row called content) = owner row := by
    intros; rfl
  name_withContent : ∀ row called content, name (withContent row called content) = called := by
    intros; rfl
  metadata_withContent :
    ∀ row called content, metadata (withContent row called content) = content := by
      intros; rfl
  withContent_self : ∀ row, withContent row (name row) (metadata row) = row := by intros; rfl
  withContent_withContent : ∀ row first called text content,
    withContent (withContent row first text) called content =
      withContent row called content := by intros; rfl
  id_ofEntity : ∀ supply entity content,
    id ((ofEntity supply entity).1 content) =
      (supply.orDrawn (describe entity).id).1 := by intros; rfl
  owner_ofEntity : ∀ supply entity content,
    owner ((ofEntity supply entity).1 content) = (describe entity).owner := by intros; rfl
  name_ofEntity : ∀ supply entity content,
    name ((ofEntity supply entity).1 content) = (describe entity).name := by intros; rfl
  metadata_ofEntity : ∀ supply entity content,
    metadata ((ofEntity supply entity).1 content) = content := by intros; rfl
  /-- What a row shows beside its metadata does not depend on that. -/
  toEntity_withContent : ∀ row content metadata,
    toEntity (withContent row (name row) content, metadata) =
      toEntity (row, metadata) := by intros; rfl
  describe_toEntity : ∀ loaded entity, toEntity loaded = .ok entity →
    describe entity = ⟨id loaded.1, owner loaded.1, name loaded.1, loaded.2⟩

namespace EntityTable

variable {Row Entity : Type} (table : EntityTable Row Entity)

def load (row : Row) : Except Failure (Row × Mapping) :=
  (Metadata.decode (table.metadata row).toValue).map (row, ·)

def before (a b : Row) : Bool := decide (table.id a ≤ table.id b)

def isOf (owner id : Value) (row : Row) : Bool :=
  owner.equalsText (table.owner row) && id.equalsText (table.id row)

def owns (store : Store) (owner : Cell) (id : String) : Bool :=
  (table.rows store).any fun row => table.id row == id && Cell.text (table.owner row) == owner

def limits : List (Column Row × Nat) :=
  (⟨"owner", fun row => .text (table.owner row)⟩, maxOwnerLength) ::
    (⟨"name", fun row => .text (table.name row)⟩, maxNameLength) :: table.keys

/-- The columns in which no two rows hold the same. -/
def uniques : List (Column Row) :=
  ⟨"id", fun row => .text (table.id row)⟩ :: table.keys.map Prod.fst

/-- Why the table refuses a new row: a text that is too long, or else an identifier or a key that
is taken. -/
def refusal? (row : Row) (others : List Row) : Option EngineError :=
  let tooLong := table.limits.find? fun limit => limit.2 < (limit.1.content row).length
  let taken := table.uniques.find? fun column =>
    others.any fun other => column.content other == column.content row
  (tooLong.map fun limit => .tooLong table.title limit.1.title).or
    (taken.map fun column => .notUnique (table.title ++ "." ++ column.title))

def newRow (store : Store) (entity : Entity) (text : String) : Row :=
  (table.ofEntity store.supply entity).1 (.text text)

/-- The tables once all identifiers of a new entity are drawn. -/
def drawnFor (store : Store) (entity : Entity) : Store :=
  { store with supply := (table.ofEntity store.supply entity).2 }

def added (store : Store) (entity : Entity) (text : String) : Store :=
  table.withRows (table.drawnFor store entity)
    (table.rows store ++ [table.newRow store entity text])

def save (store : Store) (entity : Entity) (injected : Option EngineError) : Outcome String :=
  let described := table.describe entity
  if described.id ≠ "" ∧ !Identifier.isValid described.id then
    .failed store (.invalidIdentifier table.kind described.id)
  else
    match Metadata.encode (.map described.metadata) with
    | .error fault => .failed (table.drawnFor store entity) (.unwritableMetadata fault)
    | .ok text =>
      let row := table.newRow store entity text
      match injected.or (table.refusal? row (table.rows store)) with
      | some error => .refused (table.drawnFor store entity) table.kind (.engine error)
      | none => ⟨table.added store entity text, .ok (table.id row), []⟩

def change (store : Store) (owner id : Value) (change : Row → Row) : Store :=
  table.withRows store
    ((table.rows store).map fun row => if table.isOf owner id row then change row else row)

def updated (store : Store) (entity : Entity) (text : String) : Store :=
  let described := table.describe entity
  table.change store (.text described.owner) (.text described.id) fun row =>
    table.withContent row described.name (.text text)

def update (store : Store) (entity : Entity) (injected : Option EngineError) : Outcome Unit :=
  let described := table.describe entity
  match Metadata.encode (.map described.metadata) with
  | .error fault => .failed store (.unwritableMetadata fault)
  | .ok text =>
    match injected with
    | some error => .refused store table.kind (.engine error)
    | none =>
      if !(table.rows store).any (table.isOf (.text described.owner) (.text described.id)) then
        .failed store (.absent (.entity table.kind))
      else if maxNameLength < (Cell.text described.name).length then
        .refused store table.kind (.engine (.tooLong table.title "name"))
      else ⟨table.updated store entity text, .ok (), []⟩

def entity (store : Store) (owner id : Value) : Except Failure Entity := do
  match id with
  | .text s =>
    if !Identifier.isValid s then .error (.absent (.entity table.kind))
    else
      let _ ← Cell.ofValues (id :: owner.comparisonParameters)
      match (table.rows store).find? (table.isOf owner id) with
      | none => .error (.absent (.entity table.kind))
      | some row => table.load row >>= table.toEntity
  | _ => .error (.absent (.entity table.kind))

def selected (store : Store) (owner : Value) (filter : EntityFilter) : Except Failure (List Row) :=
  (selectedRows (fun row => filter.selects owner (table.owner row) (table.name row)
    (table.metadata row)) (table.rows store)).map (orderedBy table.before)

def list (store : Store) (owner : Value) (window : Window) (name metadata : Value) :
    Except Failure (Page Entity) := do
  let (filter, parameters) ← EntityFilter.ofValues name metadata
  filter.expectSearchable
  let _ ← Cell.ofValues (owner.comparisonParameters ++ parameters ++ window.parameters)
  pageOf (table.selected store owner filter) filter.expectCountable window table.load table.toEntity

def connected (store : Store) (owner otherId : Value) : List Row :=
  orderedBy table.before ((table.rows store).filter fun row =>
    owner.equalsText (table.owner row) && store.connections.any fun connection =>
      table.endId connection == table.id row && otherId.equalsText (table.otherId connection))

/-- A page of the entities of an owner that are connected to what has an identifier. An identifier
that is not valid has none. -/
def listConnected (store : Store) (owner otherId : Value) (window : Window) :
    Except Failure (Page Entity) := do
  match otherId with
  | .text s =>
    if !Identifier.isValid s then Page.ofWindow 0 window []
    else
      let _ ← Cell.ofValues (owner.comparisonParameters ++ otherId :: window.parameters)
      pageOf (.ok (table.connected store owner otherId)) (.ok ()) window table.load table.toEntity
  | _ => Page.ofWindow 0 window []

def without (store : Store) (owner id : Value) : Store :=
  { table.withRows store ((table.rows store).filter fun row => !table.isOf owner id row) with
    connections := store.connections.filter fun connection =>
      !(owner.equalsText (table.endOwner connection) && id.equalsText (table.endId connection)) }

/-- The entities of an owner and an identifier are removed, and their connections with them. -/
def remove (store : Store) (owner id : Value) (injected : Option EngineError) : Outcome Unit :=
  match injected with
  | some error => .failed store (.engine error)
  | none =>
    match Cell.ofValues (id.comparisonParameters ++ owner.comparisonParameters) with
    | .error failure => .failed store failure
    | .ok _ =>
      let log := if (table.rows store).any (table.isOf owner id) then [] else
        [Event.alreadyAbsent table.kind id owner]
      ⟨table.without store owner id, .ok (), log⟩

/-- The metadata of the entity of an identifier is overwritten as it is. The answer is the number of
rows that were overwritten. -/
def overwriteMetadata (store : Store) (id raw : Value) : Outcome Nat :=
  match Cell.ofValues (raw :: id.comparisonParameters) with
  | .error failure => .failed store failure
  | .ok _ =>
    let held := raw.toColumnCell
    let isFound (row : Row) : Bool := id.equalsText (table.id row)
    let rows := (table.rows store).map fun row =>
      if isFound row then table.withContent row (table.name row) held else row
    ⟨table.withRows store rows, .ok ((table.rows store).countP isFound), []⟩

end EntityTable

end DeviceRegistry
