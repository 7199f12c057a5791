import ShapeSearch.Failure

/-!
# Exports

What a file offers: entities with their members (`ExportInfo`), the way to reach each of them
(`ExportAccess`), and the list of both (`ExportEntry`).  `ofJson` reads entries from untrusted values
and drops what cannot be one; `toJson` writes them.
-/

namespace ShapeSearch

/-- The items that a value runs through: those of a list, the names of a table, the characters of a
text. -/
def Json.iterate : Json → Except Misfit (List Json)
  | .arr xs => .ok xs
  | .obj fs => .ok (fs.map (.str ·.1))
  | .str s => .ok (s.toList.map (.str ·.toString))
  | _ => .error .wrongKind

/-- The items that a value runs through, none if the value is absent or counts as false. -/
def Json.iterateOr (v : Option Json) : Except Misfit (List Json) :=
  match v with
  | some v => if v.isTruthy then v.iterate else .ok []
  | none => .ok []

structure ExportInfo where
  name : Option String := none
  kind : String := "unknown"
  methods : List String := []
  properties : List String := []
  base : Option String := none
deriving DecidableEq

inductive AccessType where
  | default
  | named
  | direct
deriving DecidableEq

def AccessType.text : AccessType → String
  | .default => "default"
  | .named => "named"
  | .direct => "direct"

def AccessType.ofText? (s : String) : Option AccessType :=
  if s = "default" then some .default
  else if s = "named" then some .named
  else if s = "direct" then some .direct
  else none

structure ExportAccess where
  type : AccessType := .direct
  name : Option String := none
deriving DecidableEq

structure ExportEntry where
  exportedName : Option String
  access : ExportAccess
  info : ExportInfo
deriving DecidableEq

abbrev ExportMetadata := List ExportEntry

namespace ExportInfo

def toJson (i : ExportInfo) : Json :=
  .obj [("name", .ofText? i.name), ("kind", .str i.kind), ("methods", .ofTexts i.methods),
    ("properties", .ofTexts i.properties), ("extends", .ofText? i.base)]

def textsOf (v : Option Json) : Except Misfit (List String) := do
  let items ← Json.iterateOr v
  .ok (items.filterMap Json.text?)

def ofFields (fs : Fields Json) : Except Misfit ExportInfo := do
  let methods ← textsOf (fs.get? "methods")
  let properties ← textsOf (fs.get? "properties")
  .ok {
    name := (fs.get? "name").bind Json.text?
    kind := match fs.get? "kind" with
      | some v => if v.isTruthy then v.display else "unknown"
      | none => "unknown"
    methods
    properties
    base := (fs.get? "extends").bind Json.text? }

end ExportInfo

namespace ExportAccess

def toJson (a : ExportAccess) : Json :=
  .obj (("type", .str a.type.text) :: match a.name with
    | some n => [("name", .str n)]
    | none => [])

/-- Read from any value; an unknown way is the direct one. -/
def ofJson : Option Json → Except Misfit ExportAccess
  | some (.obj fs) => do
    let type ← match Fields.get? fs "type" with
      | some (.arr _) => .error .wrongKind
      | some (.obj _) => .error .wrongKind
      | some (.str s) => .ok ((AccessType.ofText? s).getD .direct)
      | _ => .ok .direct
    .ok ⟨type, (Fields.get? fs "name").bind Json.text?⟩
  | _ => .ok {}

end ExportAccess

namespace ExportEntry

def toJson (e : ExportEntry) : Json :=
  .obj [("exportedName", .ofText? e.exportedName), ("access", e.access.toJson),
    ("info", e.info.toJson)]

/-- Read from any value; nothing if it cannot be an entry. -/
def ofJson : Json → Except Misfit (Option ExportEntry)
  | .obj fs =>
    match Fields.get? fs "info" with
    | some (.obj raw) => do
      let info ← ExportInfo.ofFields raw
      let exported := match Fields.get? fs "exportedName" with
        | some v => some v
        | none => Fields.get? fs "exported_name"
      let access ← ExportAccess.ofJson (Fields.get? fs "access")
      .ok (some ⟨(exported.bind Json.text?).orElse fun _ => info.name, access, info⟩)
    | _ => .ok none
  | _ => .ok none

/-- Every name that an export can be known by, without repetitions. -/
def names (e : ExportEntry) : List String :=
  [e.access.name, e.info.name, e.exportedName].foldl (fun out n =>
    match n with
    | some s => if s = "" || out.contains s then out else out ++ [s]
    | none => out) []

end ExportEntry

namespace ExportMetadata

def toJson (m : ExportMetadata) : Json :=
  .obj [("exports", .arr (m.map ExportEntry.toJson))]

/-- Read entries one after the other, dropping what cannot be one. -/
def ofItems : List Json → Except Misfit ExportMetadata
  | [] => .ok []
  | v :: r => do
    let e ← ExportEntry.ofJson v
    let rest ← ofItems r
    .ok (e.toList ++ rest)

def ofJson : Json → Except Misfit ExportMetadata
  | .obj fs => do ofItems (← Json.iterateOr (Fields.get? fs "exports"))
  | _ => .ok []

def rank (kind : String) : Nat :=
  if kind = "class" then 0
  else if kind = "function" then 1
  else if kind = "object" then 2
  else if kind = "module" then 3
  else 4

/-- The better described of two entries, the first if they are equal. -/
def better (a b : ExportEntry) : ExportEntry :=
  if rank b.info.kind < rank a.info.kind then b else a

def primary : ExportMetadata → Option ExportEntry
  | [] => none
  | e :: r => some (r.foldl better e)

end ExportMetadata

end ShapeSearch
