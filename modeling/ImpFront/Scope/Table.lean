import ImpFront.Scope.Entry

/-!
# The scope table

Scopes form a tree whose root is scope zero. Each scope knows its parent, its children in
the order they were opened, and its bindings: names with the entries they stand for, in the
order they were defined. A name is bound at most once in a scope; an inner scope may bind a
name again, and a lookup finds the binding of the nearest scope on the way from a scope to
the root.

Scopes and entries only ever grow: opening a scope appends one, defining a name appends an
entry, and the only change to an entry is the offset of a variable.
-/

namespace ImpFront

/-- A scope: its parent (none for the root), its children, and its bindings in order. -/
structure Scope where
  parent : Option ScopeId
  children : List ScopeId := []
  bindings : List (String × EntryId) := []
deriving DecidableEq, Repr, Inhabited

/-- Why a name cannot be defined or found. -/
inductive NameError where
  /-- The scope binds the name already. -/
  | duplicate (name : String)
  /-- No scope on the way to the root binds the name. -/
  | undefined (name : String)
deriving DecidableEq, Repr, Inhabited

/-- The message of a name error, without a location. -/
def NameError.message : NameError → String
  | .duplicate name => "'" ++ name ++ "' is already defined in this scope"
  | .undefined name => "'" ++ name ++ "' is not defined"

/-- All scopes and all entries, each numbered from zero in the order they were made. -/
structure ScopeTable where
  scopes : Array Scope
  entries : Array Entry
deriving Inhabited

namespace ScopeTable

/-- The table with only the root scope, empty, and no entries. -/
def empty : ScopeTable := ⟨#[{ parent := none }], #[]⟩

/-- The root scope. -/
def root : ScopeId := ⟨0⟩

/-- How many scopes there are. -/
def scopeCount (t : ScopeTable) : Nat := t.scopes.size

/-- How many entries there are. -/
def entryCount (t : ScopeTable) : Nat := t.entries.size

/-- The scope with a number, if there is one. -/
def scope? (t : ScopeTable) (s : ScopeId) : Option Scope := t.scopes[s.index]?

/-- The parent of a scope; none for the root. -/
def parent (t : ScopeTable) (s : ScopeId) : Option ScopeId :=
  (t.scope? s).bind (·.parent)

/-- The children of a scope, in the order they were opened. -/
def children (t : ScopeTable) (s : ScopeId) : List ScopeId :=
  ((t.scope? s).map (·.children)).getD []

/-- The entries defined in a scope, in the order they were defined. -/
def entriesOf (t : ScopeTable) (s : ScopeId) : List EntryId :=
  ((t.scope? s).map fun sc => sc.bindings.map (·.2)).getD []

/-- The entry that a scope itself binds a name to. -/
def lookupLocal (t : ScopeTable) (s : ScopeId) (name : String) : Option EntryId :=
  (t.scope? s).bind fun sc => sc.bindings.lookup name

/-- The entry with a number, if there is one. -/
def entry? (t : ScopeTable) (e : EntryId) : Option Entry := t.entries[e.index]?

/-- The entry with a number; every number that the table handed out has one. -/
def entry (t : ScopeTable) (e : EntryId) : Entry := (t.entry? e).getD default

/-- The name of a type entry, and "?" for any other entry. -/
def typeName (t : ScopeTable) (e : EntryId) : String :=
  match t.entry? e with
  | some (.type info) => info.name
  | _ => "?"

/-- The variable stored in an entry, if it is one. -/
def varInfo? (t : ScopeTable) (e : EntryId) : Option VarInfo :=
  match t.entry? e with
  | some (.var info) => some info
  | _ => none

/-- The function stored in an entry, if it is one. -/
def funcInfo? (t : ScopeTable) (e : EntryId) : Option FuncInfo :=
  match t.entry? e with
  | some (.func info) => some info
  | _ => none

/-- The type stored in an entry, if it is one. -/
def typeInfo? (t : ScopeTable) (e : EntryId) : Option TypeInfo :=
  match t.entry? e with
  | some (.type info) => some info
  | _ => none

/-- Opens a new scope below `parent`: it gets the next number and is its parent's last child. -/
def addChild (t : ScopeTable) (parent : ScopeId) : ScopeTable × ScopeId :=
  let child : ScopeId := ⟨t.scopes.size⟩
  let scopes := (t.scopes.push { parent := some parent }).modify parent.index
    fun sc => { sc with children := sc.children ++ [child] }
  ({ t with scopes }, child)

/--
Binds a name in a scope to a new entry, which gets the next number. A name that the scope
binds already is refused, and the table stays as it was.
-/
def define (t : ScopeTable) (s : ScopeId) (name : String) (e : Entry) :
    Except NameError (ScopeTable × EntryId) :=
  if (t.lookupLocal s name).isSome then .error (.duplicate name)
  else
    let id : EntryId := ⟨t.entries.size⟩
    let scopes := t.scopes.modify s.index
      fun sc => { sc with bindings := sc.bindings ++ [(name, id)] }
    .ok (⟨scopes, t.entries.push e⟩, id)

/--
The entry bound to a name in the nearest scope from `s` towards the root. Every parent has
a smaller number than its child, which is what makes the walk end.
-/
def resolve (t : ScopeTable) (name : String) (s : ScopeId) : Option EntryId :=
  match t.lookupLocal s name with
  | some e => some e
  | none =>
    match t.parent s with
    | some p => if p.index < s.index then t.resolve name p else none
    | none => none
termination_by s.index

/-- Looks a name up from a scope outwards; a name that no scope binds is an error. -/
def lookup (t : ScopeTable) (s : ScopeId) (name : String) : Except NameError EntryId :=
  match t.resolve name s with
  | some e => .ok e
  | none => .error (.undefined name)

/--
Sets or clears the offset of a variable entry. Any other entry is left alone, and the
answer is none.
-/
def setOffset (t : ScopeTable) (e : EntryId) (offset : Option Nat) : Option ScopeTable :=
  match t.entry? e with
  | some (.var info) =>
    some { t with entries := t.entries.set! e.index (.var { info with offset }) }
  | _ => none

@[simp]
theorem scopeCount_empty : empty.scopeCount = 1 := rfl

@[simp]
theorem entryCount_empty : empty.entryCount = 0 := rfl

theorem addChild_id (t : ScopeTable) (parent : ScopeId) :
    (t.addChild parent).2 = ⟨t.scopeCount⟩ := rfl

@[simp]
theorem scopeCount_addChild (t : ScopeTable) (parent : ScopeId) :
    (t.addChild parent).1.scopeCount = t.scopeCount + 1 := by
  simp [addChild, scopeCount]

end ScopeTable

end ImpFront
