import AnnotatedMake.OrderedMap
import AnnotatedMake.Definition

namespace AnnotatedMake

structure ScopeIndex where
  scopes : OrderedMap String (OrderedMap String Parameter) := .empty
  targets : List String := []
deriving DecidableEq, Inhabited

namespace ScopeIndex

/-- Places a definition; an earlier one of the same scope and name gives way and lends its place. -/
def define (index : ScopeIndex) (definition : Definition) : ScopeIndex :=
  { index with
    scopes := index.scopes.update definition.scope fun held =>
      (held.getD .empty).insert definition.name definition.toParameter }

def ofDefinitions (definitions : List Definition) (targets : List String) : ScopeIndex :=
  definitions.foldl define { targets }

/-- The definitions of one scope. -/
def definitionsIn (scope : String) (parameters : OrderedMap String Parameter) : List Definition :=
  parameters.entries.map fun entry => { entry.2 with name := entry.1, scope }

/-- Every definition, scope by scope. -/
def definitions (index : ScopeIndex) : List Definition :=
  index.scopes.entries.flatMap fun entry => definitionsIn entry.1 entry.2

def size (index : ScopeIndex) : Nat :=
  index.scopes.entries.foldr (fun entry count => entry.2.size + count) 0

def scopeNames (index : ScopeIndex) : List String := index.scopes.keys

def get? (index : ScopeIndex) (scope name : String) : Option Definition :=
  (index.scopes.get? scope).bind fun parameters =>
    (parameters.get? name).map fun parameter => { parameter with name, scope }

/-- A scope is open to a target when it is the global one or the target's own. -/
def isOpenTo (target : Option String) (scope : String) : Bool :=
  scope = globalScope || (target ≠ some "" && target = some scope)

/-- The definitions usable with a target. -/
def visibleTo (index : ScopeIndex) (target : Option String) : List Definition :=
  (index.scopes.entries.filter fun entry => isOpenTo target entry.1).flatMap fun entry =>
    definitionsIn entry.1 entry.2

def withTargets (index : ScopeIndex) (targets : List String) : ScopeIndex := { index with targets }

/-- Equality of content: the order of scopes and names does not matter, that of targets does. -/
def agrees (first second : ScopeIndex) : Bool :=
  first.targets = second.targets &&
    first.scopes.sameEntries
      (OrderedMap.sameEntries fun parameter other => parameter = other) second.scopes

@[simp] theorem withTargets_scopes (index : ScopeIndex) (targets : List String) :
    (index.withTargets targets).scopes = index.scopes := rfl

@[simp] theorem withTargets_targets (index : ScopeIndex) (targets : List String) :
    (index.withTargets targets).targets = targets := rfl

theorem length_definitions (index : ScopeIndex) : index.definitions.length = index.size := by
  rw [definitions, size]
  induction index.scopes.entries with
  | nil => rfl
  | cons entry rest ih =>
      rw [List.flatMap_cons, List.length_append, ih]
      simp [definitionsIn, OrderedMap.size]

end ScopeIndex

end AnnotatedMake
