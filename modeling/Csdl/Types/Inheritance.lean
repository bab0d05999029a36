import Csdl.Types.Registry

/-!
What a structure inherits. The chain of a type runs from the type itself along its bases and stops
before the first type that repeats or is not a structure, so every graph of bases has chains.
-/

namespace Csdl.Registry

/-- The chain from a place on, of at most `limit` structures and outside the places `seen`. -/
def chainFrom (r : Registry) (seen : List TypeId) (limit : Nat) (id : TypeId) :
    List (TypeId × Structure) :=
  match limit with
  | 0 => []
  | limit + 1 =>
    if id ∈ seen then []
    else
      match r.structure? id with
      | none => []
      | some s =>
        (id, s) ::
          match s.base with
          | none => []
          | some base => r.chainFrom (id :: seen) limit base

/-- The chain of a type. No chain is longer than the registry, because its places differ. -/
def baseChain (r : Registry) (id : TypeId) : List (TypeId × Structure) :=
  r.chainFrom [] r.size id

/-- The fields of a chain from its far end on, without those that a nearer structure leaves out.
`hidden` names what has been left out so far. -/
def chainFields (hidden : List String) : List Structure → List Field
  | [] => []
  | s :: farther =>
    chainFields (hidden ++ s.restricted) farther ++
      s.fields.filter fun field => !hidden.contains field.name

/-- All fields of a structure, the inherited ones first. -/
def allFields (r : Registry) (id : TypeId) : List Field :=
  chainFields [] ((r.baseChain id).map (·.2))

/-- The first primary key among all fields of a structure. -/
def primaryKey? (r : Registry) (id : TypeId) : Option Field :=
  (r.allFields id).find? (·.primaryKey)

/-- Whether a walk from a place along its bases comes to another place. It takes at most `limit`
steps, and none from the places `seen`. -/
def leadsTo (r : Registry) (ancestor : TypeId) (seen : List TypeId) (limit : Nat) (id : TypeId) :
    Bool :=
  if id = ancestor then true
  else
    match limit with
    | 0 => false
    | limit + 1 =>
      if id ∈ seen then false
      else
        match (r.structure? id).bind (·.base) with
        | none => false
        | some base => r.leadsTo ancestor (id :: seen) limit base

/-- Whether a type is another one or has it as a base at any distance. A walk that takes more steps
than there are places comes to a place twice. -/
def isSubtypeOf (r : Registry) (id ancestor : TypeId) : Bool :=
  r.leadsTo ancestor [] r.size id

end Csdl.Registry
