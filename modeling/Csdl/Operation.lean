import Csdl.Types.Structure

/-!
What can be done with the entities of a set, and the functions that do it.
-/

namespace Csdl

/-- The methods that functions are invoked with. -/
inductive Method where
  | get
  | post
  | patch
  | delete
  deriving DecidableEq, Repr

/-- The name of a method. -/
def Method.name : Method → String
  | get => "GET"
  | post => "POST"
  | patch => "PATCH"
  | delete => "DELETE"

/-- The operations, in the order in which functions are made for them. -/
inductive Operation where
  | create
  | list
  | get
  | delete
  | update
  deriving DecidableEq, Repr

namespace Operation

/-- All operations in their order. -/
def all : List Operation := [create, list, get, delete, update]

/-- The name of an operation. -/
def name : Operation → String
  | create => "create"
  | list => "list"
  | get => "get"
  | delete => "delete"
  | update => "update"

/-- The operation of a name. -/
def ofName? (name : String) : Option Operation :=
  all.find? fun operation => operation.name = name

/-- The method of an operation. An update carries the whole entity in a patch. -/
def method : Operation → Method
  | create => .post
  | list => .get
  | get => .get
  | delete => .delete
  | update => .patch

/-- Whether an operation changes something. -/
def isAction : Operation → Bool
  | create => true
  | list => false
  | get => false
  | delete => true
  | update => true

end Operation

/-- An operation on the member of a container that `context` names. -/
structure ServiceFunction where
  context : String
  operation : Operation
  input : Structure
  output : Structure
  deriving DecidableEq, Repr

namespace ServiceFunction

/-- The name of a function. -/
def name (function : ServiceFunction) : String :=
  function.operation.name

/-- The method of a function. -/
def method (function : ServiceFunction) : Method :=
  function.operation.method

/-- Whether a function changes something. -/
def isAction (function : ServiceFunction) : Bool :=
  function.operation.isAction

end ServiceFunction

end Csdl
