import ObjectCatalog.Failure.StoreError

/-! # Constructing store errors from arguments

An error is constructed from positional and named arguments. The classes that stand for a
category have a default detail, and pass every other named argument on to the general class;
an error about an unsupported product takes the product and nothing else. Named arguments are
matched first, then surplus positional ones are refused, then missing ones.
-/
namespace ObjectCatalog

inductive ArgumentError
  | unexpected (owner name : String)
  | repeated (owner name : String)
  | surplus (owner : String) (optional : Bool) (given onlyNamed : Nat)
  | missing (owner name : String)
  deriving DecidableEq

def ArgumentError.message : ArgumentError → String
  | .unexpected owner name =>
    owner ++ ".__init__() got an unexpected keyword argument '" ++ name ++ "'"
  | .repeated owner name =>
    owner ++ ".__init__() got multiple values for argument '" ++ name ++ "'"
  | .surplus owner optional given onlyNamed =>
    owner ++ ".__init__() takes " ++ (if optional then "from 1 to 2" else "2") ++
      " positional arguments but " ++ toString (given + 1) ++
      (if onlyNamed == 0 then ""
        else " positional arguments (and " ++ toString onlyNamed ++ " keyword-only argument" ++
          (if onlyNamed == 1 then ")" else "s)")) ++
      " were given"
  | .missing owner name =>
    owner ++ ".__init__() missing 1 required positional argument: '" ++ name ++ "'"

/-- Named arguments of an error; an explicit absence is kept apart from no argument. -/
structure ErrorArguments where
  positional : List Value
  named : List (String × Value)
  category : Option (Option Category)

namespace StoreErrorClass

def positionalName : StoreErrorClass → String
  | .unsupportedDatabase => "product_name"
  | _ => "message"

/-- The class whose constructor sees the named arguments first: classes without a category of
their own use the general one's. -/
def owner : StoreErrorClass → String
  | .dialectDetection => "StoreError"
  | kind => kind.name

def generalNames : List String := ["message", "sql_state", "category", "dialect"]

def refusedName? (kind : StoreErrorClass) (args : ErrorArguments) : Option ArgumentError :=
  args.named.findSome? fun (name, _) =>
    if name == kind.positionalName then
      if args.positional.isEmpty then none else some (.repeated kind.owner name)
    else if kind == .unsupportedDatabase then some (.unexpected kind.owner name)
    else if kind.message?.isNone && !generalNames.contains name then
      some (.unexpected kind.owner name)
    else none

def unknownName? (args : ErrorArguments) : Option ArgumentError :=
  (args.named.find? fun (name, _) => !generalNames.contains name).map fun (name, _) =>
    .unexpected "StoreError" name

def onlyNamed (kind : StoreErrorClass) (args : ErrorArguments) : Nat :=
  if kind == .unsupportedDatabase || kind.message?.isSome then 0
  else (args.named.filter fun (name, _) => generalNames.tail.contains name).length

def argument? (args : ErrorArguments) (name : String) : Option Value :=
  args.named.lookup name

def principal? (kind : StoreErrorClass) (args : ErrorArguments) : Except ArgumentError Value :=
  match args.positional, argument? args kind.positionalName, kind.message? with
  | v :: _, _, _ => .ok v
  | [], some v, _ => .ok v
  | [], none, some detail => .ok (.text detail)
  | [], none, none => .error (.missing kind.owner kind.positionalName)

def construct (kind : StoreErrorClass) (args : ErrorArguments) :
    Except ArgumentError StoreError := do
  if let some e := kind.refusedName? args then throw e
  if 1 < args.positional.length then
    throw (.surplus kind.owner kind.message?.isSome args.positional.length (kind.onlyNamed args))
  let principal ← kind.principal? args
  if kind == .unsupportedDatabase then return StoreError.unsupported principal
  if let some e := unknownName? args then throw e
  return {
    kind
    detail := principal
    sqlState := (argument? args "sql_state").getD .null
    category := args.category.getD kind.category
    dialect := (argument? args "dialect").getD .null
    product := none }

end StoreErrorClass

end ObjectCatalog
