import ScriptBridge.Binding.Policy
import ScriptBridge.Extraction.Extract
import ScriptBridge.Native.Arguments

/-!
# Bindings

A binding ties a native function to a signature, a failure policy, and what diagnostics
need.  A host declares it piece by piece and then binds it, which fails if no function is
given or if a parameter could never be read: a union without alternatives, at any depth.
-/

namespace ScriptBridge

/-- What a host declares of a binding.  A native function is its work on the arguments of
a call. -/
structure Declaration where
  name : String
  params : List ParamType
  policy : FailurePolicy
  sink : Sink
  registries : Registries
  native : Option (NativeM Return)

/-- A native function bound to its signature and policy. -/
structure Binding where
  name : String
  params : List ParamType
  policy : FailurePolicy
  sink : Sink
  registries : Registries
  native : NativeM Return
  /-- Every union in the signature has an alternative. -/
  paramsReadable : ∀ param ∈ params, param.hasEmptyUnion = false

/-- Why a declaration cannot be bound. -/
inductive BindError where
  | missingImplementation (name : String)
  /-- The parameter at a position is or contains a union without alternatives. -/
  | emptyUnion (name : String) (param : Nat)
deriving DecidableEq

/-- The wording of an error in a declaration. -/
def BindError.message : BindError → String
  | missingImplementation name => "Native function '" ++ name ++ "' missing implementation"
  | emptyUnion name param =>
      "Native function '" ++ name ++ "' parameter " ++ toString param
        ++ " is a union with no alternatives"

namespace Declaration

/-- A declaration that says nothing but a name. -/
def ofName (name : String) : Declaration :=
  ⟨name, [], default, default, default, none⟩

/-- Takes the policy that settings have for the function of this name. -/
def configured (declaration : Declaration) (settings : Settings) : Declaration :=
  { declaration with policy := .ofResolved (settings.policyFor declaration.name) }

/-- Binds what is declared. -/
def bind (declaration : Declaration) : Except BindError Binding :=
  match declaration.native with
  | none => .error (.missingImplementation declaration.name)
  | some native =>
      match readable : declaration.params.findIdx? ParamType.hasEmptyUnion with
      | some index => .error (.emptyUnion declaration.name (index + 1))
      | none =>
          .ok
            { name := declaration.name
              params := declaration.params
              policy := declaration.policy
              sink := declaration.sink
              registries := declaration.registries
              native
              paramsReadable := List.findIdx?_eq_none_iff.1 readable }

end Declaration

end ScriptBridge
