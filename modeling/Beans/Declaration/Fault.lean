import Beans.Text.Search

/-!
# Faults of a declaration

What can be wrong with the declaration of a bean, with the line and the message of each fault.

## Main definitions

* `Fault` — the causes.
* `FaultAt` — a fault, the entry that it is in, and its line.
-/

set_option autoImplicit false

namespace Beans

/-- What is wrong with a declaration. -/
inductive Fault
  /-- An entry of an attribute that has no meaning; `hint` is the one that was probably meant. -/
  | unknownEntry (name : String) (hint : Option String) (known : List String)
  | duplicateEntry (name : String)
  | unknownValue (text : String)
  | unexpectedForm (form : String)
  | unexpectedType (type : String)
  | unsupportedShape (shape expected : String)
  | assignedAttribute (name : String)
  | malformedTag (text : String)
  | repeatedProperty
  /-- A text that cannot be read; the message says what was expected. -/
  | unreadable (message : String)
  | unknownGetter (style : String)
  | unknownSetter (style : String)
  | setterWithoutValue (style : String)
  | setterNeedsCollection
  | unknownHierarchy (hint : String)
  | lightNeedsImmutable
  | styleWithParent (style : String)
  | factoryNeedsRoot
  | constructorScopeOnMutable
  | cachedHashOnMutable
  | cacheFieldType
  | cacheFieldMissing
  | parentMissing (name : String)
  | parentIsProperty (name : String)
  | visibleProperty
  | setterOnImmutable
  | unreadableProperty
  | rejectedType (reason type : String)
  | plainField (name : String)
  | reservedName (name : String)
  | duplicateProperty (name : String)
  | clashingAlias (name : String)
  | lifetimeParameter
  | constParameter
  | tooManyParameters (limit : Nat)
  | derivedAndGenerated (trait : String)
  | cloneDerivedAndGenerated
  | narrowScope (entry : String)
deriving DecidableEq, Repr

/-- The message for a fault. -/
def Fault.message : Fault → String
  | .unknownEntry name hint known =>
    s!"Unknown field: `{name}`" ++ match hint with
      | some hint => s!". Did you mean `{hint}`?"
      | none =>
        if known.isEmpty then ""
        else ". Available values: " ++ Text.joinWith ", " (known.map fun k => s!"`{k}`")
  | .duplicateEntry name => s!"Duplicate field `{name}`"
  | .unknownValue text => s!"Unknown value: `{text}`"
  | .unexpectedForm form => s!"Unexpected meta-item format `{form}`"
  | .unexpectedType type => s!"Unexpected type `{type}`"
  | .unsupportedShape shape expected => s!"Unsupported shape `{shape}`. Expected {expected}."
  | .assignedAttribute name => s!"Name-value arguments are not supported. Use #[{name}(...)]"
  | .malformedTag text => s!"malformed tag `{text}`"
  | .repeatedProperty => "duplicate #[property] attribute"
  | .unreadable message => message
  | .unknownGetter style => s!"unknown getter style `{style}`"
  | .unknownSetter style => s!"unknown setter style `{style}`"
  | .setterWithoutValue style => s!"setter pattern `{style}` must contain `$value`"
  | .setterNeedsCollection => "setter style `clear_extend` needs a collection field"
  | .unknownHierarchy hint => s!"unknown hierarchy `{hint}`, expected `immutable`"
  | .lightNeedsImmutable => "`light` style needs an immutable bean"
  | .styleWithParent style => s!"`{style}` style beans cannot have a parent"
  | .factoryNeedsRoot => "`factory` needs an immutable bean without a parent"
  | .constructorScopeOnMutable => "`constructor_scope` only applies to immutable beans"
  | .cachedHashOnMutable => "`cache_hash_code` needs an immutable bean"
  | .cacheFieldType => "`hash_cache` must be a `OnceLock<u64>`"
  | .cacheFieldMissing => "`cache_hash_code` needs a `hash_cache: OnceLock<u64>` field"
  | .parentMissing name => s!"parent field `{name}` does not exist"
  | .parentIsProperty name => s!"parent field `{name}` cannot be a property"
  | .visibleProperty => "immutable bean properties must not be public"
  | .setterOnImmutable => "immutable bean properties cannot have a setter style"
  | .unreadableProperty => "immutable bean properties must be readable"
  | .rejectedType reason type => s!"{reason} (`{type}`)"
  | .plainField name =>
    "immutable beans may only hold properties, the parent and `hash_cache`; mark `" ++ name ++
      "` with #[property]"
  | .reservedName name => s!"`{name}` is reserved for generated code"
  | .duplicateProperty name => s!"duplicate property `{name}`"
  | .clashingAlias name => s!"alias `{name}` clashes with another property or alias"
  | .lifetimeParameter => "beans cannot have lifetime parameters"
  | .constParameter => "beans cannot have const parameters"
  | .tooManyParameters limit => s!"beans can have at most {limit} type parameters"
  | .derivedAndGenerated trait =>
    s!"`full` style generates `{trait}`; remove it from the derive list"
  | .cloneDerivedAndGenerated => "`clone = \"generate\"` conflicts with derived `Clone`"
  | .narrowScope entry => s!"`{entry}` cannot be less visible than the bean"

/-- A fault and where it is. -/
structure FaultAt where
  /-- The line, counted from 1. -/
  line : Nat
  /-- The cause. -/
  fault : Fault
  /-- The entry of an attribute that the fault is in. -/
  entry : Option String := none
deriving DecidableEq, Repr

/-- The message for a fault with the entry that it is in. -/
def FaultAt.message (f : FaultAt) : String :=
  f.fault.message ++ match f.entry with
    | some entry => " at " ++ entry
    | none => ""

/-- Either a value or all faults that were found. -/
abbrev Checked (α : Type) := Except (List FaultAt) α

/-- One fault. -/
def faultAt {α : Type} (line : Nat) (fault : Fault) : Checked α := .error [⟨line, fault, none⟩]

end Beans
