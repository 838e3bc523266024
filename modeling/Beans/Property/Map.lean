import Beans.Error
import Beans.Order.Sort
import Beans.Property.Meta

/-!
# Property maps

The properties of a bean type in their order, with further names for some of them.

## Main definitions

* `PropertyMap` — properties and aliases.
* `PropertyMap.find?` — the property of a name or an alias.
* `MapDraft`, `MapDraft.build` — a map in the making, and what makes it one: every property name and
  every alias occurs once, and an alias stands for a name that is known before it.
-/

set_option autoImplicit false

namespace Beans

/-- Properties with aliases. -/
structure PropertyMap where
  /-- The properties in order. -/
  properties : List MetaProperty
  /-- The aliases, each with the name of its property. -/
  aliases : List (String × String)

namespace PropertyMap

/-- Without properties. -/
def empty : PropertyMap := ⟨[], []⟩

/-- The names of the properties. -/
def names (m : PropertyMap) : List String := m.properties.map MetaProperty.name

/-- The number of properties. -/
def size (m : PropertyMap) : Nat := m.properties.length

/-- Whether there are no properties. -/
def isEmpty (m : PropertyMap) : Bool := m.properties.isEmpty

/-- The property of a name. -/
def named? (m : PropertyMap) (name : String) : Option MetaProperty :=
  m.properties.find? fun p => p.name == name

/-- The property of a name or an alias. -/
def find? (m : PropertyMap) (key : String) : Option MetaProperty :=
  m.named? key <|> (m.aliases.lookup key).bind m.named?

/-- Whether a name or an alias is known. -/
def contains (m : PropertyMap) (key : String) : Bool := (m.find? key).isSome

end PropertyMap

/-- A property map in the making. -/
structure MapDraft where
  /-- The name of the bean type, for errors. -/
  bean : String
  /-- The properties so far. -/
  properties : List MetaProperty
  /-- The aliases so far, each with the name or the alias that it stands for. -/
  aliases : List (String × String)

namespace MapDraft

/-- Without properties. -/
def new (bean : String) : MapDraft := ⟨bean, [], []⟩

/-- With a further property. -/
def property (d : MapDraft) (p : MetaProperty) : MapDraft :=
  { d with properties := d.properties ++ [p] }

/-- With a further alias. -/
def alsoNamed (d : MapDraft) (other name : String) : MapDraft :=
  { d with aliases := d.aliases ++ [(other, name)] }

/-- With the properties of a parent, each changed by `wrap`, and its aliases in their order as
texts. -/
def inherit (d : MapDraft) (parent : PropertyMap) (wrap : MetaProperty → MetaProperty) : MapDraft :=
  let aliases := Order.sortBy (fun a b => decide (a.1 ≤ b.1)) parent.aliases
  { d with
    properties := d.properties ++ parent.properties.map wrap
    aliases := d.aliases ++ aliases }

/-- With the properties and the aliases of a parent. -/
def parent (d : MapDraft) (parent : PropertyMap) : MapDraft := d.inherit parent id

/-- The first name that occurs among those before it. -/
def firstRepeated? (seen : List String) : List String → Option String
  | [] => none
  | n :: ns => if seen.contains n then some n else firstRepeated? (n :: seen) ns

/-- The aliases of a map with the names of their properties, after those that are known already. -/
def resolveAliases (bean : String) (names : List String) (known : List (String × String)) :
    List (String × String) → Except BeanError (List (String × String))
  | [] => .ok known
  | (other, target) :: rest =>
    let property? := if names.contains target then some target else known.lookup target
    match property? with
    | none => .error (.noSuchProperty bean target)
    | some property =>
      if names.contains other || (known.lookup other).isSome then
        .error (.duplicateProperty bean other)
      else resolveAliases bean names (known ++ [(other, property)]) rest

/-- The map, unless a name occurs twice or an alias stands for nothing. -/
def build (d : MapDraft) : Except BeanError PropertyMap :=
  let names := d.properties.map MetaProperty.name
  match firstRepeated? [] names with
  | some name => .error (.duplicateProperty d.bean name)
  | none => (resolveAliases d.bean names [] d.aliases).map fun aliases => ⟨d.properties, aliases⟩

end MapDraft

end Beans
