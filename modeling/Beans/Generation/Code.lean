import Beans.Generation.Accessors
import Beans.Generation.Builder
import Beans.Generation.Traits

/-!
# Generated code

All items that are generated for a bean, and the names that they need in scope.

## Main definitions

* `BeanModel.code` — the items.
* `Generated.ofDeclaration` — from a declaration to its items, or the violations of its rules.
-/

set_option autoImplicit false

namespace Beans

open Layout

/-- The items of a bean: its functions, the types of its meta-bean and builder where it has them,
and its implementations of traits. -/
def BeanModel.code (b : BeanModel) (mode : Mode) : CodeDraft :=
  b.inherentImpl ++
    (if b.style.isTyped then .blank :: b.metaType else []) ++
    (if b.hasBuilder then .blank :: b.builderType mode else []) ++
    .blank :: b.beanImpls ++ .blank :: b.objectImpls

/-- Generated items and the names to import for them. -/
structure Generated where
  /-- The items. -/
  code : List (Write String)
  /-- The names to import. -/
  imports : List String

/-- The generated items of a bean. -/
def BeanModel.generate (b : BeanModel) (mode : Mode) : Generated :=
  let code := b.code mode
  ⟨CodeDraft.written code mode, importsFor mode (CodeDraft.items code)⟩

/-- The traits that a bean can derive beside its bean code. -/
def derivableTraits : List String := ["Clone", "PartialEq", "Eq", "Hash"]

/-- Whether a declaration asks for a trait to be generated in any style. -/
def BeanDecl.forces (d : BeanDecl) (trait : String) : Bool :=
  if trait = "Clone" then decide (d.options.clone = .generate) else d.options.cacheHash

/-- The declaration with the traits that code expanded in place leaves to the bean: expanded code
does not see what is derived beside it. -/
def BeanDecl.leavingDerivable (d : BeanDecl) (s : Settings) : BeanDecl :=
  if d.style s = .full then d
  else
    { d with
      derives := d.derives ++ derivableTraits.filter fun t => !d.forces t && !d.has t }

/-- The generated items for a declaration. `supplied` are the traits that the bean has by hand. -/
def Generated.ofDeclaration (d : Syntax.Declaration) (supplied : List String) (s : Settings)
    (mode : Mode) : Checked Generated := do
  let bean ← BeanDecl.ofDeclaration d
  let bean := { bean with derives := bean.derives ++ supplied }
  let bean := if mode = .derive then bean.leavingDerivable s else bean
  match bean.violations s with
  | [] => return (← BeanModel.resolve bean s).generate mode
  | faults => .error faults

end Beans
