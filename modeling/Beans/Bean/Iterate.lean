import Beans.Value.Basic

/-!
# Walking through beans

The beans inside a bean: it comes first, and every bean comes after the one that holds it and before
what stands behind it there.

## Main definitions

* `Value.beans` — the beans in a value, but not those inside them.
* `BeanWalk` — a walk, with the beans that are still to be visited.
* `Value.allBeans`, `Bean.allBeans` — the beans in the order of the walk.

## Implementation notes

`BeanWalk.next` visits one bean at a time. `Bean.allBeans` says by recursion which beans are
visited; its length bounds the walk.
-/

set_option autoImplicit false

namespace Beans

namespace Value

mutual

/-- The beans in a value, but not those inside them. Keys of maps are not looked at. -/
def beans : Value → List Bean
  | bean b => [b]
  | optional none => []
  | optional (some v) => v.beans
  | list items => beansOfAll items
  | set items => beansOfAll items
  | map entries => beansOfEntries entries
  | scalar _ => []
  | thing _ _ => []
  | grid _ _ => []
termination_by structural v => v

/-- The beans in values. -/
def beansOfAll : List Value → List Bean
  | [] => []
  | v :: vs => v.beans ++ beansOfAll vs
termination_by structural vs => vs

/-- The beans in the values of entries. -/
def beansOfEntries : List (Value × Value) → List Bean
  | [] => []
  | (_, v) :: es => v.beans ++ beansOfEntries es
termination_by structural es => es

end

mutual

/-- The beans in a value with those inside them. -/
def allBeans : Value → List Bean
  | bean ⟨kind, fields⟩ =>
    ⟨kind, fields⟩ ::
      ((kind.slots fields (allBeansOfFields fields) fun _ => []).filterMap Slot.value?).flatten
  | optional none => []
  | optional (some v) => v.allBeans
  | list items => allBeansOfAll items
  | set items => allBeansOfAll items
  | map entries => allBeansOfEntries entries
  | scalar _ => []
  | thing _ _ => []
  | grid _ _ => []
termination_by structural v => v

/-- The beans in values. -/
def allBeansOfAll : List Value → List Bean
  | [] => []
  | v :: vs => v.allBeans ++ allBeansOfAll vs
termination_by structural vs => vs

/-- The beans in the values of entries. -/
def allBeansOfEntries : List (Value × Value) → List Bean
  | [] => []
  | (_, v) :: es => v.allBeans ++ allBeansOfEntries es
termination_by structural es => es

/-- The beans in the values of fields. -/
def allBeansOfFields : List (String × Value) → List (String × List Bean)
  | [] => []
  | (n, v) :: fs => (n, v.allBeans) :: allBeansOfFields fs
termination_by structural fs => fs

end

end Value

namespace Bean

/-- The bean with all beans inside it. -/
def allBeans (b : Bean) : List Bean := (Value.bean b).allBeans

/-- The beans in what a bean shows, but not those inside them. -/
def children (b : Bean) : List Bean := b.flatten.flatMap fun e => e.2.beans

end Bean

/-- A walk through beans. -/
structure BeanWalk where
  /-- The beans that are still to be visited with what is inside them, the next one first. -/
  pending : List Bean

namespace BeanWalk

/-- The walk through a bean. -/
def start (root : Bean) : BeanWalk := ⟨[root]⟩

/-- The next bean, and the walk after it. -/
def next? (w : BeanWalk) : Option (Bean × BeanWalk) :=
  match w.pending with
  | [] => none
  | b :: rest => some (b, ⟨b.children ++ rest⟩)

/-- The next beans, at most a number of them. -/
def take : Nat → BeanWalk → List Bean
  | 0, _ => []
  | n + 1, w => match w.next? with
    | none => []
    | some (b, w) => b :: take n w

end BeanWalk

/-- The beans of the walk through a bean. -/
def Bean.walk (b : Bean) : List Bean := (BeanWalk.start b).take b.allBeans.length

end Beans
