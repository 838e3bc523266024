import Beans.Text.Blank
import Beans.Text.Lines
import Beans.Text.Search

/-!
# Profiles of type idioms

A profile says, by the name of a type, how its values are held in a builder, how they pass between
bean and builder, and which types an immutable bean rejects. Profiles are read from sections of
`key = value` lines and laid over each other.

## Main definitions

* `Profile` — the entries in the order in which they were given; the last one of a key counts.
* `Profile.ofText` — reads sections.
* `Profile.merge` — lays one profile over another one.
* `expand` — fills a code pattern of an entry.
-/

set_option autoImplicit false

namespace Beans

open Text

/-- What the entries of a section say. -/
inductive Topic
  /-- The reason for which an immutable bean rejects the type. -/
  | invalidType
  /-- The initial expression of a builder field. -/
  | builderInit
  /-- The type of a builder field. -/
  | builderType
  /-- From a builder value to a bean value. -/
  | toImmutable
  /-- From a bean value to a builder value. -/
  | toMutable
  /-- The parameter type of a fluent builder method. -/
  | varargs
  /-- Getters return a clone. -/
  | getClone
deriving DecidableEq, Repr

/-- The topic of a section by its name. -/
def Topic.ofName? : String → Option Topic
  | "immutable.invalid.type" => some .invalidType
  | "immutable.builder.init" => some .builderInit
  | "immutable.builder.type" => some .builderType
  | "immutable.builder.to.immutable" => some .toImmutable
  | "immutable.builder.to.mutable" => some .toMutable
  | "immutable.builder.varargs" => some .varargs
  | "immutable.get.clone" => some .getClone
  | _ => none

/-- One `key = value` line under its section. -/
structure ProfileEntry where
  /-- The topic of the section. -/
  topic : Topic
  /-- The name of a type, as written in a bean. -/
  key : String
  /-- A code pattern or a reason. -/
  value : String
deriving DecidableEq, Repr

/-- The entries of a profile, in the order in which they were given. -/
structure Profile where
  /-- The entries. -/
  entries : List ProfileEntry := []
deriving DecidableEq, Repr

/-- What is wrong with a profile. -/
inductive ProfileError
  | unknownSection (line : Nat) (name : String)
  | noEntry (line : Nat)
  | outsideSection (line : Nat)
  | unknownProfile (name : String)
deriving DecidableEq, Repr

/-- The message for a faulty profile. -/
def ProfileError.message : ProfileError → String
  | .unknownSection line name => s!"config line {line}: unknown section [{name}]"
  | .noEntry line => s!"config line {line}: expected `key = value`"
  | .outsideSection line => s!"config line {line}: entry outside of a section"
  | .unknownProfile name => s!"unknown config profile `{name}`"

/-- What a trimmed line of a profile is. -/
inductive ProfileLine
  | comment
  | header (name : String)
  | entry (key value : String)
  | other
deriving DecidableEq, Repr

/-- Classifies a line; blanks around it, around a section's name, a key and a value do not count. -/
def ProfileLine.ofText (raw : String) : ProfileLine :=
  let line := trim raw
  match line.toList with
  | [] | '#' :: _ | ';' :: _ => .comment
  | chars =>
    match (stripStart? ['['] chars).bind (stripEnd? [']']) with
    | some name => .header (trim (String.ofList name))
    | none => match splitOnce '=' chars with
      | some (key, value) => .entry (trim (String.ofList key)) (trim (String.ofList value))
      | none => .other

/-- Reads lines from number `number` on, below the section of topic `current`. -/
def readProfile : Nat → Option Topic → List String → Except ProfileError (List ProfileEntry)
  | _, _, [] => .ok []
  | number, current, raw :: rest =>
    match ProfileLine.ofText raw with
    | .comment => readProfile (number + 1) current rest
    | .header name => match Topic.ofName? name with
      | some topic => readProfile (number + 1) (some topic) rest
      | none => .error (.unknownSection number name)
    | .entry key value => match current with
      | some topic => (readProfile (number + 1) current rest).map (⟨topic, key, value⟩ :: ·)
      | none => .error (.outsideSection number)
    | .other => .error (.noEntry number)

/-- Reads a profile. -/
def Profile.ofText (text : String) : Except ProfileError Profile :=
  (readProfile 1 none (feedLines text)).map Profile.mk

/-- One profile laid over another one: its entries count first. -/
def Profile.merge (below above : Profile) : Profile := ⟨below.entries ++ above.entries⟩

/-- The value of a key: that of the last entry for it. -/
def Profile.find? (p : Profile) (topic : Topic) (key : String) : Option String :=
  (p.entries.reverse.find? fun e => decide (e.topic = topic) && e.key == key).map (·.value)

/-- A section of entries. -/
def topicEntries (topic : Topic) (entries : List (String × String)) : List ProfileEntry :=
  entries.map fun (key, value) => ⟨topic, key, value⟩

/-- The idioms of the standard collections. -/
def Profile.standard : Profile where
  entries :=
    topicEntries .invalidType
      [("Cell", "interior mutability is not allowed in immutable beans"),
       ("RefCell", "interior mutability is not allowed in immutable beans"),
       ("Rc", "Rc is not thread-safe"),
       ("Mutex", "interior mutability is not allowed in immutable beans"),
       ("RwLock", "interior mutability is not allowed in immutable beans")] ++
    topicEntries .builderInit
      [("Vec", "Vec::new()"),
       ("VecDeque", "::std::collections::VecDeque::new()"),
       ("HashMap", "::std::collections::HashMap::new()"),
       ("BTreeMap", "::std::collections::BTreeMap::new()"),
       ("HashSet", "::std::collections::HashSet::new()"),
       ("BTreeSet", "::std::collections::BTreeSet::new()"),
       ("Option", "None"),
       ("String", "String::new()"),
       ("bool", "false")] ++
    topicEntries .toMutable
      [("Vec", "$value.clone()"),
       ("VecDeque", "$value.clone()"),
       ("HashMap", "$value.clone()"),
       ("BTreeMap", "$value.clone()"),
       ("HashSet", "$value.clone()"),
       ("BTreeSet", "$value.clone()")] ++
    topicEntries .varargs
      [("Vec", "impl IntoIterator<Item = $generics>"),
       ("VecDeque", "impl IntoIterator<Item = $generics>"),
       ("HashSet", "impl IntoIterator<Item = $generics>"),
       ("BTreeSet", "impl IntoIterator<Item = $generics>")]

/-- Idioms for immutable collections that are held behind a shared pointer. -/
def Profile.sharedLayer : Profile where
  entries :=
    topicEntries .builderType [("Arc", "$generics")] ++
    topicEntries .builderInit [("Arc", "Default::default()")] ++
    topicEntries .toImmutable [("Arc", "::std::sync::Arc::new($value)")] ++
    topicEntries .toMutable [("Arc", "<$generics>::clone(&$value)")] ++
    topicEntries .getClone [("Arc", "clone")]

/-- The profiles that can be asked for by name. -/
def Profile.named (name : String) : Except ProfileError Profile :=
  if name = "std" then .ok .standard
  else if name = "shared" then .ok (Profile.standard.merge .sharedLayer)
  else .error (.unknownProfile name)

/-- Fills a code pattern: first the places of the value, then those of the type arguments, also
where the value brought them in. -/
def expand (pattern value generics : String) : String :=
  replaceAll "$generics" generics (replaceAll "$value" value pattern)

end Beans
