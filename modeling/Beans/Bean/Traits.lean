import Beans.Bean.Access

/-!
# The types' own equality and text

Equality, hash and text as a type of beans defines them for itself: they may leave properties out,
and look at those that cannot be read.

## Main definitions

* `Bean.ownSame?`, `Bean.ownDigest?` — equality and hash.
* `HashedBean` — a bean with the hash code that it keeps.
* `TextDraft` — the text of a bean in the making.
* `Bean.ownText?` — the text.
-/

set_option autoImplicit false

namespace Beans

open Digest

/-! ### Equality -/

/-- A field: its property type and its value. -/
structure FieldValue where
  /-- The property type. -/
  type : ValueType
  /-- The value. -/
  value : Typed

/-- Fields are compared and hashed by their property types. Those that are to be compared and hashed
by the types that they have are texts and numbers, for which this is the same. -/
def FieldValue.rule : FieldRule FieldValue where
  same a b := a.type.same a.value b.value
  feed a := a.type.feed a.value
  sameByType a b := a.type.same a.value b.value
  feedByType a := a.type.feed a.value

/-- The field of a bean of the type. -/
def RecordType.fieldValue (t : RecordType) (fields : List (String × Value)) (name : String) :
    FieldValue :=
  match t.property? name with
  | some p =>
    let v := (fields.lookup name).getD .null
    ⟨p.type, match p.type.ofValue v with
      | .ok x => x
      | .error _ => .any v⟩
  | none => ⟨.any, .any .null⟩

/-- Whether two lists hold equal values. -/
def sameValues (as bs : List Value) : Bool := (Value.list as).same (.list bs)

/-- Whether a bean with any properties has the entries of another one. -/
def hasEntries (fields : List (String × Value)) (entries : List (String × Value)) : Bool :=
  entries.all fun e => match fields.lookup e.1 with
    | some v => v.same e.2
    | none => false

/-- Whether two beans of one type are equal by the type's own equality, if it has one. -/
def Bean.ownSame? (a b : Bean) : Option Bool :=
  match a.kind, b.kind with
  | .record t, .record u =>
    if t.hasTraits && t.same u then
      some (t.comparisons.all (Comparison.holds FieldValue.rule (t.fieldValue a.fields)
        (t.fieldValue b.fields)))
    else none
  | .flexible _, .flexible _ =>
    some (a.fields.length == b.fields.length && hasEntries b.fields a.fields)
  | .sorted, .sorted =>
    some (a.fields.map Prod.fst == b.fields.map Prod.fst &&
      sameValues (a.fields.map Prod.snd) (b.fields.map Prod.snd))
  | _, _ => none

/-! ### Hash -/

/-- The bytes of the fields of a bean of the type. -/
def RecordType.fed (t : RecordType) (fields : List (String × Value)) : Feed :=
  (t.feedings.map (Feeding.bytes FieldValue.rule (t.fieldValue fields))).flatten

/-- A bean with the hash code that it keeps, if it keeps one. -/
structure HashedBean where
  /-- The bean. -/
  bean : Bean
  /-- The hash code. -/
  code : Option UInt64

namespace HashedBean

/-- A bean that was just made keeps no hash code. -/
def fresh (b : Bean) : HashedBean := ⟨b, none⟩

/-- The bytes that a hasher gets by the type's own hash, if it has one, and the bean afterwards. -/
def hash? (h : HashedBean) : Option (Feed × HashedBean) :=
  match h.bean.kind with
  | .record t =>
    if t.hasTraits then
      let (bytes, code) := hashWith t.cachesHash (t.fed h.bean.fields) h.code
      some (bytes, { h with code })
    else none
  | .flexible _ => none
  | .sorted => none

/-- The bean with a value in a property; the hash code is left as it is. -/
def set (h : HashedBean) (name : String) (v : Value) : Except BeanError HashedBean :=
  (h.bean.set name v).map fun b => { h with bean := b }

/-- A clone, with a clone of all fields and of the hash code. -/
def clone (h : HashedBean) : HashedBean := ⟨h.bean, h.code⟩

end HashedBean

/-- The digest of a bean by the type's own hash, if it has one. -/
def Bean.ownDigest? (b : Bean) : Option UInt64 :=
  (HashedBean.fresh b).hash?.map fun (bytes, _) => digest bytes

/-! ### Text -/

/-- The text of a bean in the making: a name, and names with texts. -/
structure TextDraft where
  /-- The name of the type. -/
  name : String
  /-- The names with their texts. -/
  parts : List (String × String)

namespace TextDraft

/-- Without parts. -/
def new (name : String) : TextDraft := ⟨name, []⟩

/-- With a value. -/
def field (d : TextDraft) (name : String) (v : Value) : TextDraft :=
  { d with parts := d.parts ++ [(name, v.display)] }

/-- With a name whose value is not shown. -/
def hidden (d : TextDraft) (name : String) : TextDraft :=
  { d with parts := d.parts ++ [(name, "*")] }

/-- With all that a bean shows. -/
def parent (d : TextDraft) (b : Bean) : TextDraft :=
  b.flatten.foldl (fun d (n, v) => d.field n v) d

/-- The text. -/
def render (d : TextDraft) : String :=
  d.name ++ "\x7b" ++ Text.joinWith ", " (d.parts.map fun (n, t) => n ++ "=" ++ t) ++ "\x7d"

end TextDraft

/-- The value with which a field is written by its own text: a text stands in quotes. -/
def Value.quoted : Value → Value
  | .scalar (.text s) => .text (Text.quoted s)
  | v => v

/-- The text with a property as it takes part in the text of its type. -/
def RecordProperty.addText (fields : List (String × Value)) (p : RecordProperty) (d : TextDraft) :
    TextDraft :=
  if !p.description.style.isReadable then d.hidden p.name
  else match p.text, fields.lookup p.name with
    | .omit, _ => d
    | .smart, some v => d.field p.name v
    | .field, some v => d.field p.name v.quoted
    | _, none => d

/-- The text of a bean by the type's own rules, if it has any: what the parent shows, the stored
properties of the type, and its computed ones. -/
def Bean.ownText? (b : Bean) : Option String :=
  match b.kind with
  | .record t =>
    if t.hasTraits then
      let shown := b.flatten
      let inherited := t.properties.filter fun p => p.description.isInherited
      let own := t.properties.filter fun p => !p.description.isInherited
      let addShown (d : TextDraft) (p : RecordProperty) : TextDraft :=
        match shown.lookup p.name with
        | some v => d.field p.name v
        | none => d
      let start := inherited.foldl addShown (TextDraft.new t.type.simpleName)
      let stored := own.filter RecordProperty.isStored
      let computed := own.filter fun p => !p.isStored
      some (computed.foldl addShown
        (stored.foldl (fun d p => p.addText b.fields d) start)).render
    else none
  | .flexible _ => some b.display
  | .sorted => some b.display

/-- The text of a bean for developers. -/
def Bean.debug (b : Bean) : String :=
  match b.kind with
  | .flexible _ => b.debugEntries
  | .record _ => b.display
  | .sorted => b.display

end Beans
