import Mathlib.Data.List.Basic
import Mathlib.Data.Nat.Notation

/-! # Items of DynamoDB

An `Item` is a row as it is stored: attribute values under attribute names.  DynamoDB rejects a write
that would store a string set with repeated members, a key of a table or an index over 2048 bytes, or
an item over 400 KB (`Item.valid`).  How it measures items is the parameter `fits`.

An `UpdateExpression` is the text of an update, as its clauses; `UpdateExpression.apply` is what it does
to the attributes of an item. -/

namespace Tables

/-- An attribute value. -/
inductive AttributeValue where
  | s (value : String)
  | n (value : ℕ)
  | bool (value : Bool)
  | ss (members : List String)
  | l (values : List AttributeValue)
  | m (fields : List (String × AttributeValue))

/-- A row as it is stored. -/
abbrev Item : Type := List (String × AttributeValue)

/-- DynamoDB stores the item; `keys` are the hash keys of the table and of its indexes. -/
def Item.valid (fits : Item → Bool) (keys : List String) (item : Item) : Bool :=
  fits item && item.all fun (name, value) => match value with
    | .s text => !keys.contains name || text.utf8ByteSize ≤ 2048
    | .ss members => decide members.Nodup
    | _ => true

/-- An attribute that is left out if there is no value. -/
def Item.optional {α : Type} (name : String) (f : α → AttributeValue) (value : Option α) : Item :=
  match value with
  | some a => [(name, f a)]
  | none => []

/-- A string set, which is left out if it is empty. -/
def Item.stringSet (name : String) (members : List String) : Item :=
  if members.isEmpty then [] else [(name, .ss members)]

section
variable {fits : Item → Bool} {keys : List String} {item item' : Item}

theorem Item.valid_ss (h : item.valid fits keys) {name : String} {members : List String}
    (hmem : (name, .ss members) ∈ item) : members.Nodup := by
  have hall := (Bool.and_eq_true_iff.mp h).2
  exact of_decide_eq_true (List.all_eq_true.mp hall _ hmem)

theorem Item.valid_key (h : item.valid fits keys) {name text : String}
    (hmem : (name, .s text) ∈ item) (hkey : name ∈ keys) : text.utf8ByteSize ≤ 2048 := by
  have hall := List.all_eq_true.mp (Bool.and_eq_true_iff.mp h).2 _ hmem
  simpa [hkey] using hall

end

/-! ### Attributes -/

/-- The value of an attribute. -/
def Item.attribute (item : Item) (name : String) : Option AttributeValue := item.lookup name

/-- The members of a string set; none if there is no such attribute. -/
def Item.members (item : Item) (name : String) : List String :=
  match item.attribute name with
  | some (.ss members) => members
  | _ => []

/-- Give an attribute a value, or take it away. -/
def Item.put (item : Item) (name : String) (value : Option AttributeValue) : Item :=
  Item.optional name id value ++ item.filter fun field => name != field.1

section
variable {item item' : Item} {name name' : String}

@[simp] theorem Item.attribute_nil : Item.attribute [] name = none := rfl

theorem Item.attribute_cons {value : AttributeValue} :
    Item.attribute ((name', value) :: item) name =
      if name = name' then some value else item.attribute name := by
  unfold Item.attribute
  rw [List.lookup_cons]
  by_cases h : name = name'
  · rw [if_pos h, beq_iff_eq.mpr h]
  · rw [if_neg h, beq_eq_false_iff_ne.mpr h]

theorem Item.attribute_append :
    Item.attribute (item ++ item') name = (item.attribute name).or (item'.attribute name) :=
  List.lookup_append

theorem Item.attribute_optional {α : Type} {f : α → AttributeValue} {value : Option α} :
    (Item.optional name' f value).attribute name = if name = name' then value.map f else none := by
  cases value with
  | none => simp [Item.optional]
  | some a => simp [Item.optional, Item.attribute_cons]

theorem Item.attribute_stringSet {members : List String} :
    (Item.stringSet name' members).attribute name =
      if name = name' ∧ members ≠ [] then some (.ss members) else none := by
  cases members with
  | nil => simp [Item.stringSet]
  | cons m ms => simp [Item.stringSet, Item.attribute_cons]

theorem Item.attribute_without :
    Item.attribute (item.filter fun field => name' != field.1) name =
      if name = name' then none else item.attribute name := by
  induction item with
  | nil => simp
  | cons field item ih =>
      obtain ⟨key, value⟩ := field
      rw [List.filter_cons, Item.attribute_cons]
      by_cases hkey : name' = key
      · subst hkey
        rw [if_neg (by simp), ih]
        split <;> rfl
      · rw [if_pos (by simpa using hkey), Item.attribute_cons, ih]
        by_cases h : name = name'
        · rw [if_pos h, if_pos h, if_neg (h ▸ hkey)]
        · rw [if_neg h, if_neg h]

theorem Item.attribute_put {value : Option AttributeValue} :
    (item.put name' value).attribute name = if name = name' then value else item.attribute name := by
  unfold Item.put
  rw [Item.attribute_append, Item.attribute_optional, Item.attribute_without, Option.map_id]
  split
  · exact Option.or_none
  · rfl

end

/-! ### Fields

A row whose attributes are known by name is a list of fields; a field without a value is left out of
the item. -/

/-- A name with its value, if there is one. -/
abbrev Field : Type := String × Option AttributeValue

/-- The item of a list of fields. -/
def Item.ofFields (fields : List Field) : Item :=
  fields.flatMap fun field => Item.optional field.1 id field.2

/-- Give a field a value, or take it away. -/
def putField (name : String) (value : Option AttributeValue) (fields : List Field) : List Field :=
  fields.map fun field => (field.1, if field.1 = name then value else field.2)

/-- The attributes of the item are the fields. -/
def Item.Reads (item : Item) (fields : List Field) : Prop :=
  ∀ name, item.attribute name = (fields.lookup name).join

section
variable {item : Item} {fields : List Field} {name : String}

theorem Item.attribute_ofFields_none (h : name ∉ fields.map Prod.fst) :
    (Item.ofFields fields).attribute name = none := by
  induction fields with
  | nil => rfl
  | cons field fields ih =>
      rw [List.map_cons, List.mem_cons, not_or] at h
      unfold Item.ofFields at ih ⊢
      rw [List.flatMap_cons, Item.attribute_append, Item.attribute_optional, if_neg h.1, ih h.2]
      rfl

theorem Item.reads_ofFields (h : (fields.map Prod.fst).Nodup) :
    (Item.ofFields fields).Reads fields := by
  intro name
  induction fields with
  | nil => rfl
  | cons field fields ih =>
      obtain ⟨key, value⟩ := field
      rw [List.map_cons, List.nodup_cons] at h
      have hcons : Item.ofFields ((key, value) :: fields) =
          Item.optional key id value ++ Item.ofFields fields := List.flatMap_cons
      rw [hcons, Item.attribute_append, Item.attribute_optional, List.lookup_cons, Option.map_id]
      by_cases hname : name = key
      · subst hname
        rw [if_pos rfl, Item.attribute_ofFields_none h.1, beq_self_eq_true]
        exact Option.or_none
      · rw [if_neg hname, beq_eq_false_iff_ne.mpr hname, ih h.2]
        rfl

theorem lookup_putField {name' : String} {value : Option AttributeValue} :
    (putField name value fields).lookup name' =
      (fields.lookup name').map fun old => if name' = name then value else old := by
  induction fields with
  | nil => rfl
  | cons field fields ih =>
      show List.lookup name' ((field.1, _) :: putField name value fields) = _
      rw [List.lookup_cons, List.lookup_cons, ih]
      by_cases hname : name' = field.1
      · rw [beq_iff_eq.mpr hname, hname]
        rfl
      · rw [beq_eq_false_iff_ne.mpr hname]

theorem Item.Reads.put {value : Option AttributeValue} (h : item.Reads fields)
    (hname : (fields.lookup name).isSome) : (item.put name value).Reads (putField name value fields) := by
  intro name'
  rw [Item.attribute_put, lookup_putField]
  by_cases heq : name' = name
  · obtain ⟨old, hold⟩ := Option.isSome_iff_exists.mp hname
    rw [if_pos heq, heq, hold]
    simp
  · rw [if_neg heq, h name']
    simp [heq]

/-- The value of a field that is a string set. -/
def setValue (members : List String) : Option AttributeValue :=
  if members.isEmpty then none else some (.ss members)

/-- The value of a field that is only stored if it is true. -/
def flagValue (flag : Bool) : Option AttributeValue := if flag then some (.bool true) else none

theorem Item.Reads.members {members : List String} (h : item.Reads fields)
    (hname : fields.lookup name = some (setValue members)) : item.members name = members := by
  unfold Item.members
  rw [h name, hname]
  cases members <;> rfl

end

/-! ### Update expressions -/

/-- The clauses of an update expression; `ADD` and `DELETE` name one member of a string set. -/
structure UpdateExpression where
  sets : List (String × AttributeValue)
  removes : List String
  adds : List (String × String)
  deletes : List (String × String)

/-- `ADD` of one member. -/
def Item.addMember (item : Item) (name member : String) : Item :=
  item.put name (some (.ss (if (item.members name).contains member then item.members name
    else item.members name ++ [member])))

/-- `DELETE` of one member; an empty set is no attribute. -/
def Item.deleteMember (item : Item) (name member : String) : Item :=
  let rest := (item.members name).filter (· ≠ member)
  item.put name (if rest.isEmpty then none else some (.ss rest))

/-- Apply an update expression. -/
def UpdateExpression.apply (u : UpdateExpression) (item : Item) : Item :=
  let item := u.sets.foldl (fun item field => item.put field.1 (some field.2)) item
  let item := u.removes.foldl (fun item name => item.put name none) item
  let item := u.adds.foldl (fun item field => item.addMember field.1 field.2) item
  u.deletes.foldl (fun item field => item.deleteMember field.1 field.2) item

section
variable {item : Item} {fields : List Field}

theorem isSome_lookup_putField {name name' : String} {value : Option AttributeValue}
    (h : (fields.lookup name').isSome) : ((putField name value fields).lookup name').isSome := by
  rw [lookup_putField, Option.isSome_map]
  exact h

theorem Item.Reads.sets (h : item.Reads fields) (sets : List (String × AttributeValue))
    (hnames : ∀ field ∈ sets, (fields.lookup field.1).isSome) :
    (sets.foldl (fun item field => item.put field.1 (some field.2)) item).Reads
      (sets.foldl (fun fields field => putField field.1 (some field.2) fields) fields) := by
  induction sets generalizing item fields with
  | nil => exact h
  | cons field sets ih =>
      rw [List.forall_mem_cons] at hnames
      exact ih (h.put hnames.1) fun field' hmem => isSome_lookup_putField (hnames.2 field' hmem)

theorem Item.Reads.removes (h : item.Reads fields) (names : List String)
    (hnames : ∀ name ∈ names, (fields.lookup name).isSome) :
    (names.foldl (fun item name => item.put name none) item).Reads
      (names.foldl (fun fields name => putField name none fields) fields) := by
  induction names generalizing item fields with
  | nil => exact h
  | cons name names ih =>
      rw [List.forall_mem_cons] at hnames
      exact ih (h.put hnames.1) fun name' hmem => isSome_lookup_putField (hnames.2 name' hmem)

/-- What the clauses `SET` and `REMOVE` do to the fields. -/
def UpdateExpression.putFields (u : UpdateExpression) (fields : List Field) : List Field :=
  u.removes.foldl (fun fields name => putField name none fields)
    (u.sets.foldl (fun fields field => putField field.1 (some field.2) fields) fields)

/-- An update that only sets and removes attributes. -/
theorem Item.Reads.apply (h : item.Reads fields) (u : UpdateExpression)
    (hadds : u.adds = []) (hdeletes : u.deletes = [])
    (hsets : ∀ field ∈ u.sets, (fields.lookup field.1).isSome)
    (hremoves : ∀ name ∈ u.removes, (fields.lookup name).isSome) :
    (u.apply item).Reads (u.putFields fields) := by
  have hkept : ∀ (sets : List (String × AttributeValue)) (fields : List Field) (name : String),
      (fields.lookup name).isSome → ((sets.foldl (fun fields field =>
        putField field.1 (some field.2) fields) fields).lookup name).isSome := by
    intro sets
    induction sets with
    | nil => exact fun _ _ h => h
    | cons field sets ih => exact fun _ _ h => ih _ _ (isSome_lookup_putField h)
  unfold UpdateExpression.apply
  rw [hadds, hdeletes]
  exact (h.sets u.sets hsets).removes u.removes fun name hmem => hkept _ _ _ (hremoves name hmem)

theorem Item.Reads.addMember (h : item.Reads fields) (name member : String) (members : List String)
    (hname : fields.lookup name = some (setValue members)) :
    (item.addMember name member).Reads (putField name (setValue
      (if members.contains member then members else members ++ [member])) fields) := by
  unfold Item.addMember
  rw [h.members hname]
  have hvalue : setValue (if members.contains member then members else members ++ [member]) =
      some (.ss (if members.contains member then members else members ++ [member])) := by
    cases members with
    | nil => rfl
    | cons m ms =>
        unfold setValue
        split <;> rfl
  rw [hvalue]
  exact h.put (by rw [hname]; rfl)

theorem Item.Reads.deleteMember (h : item.Reads fields) (name member : String)
    (members : List String) (hname : fields.lookup name = some (setValue members)) :
    (item.deleteMember name member).Reads
      (putField name (setValue (members.filter (· ≠ member))) fields) := by
  unfold Item.deleteMember
  rw [h.members hname]
  exact h.put (by rw [hname]; rfl)

end

end Tables
