import Microticket.Dynamo
import Microticket.Store

/-! # Writes of items

A `WriteRequest` is a `PutItem`, an `UpdateItem` or a `DeleteItem` on a table of items.  An update of
a key that has no row makes one, with the key and the attributes that the update names, unless the
condition of the request fails on a missing row (`WriteRequest.apply`).

A `Schema` lists the attributes that a reader of the rows needs and the values it accepts, and
`Schema.Whole` says that all rows of a table have them.  A request that only writes what the schema
accepts, and only updates rows that exist, keeps the table whole (`WriteRequest.apply_whole`). -/

namespace Tables

/-! ### Requests -/

/-- A condition on the row of the key; a missing row has no attributes. -/
inductive Condition where
  | attributeExists (name : String)
  | attributeNotExists (name : String)
  | equals (name text : String)

def Condition.holds (item : Item) : Condition → Bool
  | .attributeExists name => (item.attribute name).isSome
  | .attributeNotExists name => (item.attribute name).isNone
  | .equals name text => match item.attribute name with
    | some (.s value) => value == text
    | _ => false

/-- The value of a number; zero if there is no such attribute. -/
def Item.number (item : Item) (name : String) : ℕ :=
  match item.attribute name with
  | some (.n value) => value
  | _ => 0

/-- `ADD` of a number, which fails on an attribute of another type. -/
def Item.addNumber (item : Item) (name : String) (increment : ℕ) : Option Item :=
  match item.attribute name with
  | none | some (.n _) => some (item.put name (some (.n (item.number name + increment))))
  | some _ => none

/-- `SET` of a list of attributes. -/
def Item.setAll (item : Item) (sets : List (String × AttributeValue)) : Item :=
  sets.foldl (fun item field => item.put field.1 (some field.2)) item

/-- A write; every condition of its list has to hold. -/
inductive WriteRequest where
  | put (key : String) (conditions : List Condition) (item : Item)
  | update (key : String) (conditions : List Condition) (sets : List (String × AttributeValue))
      (add : Option (String × ℕ))
  | delete (key : String)

/-- Why a write is refused. -/
inductive WriteFailure where
  | conditionalCheckFailed
  | validation
  deriving DecidableEq, Repr

/-- The attributes of the row of a key. -/
def rowOf (t : Table String Item) (key : String) : Item := (t.lookup key).getD []

/-- The row that an update starts from. -/
def Item.updated (item : Item) (sets : List (String × AttributeValue)) :
    Option (String × ℕ) → Option Item
  | none => some (item.setAll sets)
  | some (name, increment) => (item.addNumber name increment).map (Item.setAll · sets)

/-- The table after a write; `hash` is the name of its key. -/
def WriteRequest.apply (hash : String) (t : Table String Item) :
    WriteRequest → Except WriteFailure (Table String Item)
  | .put key conditions item =>
      if conditions.all (Condition.holds (rowOf t key)) then .ok (t.insert key item)
      else .error .conditionalCheckFailed
  | .update key conditions sets add =>
      if conditions.all (Condition.holds (rowOf t key)) then
        match Item.updated ((t.lookup key).getD [(hash, .s key)]) sets add with
        | some item => .ok (t.insert key item)
        | none => .error .validation
      else .error .conditionalCheckFailed
  | .delete key => .ok (t.erase key)

/-! ### Schemas -/

/-- An attribute with the values that a reader accepts. -/
structure Column where
  name : String
  required : Bool
  accepts : AttributeValue → Bool

/-- The reader accepts the value, or does not need one. -/
def Column.Takes (c : Column) : Option AttributeValue → Prop
  | some value => c.accepts value
  | none => c.required = false

abbrev Schema : Type := List Column

/-- The item has what the reader needs. -/
def Schema.Fits (σ : Schema) (item : Item) : Prop := ∀ c ∈ σ, c.Takes (item.attribute c.name)

/-- The value may be stored under the name. -/
def Schema.Accepts (σ : Schema) (name : String) (value : AttributeValue) : Prop :=
  ∀ c ∈ σ, c.name = name → c.accepts value

/-- Every row of the table has what the reader needs. -/
def Schema.Whole (σ : Schema) (t : Table String Item) : Prop :=
  ∀ ⦃key item⦄, t.lookup key = some item → σ.Fits item

section
variable {σ : Schema} {item item' : Item} {name hash key : String} {value : AttributeValue}
variable {t t' : Table String Item}

@[simp] theorem Schema.fits_nil : Schema.Fits [] item := fun _ hc => absurd hc List.not_mem_nil

@[simp] theorem Schema.fits_cons {c : Column} :
    Schema.Fits (c :: σ) item ↔ c.Takes (item.attribute c.name) ∧ σ.Fits item :=
  List.forall_mem_cons

@[simp] theorem Schema.accepts_nil : Schema.Accepts [] name value :=
  fun _ hc => absurd hc List.not_mem_nil

@[simp] theorem Schema.accepts_cons {c : Column} :
    Schema.Accepts (c :: σ) name value ↔ (c.name = name → c.accepts value) ∧ σ.Accepts name value :=
  List.forall_mem_cons

theorem Schema.whole_empty : σ.Whole ∅ := by
  intro key item h
  cases h

theorem Schema.Whole.insert (h : σ.Whole t) (hitem : σ.Fits item) : σ.Whole (t.insert key item) := by
  intro key' item' h'
  rw [Table.lookup_insert_if] at h'
  split at h'
  · cases h'
    exact hitem
  · exact h h'

theorem Schema.Whole.erase (h : σ.Whole t) : σ.Whole (t.erase key) :=
  fun _ _ h' => h (Table.lookup_of_erase _ _ _ _ h')

theorem Schema.Fits.put (h : σ.Fits item) (hvalue : σ.Accepts name value) :
    σ.Fits (item.put name (some value)) := by
  intro c hc
  rw [Item.attribute_put]
  split
  · rename_i hname
    exact hvalue c hc hname
  · exact h c hc

theorem Schema.Fits.setAll (h : σ.Fits item) {sets : List (String × AttributeValue)}
    (hsets : ∀ field ∈ sets, σ.Accepts field.1 field.2) : σ.Fits (item.setAll sets) := by
  induction sets generalizing item with
  | nil => exact h
  | cons field sets ih =>
      rw [List.forall_mem_cons] at hsets
      exact ih (h.put hsets.1) hsets.2

theorem Schema.Fits.updated (h : σ.Fits item) {sets : List (String × AttributeValue)}
    {add : Option (String × ℕ)} (hsets : ∀ field ∈ sets, σ.Accepts field.1 field.2)
    (hadd : ∀ name increment, add = some (name, increment) →
      σ.Accepts name (.n (item.number name + increment)))
    (hitem : Item.updated item sets add = some item') : σ.Fits item' := by
  cases add with
  | none =>
      obtain rfl := Option.some.inj hitem
      exact h.setAll hsets
  | some add =>
      obtain ⟨added, hadded, rfl⟩ := Option.map_eq_some_iff.mp hitem
      have hfits : σ.Fits added := by
        unfold Item.addNumber at hadded
        split at hadded
        · obtain rfl := Option.some.inj hadded
          exact h.put (hadd _ _ rfl)
        · obtain rfl := Option.some.inj hadded
          exact h.put (hadd _ _ rfl)
        · cases hadded
      exact hfits.setAll hsets

/-! ### What keeps a table whole -/

/-- The request writes only what the schema accepts, and only updates a row that exists. -/
def WriteRequest.Keeps (σ : Schema) (t : Table String Item) : WriteRequest → Prop
  | .put _ _ item => σ.Fits item
  | .update key conditions sets add =>
      ((t.lookup key).isSome ∨ ∃ name, .attributeExists name ∈ conditions) ∧
      (∀ field ∈ sets, σ.Accepts field.1 field.2) ∧
      ∀ name increment, add = some (name, increment) →
        σ.Accepts name (.n ((rowOf t key).number name + increment))
  | .delete _ => True

/-- A condition on an attribute fails on a missing row. -/
theorem exists_of_conditions {conditions : List Condition}
    (h : conditions.all (Condition.holds (rowOf t key))) (hname : .attributeExists name ∈ conditions) :
    (t.lookup key).isSome := by
  have hholds := List.all_eq_true.mp h _ hname
  unfold rowOf at hholds
  cases hrow : t.lookup key with
  | none =>
      rw [hrow] at hholds
      cases hholds
  | some item => rfl

theorem WriteRequest.apply_whole {w : WriteRequest} (hw : w.Keeps σ t) (ht : σ.Whole t)
    (h : w.apply hash t = .ok t') : σ.Whole t' := by
  cases w with
  | put key conditions item =>
      simp only [WriteRequest.apply] at h
      split at h
      · cases h
        exact ht.insert hw
      · cases h
  | update key conditions sets add =>
      obtain ⟨hexists, hsets, hadd⟩ := hw
      simp only [WriteRequest.apply] at h
      split at h
      · rename_i hconditions
        have hrow : (t.lookup key).isSome :=
          hexists.elim id fun ⟨name, hname⟩ => exists_of_conditions hconditions hname
        obtain ⟨item, hitem⟩ := Option.isSome_iff_exists.mp hrow
        have hold : rowOf t key = item := by rw [rowOf, hitem, Option.getD_some]
        rw [hitem, Option.getD_some] at h
        split at h
        · rename_i item' hitem'
          cases h
          rw [hold] at hadd
          exact ht.insert ((ht hitem).updated hsets hadd hitem')
        · cases h
      · cases h
  | delete key =>
      cases h
      exact ht.erase

end

end Tables
