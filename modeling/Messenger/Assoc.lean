/-!
# Association lists

Values under keys, in the order in which the keys first came.  A key has one
value: storing another replaces it in place.
-/

namespace Messenger

/-- Values under keys. -/
structure Assoc (κ ν : Type) where
  entries : List (κ × ν)
deriving DecidableEq, Repr, Inhabited

namespace Assoc

variable {κ ν : Type} [DecidableEq κ]

/-- No values. -/
def empty : Assoc κ ν :=
  ⟨[]⟩

/-- The value under a key of a list of entries. -/
def valueOf (key : κ) : List (κ × ν) → Option ν
  | [] => none
  | entry :: rest => if entry.1 = key then some entry.2 else valueOf key rest

/-- The value under a key. -/
def find? (assoc : Assoc κ ν) (key : κ) : Option ν :=
  valueOf key assoc.entries

/-- Replace the value under a key, or add the key at the end. -/
def put (key : κ) (value : ν) : List (κ × ν) → List (κ × ν)
  | [] => [(key, value)]
  | entry :: rest =>
      if entry.1 = key then (key, value) :: rest else entry :: put key value rest

/-- Store a value under a key. -/
def insert (assoc : Assoc κ ν) (key : κ) (value : ν) : Assoc κ ν :=
  ⟨put key value assoc.entries⟩

/-- Drop a key and its value. -/
def erase (assoc : Assoc κ ν) (key : κ) : Assoc κ ν :=
  ⟨assoc.entries.filter fun entry => entry.1 ≠ key⟩

/-- The keys, in the order in which they first came. -/
def keys (assoc : Assoc κ ν) : List κ :=
  assoc.entries.map Prod.fst

/-- Change every value. -/
def mapValues (f : ν → ν) (assoc : Assoc κ ν) : Assoc κ ν :=
  ⟨assoc.entries.map fun entry => (entry.1, f entry.2)⟩

@[simp]
theorem find?_empty (key : κ) : (empty : Assoc κ ν).find? key = none :=
  rfl

theorem valueOf_put (key other : κ) (value : ν) (entries : List (κ × ν)) :
    valueOf other (put key value entries) =
      if other = key then some value else valueOf other entries := by
  induction entries with
  | nil => grind [put, valueOf]
  | cons entry rest ih => grind [put, valueOf]

/-- Storing under one key leaves the values under the others. -/
theorem find?_insert (assoc : Assoc κ ν) (key other : κ) (value : ν) :
    (assoc.insert key value).find? other =
      if other = key then some value else assoc.find? other :=
  valueOf_put key other value assoc.entries

@[simp]
theorem find?_insert_self (assoc : Assoc κ ν) (key : κ) (value : ν) :
    (assoc.insert key value).find? key = some value := by
  simp [find?_insert]

theorem find?_insert_of_ne (assoc : Assoc κ ν) {key other : κ} (value : ν)
    (different : other ≠ key) :
    (assoc.insert key value).find? other = assoc.find? other := by
  simp [find?_insert, different]

theorem put_of_valueOf {key : κ} {value : ν} {entries : List (κ × ν)}
    (present : valueOf key entries = some value) : put key value entries = entries := by
  induction entries with
  | nil => cases present
  | cons entry rest ih => grind [put, valueOf]

/-- Storing the value that is there already changes nothing. -/
theorem insert_of_find? {assoc : Assoc κ ν} {key : κ} {value : ν}
    (present : assoc.find? key = some value) : assoc.insert key value = assoc :=
  congrArg Assoc.mk (put_of_valueOf present)

theorem find?_mapValues (f : ν → ν) (assoc : Assoc κ ν) (key : κ) :
    (assoc.mapValues f).find? key = (assoc.find? key).map f := by
  obtain ⟨entries⟩ := assoc
  simp only [mapValues, find?]
  induction entries with
  | nil => rfl
  | cons entry rest ih => grind [valueOf]

theorem valueOf_filter_ne (key other : κ) (entries : List (κ × ν)) :
    valueOf other (entries.filter fun entry => entry.1 ≠ key) =
      if other = key then none else valueOf other entries := by
  induction entries with
  | nil => simp [valueOf]
  | cons entry rest ih => grind [valueOf]

theorem find?_erase (assoc : Assoc κ ν) (key other : κ) :
    (assoc.erase key).find? other = if other = key then none else assoc.find? other :=
  valueOf_filter_ne key other assoc.entries

end Assoc

end Messenger
