set_option autoImplicit false

/-!
Maps that remember the order in which their keys were first inserted.
A later insertion under the same key replaces the value and keeps the place.
-/

namespace ToolPipeline

/-- Entries in the order of the first insertion of their keys. -/
structure OrderedMap (κ α : Type) where
  toList : List (κ × α)
  deriving DecidableEq, Repr

namespace OrderedMap

variable {κ α : Type} [DecidableEq κ]

def empty : OrderedMap κ α := ⟨[]⟩

instance : EmptyCollection (OrderedMap κ α) := ⟨empty⟩

instance : Inhabited (OrderedMap κ α) := ⟨empty⟩

/-- Overwrites the first entry with key `k`, or appends a new one. -/
def insertList (k : κ) (v : α) : List (κ × α) → List (κ × α)
  | [] => [(k, v)]
  | e :: l => if e.1 = k then (k, v) :: l else e :: insertList k v l

def insert (m : OrderedMap κ α) (k : κ) (v : α) : OrderedMap κ α := ⟨insertList k v m.toList⟩

def get? (m : OrderedMap κ α) (k : κ) : Option α := (m.toList.find? fun e => e.1 = k).map (·.2)

def contains (m : OrderedMap κ α) (k : κ) : Bool := m.toList.any fun e => e.1 = k

def erase (m : OrderedMap κ α) (k : κ) : OrderedMap κ α := ⟨m.toList.filter fun e => e.1 ≠ k⟩

def keys (m : OrderedMap κ α) : List κ := m.toList.map (·.1)

def values (m : OrderedMap κ α) : List α := m.toList.map (·.2)

def size (m : OrderedMap κ α) : Nat := m.toList.length

def isEmpty (m : OrderedMap κ α) : Bool := m.toList.isEmpty

def ofList (l : List (κ × α)) : OrderedMap κ α := l.foldl (fun m e => m.insert e.1 e.2) empty

omit [DecidableEq κ] in
@[simp] theorem toList_empty : (empty : OrderedMap κ α).toList = [] := rfl

@[simp] theorem toList_insert (m : OrderedMap κ α) (k : κ) (v : α) :
    (m.insert k v).toList = insertList k v m.toList := rfl

theorem find?_insertList (k j : κ) (v : α) (l : List (κ × α)) :
    ((insertList k v l).find? fun e => e.1 = j).map (·.2) =
      if k = j then some v else (l.find? fun e => e.1 = j).map (·.2) := by
  induction l with
  | nil => by_cases h : k = j <;> simp [insertList, h]
  | cons e l ih =>
    by_cases he : e.1 = k
    · by_cases h : k = j
      · simp [insertList, he, h]
      · have hj : e.1 ≠ j := by rw [he]; exact h
        simp [insertList, he, h]
    · by_cases hj : e.1 = j
      · have h : k ≠ j := fun h => he (hj.trans h.symm)
        rw [insertList, if_neg he]
        simp [hj, h]
      · simpa [insertList, he, hj] using ih

@[simp] theorem get?_insert (m : OrderedMap κ α) (k j : κ) (v : α) :
    (m.insert k v).get? j = if k = j then some v else m.get? j :=
  find?_insertList k j v m.toList

@[simp] theorem get?_empty (k : κ) : (empty : OrderedMap κ α).get? k = none := rfl

end OrderedMap

abbrev ParameterMap := OrderedMap String String

end ToolPipeline
