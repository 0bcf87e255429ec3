import Mathlib.Logic.Function.Basic
import Mathlib.Data.List.Basic

namespace VirtualThing

-- A configuration source is a key file: named groups of keys, each holding a value written with
-- one of the typed `storage_write_key_*` calls. A typed read returns the value only when it was
-- written with the same type.
inductive Value
  | int (v : Int)
  | uint (v : Nat)
  | int64 (v : Int)
  | uint64 (v : Nat)
  | float (bits : UInt32)
  | bool (v : Bool)
  | string (v : String)
  deriving DecidableEq, Repr

@[ext] structure Store where
  groups : List String
  get : String → String → Option Value

-- `strlen` counts the bytes of the string.
def strlen (s : String) : Nat :=
  s.utf8ByteSize

namespace Store

def empty : Store :=
  ⟨[], fun _ _ => none⟩

def write (s : Store) (g k : String) (v : Value) : Store where
  groups := if g ∈ s.groups then s.groups else s.groups ++ [g]
  get g' k' := if g' = g ∧ k' = k then some v else s.get g' k'

-- A key file given by its entries, written in order.
def ofList (entries : List (String × String × Value)) : Store :=
  entries.foldl (fun s e => s.write e.1 e.2.1 e.2.2) empty

def remove (s : Store) (g k : String) : Store :=
  { s with get := fun g' k' => if g' = g ∧ k' = k then none else s.get g' k' }

def hasKey (s : Store) (g k : String) : Bool :=
  (s.get g k).isSome

def readKeyInt (s : Store) (g k : String) : Option Int :=
  match s.get g k with | some (.int v) => some v | _ => none

def readKeyUint (s : Store) (g k : String) : Option Nat :=
  match s.get g k with | some (.uint v) => some v | _ => none

def readKeyInt64 (s : Store) (g k : String) : Option Int :=
  match s.get g k with | some (.int64 v) => some v | _ => none

def readKeyUint64 (s : Store) (g k : String) : Option Nat :=
  match s.get g k with | some (.uint64 v) => some v | _ => none

def readKeyFloat (s : Store) (g k : String) : Option UInt32 :=
  match s.get g k with | some (.float v) => some v | _ => none

def readKeyBool (s : Store) (g k : String) : Option Bool :=
  match s.get g k with | some (.bool v) => some v | _ => none

def readKeyString (s : Store) (g k : String) : Option String :=
  match s.get g k with | some (.string v) => some v | _ => none

variable {s : Store} {g g' k k' : String} {v : Value}

@[simp] theorem get_write : (s.write g k v).get g' k' = if g' = g ∧ k' = k then some v else s.get g' k' :=
  rfl

@[simp] theorem get_remove : (s.remove g k).get g' k' = if g' = g ∧ k' = k then none else s.get g' k' :=
  rfl

theorem get_ite {c : Prop} [Decidable c] {s₁ s₂ : Store} :
    (if c then s₁ else s₂).get g k = if c then s₁.get g k else s₂.get g k := by
  split <;> rfl

@[simp] theorem groups_remove : (s.remove g k).groups = s.groups :=
  rfl

theorem groups_write_of_mem (h : g ∈ s.groups) : (s.write g k v).groups = s.groups :=
  if_pos h

theorem mem_groups_write : g' ∈ s.groups → g' ∈ (s.write g k v).groups := by
  intro h; unfold write; split <;> simp [h]

theorem get_write_of_ne (h : g' ≠ g ∨ k' ≠ k) : (s.write g k v).get g' k' = s.get g' k' := by
  rcases h with h | h <;> simp [h]

theorem get_remove_of_ne (h : g' ≠ g ∨ k' ≠ k) : (s.remove g k).get g' k' = s.get g' k' := by
  rcases h with h | h <;> simp [h]

theorem readKeyInt_congr {s' : Store} (h : s'.get g k = s.get g k) : s'.readKeyInt g k = s.readKeyInt g k := by
  simp [readKeyInt, h]

theorem readKeyString_congr {s' : Store} (h : s'.get g k = s.get g k) :
    s'.readKeyString g k = s.readKeyString g k := by
  simp [readKeyString, h]

@[simp] theorem readKeyInt_write_self : (s.write g k (.int i)).readKeyInt g k = some i := by
  simp [readKeyInt]

@[simp] theorem readKeyString_write_self : (s.write g k (.string x)).readKeyString g k = some x := by
  simp [readKeyString]

end Store
end VirtualThing
