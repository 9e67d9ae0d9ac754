/-!
# Finite stores

A store gives each key at most one value. Writing replaces, erasing forgets, and a look-up sees
exactly the last write; the four lemmas are all that anything else needs to know.
-/

namespace JavaInterop

/-- Values kept under keys. -/
structure Store (key value : Type) where
  entries : List (key × value) := []

namespace Store

variable {key value : Type} [DecidableEq key]

/-- A store with nothing in it. -/
def empty : Store key value := ⟨[]⟩

/-- The value under a key. -/
def find? (store : Store key value) (wanted : key) : Option value :=
  (store.entries.find? fun entry => entry.1 = wanted).map Prod.snd

/-- Forgets a key. -/
def erase (store : Store key value) (gone : key) : Store key value :=
  ⟨store.entries.filter fun entry => entry.1 ≠ gone⟩

/-- Puts a value under a key, in place of any older one. -/
def insert (store : Store key value) (place : key) (stored : value) : Store key value :=
  ⟨(place, stored) :: (store.erase place).entries⟩

/-- The keys in use. -/
def keys (store : Store key value) : List key := store.entries.map Prod.fst

/-- The values in use. -/
def values (store : Store key value) : List value := store.entries.map Prod.snd

@[simp] theorem find?_empty (wanted : key) : (empty : Store key value).find? wanted = none := rfl

@[simp] theorem find?_erase_self (store : Store key value) (gone : key) :
    (store.erase gone).find? gone = none := by
  simp [find?, erase, List.find?_filter]

theorem find?_erase_of_ne (store : Store key value) {gone wanted : key} (h : wanted ≠ gone) :
    (store.erase gone).find? wanted = store.find? wanted := by
  unfold find? erase
  rw [List.find?_filter]
  congr 2
  funext entry
  by_cases heq : entry.1 = wanted
  · simp [heq, h]
  · simp [heq]

@[simp] theorem find?_insert_self (store : Store key value) (place : key) (stored : value) :
    (store.insert place stored).find? place = some stored := by
  simp [find?, insert]

theorem find?_insert_of_ne (store : Store key value) {place wanted : key} (stored : value)
    (h : wanted ≠ place) : (store.insert place stored).find? wanted = store.find? wanted := by
  rw [← find?_erase_of_ne store h]
  simp [find?, insert, Ne.symm h]

end Store

end JavaInterop
