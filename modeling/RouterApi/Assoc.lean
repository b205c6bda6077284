/-!
# Association lists

A finite map which keeps its keys in the order in which they were first set.
-/

namespace RouterApi

/-- A finite map as the list of its entries, in the order in which the keys were first set. -/
abbrev Assoc (α β : Type) := List (α × β)

namespace Assoc

variable {α β : Type} [BEq α]

/-- The value of a key. -/
def get? (key : α) : Assoc α β → Option β
  | [] => none
  | (other, value) :: rest => if other == key then some value else get? key rest

/-- Set the value of a key: in its place if it has one, else at the end. -/
def set (key : α) (value : β) : Assoc α β → Assoc α β
  | [] => [(key, value)]
  | (other, old) :: rest =>
      if other == key then (other, value) :: rest else (other, old) :: set key value rest

/-- Remove a key. -/
def erase (key : α) : Assoc α β → Assoc α β
  | [] => []
  | (other, value) :: rest => if other == key then rest else (other, value) :: erase key rest

/-- The map that results from setting the entries one after the other. -/
def ofList (entries : List (α × β)) : Assoc α β :=
  entries.foldl (fun map entry => set entry.1 entry.2 map) []

/-- The keys in order. -/
def keys (map : Assoc α β) : List α :=
  map.map Prod.fst

@[simp] theorem get?_nil (key : α) : get? key ([] : Assoc α β) = none := rfl

theorem get?_set_self [LawfulBEq α] (key : α) (value : β) (map : Assoc α β) :
    get? key (set key value map) = some value := by
  induction map with
  | nil => simp [set, get?]
  | cons entry rest inductionHypothesis =>
      by_cases same : entry.1 == key <;> simp [set, get?, same, inductionHypothesis]

theorem get?_set_of_ne [LawfulBEq α] {key other : α} (distinct : other ≠ key) (value : β)
    (map : Assoc α β) : get? other (set key value map) = get? other map := by
  induction map with
  | nil => simp [set, get?, Ne.symm distinct]
  | cons entry rest inductionHypothesis =>
      by_cases same : entry.1 == key
      · have : entry.1 ≠ other := fun equal => distinct (by rw [← equal]; exact eq_of_beq same)
        simp [set, get?, same, this]
      · simp [set, get?, same, inductionHypothesis]

theorem get?_eq_none_iff [LawfulBEq α] (key : α) (map : Assoc α β) :
    get? key map = none ↔ key ∉ keys map := by
  induction map with
  | nil => simp [keys]
  | cons entry rest inductionHypothesis =>
      by_cases same : entry.1 == key
      · simp [get?, keys, eq_of_beq same]
      · have : key ≠ entry.1 := fun equal => same (by simp [equal])
        simpa [get?, keys, same, this] using inductionHypothesis

/-- A new key goes to the end. -/
theorem keys_set_of_not_mem [LawfulBEq α] {key : α} (value : β) {map : Assoc α β}
    (absent : key ∉ keys map) : keys (set key value map) = keys map ++ [key] := by
  induction map with
  | nil => rfl
  | cons entry rest inductionHypothesis =>
      simp only [keys, List.map_cons, List.mem_cons, not_or] at absent
      have distinct : (entry.1 == key) = false := by simpa using Ne.symm absent.1
      simpa [set, distinct, keys] using inductionHypothesis absent.2

/-- A key that is set again keeps its place. -/
theorem keys_set_of_mem [LawfulBEq α] {key : α} (value : β) {map : Assoc α β}
    (present : key ∈ keys map) : keys (set key value map) = keys map := by
  induction map with
  | nil => simp [keys] at present
  | cons entry rest inductionHypothesis =>
      by_cases same : entry.1 == key
      · simp [set, same, keys]
      · have distinct : key ≠ entry.1 := fun equal => same (by simp [equal])
        have later : key ∈ keys rest := by simpa [keys, distinct] using present
        simpa [set, same, keys] using inductionHypothesis later

theorem keys_erase (key : α) (map : Assoc α β) : keys (erase key map) = (keys map).erase key := by
  induction map with
  | nil => rfl
  | cons entry rest inductionHypothesis =>
      by_cases same : entry.1 == key
      · simp [erase, keys, same, List.erase_cons]
      · simpa [erase, keys, same, List.erase_cons] using inductionHypothesis

theorem nodup_keys_set [LawfulBEq α] {map : Assoc α β} (distinct : (keys map).Nodup) (key : α)
    (value : β) : (keys (set key value map)).Nodup := by
  by_cases present : key ∈ keys map
  · rwa [keys_set_of_mem value present]
  · rw [keys_set_of_not_mem value present]
    refine List.nodup_append.mpr ⟨distinct, by simp, ?_⟩
    intro first firstMem second secondMem equal
    rw [equal, List.mem_singleton.mp secondMem] at firstMem
    exact present firstMem

theorem nodup_keys_erase [LawfulBEq α] {map : Assoc α β} (distinct : (keys map).Nodup)
    (key : α) : (keys (erase key map)).Nodup := by
  rw [keys_erase]
  exact distinct.erase key

theorem get?_erase_self [LawfulBEq α] {map : Assoc α β} (distinct : (keys map).Nodup)
    (key : α) : get? key (erase key map) = none := by
  rw [get?_eq_none_iff, keys_erase]
  exact fun mem => (distinct.mem_erase_iff.mp mem).1 rfl

theorem get?_erase_of_ne [LawfulBEq α] {key other : α} (distinct : other ≠ key)
    (map : Assoc α β) : get? other (erase key map) = get? other map := by
  induction map with
  | nil => rfl
  | cons entry rest inductionHypothesis =>
      by_cases same : entry.1 == key
      · have : (entry.1 == other) = false := by
          simpa [eq_of_beq same] using Ne.symm distinct
        simp [erase, get?, same, this]
      · simp [erase, get?, same, inductionHypothesis]

end Assoc
end RouterApi
