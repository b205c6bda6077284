import Mathlib.Data.List.Basic
import Mathlib.Data.List.Induction
import RouterApi.Assoc

/-!
# Association lists

What becomes of the entries of a map when keys are set and removed, and what a map is that is made
of a list of entries: each key has the last value that the list gives it.
-/

namespace RouterApi
namespace Assoc

variable {α β γ : Type} [BEq α] {key : α} {value : β} {entry : α × β} {map : Assoc α β}

/-! ## Entries -/

theorem mem_of_get?_eq_some
    [LawfulBEq α]
    (found : get? key map = some value) :
    (key, value) ∈ map := by
  induction map with
  | nil => contradiction
  | cons entry rest inductionHypothesis =>
      obtain ⟨other, kept⟩ := entry
      unfold get? at found
      split at found
      · rename_i same
        cases found
        rw [eq_of_beq same]
        exact List.mem_cons_self
      · exact List.mem_cons_of_mem _ (inductionHypothesis found)

theorem get?_eq_some_of_mem
    [LawfulBEq α]
    (distinct : (keys map).Nodup)
    (member : (key, value) ∈ map) :
    get? key map = some value := by
  induction map with
  | nil => contradiction
  | cons entry rest inductionHypothesis =>
      obtain ⟨other, kept⟩ := entry
      obtain ⟨absent, distinctRest⟩ := List.nodup_cons.mp distinct
      rcases List.mem_cons.mp member with same | later
      · cases same
        simp [get?]
      · have different : (other == key) = false := by
          refine beq_eq_false_iff_ne.mpr fun same => absent ?_
          exact List.mem_map.mpr ⟨(key, value), later, same.symm⟩
        simp only [get?, different]
        exact inductionHypothesis distinctRest later

theorem erase_sublist
    (key : α)
    (map : Assoc α β) :
    (erase key map).Sublist map := by
  induction map with
  | nil => exact .refl _
  | cons entry rest inductionHypothesis =>
      obtain ⟨other, value⟩ := entry
      unfold erase
      split
      · exact List.sublist_cons_self _ _
      · exact inductionHypothesis.cons_cons _

theorem mem_of_mem_erase (member : entry ∈ erase key map) : entry ∈ map :=
  (erase_sublist key map).subset member

/-- A new key is set at the end. -/
theorem set_of_get?_eq_none
    (absent : get? key map = none)
    (value : β) :
    set key value map = map ++ [(key, value)] := by
  induction map with
  | nil => rfl
  | cons entry rest inductionHypothesis =>
      obtain ⟨other, old⟩ := entry
      unfold get? at absent
      unfold set
      split at absent
      · cases absent
      · rename_i different
        rw [if_neg different, inductionHypothesis absent]
        rfl

/-- An entry after a key has been set was there before, or has the new value. -/
theorem mem_or_eq_of_mem_set (member : entry ∈ set key value map) :
    entry ∈ map ∨ entry.2 = value := by
  induction map with
  | nil =>
      rw [set, List.mem_singleton] at member
      exact .inr (congrArg Prod.snd member)
  | cons first rest inductionHypothesis =>
      obtain ⟨other, kept⟩ := first
      unfold set at member
      split at member
      · rcases List.mem_cons.mp member with rfl | member
        · exact .inr rfl
        · exact .inl (List.mem_cons_of_mem _ member)
      · rcases List.mem_cons.mp member with rfl | member
        · exact .inl List.mem_cons_self
        · exact (inductionHypothesis member).imp_left (List.mem_cons_of_mem _)

theorem mem_keys_set_iff
    [LawfulBEq α]
    {other : α} :
    other ∈ keys (set key value map) ↔ other ∈ keys map ∨ other = key := by
  by_cases present : key ∈ keys map
  · rw [keys_set_of_mem value present]
    exact (or_iff_left_of_imp fun same => same ▸ present).symm
  · rw [keys_set_of_not_mem value present, List.mem_append, List.mem_singleton]

theorem get?_map
    (change : β → γ)
    (map : Assoc α β) :
    get? key (map.map fun (other, value) => (other, change value)) = (get? key map).map change := by
  induction map with
  | nil => rfl
  | cons entry rest inductionHypothesis =>
      obtain ⟨other, value⟩ := entry
      simp only [List.map_cons, get?]
      split
      · rfl
      · exact inductionHypothesis

/-! ## Maps made of lists -/

theorem ofList_concat (entries : List (α × β)) (key : α) (value : β) :
    ofList (entries ++ [(key, value)]) = set key value (ofList entries) := by
  rw [ofList, List.foldl_append]
  rfl

/-- The value of a key is the last that the list gives it. -/
theorem get?_ofList
    [LawfulBEq α]
    (key : α)
    (entries : List (α × β)) :
    get? key (ofList entries) = ((entries.filter (·.1 == key)).getLast?).map Prod.snd := by
  induction entries using List.reverseRecOn with
  | nil => rfl
  | append_singleton earlier last inductionHypothesis =>
      obtain ⟨other, value⟩ := last
      rw [List.filter_append, ofList_concat]
      by_cases same : other = key
      · subst same
        rw [get?_set_self, List.filter_singleton, beq_self_eq_true, cond_true,
          List.getLast?_concat]
        rfl
      · rw [get?_set_of_ne (Ne.symm same), inductionHypothesis, List.filter_singleton,
          beq_eq_false_iff_ne.mpr same, cond_false, List.append_nil]

/-- Only the entries of a key count for its value. -/
theorem get?_ofList_filter
    [LawfulBEq α]
    (key : α)
    (entries : List (α × β)) :
    get? key (ofList (entries.filter (·.1 == key))) = get? key (ofList entries) := by
  rw [get?_ofList, get?_ofList, List.filter_filter]
  simp only [Bool.and_self]

/-- The keys are those of the list. -/
theorem mem_keys_ofList_iff
    [LawfulBEq α]
    {entries : List (α × β)} :
    key ∈ keys (ofList entries) ↔ key ∈ entries.map Prod.fst := by
  induction entries using List.reverseRecOn with
  | nil => rfl
  | append_singleton earlier last inductionHypothesis =>
      rw [ofList_concat, mem_keys_set_iff, inductionHypothesis, List.map_append, List.mem_append,
        List.map_singleton, List.mem_singleton]

theorem nodup_keys_ofList
    [LawfulBEq α]
    (entries : List (α × β)) :
    (keys (ofList entries)).Nodup := by
  induction entries using List.reverseRecOn with
  | nil => exact List.nodup_nil
  | append_singleton earlier last inductionHypothesis =>
      rw [ofList_concat]
      exact nodup_keys_set inductionHypothesis _ _

end Assoc
end RouterApi
