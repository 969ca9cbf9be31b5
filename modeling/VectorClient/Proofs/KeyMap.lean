import Mathlib.Data.String.Basic
import VectorClient.KeyMap

/-!
# Entries of maps

Putting an entry into a map changes what is found under its key and under no other, and leaves the
keys in ascending order.
-/

namespace VectorClient.KeyMap

variable {α : Type} {key name : String} {value : α} {m : KeyMap α}

theorem contains_iff : m.contains name = true ↔ name ∈ m.keys := by
  induction m with
  | nil => simp [contains, find?, keys]
  | cons entry rest ih =>
    obtain ⟨key, value⟩ := entry
    unfold contains at ih ⊢
    rw [find?, keys, List.map_cons, List.mem_cons]
    split
    · rename_i same
      exact ⟨fun _ => .inl same.symm, fun _ => rfl⟩
    · rename_i differs
      rw [ih]
      exact ⟨.inr, fun member => member.resolve_left (Ne.symm differs)⟩

theorem mem_of_find? (found : m.find? name = some value) : (name, value) ∈ m := by
  induction m with
  | nil => cases found
  | cons entry rest ih =>
    obtain ⟨k, v⟩ := entry
    rw [find?] at found
    split at found
    · rename_i same
      subst same
      obtain rfl := Option.some.inj found
      exact List.mem_cons_self
    · exact List.mem_cons_of_mem _ (ih found)

theorem Ordered.find?_of_mem (ordered : m.Ordered) {e : String × α} (member : e ∈ m) :
    m.find? e.1 = some e.2 := by
  induction m with
  | nil => cases member
  | cons entry rest ih =>
    obtain ⟨k, v⟩ := entry
    obtain ⟨first, others⟩ := List.pairwise_cons.mp ordered
    rw [find?]
    obtain rfl | later := List.mem_cons.mp member
    · exact if_pos rfl
    · rw [if_neg (ne_of_lt (first e later)), ih others later]

theorem find?_insert : (m.insert key value).find? name =
    if name = key then some value else m.find? name := by
  induction m with
  | nil => simp only [insert, find?, eq_comm]
  | cons entry rest ih =>
    obtain ⟨k, v⟩ := entry
    rw [insert]
    split
    · simp only [find?, eq_comm]
    · split
      · rename_i same
        subst same
        by_cases here : name = key
        · simp [find?, here]
        · simp [find?, here, Ne.symm here]
      · rename_i differs
        rw [find?, ih, find?]
        by_cases here : name = key
        · subst here
          simp [Ne.symm differs]
        · simp [here]

theorem mem_keys_insert : name ∈ (m.insert key value).keys ↔ name = key ∨ name ∈ m.keys := by
  simp only [← contains_iff, contains, find?_insert]
  split
  · rename_i here
    simp [here]
  · rename_i elsewhere
    simp [elsewhere]

theorem Ordered.insert (ordered : m.Ordered) : (m.insert key value).Ordered := by
  induction m with
  | nil => exact List.pairwise_singleton _ _
  | cons entry rest ih =>
    obtain ⟨k, v⟩ := entry
    obtain ⟨first, others⟩ := List.pairwise_cons.mp ordered
    rw [KeyMap.insert]
    split
    · rename_i before
      refine List.pairwise_cons.mpr ⟨?_, ordered⟩
      intro e member
      obtain rfl | later := List.mem_cons.mp member
      · exact before
      · exact lt_trans before (first e later)
    · split
      · rename_i same
        subst same
        exact List.pairwise_cons.mpr ⟨first, others⟩
      · rename_i not_before differs
        have after : k < key := lt_of_le_of_ne (not_lt.mp not_before) (Ne.symm differs)
        refine List.pairwise_cons.mpr ⟨?_, ih others⟩
        intro e member
        have listed : e.1 ∈ (KeyMap.insert key value rest).keys := List.mem_map_of_mem member
        obtain same | old := mem_keys_insert.mp listed
        · rwa [same]
        · obtain ⟨e', member', same⟩ := List.mem_map.mp old
          rw [← same]
          exact first e' member'

theorem Ordered.nodup_keys (ordered : m.Ordered) : m.keys.Nodup := by
  refine List.pairwise_map.mpr (ordered.imp ?_)
  intro first second before
  exact ne_of_lt before

theorem Ordered.of_keys {β : Type} {m' : KeyMap β} (ordered : m.Ordered) (same : m'.keys = m.keys) :
    m'.Ordered := by
  have ascending : m.keys.Pairwise (· < ·) := List.pairwise_map.mpr ordered
  rw [← same] at ascending
  exact List.pairwise_map.mp ascending

theorem Ordered.names_filterMap {β : Type} {f : String × α → Option β} {nameOf : β → String}
    (ordered : m.Ordered) (named : ∀ e b, f e = some b → nameOf b = e.1) :
    ((m.filterMap f).map nameOf).Pairwise (· < ·) := by
  rw [List.pairwise_map, List.pairwise_filterMap]
  refine ordered.imp fun before first made second made' => ?_
  rw [named _ _ made, named _ _ made']
  exact before

/-- An entry behind all others is put at the end. -/
theorem insert_of_last (before : ∀ e ∈ m, e.1 < key) :
    m.insert key value = m ++ [(key, value)] := by
  induction m with
  | nil => rfl
  | cons entry rest ih =>
    obtain ⟨k, v⟩ := entry
    obtain ⟨first, others⟩ := List.forall_mem_cons.mp before
    rw [insert, if_neg (lt_asymm first), if_neg (ne_of_gt first), ih others]
    rfl

theorem before_of_ordered {e : String × α} {later : KeyMap α}
    (ordered : (m ++ [e] ++ later).Ordered) : ∀ d ∈ m, d.1 < e.1 := by
  have front := (List.pairwise_append.mp ordered).1
  intro d member
  exact (List.pairwise_append.mp front).2.2 d member e (List.mem_singleton_self e)

/-! ### Maps of lists of entries -/

theorem ofList_induction {P : KeyMap α → Prop} {entries : List (String × α)} (empty : P [])
    (step : ∀ e ∈ entries, ∀ m, P m → P (m.insert e.1 e.2)) : P (ofList entries) := by
  unfold ofList
  generalize [] = m at empty
  induction entries generalizing m with
  | nil => exact empty
  | cons e rest ih =>
    exact ih (fun e' member => step e' (List.mem_cons_of_mem _ member)) _
      (step e List.mem_cons_self m empty)

theorem ordered_ofList (entries : List (String × α)) : (ofList entries).Ordered :=
  ofList_induction .nil fun _ _ _ ordered => ordered.insert

theorem mem_of_mem_insert {e : String × α} (member : e ∈ m.insert key value) :
    e = (key, value) ∨ e ∈ m := by
  induction m with
  | nil => exact .inl (List.mem_singleton.mp member)
  | cons entry rest ih =>
    obtain ⟨k, v⟩ := entry
    rw [insert] at member
    split at member
    · exact List.mem_cons.mp member
    · split at member
      · exact (List.mem_cons.mp member).imp_right (List.mem_cons_of_mem _)
      · obtain rfl | later := List.mem_cons.mp member
        · exact .inr List.mem_cons_self
        · exact (ih later).imp_right (List.mem_cons_of_mem _)

theorem mem_of_mem_ofList {entries : List (String × α)} :
    ∀ e ∈ ofList entries, e ∈ entries := by
  refine ofList_induction (P := fun m => ∀ e ∈ m, e ∈ entries) (fun _ => nofun) ?_
  intro e listed m inside e' member
  obtain rfl | old := mem_of_mem_insert member
  · exact listed
  · exact inside e' old

theorem foldl_insert_of_ordered {before : KeyMap α} (ordered : (before ++ m).Ordered) :
    m.foldl (fun m (e : String × α) => m.insert e.1 e.2) before = before ++ m := by
  induction m generalizing before with
  | nil => exact (List.append_nil before).symm
  | cons e rest ih =>
    rw [List.append_cons] at ordered ⊢
    rw [List.foldl_cons, insert_of_last (before_of_ordered ordered), ih ordered]

theorem Ordered.ofList_eq (ordered : m.Ordered) : ofList m = m :=
  foldl_insert_of_ordered ordered

end VectorClient.KeyMap
