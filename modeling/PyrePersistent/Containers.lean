import Mathlib.Data.List.Nodup
import Mathlib.Data.List.Perm.Basic

namespace PyrePersistent.Containers

/-- An entry of CPython's set table: never used, a `dummy` left where a key was removed, or
a key. -/
inductive Slot (α : Type) where
  | empty
  | dummy
  | active (key : α)

namespace Slot

variable {α : Type}

def key? : Slot α → Option α
  | active a => some a
  | _ => none

def keys (table : List (Slot α)) : List α := table.filterMap key?

@[simp] theorem keys_nil : keys ([] : List (Slot α)) = [] := rfl

@[simp] theorem keys_active (a : α) (table : List (Slot α)) :
    keys (active a :: table) = a :: keys table := rfl

@[simp] theorem keys_empty (table : List (Slot α)) : keys (empty :: table) = keys table := rfl

@[simp] theorem keys_dummy (table : List (Slot α)) : keys (dummy :: table) = keys table := rfl

/-- The first key of `table`, with the number of slots up to and including its own:
`setiter_iternext` passes over the slots that hold no key. -/
def firstKey : List (Slot α) → Option (α × Nat)
  | [] => none
  | active a :: _ => some (a, 1)
  | _ :: rest => (firstKey rest).map fun found => (found.1, found.2 + 1)

theorem firstKey_of_keys_nil : ∀ {table : List (Slot α)}, keys table = [] → firstKey table = none
  | [], _ => rfl
  | empty :: rest, h | dummy :: rest, h => by
    simp only [firstKey, firstKey_of_keys_nil (by simpa using h), Option.map_none']
  | active _ :: _, h => nomatch h

theorem firstKey_of_keys_cons {a : α} {rest : List α} : ∀ {table : List (Slot α)},
    keys table = a :: rest → ∃ n, firstKey table = some (a, n) ∧ keys (table.drop n) = rest
  | [], h => nomatch h
  | active b :: table, h => by
    obtain ⟨rfl, rfl⟩ := List.cons.inj h
    exact ⟨1, rfl, rfl⟩
  | empty :: table, h | dummy :: table, h => by
    obtain ⟨n, hn, hd⟩ := @firstKey_of_keys_cons a rest table (by simpa using h)
    exact ⟨n + 1, by simp [firstKey, hn], hd⟩

def firstFree : List (Slot α) → α → List (Slot α)
  | [], a => [active a]
  | active b :: rest, a => active b :: firstFree rest a
  | _ :: rest, a => active a :: rest

theorem keys_firstFree (a : α) : ∀ table : List (Slot α),
    (keys (firstFree table a)).Perm (keys table ++ [a])
  | [] => List.Perm.refl _
  | active b :: rest => (keys_firstFree a rest).cons b
  | empty :: rest | dummy :: rest => (List.perm_append_singleton a (keys rest)).symm

variable [DecidableEq α]

def discard (a : α) : Slot α → Slot α
  | active b => if b = a then dummy else active b
  | x => x

theorem keys_map_discard (a : α) : ∀ table : List (Slot α),
    keys (table.map (discard a)) = (keys table).filter fun b => b != a
  | [] => rfl
  | empty :: rest | dummy :: rest => keys_map_discard a rest
  | active b :: rest => by
    by_cases hb : b = a <;> simp [discard, hb, keys_map_discard a rest]

end Slot

/-- Where `set_add_entry` stores a key the table does not hold. CPython takes the slot from the
key's hash and its probe sequence, and `set_table_resize` rebuilds a table that fills up in a
new order; neither is modelled, so a placement is any rearrangement that keeps the other keys
and adds the new one. -/
structure Placement (α : Type) where
  place : List (Slot α) → α → List (Slot α)
  keys_place : ∀ table a, a ∉ Slot.keys table → (Slot.keys (place table a)).Perm (Slot.keys table ++ [a])

def Placement.firstFree {α : Type} : Placement α := ⟨Slot.firstFree, fun t a _ => Slot.keys_firstFree a t⟩

/-- A Python `set`: its table of slots and the placement its hash gives to new keys, no key
twice. -/
structure PySet (α : Type) where
  table : List (Slot α)
  placement : Placement α
  nodup : (Slot.keys table).Nodup

namespace PySet

variable {α : Type}

/-- `set()`: the `PySet_MINSIZE` slots of a new table, none used. -/
def empty : PySet α := ⟨List.replicate 8 .empty, .firstFree, List.nodup_nil⟩

def elems (s : PySet α) : List α := Slot.keys s.table

instance : Membership α (PySet α) := ⟨fun s a => a ∈ s.elems⟩

def size (s : PySet α) : Nat := s.elems.length

theorem mem_def (a : α) (s : PySet α) : a ∈ s ↔ a ∈ s.elems := Iff.rfl

theorem nodup_elems (s : PySet α) : s.elems.Nodup := s.nodup

@[simp] theorem not_mem_empty (a : α) : ¬ a ∈ (empty : PySet α) := List.not_mem_nil a

variable [DecidableEq α]

instance (a : α) (s : PySet α) : Decidable (a ∈ s) := inferInstanceAs (Decidable (a ∈ s.elems))

def add (s : PySet α) (a : α) : PySet α :=
  if h : a ∈ s.elems then s
  else ⟨s.placement.place s.table a, s.placement, (s.placement.keys_place _ _ h).nodup_iff.mpr
    (List.concat_eq_append s.elems a ▸ s.nodup.concat h)⟩

/-- `s.remove(a)`, with `none` where Python raises `KeyError`. -/
def remove (s : PySet α) (a : α) : Option (PySet α) :=
  if a ∈ s.elems then
    some ⟨s.table.map (Slot.discard a), s.placement, by
      rw [Slot.keys_map_discard]
      exact s.nodup.filter _⟩
  else none

theorem elems_add_perm {s : PySet α} {a : α} (h : a ∉ s) : (s.add a).elems.Perm (s.elems ++ [a]) := by
  rw [add, dif_neg (show a ∉ s.elems from h)]
  exact s.placement.keys_place _ _ h

@[simp] theorem mem_add (s : PySet α) (a b : α) : b ∈ s.add a ↔ b ∈ s ∨ b = a := by
  by_cases h : a ∈ s
  · simp only [add, dif_pos (show a ∈ s.elems from h), iff_self_or]
    rintro rfl
    exact h
  · simp [mem_def, (elems_add_perm h).mem_iff]

theorem size_add (s : PySet α) (a : α) :
    (s.add a).size = if a ∈ s then s.size else s.size + 1 := by
  by_cases h : a ∈ s
  · simp [add, dif_pos (show a ∈ s.elems from h), h]
  · simp [size, (elems_add_perm h).length_eq, h]

theorem remove_of_mem {s : PySet α} {a : α} (h : a ∈ s) : ∃ t, s.remove a = some t :=
  ⟨_, if_pos h⟩

theorem remove_spec {s t : PySet α} {a : α} (h : s.remove a = some t) :
    a ∈ s ∧ t.elems = s.elems.erase a := by
  unfold remove at h
  split at h
  · cases h
    exact ⟨‹_›, (Slot.keys_map_discard a s.table).trans (s.nodup_elems.erase_eq_filter a).symm⟩
  · cases h

theorem mem_of_remove {s t : PySet α} {a : α} (h : s.remove a = some t) (b : α) :
    b ∈ t ↔ b ∈ s ∧ b ≠ a := by
  obtain ⟨-, ht⟩ := remove_spec h
  rw [mem_def, ht, s.nodup_elems.mem_erase_iff, mem_def]
  exact and_comm

theorem size_remove {s t : PySet α} {a : α} (h : s.remove a = some t) : t.size + 1 = s.size := by
  obtain ⟨ha, ht⟩ := remove_spec h
  unfold size
  rw [ht, List.length_erase_of_mem ha]
  exact Nat.sub_add_cancel (List.length_pos_of_mem ha)

end PySet

/-- A Python `dict`: its items in insertion order, no key twice. -/
structure PyDict (K V : Type) where
  items : List (K × V)
  nodup : (items.map Prod.fst).Nodup

namespace PyDict

variable {K V : Type}

def empty : PyDict K V := ⟨[], List.nodup_nil⟩

def keys (d : PyDict K V) : List K := d.items.map Prod.fst

def values (d : PyDict K V) : List V := d.items.map Prod.snd

instance : Membership K (PyDict K V) := ⟨fun d k => k ∈ d.keys⟩

theorem mem_def (k : K) (d : PyDict K V) : k ∈ d ↔ k ∈ d.keys := Iff.rfl

@[simp] theorem not_mem_empty (k : K) : ¬ k ∈ (empty : PyDict K V) := List.not_mem_nil k

variable [DecidableEq K]

instance (k : K) (d : PyDict K V) : Decidable (k ∈ d) := inferInstanceAs (Decidable (k ∈ d.keys))

def get (d : PyDict K V) (k : K) : Option V := d.items.lookup k

def setdefault (d : PyDict K V) (k : K) (v : V) : PyDict K V :=
  if h : k ∈ d.keys then d
  else ⟨d.items ++ [(k, v)], by
    simpa only [List.map_append, List.map_cons, List.map_nil, List.concat_eq_append]
      using d.nodup.concat h⟩

def modifyItem (k : K) (f : V → V) (kv : K × V) : K × V :=
  if kv.1 = k then (kv.1, f kv.2) else kv

@[simp] theorem modifyItem_fst (k : K) (f : V → V) (kv : K × V) : (modifyItem k f kv).1 = kv.1 := by
  unfold modifyItem
  split <;> rfl

theorem map_fst_modifyItem (k : K) (f : V → V) (items : List (K × V)) :
    (items.map (modifyItem k f)).map Prod.fst = items.map Prod.fst := by
  simp [List.map_map, Function.comp_def]

def modify (d : PyDict K V) (k : K) (f : V → V) : PyDict K V :=
  ⟨d.items.map (modifyItem k f), (map_fst_modifyItem k f d.items).symm ▸ d.nodup⟩

@[simp] theorem get_empty (k : K) : (empty : PyDict K V).get k = none := rfl

theorem get_eq_none (d : PyDict K V) (k : K) : d.get k = none ↔ k ∉ d := by
  simp only [get, List.lookup_eq_none_iff, bne_iff_ne, mem_def, keys, List.mem_map, not_exists,
    not_and]
  exact forall₂_congr fun _ _ => ne_comm

theorem get_isSome (d : PyDict K V) (k : K) : (d.get k).isSome ↔ k ∈ d := by
  rw [← Option.ne_none_iff_isSome, ne_eq, get_eq_none, not_not]

@[simp] theorem keys_modify (d : PyDict K V) (k : K) (f : V → V) : (d.modify k f).keys = d.keys :=
  map_fst_modifyItem k f d.items

@[simp] theorem mem_setdefault (d : PyDict K V) (k k' : K) (v : V) :
    k' ∈ d.setdefault k v ↔ k' ∈ d ∨ k' = k := by
  unfold setdefault
  split
  · simp only [iff_self_or]
    rintro rfl
    assumption
  · simp [mem_def, keys]

@[simp] theorem lookup_cons_of_ne {k k' : K} (h : k' ≠ k) (v : V) (items : List (K × V)) :
    ((k, v) :: items).lookup k' = items.lookup k' := by
  rw [List.lookup_cons, beq_false_of_ne h]

theorem lookup_map_modifyItem_self (k : K) (f : V → V) (items : List (K × V)) :
    (items.map (modifyItem k f)).lookup k = (items.lookup k).map f := by
  induction items with
  | nil => rfl
  | cons kv items ih =>
    obtain ⟨a, b⟩ := kv
    by_cases ha : a = k
    · subst ha
      simp [modifyItem]
    · simp [modifyItem, ha, Ne.symm ha, ih]

theorem lookup_map_modifyItem_of_ne {k k' : K} (h : k' ≠ k) (f : V → V) (items : List (K × V)) :
    (items.map (modifyItem k f)).lookup k' = items.lookup k' := by
  induction items with
  | nil => rfl
  | cons kv items ih =>
    obtain ⟨a, b⟩ := kv
    by_cases ha : k' = a
    · subst ha
      simp [modifyItem, h]
    · by_cases hk : a = k
      · subst hk
        simp [modifyItem, ha, ih]
      · simp [modifyItem, ha, hk, ih]

theorem get_modify (d : PyDict K V) (k k' : K) (f : V → V) :
    (d.modify k f).get k' = if k' = k then (d.get k).map f else d.get k' := by
  split
  · subst k'
    exact lookup_map_modifyItem_self k f d.items
  · exact lookup_map_modifyItem_of_ne ‹_› f d.items

theorem get_setdefault (d : PyDict K V) (k k' : K) (v : V) :
    (d.setdefault k v).get k' = if k' = k then some ((d.get k).getD v) else d.get k' := by
  unfold setdefault
  split
  · rename_i h
    obtain ⟨x, hx⟩ := Option.isSome_iff_exists.mp ((get_isSome d k).mpr h)
    split <;> simp_all
  · rename_i h
    have hk : d.get k = none := (get_eq_none d k).mpr h
    simp only [get] at hk ⊢
    rw [List.lookup_append, hk]
    by_cases hk' : k' = k
    · simp [hk', hk]
    · simp [hk']

/-- `d[k] = v`, as `{**d, k: v}` builds it: a key already there keeps its place. -/
def insert (d : PyDict K V) (k : K) (v : V) : PyDict K V :=
  if k ∈ d then d.modify k fun _ => v else d.setdefault k v

theorem get_insert (d : PyDict K V) (k k' : K) (v : V) :
    (d.insert k v).get k' = if k' = k then some v else d.get k' := by
  unfold insert
  split
  · rw [get_modify]
    obtain ⟨x, hx⟩ := Option.isSome_iff_exists.mp ((get_isSome d k).mpr ‹_›)
    simp [hx]
  · rw [get_setdefault, (get_eq_none d k).mpr ‹_›]
    rfl

theorem map_modifyItem_of_not_mem {k : K} (f : V → V) {items : List (K × V)}
    (h : k ∉ items.map Prod.fst) : items.map (modifyItem k f) = items := by
  refine (List.map_congr_left fun kv hkv => ?_).trans (List.map_id items)
  have hne : kv.1 ≠ k := fun he => h (List.mem_map.mpr ⟨kv, hkv, he⟩)
  simp [modifyItem, hne]

theorem join_map_modifyItem_append {W : Type} {k : K} (x : W) :
    ∀ {items : List (K × List W)}, (items.map Prod.fst).Nodup → k ∈ items.map Prod.fst →
      ((items.map (modifyItem k (· ++ [x]))).map Prod.snd).flatten.Perm
        ((items.map Prod.snd).flatten ++ [x])
  | [], _, hk => absurd hk (List.not_mem_nil k)
  | (a, v) :: rest, hnd, hk => by
    rw [List.map_cons, List.nodup_cons] at hnd
    by_cases ha : a = k
    · subst ha
      rw [List.map_cons, modifyItem, if_pos rfl, map_modifyItem_of_not_mem _ hnd.1]
      simpa only [List.map_cons, List.flatten_cons, List.append_assoc] using
        List.perm_append_comm.append_left v
    · have hk' : k ∈ rest.map Prod.fst := by
        simpa [Ne.symm ha] using hk
      rw [List.map_cons, modifyItem, if_neg ha]
      simpa only [List.map_cons, List.flatten_cons, List.append_assoc] using
        (join_map_modifyItem_append x hnd.2 hk').append_left v

end PyDict

end PyrePersistent.Containers
