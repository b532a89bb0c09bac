import PipeQuery.Pipeline
import Mathlib.Data.List.Nodup

/-!
# The catalog is an insertion-ordered map

The catalog (`Catalog`, served by `Catalog.serve`) stands for an `OrderedMap`: keys in the order
first added, never repeated. From empty, the same requests get the same replies from both, and
`new_cache` stores as a `set` request does (`catalog_serves_ordered_map`). The invariant
`Catalog.Represents`, kept by every request (`serve_represents`), makes the names distinct.
-/

namespace PipeQuery

/-- A finite map from names that keeps its keys in the order they were added. -/
structure OrderedMap (α : Type) where
  keys : List String
  val : String → Option α
  nodup : keys.Nodup
  mem_keys : ∀ n, n ∈ keys ↔ (val n).isSome

namespace OrderedMap

variable {α : Type}

def empty : OrderedMap α := ⟨[], fun _ => none, List.nodup_nil, by simp⟩

/-- Stores `v` under `n`: a key already there keeps its place, a new one goes last. -/
def insert (m : OrderedMap α) (n : String) (v : α) : OrderedMap α where
  keys := if n ∈ m.keys then m.keys else m.keys ++ [n]
  val := Function.update m.val n (some v)
  nodup := by
    split
    · exact m.nodup
    · next hn => exact m.nodup.append (List.nodup_singleton n) (by simpa using hn)
  mem_keys k := by
    by_cases hk : k = n
    · subst hk
      split <;> simp_all
    · rw [Function.update_apply, if_neg hk, ← m.mem_keys]
      split <;> simp [hk]

def erase (m : OrderedMap α) (n : String) : OrderedMap α where
  keys := m.keys.erase n
  val := Function.update m.val n none
  nodup := m.nodup.erase n
  mem_keys k := by
    rw [m.nodup.mem_erase_iff, Function.update_apply]
    by_cases hk : k = n <;> simp [hk, m.mem_keys]

/-- Serves a request of the catalog's interface. -/
def serve (m : OrderedMap Table) : Catalog.Request → OrderedMap Table × Catalog.Reply
  | .set n t => (m.insert n t, .done)
  | .get n => (m, .table (m.val n))
  | .has n => (m, .flag (decide (n ∈ m.keys)))
  | .delete n => (m.erase n, .flag (decide (n ∈ m.keys)))
  | .list => (m, .names m.keys)
  | .clear => (empty, .done)

end OrderedMap

/-- The replies to requests served in turn from the state `s`. -/
def replies {σ : Type} (serve : σ → Catalog.Request → σ × Catalog.Reply) :
    σ → List Catalog.Request → List Catalog.Reply
  | _, [] => []
  | s, r :: rs => (serve s r).2 :: replies serve (serve s r).1 rs

namespace Catalog

/-- A catalog stands for a map: its names are the map's keys, in order, and each name finds the
key's value. -/
def Represents (c : Catalog) (m : OrderedMap Table) : Prop :=
  c.names = m.keys ∧ ∀ n, c.get? n = m.val n

variable {c : Catalog} {n k : String} {t : Table}

theorem get?_eq_find (c : Catalog) (n : String) :
    c.get? n = (c.entries.toList.find? (·.1 == n)).map (·.2) := by
  simp [get?]

theorem mem_names_iff : n ∈ c.names ↔ ∃ e ∈ c.entries.toList, e.1 = n := by
  simp [names]

theorem has_iff_mem_names : c.has n = true ↔ n ∈ c.names := by
  rw [has, ← Array.any_toList, List.any_eq_true, mem_names_iff]
  simp

theorem has_eq_decide : c.has n = decide (n ∈ c.names) :=
  Bool.eq_iff_iff.2 (by simpa using has_iff_mem_names)

/-- Storing under a name replaces the entry of that name in place, the names being distinct, or
adds an entry last. -/
theorem set_entries (hnd : c.names.Nodup) :
    (c.set n t).entries.toList = if n ∈ c.names then
      c.entries.toList.map (fun e => if e.1 = n then (n, t) else e)
    else c.entries.toList ++ [(n, t)] := by
  cases hi : c.entries.findIdx? (·.1 == n) with
  | none =>
    have hn : n ∉ c.names := by
      rw [mem_names_iff]
      rintro ⟨e, he, rfl⟩
      simpa using Array.findIdx?_eq_none_iff.1 hi e (Array.mem_toList_iff.1 he)
    simp [set, hi, hn]
  | some i =>
    obtain ⟨hlt, hat, -⟩ := Array.findIdx?_eq_some_iff_getElem.1 hi
    have hname : c.entries[i].1 = n := by simpa using hat
    have hn : n ∈ c.names := mem_names_iff.2 ⟨_, Array.getElem_mem_toList hlt, hname⟩
    simp only [set, hi, Array.set!_eq_setIfInBounds, Array.toList_setIfInBounds, if_pos hn]
    apply List.ext_getElem (by simp)
    intro j h₁ h₂
    have hj' : j < c.entries.size := by simpa using h₂
    rw [List.getElem_set, List.getElem_map]
    by_cases hj : i = j
    · subst hj
      simp [hname]
    · -- another entry has another name, the names being distinct
      have hne : c.entries[j].1 ≠ n := by
        intro h
        have hin : i < c.names.length := by simpa [names] using hlt
        have hjn : j < c.names.length := by simpa [names] using hj'
        have hsame : c.names[j] = c.names[i] := by simp [names, h, hname]
        exact hj ((List.Nodup.getElem_inj_iff hnd).1 hsame).symm
      simp [hj, hne]

theorem delete_entries : (c.delete n).1.entries.toList = c.entries.toList.filter (·.1 != n) := by
  by_cases hn : c.has n = true
  · simp [delete, hn]
  · -- nothing is named `n`, so the filter keeps every entry
    have hall : ∀ e ∈ c.entries.toList, (e.1 != n) = true := by
      intro e he
      have : e.1 ≠ n := fun h => hn (has_iff_mem_names.2 (mem_names_iff.2 ⟨e, he, h⟩))
      simpa using this
    simp [delete, hn, List.filter_eq_self.2 hall]

theorem delete_flag : (c.delete n).2 = c.has n := by
  by_cases hn : c.has n = true <;> simp [delete, hn]

/-! ### What the requests do to names and lookups -/

theorem names_set (hnd : c.names.Nodup) :
    (c.set n t).names = if n ∈ c.names then c.names else c.names ++ [n] := by
  rw [names, set_entries hnd]
  split
  · simp only [List.map_map, names]
    congr 1
    funext e
    by_cases h : e.1 = n <;> simp [h]
  · simp [names]

theorem get?_set (hnd : c.names.Nodup) :
    (c.set n t).get? k = if k = n then some t else c.get? k := by
  rw [get?_eq_find, get?_eq_find, set_entries hnd]
  split
  · next hn =>
    rw [List.find?_map]
    have hkeep : ((·.1 == k) ∘ fun e : String × Table => if e.1 = n then (n, t) else e) =
        (·.1 == k) := by
      funext e
      by_cases h : e.1 = n <;> simp [h]
    rw [hkeep]
    by_cases hk : k = n
    · subst hk
      obtain ⟨e, he, hen⟩ := mem_names_iff.1 hn
      obtain ⟨f, hf⟩ : ∃ f, c.entries.toList.find? (·.1 == k) = some f :=
        Option.isSome_iff_exists.1 (List.find?_isSome.2 ⟨e, he, by simpa using hen⟩)
      have hfk : f.1 = k := by simpa using List.find?_some hf
      simp [hf, hfk]
    · cases hf : c.entries.toList.find? (·.1 == k) with
      | none => simp [hk]
      | some f =>
        have hfk : f.1 = k := by simpa using List.find?_some hf
        simp [hk, hfk]
  · next hn =>
    rw [List.find?_append]
    by_cases hk : k = n
    · subst hk
      have hnone : c.entries.toList.find? (·.1 == k) = none := by
        rw [List.find?_eq_none]
        intro e he hek
        exact hn (mem_names_iff.2 ⟨e, he, by simpa using hek⟩)
      simp [hnone]
    · have : ((k, t).1 == n) = false := by simpa using hk
      cases c.entries.toList.find? (·.1 == k) <;> simp [hk, Ne.symm hk]

theorem names_delete : (c.delete n).1.names = c.names.filter (· != n) := by
  rw [names, delete_entries, names, List.filter_map]
  rfl

theorem get?_delete : (c.delete n).1.get? k = if k = n then none else c.get? k := by
  rw [get?_eq_find, get?_eq_find, delete_entries, List.find?_filter]
  by_cases hk : k = n
  · subst hk
    simp
  · rw [if_neg hk]
    congr 2
    funext e
    by_cases h : e.1 = k <;> simp [h, hk]

/-! ### The invariant -/

theorem Represents.nodup {m : OrderedMap Table} (h : c.Represents m) : c.names.Nodup :=
  h.1 ▸ m.nodup

theorem Represents.set {m : OrderedMap Table} (h : c.Represents m) :
    (c.set n t).Represents (m.insert n t) := by
  refine ⟨?_, fun k => ?_⟩
  · rw [names_set h.nodup, h.1]
    rfl
  · rw [get?_set h.nodup, h.2]
    simp [OrderedMap.insert, Function.update_apply]

/-- Every request keeps the invariant and gets the map's reply. -/
theorem serve_represents {m : OrderedMap Table} (h : c.Represents m) (r : Request) :
    (c.serve r).2 = (m.serve r).2 ∧ (c.serve r).1.Represents (m.serve r).1 := by
  cases r with
  | set n t => exact ⟨rfl, h.set⟩
  | get n => exact ⟨by simp [serve, OrderedMap.serve, h.2], h⟩
  | has n => exact ⟨by simp [serve, OrderedMap.serve, ← h.1, has_eq_decide], h⟩
  | delete n =>
    refine ⟨by simp [serve, OrderedMap.serve, delete_flag, ← h.1, has_eq_decide], ?_, ?_⟩
    · show (c.delete n).1.names = m.keys.erase n
      rw [names_delete, h.1, m.nodup.erase_eq_filter]
    · intro k
      show (c.delete n).1.get? k = Function.update m.val n none k
      rw [get?_delete, h.2, Function.update_apply]
  | list => exact ⟨by simp [serve, OrderedMap.serve, h.1], h⟩
  | clear => exact ⟨rfl, rfl, fun k => by simp [serve, clear, get?, OrderedMap.serve, OrderedMap.empty]⟩

/-- Requests served in turn get the map's replies, from any catalog that stands for the map. -/
theorem replies_represents (rs : List Request) :
    ∀ {c : Catalog} {m : OrderedMap Table}, c.Represents m →
      replies serve c rs = replies OrderedMap.serve m rs := by
  induction rs with
  | nil => intro c m _; rfl
  | cons r rs ih =>
    intro c m h
    obtain ⟨hreply, hnext⟩ := serve_represents h r
    simp only [replies, hreply, ih hnext]

theorem represents_empty : Catalog.Represents {} OrderedMap.empty :=
  ⟨rfl, fun _ => rfl⟩

end Catalog

/-- A `new_cache` stage with a name stores its table under that name, at any depth of subqueries. -/
theorem store_run_catalog (fuel : Nat) {name : String} (h : Held) (c : Catalog)
    (hname : name ≠ "") : (((Step.store name).run fuel h).run c).run.2 = c.set name h.table := by
  have hne : name.isEmpty = false := by simpa [String.isEmpty_iff] using hname
  cases fuel <;> simp [Step.run, Step.applyHeld, Step.apply, hne] <;> rfl

/-- The catalog behaves as an insertion-ordered map: served in turn from the empty catalog and
from the empty map, the same requests get the same replies; and a `new_cache` stage of a query
changes the map a catalog stands for as storing its table under its name does. -/
theorem catalog_serves_ordered_map :
    (∀ rs : List Catalog.Request,
      replies Catalog.serve {} rs = replies OrderedMap.serve OrderedMap.empty rs) ∧
    ∀ (fuel : Nat) (name : String) (h : Held) (c : Catalog) (m : OrderedMap Table),
      name ≠ "" → c.Represents m →
        ((((Step.store name).run fuel h).run c).run.2).Represents (m.insert name h.table) := by
  refine ⟨fun rs => Catalog.replies_represents rs Catalog.represents_empty, ?_⟩
  intro fuel name h c m hname hrep
  rw [store_run_catalog fuel h c hname]
  exact hrep.set

/-- From the empty catalog, `new_cache t` leaves a catalog standing for the map whose one key is
`t`. -/
theorem new_cache_first_key :
    ("t" ≠ "" ∧ Catalog.Represents {} OrderedMap.empty) ∧
      ((((Step.store "t").run 1 { table := Table.empty }).run {}).run.2).Represents
        (OrderedMap.empty.insert "t" Table.empty) :=
  ⟨⟨by decide, Catalog.represents_empty⟩,
    catalog_serves_ordered_map.2 1 "t" { table := Table.empty } {} OrderedMap.empty (by decide)
      Catalog.represents_empty⟩

end PipeQuery
