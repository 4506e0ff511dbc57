import Mathlib.Data.List.Pairwise
import Mathlib.Data.List.TakeWhile
import Mathlib.Order.Lattice
import Mathlib.Tactic.SplitIfs

/-!
Owns ordered maps with unique keys, in the shape of a sorted associative
container: lookup, insertion that keeps an existing entry, erasure of one key,
erasure of a prefix, and access to the first and the last entry. The entry list
is strictly increasing by construction, so every lemma below is unconditional.

`mem_insert`, `mem_erase` and `mem_eraseLE` say what each edit does to the set
of entries; `find?_eq_some` turns a lookup into membership. Callers reason with
membership and never unfold the list operations.
-/

namespace StupidSimple.Library

/-- A finite map whose entries are listed by strictly increasing key. -/
structure OrderedMap (κ : Type*) [LinearOrder κ] (α : Type*) where
  entries : List (κ × α)
  sorted : entries.Pairwise fun left right => left.1 < right.1

namespace OrderedMap

variable {κ α : Type*} [LinearOrder κ]

theorem ext {left right : OrderedMap κ α} (same : left.entries = right.entries) : left = right := by
  cases left
  cases right
  simpa using same

/-- The map with no entry. -/
def empty : OrderedMap κ α := ⟨[], List.Pairwise.nil⟩

def size (map : OrderedMap κ α) : Nat := map.entries.length

def keys (map : OrderedMap κ α) : List κ := map.entries.map Prod.fst

/-- The value stored under `key`. -/
def find? (map : OrderedMap κ α) (key : κ) : Option α :=
  (map.entries.find? fun entry => entry.1 = key).map Prod.snd

/-- The entry with the largest key. -/
def last? (map : OrderedMap κ α) : Option (κ × α) := map.entries.getLast?

private def insertEntry (key : κ) (value : α) : List (κ × α) → List (κ × α)
  | [] => [(key, value)]
  | head :: tail =>
      if key < head.1 then (key, value) :: head :: tail
      else if head.1 < key then head :: insertEntry key value tail
      else head :: tail

private theorem mem_insertEntry_imp {key : κ} {value : α} {entry : κ × α} {entries : List (κ × α)}
    (member : entry ∈ insertEntry key value entries) : entry = (key, value) ∨ entry ∈ entries := by
  induction entries with
  | nil => simpa [insertEntry] using member
  | cons head tail inductionHypothesis =>
      rw [insertEntry] at member
      split_ifs at member with before after
      · simpa using member
      · rcases List.mem_cons.mp member with same | later
        · exact Or.inr (by simp [same])
        · exact (inductionHypothesis later).imp_right (List.mem_cons_of_mem head)
      · exact Or.inr member

private theorem insertEntry_sorted {key : κ} {value : α} {entries : List (κ × α)}
    (sorted : entries.Pairwise fun left right => left.1 < right.1) :
    (insertEntry key value entries).Pairwise fun left right => left.1 < right.1 := by
  induction entries with
  | nil => simp [insertEntry]
  | cons head tail inductionHypothesis =>
      have headBelow := (List.pairwise_cons.mp sorted).1
      have tailSorted := (List.pairwise_cons.mp sorted).2
      rw [insertEntry]
      split_ifs with before after
      · refine List.pairwise_cons.mpr ⟨fun entry member => ?_, sorted⟩
        rcases List.mem_cons.mp member with same | later
        · exact same ▸ before
        · exact before.trans (headBelow entry later)
      · refine List.pairwise_cons.mpr ⟨fun entry member => ?_, inductionHypothesis tailSorted⟩
        rcases mem_insertEntry_imp member with same | later
        · exact same ▸ after
        · exact headBelow entry later
      · exact sorted

/-- Insert an entry; an entry already stored under `key` is kept. -/
def insert (map : OrderedMap κ α) (key : κ) (value : α) : OrderedMap κ α :=
  ⟨insertEntry key value map.entries, insertEntry_sorted map.sorted⟩

/-- Remove the entry stored under `key`. -/
def erase (map : OrderedMap κ α) (key : κ) : OrderedMap κ α :=
  ⟨map.entries.filter fun entry => entry.1 ≠ key, map.sorted.filter _⟩

/-- Remove entries from the front while their key is at most `bound`. -/
def eraseLE (map : OrderedMap κ α) (bound : κ) : OrderedMap κ α :=
  ⟨map.entries.dropWhile fun entry => entry.1 ≤ bound,
    map.sorted.sublist (List.dropWhile_sublist _)⟩

/-- The front entries that `eraseLE` removes. -/
def takeLE (map : OrderedMap κ α) (bound : κ) : List (κ × α) :=
  map.entries.takeWhile fun entry => entry.1 ≤ bound

@[simp] theorem entries_empty : (empty : OrderedMap κ α).entries = [] := rfl

@[simp] theorem find?_empty (key : κ) : (empty : OrderedMap κ α).find? key = none := rfl

/-! ### Lookup as membership -/

/-- Two entries under one key are the same entry. -/
theorem value_unique {map : OrderedMap κ α} {key : κ} {left right : α}
    (leftMember : (key, left) ∈ map.entries) (rightMember : (key, right) ∈ map.entries) :
    left = right := by
  have symmetric : Std.Symm fun a b : κ × α => a.1 ≠ b.1 := ⟨fun _ _ => Ne.symm⟩
  have distinct : map.entries.Pairwise fun a b => a.1 ≠ b.1 := map.sorted.imp fun below => below.ne
  by_contra different
  exact distinct.forall leftMember rightMember (by simpa using different) rfl

theorem find?_eq_some {map : OrderedMap κ α} {key : κ} {value : α} :
    map.find? key = some value ↔ (key, value) ∈ map.entries := by
  constructor
  · intro found
    obtain ⟨entry, located, rfl⟩ := Option.map_eq_some_iff.mp found
    have sameKey : entry.1 = key := by simpa using List.find?_some located
    exact sameKey ▸ List.mem_of_find?_eq_some located
  · intro member
    cases located : map.entries.find? fun entry => entry.1 = key with
    | none =>
        have absent := List.find?_eq_none.mp located _ member
        simp at absent
    | some entry =>
        have sameKey : entry.1 = key := by simpa using List.find?_some located
        have stored : (key, entry.2) ∈ map.entries :=
          sameKey ▸ List.mem_of_find?_eq_some located
        simp [find?, located, value_unique member stored]

theorem find?_eq_none {map : OrderedMap κ α} {key : κ} :
    map.find? key = none ↔ ∀ entry ∈ map.entries, entry.1 ≠ key := by
  simp [find?]

/-! ### Edits -/

theorem mem_insert {map : OrderedMap κ α} {key : κ} {value : α} {entry : κ × α} :
    entry ∈ (map.insert key value).entries ↔
      entry ∈ map.entries ∨ (entry = (key, value) ∧ map.find? key = none) := by
  have general : ∀ entries : List (κ × α),
      entries.Pairwise (fun left right => left.1 < right.1) →
      (entry ∈ insertEntry key value entries ↔ entry ∈ entries ∨
        (entry = (key, value) ∧ ∀ other ∈ entries, other.1 ≠ key)) := by
    intro entries sorted
    induction entries with
    | nil => simp [insertEntry]
    | cons head tail inductionHypothesis =>
        have headBelow := (List.pairwise_cons.mp sorted).1
        have tailIff := inductionHypothesis (List.pairwise_cons.mp sorted).2
        rw [insertEntry]
        split_ifs with before after
        · have absent : ∀ other ∈ head :: tail, other.1 ≠ key := by
            intro other member
            rcases List.mem_cons.mp member with same | later
            · exact same ▸ before.ne'
            · exact (before.trans (headBelow other later)).ne'
          rw [List.mem_cons]
          exact ⟨fun h => h.elim (fun same => Or.inr ⟨same, absent⟩) Or.inl,
            fun h => h.elim Or.inr (fun same => Or.inl same.1)⟩
        · have other : head.1 ≠ key := after.ne
          rw [List.mem_cons, tailIff, List.mem_cons, List.forall_mem_cons, and_iff_right other,
            or_assoc]
        · have same : head.1 = key := le_antisymm (not_lt.mp before) (not_lt.mp after)
          rw [List.mem_cons]
          exact ⟨Or.inl, fun h => h.elim id fun new => absurd same (new.2 head (by simp))⟩
  rw [find?_eq_none]
  exact general map.entries map.sorted

theorem mem_erase {map : OrderedMap κ α} {key : κ} {entry : κ × α} :
    entry ∈ (map.erase key).entries ↔ entry ∈ map.entries ∧ entry.1 ≠ key := by
  simp [erase]

theorem find?_ne_none {map : OrderedMap κ α} {key : κ} :
    map.find? key ≠ none ↔ ∃ value, (key, value) ∈ map.entries := by
  rw [Option.ne_none_iff_exists']
  exact exists_congr fun value => find?_eq_some

theorem nodup_entries (map : OrderedMap κ α) : map.entries.Nodup :=
  map.sorted.imp fun below equal => below.ne (congrArg Prod.fst equal)

/-- A map is determined by its entries as a set. -/
theorem eq_of_mem_iff {left right : OrderedMap κ α}
    (same : ∀ entry, entry ∈ left.entries ↔ entry ∈ right.entries) : left = right := by
  have permuted : left.entries.Perm right.entries :=
    (List.perm_ext_iff_of_nodup left.nodup_entries right.nodup_entries).mpr same
  apply ext
  refine List.Perm.eq_of_pairwise ?_ left.sorted right.sorted permuted
  intro a b _ _ below above
  exact absurd (below.trans above) (lt_irrefl _)

theorem erase_of_find?_none {map : OrderedMap κ α} {key : κ} (absent : map.find? key = none) :
    map.erase key = map := by
  apply eq_of_mem_iff
  intro entry
  rw [mem_erase]
  exact and_iff_left_of_imp (find?_eq_none.mp absent entry)

/-- An insertion under a new key adds one entry. -/
theorem entries_insert_perm {map : OrderedMap κ α} {key : κ} {value : α}
    (absent : map.find? key = none) :
    (map.insert key value).entries.Perm ((key, value) :: map.entries) := by
  have fresh : (key, value) ∉ map.entries := fun member =>
    find?_eq_none.mp absent _ member rfl
  apply (List.perm_ext_iff_of_nodup (nodup_entries _)
    (List.nodup_cons.mpr ⟨fresh, map.nodup_entries⟩)).mpr
  intro entry
  rw [mem_insert, List.mem_cons, and_iff_left absent, or_comm]

/-- An insertion under a key that is there does nothing. -/
theorem insert_of_find? {map : OrderedMap κ α} {key : κ} {value : α}
    (taken : map.find? key ≠ none) : map.insert key value = map := by
  apply eq_of_mem_iff
  intro entry
  rw [mem_insert]
  exact or_iff_left fun both => taken both.2

/-- An insertion is not seen under another key. -/
theorem find?_insert_of_ne {map : OrderedMap κ α} {key other : κ} {value : α}
    (different : other ≠ key) : (map.insert key value).find? other = map.find? other := by
  apply Option.ext
  intro found
  rw [find?_eq_some, find?_eq_some, mem_insert]
  exact or_iff_left fun both => different (congrArg Prod.fst both.1)

/-- An erasure of a key that is there takes one entry. -/
theorem entries_erase_perm {map : OrderedMap κ α} {key : κ} {value : α}
    (found : map.find? key = some value) :
    map.entries.Perm ((key, value) :: (map.erase key).entries) := by
  have gone : (key, value) ∉ (map.erase key).entries := fun member =>
    (mem_erase.mp member).2 rfl
  have stored := find?_eq_some.mp found
  apply (List.perm_ext_iff_of_nodup map.nodup_entries
    (List.nodup_cons.mpr ⟨gone, nodup_entries _⟩)).mpr
  intro entry
  rw [List.mem_cons, mem_erase]
  constructor
  · intro member
    by_cases same : entry.1 = key
    · left
      have value_eq := value_unique (same ▸ member : (key, entry.2) ∈ map.entries) stored
      exact Prod.ext same value_eq
    · exact Or.inr ⟨member, same⟩
  · rintro (rfl | ⟨member, -⟩)
    · exact stored
    · exact member

/-- The keys after an insertion. -/
theorem find?_insert_ne_none {map : OrderedMap κ α} {key other : κ} {value : α} :
    (map.insert key value).find? other ≠ none ↔ map.find? other ≠ none ∨ other = key := by
  simp only [find?_ne_none, mem_insert]
  constructor
  · rintro ⟨stored, old | ⟨same, -⟩⟩
    · exact Or.inl ⟨stored, old⟩
    · exact Or.inr (congrArg Prod.fst same)
  · rintro (⟨stored, old⟩ | rfl)
    · exact ⟨stored, Or.inl old⟩
    · cases found : map.find? other with
      | none => exact ⟨value, Or.inr ⟨rfl, rfl⟩⟩
      | some stored => exact ⟨stored, Or.inl (find?_eq_some.mp found)⟩

theorem mem_eraseLE {map : OrderedMap κ α} {bound : κ} {entry : κ × α} :
    entry ∈ (map.eraseLE bound).entries ↔ entry ∈ map.entries ∧ bound < entry.1 := by
  have general : ∀ entries : List (κ × α),
      entries.Pairwise (fun left right => left.1 < right.1) →
      (entry ∈ entries.dropWhile (fun entry => entry.1 ≤ bound) ↔
        entry ∈ entries ∧ bound < entry.1) := by
    intro entries sorted
    induction entries with
    | nil => simp
    | cons head tail inductionHypothesis =>
        have headBelow := (List.pairwise_cons.mp sorted).1
        by_cases within : head.1 ≤ bound
        · rw [List.dropWhile_cons_of_pos (by simpa using within),
            inductionHypothesis (List.pairwise_cons.mp sorted).2, List.mem_cons]
          constructor
          · exact fun both => ⟨Or.inr both.1, both.2⟩
          · rintro ⟨same | later, above⟩
            · exact absurd (same ▸ above) (not_lt.mpr within)
            · exact ⟨later, above⟩
        · rw [List.dropWhile_cons_of_neg (by simpa using within)]
          refine ⟨fun member => ⟨member, ?_⟩, fun both => both.1⟩
          rcases List.mem_cons.mp member with same | later
          · exact same ▸ not_le.mp within
          · exact (not_le.mp within).trans (headBelow entry later)
  exact general map.entries map.sorted

/-- The keys above a bound survive the deletion of those up to it. -/
theorem find?_eraseLE_ne_none {map : OrderedMap κ α} {bound key : κ} (above : bound < key) :
    (map.eraseLE bound).find? key ≠ none ↔ map.find? key ≠ none := by
  simp only [find?_ne_none, mem_eraseLE, above, and_true]

/-- An entry above every key goes to the end. -/
theorem entries_insert_of_lt {map : OrderedMap κ α} {key : κ} {value : α}
    (above : ∀ entry ∈ map.entries, entry.1 < key) :
    (map.insert key value).entries = map.entries ++ [(key, value)] := by
  have general : ∀ entries : List (κ × α), (∀ entry ∈ entries, entry.1 < key) →
      insertEntry key value entries = entries ++ [(key, value)] := by
    intro entries above
    induction entries with
    | nil => rfl
    | cons head tail inductionHypothesis =>
        have headBelow := above head (by simp)
        rw [insertEntry, if_neg (not_lt.mpr headBelow.le), if_pos headBelow,
          inductionHypothesis fun entry member => above entry (by simp [member]),
          List.cons_append]
  exact general map.entries above

/-! ### Insertion of several entries -/

/-- Insert one entry after the other. -/
def insertAll (entries : List (κ × α)) (map : OrderedMap κ α) : OrderedMap κ α :=
  entries.foldl (fun map entry => map.insert entry.1 entry.2) map

theorem sorted_keys (map : OrderedMap κ α) : map.keys.Pairwise (· < ·) :=
  List.pairwise_map.mpr map.sorted

theorem keys_insert_of_lt {map : OrderedMap κ α} {key : κ} {value : α}
    (above : ∀ other ∈ map.keys, other < key) :
    (map.insert key value).keys = map.keys ++ [key] := by
  have entries : (map.insert key value).entries = map.entries ++ [(key, value)] :=
    entries_insert_of_lt fun entry member => above entry.1 (List.mem_map_of_mem member)
  rw [keys, entries, List.map_append]
  rfl

/-- Ascending entries above all keys are kept in their order. -/
theorem keys_insertAll {map : OrderedMap κ α} {entries : List (κ × α)}
    (ascending : (map.keys ++ entries.map Prod.fst).Pairwise (· < ·)) :
    (map.insertAll entries).keys = map.keys ++ entries.map Prod.fst := by
  induction entries generalizing map with
  | nil => exact (List.append_nil _).symm
  | cons entry rest inductionHypothesis =>
      have ⟨_, _, above⟩ := List.pairwise_append.mp ascending
      have inserted : (map.insert entry.1 entry.2).keys = map.keys ++ [entry.1] :=
        keys_insert_of_lt fun other member => above other member entry.1 List.mem_cons_self
      have regroup : (map.insert entry.1 entry.2).keys ++ rest.map Prod.fst =
          map.keys ++ (entry :: rest).map Prod.fst := by
        rw [inserted, List.append_assoc]
        rfl
      rw [← regroup] at ascending ⊢
      exact inductionHypothesis ascending

/-- The keys come out in the order of insertion exactly when they were ascending. -/
theorem keys_insertAll_empty_iff {entries : List (κ × α)} :
    (empty.insertAll entries : OrderedMap κ α).keys = entries.map Prod.fst ↔
      (entries.map Prod.fst).Pairwise (· < ·) := by
  constructor
  · intro same
    rw [← same]
    exact sorted_keys _
  · intro ascending
    have behind : ((empty : OrderedMap κ α).keys ++ entries.map Prod.fst).Pairwise (· < ·) :=
      ascending
    exact keys_insertAll behind

end OrderedMap

end StupidSimple.Library
