/-
# Tables kept in the order of their keys

A finite map from texts to values whose entries stand in the order of the keys,
each key once.  The order is part of the type, so two tables with the same
answers are the same table (`SortedMap.ext_find?`), and whatever prints a table
prints it in key order.

`find?_insert` says what insertion does to the answers and `find?_merge` what
laying one table over another does; nothing else about the representation is
needed elsewhere.
-/

namespace LintWorkspace

/-- A finite map with its entries in key order. -/
structure SortedMap (β : Type) where
  entries : List (String × β)
  sorted : entries.Pairwise fun a b => a.1 < b.1
deriving DecidableEq

namespace SortedMap

variable {β : Type}

/-- The table without entries. -/
def empty : SortedMap β := ⟨[], List.Pairwise.nil⟩

instance : EmptyCollection (SortedMap β) := ⟨empty⟩
instance : Inhabited (SortedMap β) := ⟨empty⟩

/-- Sets one key in a list of entries in key order. -/
def insertEntry (k : String) (v : β) : List (String × β) → List (String × β)
  | [] => [(k, v)]
  | e :: es =>
    if k < e.1 then (k, v) :: e :: es
    else if k = e.1 then (k, v) :: es
    else e :: insertEntry k v es

theorem mem_insertEntry {k : String} {v : β} {es : List (String × β)} {e : String × β}
    (h : e ∈ insertEntry k v es) : e = (k, v) ∨ e ∈ es := by
  induction es with
  | nil => simpa [insertEntry] using h
  | cons d ds ih =>
    rw [insertEntry] at h
    split at h
    · simpa using h
    · split at h
      · rcases List.mem_cons.1 h with h | h
        · exact Or.inl h
        · exact Or.inr (List.mem_cons_of_mem _ h)
      · rcases List.mem_cons.1 h with h | h
        · exact Or.inr (by simp [h])
        · rcases ih h with h | h
          · exact Or.inl h
          · exact Or.inr (List.mem_cons_of_mem _ h)

theorem pairwise_insertEntry (k : String) (v : β) {es : List (String × β)}
    (h : es.Pairwise fun a b => a.1 < b.1) :
    (insertEntry k v es).Pairwise fun a b => a.1 < b.1 := by
  induction es with
  | nil => simp [insertEntry]
  | cons d ds ih =>
    obtain ⟨hd, hds⟩ := List.pairwise_cons.1 h
    rw [insertEntry]
    split
    · rename_i hk
      refine List.pairwise_cons.2 ⟨fun e he => ?_, h⟩
      rcases List.mem_cons.1 he with rfl | he
      · exact hk
      · exact String.lt_trans hk (hd e he)
    · rename_i hk
      split
      · rename_i he
        subst he
        exact List.pairwise_cons.2 ⟨fun e he => hd e he, hds⟩
      · rename_i hne
        refine List.pairwise_cons.2 ⟨fun e he => ?_, ih hds⟩
        rcases mem_insertEntry he with rfl | he
        · rcases Std.le_total (a := k) (b := d.1) with hle | hle
          · exact absurd (Std.lt_of_le_of_ne hle hne) hk
          · exact Std.lt_of_le_of_ne hle (fun e => hne e.symm)
        · exact hd e he

/-- The same table with one key set. -/
def insert (m : SortedMap β) (k : String) (v : β) : SortedMap β :=
  ⟨insertEntry k v m.entries, pairwise_insertEntry k v m.sorted⟩

/-- The value at a key. -/
def find? (m : SortedMap β) (k : String) : Option β :=
  (m.entries.find? fun e => e.1 = k).map Prod.snd

/-- Whether a key has a value. -/
def contains (m : SortedMap β) (k : String) : Bool := (m.find? k).isSome

/-- The keys, in order. -/
def keys (m : SortedMap β) : List String := m.entries.map Prod.fst

/-- The same table without a key. -/
def erase (m : SortedMap β) (k : String) : SortedMap β :=
  ⟨m.entries.filter fun e => e.1 ≠ k, m.sorted.filter _⟩

/-- The same table with every value changed. -/
def map (f : β → β) (m : SortedMap β) : SortedMap β :=
  ⟨m.entries.map fun e => (e.1, f e.2), List.pairwise_map.2 m.sorted⟩

/-- `n` laid over `m`: where both have a value, that of `n`. -/
def merge (m n : SortedMap β) : SortedMap β := n.entries.foldl (fun m e => m.insert e.1 e.2) m

@[simp] theorem find?_empty (k : String) : (empty : SortedMap β).find? k = none := rfl

theorem find?_insertEntry (k x : String) (v : β) {es : List (String × β)}
    (h : es.Pairwise fun a b => a.1 < b.1) :
    ((insertEntry k v es).find? fun e => e.1 = x).map Prod.snd =
      if k = x then some v else (es.find? fun e => e.1 = x).map Prod.snd := by
  induction es with
  | nil => by_cases hx : k = x <;> simp [insertEntry, hx]
  | cons d ds ih =>
    obtain ⟨hd, hds⟩ := List.pairwise_cons.1 h
    rw [insertEntry]
    split
    · by_cases hx : k = x <;> simp [hx]
    · split
      · rename_i he
        subst he
        by_cases hx : d.1 = x <;> simp [hx]
      · rename_i hne
        by_cases hx : d.1 = x
        · have : k ≠ x := fun e => hne (e.trans hx.symm)
          simp [hx, this]
        · simp [hx, ih hds]

/-- Insertion answers the new value at its key and changes no other answer. -/
theorem find?_insert (m : SortedMap β) (k x : String) (v : β) :
    (m.insert k v).find? x = if k = x then some v else m.find? x :=
  find?_insertEntry k x v m.sorted

/-- A key that is taken out has no value, and no other answer changes. -/
theorem find?_erase (m : SortedMap β) (k x : String) :
    (m.erase k).find? x = if k = x then none else m.find? x := by
  unfold find? erase
  rw [List.find?_filter]
  by_cases hx : k = x
  · subst hx
    rw [if_pos rfl, List.find?_eq_none.2 fun e _ => by simp]
    rfl
  · rw [if_neg hx]
    congr 2
    funext e
    by_cases he : e.1 = x <;> simp [he, Ne.symm hx]

theorem find?_map (f : β → β) (m : SortedMap β) (x : String) :
    (m.map f).find? x = (m.find? x).map f := by
  unfold find? map
  rw [List.find?_map, Option.map_map, Option.map_map]
  rfl

theorem find?_foldl_insert (es : List (String × β)) (m : SortedMap β) (x : String)
    (h : es.Pairwise fun a b => a.1 < b.1) :
    (es.foldl (fun m e => m.insert e.1 e.2) m).find? x =
      ((es.find? fun e => e.1 = x).map Prod.snd).or (m.find? x) := by
  induction es generalizing m with
  | nil => simp
  | cons d ds ih =>
    obtain ⟨hd, hds⟩ := List.pairwise_cons.1 h
    rw [List.foldl_cons, ih _ hds, find?_insert]
    by_cases hx : d.1 = x
    · have : ds.find? (fun e => e.1 = x) = none := by
        rw [List.find?_eq_none]
        intro e he
        simp only [decide_eq_true_eq]
        intro hex
        have hlt := hd e he
        rw [hx, hex] at hlt
        exact String.lt_irrefl _ hlt
      simp [hx, this]
    · simp [hx]

/-- The table laid on top decides wherever it has a value. -/
theorem find?_merge (m n : SortedMap β) (x : String) :
    (m.merge n).find? x = (n.find? x).or (m.find? x) :=
  find?_foldl_insert n.entries m x n.sorted

theorem find?_eq_none_of_lt {es : List (String × β)} {k : String}
    (h : ∀ e ∈ es, k < e.1) : es.find? (fun e => e.1 = k) = none := by
  rw [List.find?_eq_none]
  intro e he
  simp only [decide_eq_true_eq]
  intro hek
  have := h e he
  rw [hek] at this
  exact String.lt_irrefl _ this

theorem entries_ext {es fs : List (String × β)}
    (he : es.Pairwise fun a b => a.1 < b.1) (hf : fs.Pairwise fun a b => a.1 < b.1)
    (h : ∀ x, (es.find? fun e => e.1 = x).map Prod.snd =
      (fs.find? fun e => e.1 = x).map Prod.snd) : es = fs := by
  induction es generalizing fs with
  | nil =>
    cases fs with
    | nil => rfl
    | cons f fs => have := h f.1; simp at this
  | cons e es ih =>
    obtain ⟨he1, hes⟩ := List.pairwise_cons.1 he
    cases fs with
    | nil => have := h e.1; simp at this
    | cons f fs =>
      obtain ⟨hf1, hfs⟩ := List.pairwise_cons.1 hf
      have hkey : e.1 = f.1 := by
        apply Classical.byContradiction
        intro hne
        rcases Std.le_total (a := e.1) (b := f.1) with hle | hle
        · have hlt : e.1 < f.1 := Std.lt_of_le_of_ne hle hne
          have hx := h e.1
          have hn : (f :: fs).find? (fun d => d.1 = e.1) = none :=
            find?_eq_none_of_lt fun d hd => by
              rcases List.mem_cons.1 hd with rfl | hd
              · exact hlt
              · exact String.lt_trans hlt (hf1 d hd)
          rw [hn] at hx
          simp at hx
        · have hlt : f.1 < e.1 := Std.lt_of_le_of_ne hle (fun e => hne e.symm)
          have hx := h f.1
          have hn : (e :: es).find? (fun d => d.1 = f.1) = none :=
            find?_eq_none_of_lt fun d hd => by
              rcases List.mem_cons.1 hd with rfl | hd
              · exact hlt
              · exact String.lt_trans hlt (he1 d hd)
          rw [hn] at hx
          simp at hx
      have hval : e.2 = f.2 := by
        have hx := h e.1
        simpa [hkey] using hx
      have htail : es = fs := by
        refine ih hes hfs fun x => ?_
        by_cases hx : e.1 = x
        · rw [find?_eq_none_of_lt (fun d hd => hx ▸ he1 d hd),
            find?_eq_none_of_lt (fun d hd => hx ▸ hkey ▸ hf1 d hd)]
        · have := h x
          simpa [hx, hkey ▸ hx] using this
      rw [htail, Prod.ext hkey hval]

/-- Tables with the same answers are equal. -/
theorem ext_find? {m n : SortedMap β} (h : ∀ x, m.find? x = n.find? x) : m = n := by
  obtain ⟨es, he⟩ := m
  obtain ⟨fs, hf⟩ := n
  have := entries_ext he hf h
  subst this
  rfl

theorem find?_of_mem {es : List (String × β)} {e : String × β}
    (h : es.Pairwise fun a b => a.1 < b.1) (he : e ∈ es) :
    es.find? (fun d => d.1 = e.1) = some e := by
  induction es with
  | nil => simp at he
  | cons d ds ih =>
    obtain ⟨hd, hds⟩ := List.pairwise_cons.1 h
    rcases List.mem_cons.1 he with rfl | he
    · simp
    · have hne : d.1 ≠ e.1 := by
        intro hde
        have hlt := hd e he
        rw [hde] at hlt
        exact String.lt_irrefl _ hlt
      simpa [hne] using ih hds he

/-- The entries are the answers. -/
theorem mem_entries_iff {m : SortedMap β} {k : String} {v : β} :
    (k, v) ∈ m.entries ↔ m.find? k = some v := by
  unfold find?
  constructor
  · intro h
    rw [find?_of_mem m.sorted h]
    rfl
  · intro h
    obtain ⟨e, he, rfl⟩ := Option.map_eq_some_iff.1 h
    have hk : e.1 = k := by simpa using List.find?_some he
    rw [← hk]
    exact List.mem_of_find?_eq_some he

end SortedMap
end LintWorkspace
